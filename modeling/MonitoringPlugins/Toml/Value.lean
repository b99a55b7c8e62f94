/-
**TOML values.**

A TOML document is a table of values: texts, integers, fractional numbers — including the
infinities and what is not a number — truth values, dates and times, arrays and tables.  A number
that is too large for its kind, and an integer that is malformed in certain ways, does not spoil the
document; it only cannot be read.

Main definitions:

* `MonitoringPlugins.Toml.Value` — the values;
* `MonitoringPlugins.Toml.Value.isTable` — which of them are tables.
-/

import MonitoringPlugins.Decimal.Binary64
import MonitoringPlugins.Table
import MonitoringPlugins.Toml.DateTime

set_option autoImplicit false

namespace MonitoringPlugins.Toml

/-- A TOML value; the entries of a table are in the order of their keys. -/
inductive Value where
  | string (text : String)
  /-- An integer that fits into a 128-bit word. -/
  | integer (value : Int)
  | float (value : Decimal.Binary64)
  | infinity (negative : Bool)
  | notANumber
  /-- A number that is too large for its kind, or a malformed integer. -/
  | unreadable
  | boolean (value : Bool)
  | dateTime (value : DateTime)
  | array (items : List Value)
  | table (entries : List (String × Value))

/-- Whether a value is a table. -/
def Value.isTable : Value → Bool
  | table _ => true
  | _ => false

end MonitoringPlugins.Toml
