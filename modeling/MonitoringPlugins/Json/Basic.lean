/-
**JSON values.**

Rules, default parameters and parsed section data are opaque to the registry: it keeps them and
hands them on.  They are JSON values.  Integers and fractional numbers are told apart, and a
fractional number is always finite, so every value has a written form.

Main definitions:

* `MonitoringPlugins.Json` — the values;
* `MonitoringPlugins.Json.object`, `MonitoringPlugins.Json.get?` — objects from entries in any
  order, and a field of an object;
* `MonitoringPlugins.Json.asObject?` — the fields of a value that is an object.
-/

import MonitoringPlugins.Decimal.Binary64
import MonitoringPlugins.Table

set_option autoImplicit false

namespace MonitoringPlugins

/-- A JSON value; the fields of an object are a table. -/
inductive Json where
  | null
  | bool (value : Bool)
  | int (value : Int)
  | float (value : Decimal.Binary64)
  | str (value : String)
  | arr (items : List Json)
  | obj (fields : List (String × Json))

namespace Json

instance : Inhabited Json := ⟨null⟩

/-- The object with the given fields, in any order; of several values under one key the last
counts. -/
def object (fields : List (String × Json)) : Json := obj (Table.ofEntries fields)

/-- The fields of an object. -/
def asObject? : Json → Option (Table Json)
  | obj fields => some fields
  | _ => none

/-- The field of an object under a key; other values have no fields. -/
def get? (key : String) : Json → Option Json
  | obj fields => Table.find? key fields
  | _ => none

/-- A list of texts. -/
def texts (items : List String) : Json := arr (items.map str)

/-- An optional value, absent as `null`. -/
def ofOption : Option Json → Json
  | none => null
  | some v => v

/-- An optional text, absent as `null`. -/
def optionalText (text : Option String) : Json := ofOption (text.map str)

end Json

end MonitoringPlugins
