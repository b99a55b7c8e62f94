/-
**One-line record notation.**

Definitions, registries and handler tables describe themselves on one line, for logs and for the
person who debugs a site: a record is its type name with the fields in braces, a list stands in
brackets, a set in braces, and an optional value is `None` or `Some(…)`.  A record that keeps
something to itself (a plug-in never shows its functions) ends in two dots.

Main definitions:

* `MonitoringPlugins.Text.record`, `MonitoringPlugins.Text.partialRecord` — a record with all its
  fields, and one that shows only some of them;
* `MonitoringPlugins.Text.wrapped`, `MonitoringPlugins.Text.optional`,
  `MonitoringPlugins.Text.listing`, `MonitoringPlugins.Text.setListing` — the other shapes.
-/

set_option autoImplicit false

namespace MonitoringPlugins.Text

/-- Texts joined by a comma and a space. -/
def commaSeparated (items : List String) : String := ", ".intercalate items

/-- A value of a type with a single, unnamed component. -/
def wrapped (type value : String) : String := type ++ "(" ++ value ++ ")"

/-- An optional value, given the text of the value. -/
def optional : Option String → String
  | none => "None"
  | some value => wrapped "Some" value

/-- A list, given the texts of its elements. -/
def listing (items : List String) : String := "[" ++ commaSeparated items ++ "]"

/-- A set, given the texts of its elements in order. -/
def setListing (items : List String) : String := "\x7b" ++ commaSeparated items ++ "\x7d"

/-- A type name followed by entries in braces. -/
def braced (type : String) (entries : List String) : String :=
  type ++ " \x7b " ++ commaSeparated entries ++ " \x7d"

/-- One field of a record. -/
def field (entry : String × String) : String := entry.1 ++ ": " ++ entry.2

/-- A record that shows all its fields. -/
def record (type : String) (fields : List (String × String)) : String :=
  braced type (fields.map field)

/-- A record that shows these fields and keeps others to itself. -/
def partialRecord (type : String) (fields : List (String × String)) : String :=
  braced type (fields.map field ++ [".."])

end MonitoringPlugins.Text
