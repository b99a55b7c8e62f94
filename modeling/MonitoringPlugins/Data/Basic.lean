/-
**Data trees.**

A manifest may be written as TOML or as JSON.  Both are read into one kind of tree, in which the
model of a manifest is then looked for.  A data tree is a JSON value that may also hold numbers that
JSON does not have.  Opaque parts of a manifest go back to JSON.  There, a number that is not finite
becomes `null`, and one that is out of range or cannot be read has no place at all.

Main definitions:

* `MonitoringPlugins.Data` — the trees;
* `MonitoringPlugins.Data.ofJson`, `MonitoringPlugins.Data.ofToml` — trees of the two formats;
* `MonitoringPlugins.Data.toJson?` — the JSON value of an opaque part.

Main results:

* `MonitoringPlugins.Data.toJson?_ofJson` — **an opaque JSON value is kept as it is**.
-/

import MonitoringPlugins.Json.Basic
import MonitoringPlugins.Toml.Value

set_option autoImplicit false

namespace MonitoringPlugins

/-- A data tree; the entries of a map are in the order of their keys. -/
inductive Data where
  | null
  | bool (value : Bool)
  | int (value : Int)
  /-- An integer that fits into no 64-bit word. -/
  | wideInt (value : Int)
  | float (value : Decimal.Binary64)
  | infinity (negative : Bool)
  | notANumber
  /-- A number that cannot be read. -/
  | unreadable
  | str (value : String)
  | seq (items : List Data)
  | map (entries : List (String × Data))

namespace Data

instance : Inhabited Data := ⟨null⟩

/-! ### JSON -/

mutual

/-- The tree of a JSON value. -/
def ofJson : Json → Data
  | .null => null
  | .bool b => bool b
  | .int n => int n
  | .float x => float x
  | .str s => str s
  | .arr items => seq (ofJsonItems items)
  | .obj fields => map (ofJsonFields fields)

/-- The trees of the items of an array. -/
def ofJsonItems : List Json → List Data
  | [] => []
  | v :: rest => ofJson v :: ofJsonItems rest

/-- The trees of the fields of an object. -/
def ofJsonFields : List (String × Json) → List (String × Data)
  | [] => []
  | (key, v) :: rest => (key, ofJson v) :: ofJsonFields rest

end

mutual

/-- The JSON value of a tree whose numbers are all in range; one that is not finite becomes
`null`. -/
def toJson? : Data → Option Json
  | null => some .null
  | bool b => some (.bool b)
  | int n => some (.int n)
  | wideInt _ => none
  | float x => some (.float x)
  | infinity _ => some .null
  | notANumber => some .null
  | unreadable => none
  | str s => some (.str s)
  | seq items => (toJsonItems? items).map .arr
  | map entries => (toJsonFields? entries).map .obj

/-- The JSON values of the items of a sequence. -/
def toJsonItems? : List Data → Option (List Json)
  | [] => some []
  | d :: rest => do return (← toJson? d) :: (← toJsonItems? rest)

/-- The JSON values of the entries of a map. -/
def toJsonFields? : List (String × Data) → Option (List (String × Json))
  | [] => some []
  | (key, d) :: rest => do return (key, ← toJson? d) :: (← toJsonFields? rest)

end

mutual

/-- **An opaque JSON value is kept as it is.** -/
@[simp] theorem toJson?_ofJson : ∀ v : Json, toJson? (ofJson v) = some v
  | .null | .bool _ | .int _ | .float _ | .str _ => by simp [ofJson, toJson?]
  | .arr items => by simp [ofJson, toJson?, toJsonItems?_ofJsonItems items]
  | .obj fields => by simp [ofJson, toJson?, toJsonFields?_ofJsonFields fields]

theorem toJsonItems?_ofJsonItems :
    ∀ items : List Json, toJsonItems? (ofJsonItems items) = some items
  | [] => by simp [ofJsonItems, toJsonItems?]
  | v :: rest => by
    simp [ofJsonItems, toJsonItems?, toJson?_ofJson v, toJsonItems?_ofJsonItems rest]

theorem toJsonFields?_ofJsonFields :
    ∀ fields : List (String × Json), toJsonFields? (ofJsonFields fields) = some fields
  | [] => by simp [ofJsonFields, toJsonFields?]
  | (key, v) :: rest => by
    simp [ofJsonFields, toJsonFields?, toJson?_ofJson v, toJsonFields?_ofJsonFields rest]

end

/-! ### TOML -/

/-- The key under which a date or time stands in a map of its own, since JSON has no such values. -/
def dateTimeKey : String := "$__toml_private_datetime"

mutual

/-- The tree of a TOML value; a date or time becomes a map with its text as only entry. -/
def ofToml : Toml.Value → Data
  | .string s => str s
  | .integer n => if Text.fitsWord n then int n else wideInt n
  | .float x => float x
  | .infinity negative => infinity negative
  | .notANumber => notANumber
  | .unreadable => unreadable
  | .boolean b => bool b
  | .dateTime d => map [(dateTimeKey, str d.render)]
  | .array items => seq (ofTomlItems items)
  | .table entries => map (ofTomlEntries entries)

/-- The trees of the items of an array. -/
def ofTomlItems : List Toml.Value → List Data
  | [] => []
  | v :: rest => ofToml v :: ofTomlItems rest

/-- The trees of the entries of a table. -/
def ofTomlEntries : List (String × Toml.Value) → List (String × Data)
  | [] => []
  | (key, v) :: rest => (key, ofToml v) :: ofTomlEntries rest

end

end Data

end MonitoringPlugins
