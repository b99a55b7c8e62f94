/-
**Reading typed values out of data trees.**

The model of a manifest is made of texts, truth values, lists, maps and structures.  A structure is
written as a map of its fields, or as a sequence of them in their fixed order.  Faults are found in
a fixed order too: the entries of a map are looked at in the order of their keys, depth first, and a
missing field is only noticed when all entries are sound.  A reader therefore first lets every entry
through its own field's reader, and only then builds the structure.  That a number cannot be read is
noticed when its place is reached, like any other fault.

Main definitions:

* `MonitoringPlugins.Format` — the two formats, which differ in details;
* `MonitoringPlugins.DecodeError`, `MonitoringPlugins.DecodeError.message` — faults;
* `MonitoringPlugins.Data.text`, `MonitoringPlugins.Data.listOf`, … — readers of leaves;
* `MonitoringPlugins.Shape`, `MonitoringPlugins.Shape.given` — structures, and the sound fields of
  one;
* `MonitoringPlugins.Given.required`, `MonitoringPlugins.Given.optional` — a field that must be
  given, and one that need not be.
-/

import MonitoringPlugins.Data.Basic
import MonitoringPlugins.Json.Printer
import MonitoringPlugins.Text.Quoted

set_option autoImplicit false

namespace MonitoringPlugins

universe u

/-! ### Faults -/

/-- The format that a data tree comes from. -/
inductive Format where
  | json
  | toml
  deriving DecidableEq

/-- How fractional numbers are shown in messages about a format.  Those of TOML are written
positionally whatever their size, and a tie goes up. -/
def Format.floats : Format → Decimal.Layout
  | json => Json.floats
  | toml => ⟨.all, .up⟩

/-- What is expected in some place. -/
inductive Expectation where
  | text
  | boolean
  | sequence
  | map
  | structure (type : String)
  deriving DecidableEq

/-- The expectation, as messages call it. -/
def Expectation.label : Expectation → String
  | text => "a string"
  | boolean => "a boolean"
  | sequence => "a sequence"
  | map => "a map"
  | «structure» type => "struct " ++ type

/-- Why no value of the expected type can be read from a data tree. -/
inductive DecodeError where
  /-- Something else stands in the place. -/
  | unexpected (found : Data) (expected : Expectation)
  /-- A structure has no such field. -/
  | unknownField (key : String) (fields : List String)
  /-- A field that must be given is missing. -/
  | missingField (key : String)
  /-- A sequence ends before a field that must be given and has `position` fields before it. -/
  | tooShort (position : Nat) (type : String) (fields : Nat)
  /-- A sequence is too long for the structure it stands for. -/
  | tooLong (length : Nat)
  /-- A number cannot be read, or is out of range of the opaque part that it stands in. -/
  | unreadable

/-- A key between backquotes. -/
def backquoted (key : String) : String := "`" ++ key ++ "`"

/-- Some alternatives; there are at least two of them. -/
def alternatives : List String → String
  | [a, b] => backquoted a ++ " or " ++ backquoted b
  | keys => "one of " ++ ", ".intercalate (keys.map backquoted)

/-- What stands in a place, as messages call it. -/
def Data.foundText (floats : Decimal.Layout) : Data → String
  | null => "null"
  | bool b => "boolean " ++ backquoted (if b then "true" else "false")
  | int n => "integer " ++ backquoted (toString n)
  | wideInt n =>
    "integer " ++ backquoted (toString n) ++
      (if Text.fitsSignedDoubleWord n then " as i128" else " as u128")
  | float x => "floating point " ++ backquoted (floats.render x)
  | infinity negative => "floating point " ++ backquoted (if negative then "-inf" else "inf")
  | notANumber => "floating point " ++ backquoted "NaN"
  | unreadable => "number"
  | str s => "string " ++ Text.quoted s
  | seq _ => "sequence"
  | map _ => "map"

/-- The wording of a fault. -/
def DecodeError.message (format : Format) : DecodeError → String
  | unexpected found expected =>
    "invalid type: " ++ found.foundText format.floats ++ ", expected " ++ expected.label
  | unknownField key fields =>
    "unknown field " ++ backquoted key ++ ", expected " ++ alternatives fields
  | missingField key => "missing field " ++ backquoted key
  | tooShort position type fields =>
    "invalid length " ++ toString position ++ ", expected struct " ++ type ++ " with " ++
      toString fields ++ " elements"
  | tooLong length =>
    "invalid length " ++ toString length ++ ", expected fewer elements in array"
  | unreadable => "unreadable number"

/-- Reads a value from a data tree. -/
abbrev Decoder (α : Type u) := Data → Except DecodeError α

/-! ### Leaves, lists and maps -/

namespace Data

/-- What is wrong with a tree that is not of the expected kind.  A number that cannot be read is at
fault by itself, whatever is expected. -/
def mismatch (expected : Expectation) : Data → DecodeError
  | unreadable => .unreadable
  | d => .unexpected d expected

/-- A text. -/
def text : Decoder String
  | str s => .ok s
  | d => .error (d.mismatch .text)

/-- A truth value. -/
def boolean : Decoder Bool
  | bool b => .ok b
  | d => .error (d.mismatch .boolean)

/-- A text, or `null` for none. -/
def optionalText : Decoder (Option String)
  | null => .ok none
  | d => (text d).map some

/-- An opaque part. -/
def opaqueValue : Decoder Json := fun d =>
  match d.toJson? with
  | some v => .ok v
  | none => .error .unreadable

/-- An opaque JSON value is read as it is. -/
@[simp] theorem opaqueValue_ofJson (v : Json) : opaqueValue (ofJson v) = .ok v := by
  simp [opaqueValue]

/-- An opaque part, or `null` for none. -/
def optionalOpaque : Decoder (Option Json)
  | null => .ok none
  | d => (opaqueValue d).map some

/-- A list of values that one reader reads. -/
def listOf {α : Type} (item : Decoder α) : Decoder (List α)
  | seq items => items.mapM item
  | d => .error (d.mismatch .sequence)

/-- The entries of a map, each value read by one reader. -/
def mapOf {α : Type} (value : Decoder α) : Decoder (List (String × α))
  | map entries => entries.mapM fun entry => (value entry.2).map (entry.1, ·)
  | d => .error (d.mismatch .map)

end Data

/-- Lets a tree through a reader without keeping what it reads. -/
def accepts {α : Type} (decoder : Decoder α) : Decoder Unit := fun d => (decoder d).map fun _ => ()

/-! ### Structures -/

/-- A structure: the name of its type, and its fields in order, each with what it accepts. -/
structure Shape where
  type : String
  fields : List (String × Decoder Unit)

/-- The sound fields of a structure, and what is wrong when one of them is missing. -/
structure Given where
  fields : List (String × Data)
  missing : String → DecodeError

namespace Shape

/-- The names of the fields. -/
def keys (shape : Shape) : List String := shape.fields.map (·.1)

/-- Lets an entry through the reader of its field. -/
def checkEntry (shape : Shape) (entry : String × Data) : Except DecodeError Unit :=
  match Table.find? entry.1 shape.fields with
  | some check => check entry.2
  | none => .error (.unknownField entry.1 shape.keys)

/-- The sound fields of the structure that a tree writes. -/
def given (shape : Shape) : Decoder Given
  | .map entries => do
    entries.forM shape.checkEntry
    return ⟨entries, .missingField⟩
  | .seq items => do
    let entries := shape.keys.zip items
    entries.forM shape.checkEntry
    return ⟨entries, fun key => .tooShort (shape.keys.idxOf key) shape.type shape.fields.length⟩
  | d => .error (d.mismatch (.structure shape.type))

/-- Refuses a sequence with more items than the structure has fields.  TOML ignores the surplus. -/
def noSurplus (shape : Shape) (format : Format) : Decoder Unit
  | .seq items =>
    if format = .json ∧ shape.fields.length < items.length then .error (.tooLong items.length)
    else .ok ()
  | _ => .ok ()

/-- Reads a structure: its entries are sound, then it is built, and then nothing may be left. -/
def read {α : Type} (shape : Shape) (format : Format) (build : Given → Except DecodeError α) :
    Decoder α := fun d => do
  let value ← build (← shape.given d)
  shape.noSurplus format d
  return value

end Shape

namespace Given

/-- A field that must be given. -/
def required {α : Type} (g : Given) (key : String) (decoder : Decoder α) : Except DecodeError α :=
  match Table.find? key g.fields with
  | some d => decoder d
  | none => .error (g.missing key)

/-- A field that need not be given, with its default. -/
def optional {α : Type} (g : Given) (key : String) (decoder : Decoder α) (default : α) :
    Except DecodeError α :=
  match Table.find? key g.fields with
  | some d => decoder d
  | none => .ok default

end Given

end MonitoringPlugins
