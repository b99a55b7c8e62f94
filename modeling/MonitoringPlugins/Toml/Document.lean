/-
**TOML documents.**

A document is a sequence of lines: headers, which name a table or open a further element of an array
of tables, and assignments, which go into the table of the last header.  Reading it takes two steps:
the text is read as statements, and the statements are carried out one after the other on the tree
of the document.

Main definitions:

* `MonitoringPlugins.Toml.Statement`, `MonitoringPlugins.Toml.statements` — the statements of a
  text;
* `MonitoringPlugins.Toml.Statement.perform` — carrying out a statement;
* `MonitoringPlugins.Toml.ofText?` — the table that a document writes, if it writes one.
-/

import MonitoringPlugins.Toml.Scalar
import MonitoringPlugins.Toml.Text
import MonitoringPlugins.Toml.Tree

set_option autoImplicit false

namespace MonitoringPlugins.Toml

open MonitoringPlugins.Text

/-! ### Keys -/

/-- Whether a character may occur in a key without quotes. -/
def isKeyChar (c : Char) : Bool := c.isAlphanum || c = '_' || c = '-'

/-- One part of a key. -/
def keyPart (cs : List Char) : Option (String × List Char) :=
  match cs with
  | '"' :: rest => (basicText rest).map fun (text, rest) => (String.ofList text, rest)
  | '\'' :: rest => (literalText rest).map fun (text, rest) => (String.ofList text, rest)
  | _ =>
    let (word, rest) := cs.span isKeyChar
    if word = [] then none else some (String.ofList word, rest)

/-- How deep arrays and inline tables may be nested, and how many parts a key may have. -/
def maxDepth : Nat := 80

/-- The parts of a key, of which so many are allowed: those before the last one, the last one, and
what follows the blanks after it. -/
def keyParts : Nat → List Char → Option ((List String × String) × List Char)
  | 0, _ => none
  | allowed + 1, cs => do
    let (part, rest) ← keyPart cs
    match skipSpaces rest with
    | '.' :: rest =>
      let ((path, key), rest) ← keyParts allowed (skipSpaces rest)
      return ((part :: path, key), rest)
    | rest => return (([], part), rest)

/-- A key, dotted or not. -/
def dottedKey (cs : List Char) : Option ((List String × String) × List Char) :=
  keyParts maxDepth cs

/-! ### Values -/

/-- The characters after blanks, line breaks and comments. -/
def skipTrivia : Nat → List Char → Option (List Char)
  | 0, _ => none
  | fuel + 1, cs =>
    match skipLines cs with
    | '#' :: rest => do skipTrivia fuel (← skipComment rest)
    | rest => some rest

mutual

/-- A value, without blanks before it; `depth` more levels of nesting are allowed. -/
def value (depth : Nat) : Nat → List Char → Option (Value × List Char)
  | 0, _ => none
  | _ + 1, [] => none
  | fuel + 1, c :: rest =>
    if c = '"' ∨ c = '\'' then
      (quotedText (c :: rest)).map fun (text, rest) => (.string (String.ofList text), rest)
    else if c = '[' then
      if depth = 0 then none
      else (items (depth - 1) fuel rest).map fun (vs, rest) => (.array vs, rest)
    else if c = '{' then
      if depth = 0 then none
      else
        match skipSpaces rest with
        | '}' :: rest => some (.table [], rest)
        | rest =>
          (inlineEntries (depth - 1) fuel [] rest).map fun (entries, rest) =>
            (.table (finishEntries entries), rest)
    else Scalar.scan (c :: rest)

/-- The items of an array and the closing bracket; a comma may follow the last item. -/
def items (depth : Nat) : Nat → List Char → Option (List Value × List Char)
  | 0, _ => none
  | fuel + 1, cs => do
    match ← skipTrivia (fuel + 1) cs with
    | ']' :: rest => return ([], rest)
    | rest =>
      let (v, rest) ← value depth fuel rest
      match ← skipTrivia (fuel + 1) rest with
      | ',' :: rest =>
        let (vs, rest) ← items depth fuel rest
        return (v :: vs, rest)
      | ']' :: rest => return ([v], rest)
      | _ => none

/-- The entries of an inline table, of which there is at least one, added to those before, and the
closing brace. -/
def inlineEntries (depth : Nat) :
    Nat → List (String × Node) → List Char → Option (List (String × Node) × List Char)
  | 0, _, _ => none
  | fuel + 1, entries, cs => do
    let ((path, key), rest) ← dottedKey (skipSpaces cs)
    let rest ← expect '=' rest
    let (v, rest) ← value depth fuel (skipSpaces rest)
    let entries ← assign key v path entries
    match skipSpaces rest with
    | ',' :: rest => inlineEntries depth fuel entries rest
    | '}' :: rest => return (entries, rest)
    | _ => none

end

/-! ### Statements -/

/-- A line of a document that says something. -/
inductive Statement where
  /-- A header that names a table. -/
  | tableHeader (path : List String) (key : String)
  /-- A header that opens a further element of an array of tables. -/
  | elementHeader (path : List String) (key : String)
  /-- An assignment. -/
  | assignment (path : List String) (key : String) (value : Value)

/-- What follows a statement on its line: a comment at most. -/
def lineEnd (cs : List Char) : Option (List Char) :=
  match skipSpaces cs with
  | [] => some []
  | '#' :: rest => skipComment rest
  | rest => if (lineBreak? rest).isSome then some rest else none

/-- A statement, without blanks before it. -/
def statement (cs : List Char) : Option (Statement × List Char) :=
  match cs with
  | '[' :: '[' :: rest => do
    let ((path, key), rest) ← dottedKey (skipSpaces rest)
    let rest ← literal [']', ']'] rest
    return (.elementHeader path key, rest)
  | '[' :: rest => do
    let ((path, key), rest) ← dottedKey (skipSpaces rest)
    let rest ← expect ']' rest
    return (.tableHeader path key, rest)
  | _ => do
    let ((path, key), rest) ← dottedKey cs
    let rest ← expect '=' rest
    let (v, rest) ← value maxDepth (cs.length + 1) (skipSpaces rest)
    return (.assignment path key v, rest)

/-- The statements of a text, each on a line of its own. -/
def statements : Nat → List Char → Option (List Statement)
  | 0, _ => none
  | fuel + 1, cs => do
    match ← skipTrivia (fuel + 1) cs with
    | [] => return []
    | rest =>
      let (first, rest) ← statement rest
      let others ← statements fuel (← lineEnd rest)
      return first :: others

/-! ### Carrying out statements -/

/-- A document under construction: its tree, and the path of the last header. -/
structure Construction where
  root : Table Node := []
  current : List String := []

/-- Carries out a statement. -/
def Statement.perform (c : Construction) : Statement → Option Construction
  | tableHeader path key =>
    (openTable path key c.root).map fun root => ⟨root, path ++ [key]⟩
  | elementHeader path key =>
    (openElement path key c.root).map fun root => ⟨root, path ++ [key]⟩
  | assignment path key v =>
    (under (assign key v path) c.current c.root).map fun root => { c with root }

/-- **The table that a document writes.**  A byte order mark at the front is no part of it. -/
def ofText? (text : String) : Option (Table Value) := do
  let cs := text.toList
  let cs := if cs.head? = some '\ufeff' then cs.drop 1 else cs
  let lines ← statements (cs.length + 1) cs
  let document ← lines.foldlM Statement.perform {}
  return finishEntries document.root

end MonitoringPlugins.Toml
