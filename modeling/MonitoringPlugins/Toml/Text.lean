/-
**Quoted TOML text.**

Text stands between double quotes, with escapes, or between single quotes, as it is; between three
quotes of either kind it may go over several lines.  A line break right after three opening quotes
is no part of the text; every other one is, as it is written, with or without a carriage return.  A
backslash at the end of a line joins it to the next text, and one or two quotes may stand next to
the closing ones.  Control characters other than the tab have to be escaped.

Main definitions:

* `MonitoringPlugins.Toml.isControl` — the characters that may not stand for themselves;
* `MonitoringPlugins.Toml.lineBreak?`, `MonitoringPlugins.Toml.skipComment` — line breaks and
  comments;
* `MonitoringPlugins.Toml.basicText`, `MonitoringPlugins.Toml.literalText`,
  `MonitoringPlugins.Toml.quotedText` — the four forms of text, after the opening quotes, and any of
  them.
-/

import MonitoringPlugins.Text.Scan

set_option autoImplicit false

namespace MonitoringPlugins.Toml

open MonitoringPlugins.Text

/-! ### Lines -/

/-- Whether a character is a control character other than the tab. -/
def isControl (c : Char) : Bool := (c.toNat < 0x20 && c ≠ '\t') || c.toNat = 0x7f

/-- Whether a character is a blank within a line. -/
def isSpace (c : Char) : Bool := c = ' ' || c = '\t'

/-- The characters after the blanks at the front. -/
def skipSpaces (cs : List Char) : List Char := cs.dropWhile isSpace

/-- The characters after the line break at the front. -/
def lineBreak? : List Char → Option (List Char)
  | '\n' :: rest => some rest
  | '\r' :: '\n' :: rest => some rest
  | _ => none

/-- The characters after the blanks and line breaks at the front. -/
def skipLines : List Char → List Char
  | ' ' :: rest => skipLines rest
  | '\t' :: rest => skipLines rest
  | '\n' :: rest => skipLines rest
  | '\r' :: '\n' :: rest => skipLines rest
  | cs => cs

/-- The characters after a comment, from the line break on. -/
def skipComment : List Char → Option (List Char)
  | [] => some []
  | c :: rest =>
    if (lineBreak? (c :: rest)).isSome then some (c :: rest)
    else if isControl c then none
    else skipComment rest

/-! ### Escapes -/

/-- The character of exactly `k` hexadecimal digits at the front. -/
def hexEscape (k : Nat) (cs : List Char) : Option (Char × List Char) := do
  if cs.length < k then none
  let c ← charOfCode? (← hexNumber? (cs.take k))
  return (c, cs.drop k)

/-- The character that an escape stands for, after its backslash. -/
def escape : List Char → Option (Char × List Char)
  | 'b' :: rest => some ('\x08', rest)
  | 't' :: rest => some ('\t', rest)
  | 'n' :: rest => some ('\n', rest)
  | 'f' :: rest => some ('\x0c', rest)
  | 'r' :: rest => some ('\r', rest)
  | '"' :: rest => some ('"', rest)
  | '\\' :: rest => some ('\\', rest)
  | 'u' :: rest => hexEscape 4 rest
  | 'U' :: rest => hexEscape 8 rest
  | _ => none

/-! ### Text on one line -/

/-- Text with escapes up to its closing quote. -/
def basicBody : Nat → List Char → Option (List Char × List Char)
  | 0, _ => none
  | _ + 1, [] => none
  | fuel + 1, c :: rest =>
    if c = '"' then some ([], rest)
    else if c = '\\' then do
      let (c, rest) ← escape rest
      let (text, rest) ← basicBody fuel rest
      return (c :: text, rest)
    else if isControl c then none
    else (basicBody fuel rest).map fun (text, rest) => (c :: text, rest)

/-- Text as it is up to its closing quote. -/
def literalBody : List Char → Option (List Char × List Char)
  | [] => none
  | c :: rest =>
    if c = '\'' then some ([], rest)
    else if isControl c then none
    else (literalBody rest).map fun (text, rest) => (c :: text, rest)

/-! ### Text on several lines -/

/-- What a run of quotes means inside text between three of them: the text goes on after up to two
quotes, and ends with three quotes after up to two that belong to it. -/
inductive QuoteRun where
  | within (quotes : List Char) (rest : List Char)
  | closing (quotes : List Char) (rest : List Char)
  | malformed

/-- The run of quotes at the front. -/
def quoteRun (quote : Char) (cs : List Char) : QuoteRun :=
  let n := (cs.takeWhile (· = quote)).length
  if n ≤ 2 then .within (List.replicate n quote) (cs.drop n)
  else if n ≤ 5 then .closing (List.replicate (n - 3) quote) (cs.drop n)
  else .malformed

/-- Text with escapes up to its three closing quotes.  A carriage return stands only before a
newline. -/
def basicLines : Nat → List Char → Option (List Char × List Char)
  | 0, _ => none
  | _ + 1, [] => none
  | fuel + 1, c :: rest =>
    if c = '"' then
      match quoteRun '"' (c :: rest) with
      | .within quotes rest =>
        (basicLines fuel rest).map fun (text, rest) => (quotes ++ text, rest)
      | .closing quotes rest => some (quotes, rest)
      | .malformed => none
    else if c = '\\' then
      if (lineBreak? (skipSpaces rest)).isSome then basicLines fuel (skipLines rest)
      else do
        let (c, rest) ← escape rest
        let (text, rest) ← basicLines fuel rest
        return (c :: text, rest)
    else if isControl c && (lineBreak? (c :: rest)).isNone then none
    else (basicLines fuel rest).map fun (text, rest) => (c :: text, rest)

/-- Text as it is up to its three closing quotes.  A carriage return stands only before a
newline. -/
def literalLines : Nat → List Char → Option (List Char × List Char)
  | 0, _ => none
  | _ + 1, [] => none
  | fuel + 1, c :: rest =>
    if c = '\'' then
      match quoteRun '\'' (c :: rest) with
      | .within quotes rest =>
        (literalLines fuel rest).map fun (text, rest) => (quotes ++ text, rest)
      | .closing quotes rest => some (quotes, rest)
      | .malformed => none
    else if isControl c && (lineBreak? (c :: rest)).isNone then none
    else (literalLines fuel rest).map fun (text, rest) => (c :: text, rest)

/-! ### Any quoted text -/

/-- The characters after a line break at the front, if there is one. -/
def dropLineBreak (cs : List Char) : List Char := (lineBreak? cs).getD cs

/-- Text on one line with escapes, after its opening quote. -/
def basicText (cs : List Char) : Option (List Char × List Char) := basicBody (cs.length + 1) cs

/-- Text on one line as it is, after its opening quote. -/
def literalText (cs : List Char) : Option (List Char × List Char) := literalBody cs

/-- Quoted text of any form; none if there is no quote at the front. -/
def quotedText (cs : List Char) : Option (List Char × List Char) :=
  match cs with
  | '"' :: '"' :: '"' :: rest => basicLines (rest.length + 1) (dropLineBreak rest)
  | '\'' :: '\'' :: '\'' :: rest => literalLines (rest.length + 1) (dropLineBreak rest)
  | '"' :: rest => basicText rest
  | '\'' :: rest => literalText rest
  | _ => none

end MonitoringPlugins.Toml
