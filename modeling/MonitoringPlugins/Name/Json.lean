/-
**Names as JSON.**

A name is written as its text.  What is read back is not trusted for having been written by someone
else: a text out of a JSON value is validated like any other, and all that is no text is refused.

Main definitions:

* `MonitoringPlugins.Name.toJson`, `MonitoringPlugins.Name.ofJson` — names written and read;
* `MonitoringPlugins.NameReadError`, `MonitoringPlugins.NameReadError.message` — why no name is
  read.

Main results:

* `MonitoringPlugins.Name.ofJson_str` — **a text is read like any other text**;
* `MonitoringPlugins.Name.ofJson_eq_ok_iff` — **a name is read exactly where it is written**.
-/

import MonitoringPlugins.Data.Shape
import MonitoringPlugins.Name.Basic

set_option autoImplicit false

namespace MonitoringPlugins

/-- Why no name is read from a JSON value. -/
inductive NameReadError where
  /-- There is no text in the place. -/
  | noText (fault : DecodeError)
  /-- There is no name with the text. -/
  | noName (reason : NameError)

/-- The wording of an error. -/
def NameReadError.message : NameReadError → String
  | noText fault => fault.message .json
  | noName reason => reason.message

namespace Name

variable {kind : NameKind}

/-- A name as JSON. -/
def toJson (n : Name kind) : Json := .str n.text

/-- The name of a kind that a JSON value writes. -/
def ofJson (kind : NameKind) (v : Json) : Except NameReadError (Name kind) := do
  let text ← (Data.text (.ofJson v)).mapError .noText
  (ofText kind text).mapError .noName

/-- **A text is read like any other text.** -/
@[simp] theorem ofJson_str (kind : NameKind) (text : String) :
    ofJson kind (.str text) = (ofText kind text).mapError .noName := rfl

@[simp] theorem ofJson_toJson (n : Name kind) : ofJson kind n.toJson = .ok n := by
  rw [toJson, ofJson_str, ofText_text]
  rfl

/-- **A name is read exactly where it is written.** -/
theorem ofJson_eq_ok_iff {v : Json} {n : Name kind} : ofJson kind v = .ok n ↔ v = n.toJson := by
  constructor
  · intro h
    cases v with
    | str text =>
        rw [ofJson_str] at h
        cases hname : ofText kind text with
        | error e =>
            rw [hname] at h
            cases h
        | ok m =>
            rw [hname] at h
            cases h
            rw [toJson, (ofText_eq_ok_iff.1 hname).2]
    | _ => cases h
  · rintro rfl
    exact ofJson_toJson n

end Name

end MonitoringPlugins
