/-
**Where manifests come from.**

A manifest is a TOML document, as a text or in a file.  A file may be missing, and its bytes may be
no text; a text may be no TOML; and what it writes may not be a manifest.  The TOML is read
completely before the manifest is looked for in it, except that a number is only found to be out of
range or unreadable when its place in the manifest is reached: an earlier fault of the manifest
comes first, and a part of the document that nothing looks at may hold any number.

Main definitions:

* `MonitoringPlugins.ReadError` — why there is no manifest;
* `MonitoringPlugins.Manifest.ofToml`, `MonitoringPlugins.Manifest.ofFile` — the manifest that a
  text writes, and the one that a file holds.
-/

import MonitoringPlugins.Manifest.Decode
import MonitoringPlugins.Toml.Document

set_option autoImplicit false

namespace MonitoringPlugins

/-- Why there is no manifest. -/
inductive ReadError where
  /-- There is no such file. -/
  | notFound
  /-- The file is not UTF-8. -/
  | notText
  /-- The text is no TOML, or a number in it cannot be read. -/
  | notToml
  /-- The document is no manifest. -/
  | notManifest (reason : DecodeError)

/-- The wording of an error, where the format of manifests determines it. -/
def ReadError.message? : ReadError → Option String
  | notFound | notText | notToml => none
  | notManifest reason => some (reason.message .toml)

/-- What is found at the path of a manifest. -/
inductive ManifestFile where
  | missing
  | content (bytes : ByteArray)

namespace Manifest

/-- **The manifest that a TOML text writes.** -/
def ofToml (text : String) : Except ReadError Manifest :=
  match Toml.ofText? text with
  | none => .error .notToml
  | some document =>
    match decode .toml (.map (Data.ofTomlEntries document)) with
    | .ok m => .ok m
    | .error .unreadable => .error .notToml
    | .error reason => .error (.notManifest reason)

/-- The manifest that a file holds. -/
def ofFile : ManifestFile → Except ReadError Manifest
  | .missing => .error .notFound
  | .content bytes =>
    match String.fromUTF8? bytes with
    | none => .error .notText
    | some text => ofToml text

end Manifest

end MonitoringPlugins
