/-
This file lists what a bug report needs to know of the machine: the release of this program, the
operating system, the interpreter and its version, and the database client.
-/

import DumpRestore.Text.Blank
import DumpRestore.Value

namespace DumpRestore

/-- A release of an implementation that has releases of its own: its number and its level. -/
structure OwnRelease where
  major : Nat
  minor : Nat
  micro : Nat
  level : Text

/-- What asking for the version of the database client gives: there is no client, it fails, or it
prints something. -/
inductive ClientAnswer where
  | absent
  | failed
  | printed (output : Value)

/-- A machine: the name and the release of its operating system where they can be found out, the
implementation and its versions, and the database client. -/
structure Platform where
  system : Option (Text × Text)
  implementation : Text
  languageVersion : Text
  ownRelease : OwnRelease
  client : ClientAnswer

namespace Platform

/-- The name of the program. -/
def programName : Text := "mysql-restore-kit"

/-- The release of the program. -/
def programVersion : Text := "1.0.0"

/-- The operating system. -/
def systemText (platform : Platform) : Text :=
  match platform.system with
  | some (name, release) => name ++ " " ++ release
  | none => "Unknown"

/-- A release with its level, which is left out where it is final. -/
def releaseText (release : OwnRelease) : Text :=
  Text.join "." ([release.major, release.minor, release.micro].map Text.ofNat) ++
    (if release.level = "final".toList then [] else release.level)

/-- The implementations whose version is that of the language. -/
def languageImplementations : List Text := ["CPython", "Jython", "IronPython"]

/-- The implementation and its version. -/
def implementationText (platform : Platform) : Text :=
  let version := if platform.implementation = "PyPy".toList then releaseText platform.ownRelease
    else if languageImplementations.elem platform.implementation then platform.languageVersion
    else "Unknown"
  platform.implementation ++ " " ++ version

/-- What the client prints: decoded and trimmed where it is bytes that can be decoded, and as the
text of the value otherwise. -/
def clientText (platform : Platform) : Text :=
  match platform.client with
  | .printed (.bytes content) => match Text.ofUtf8 content with
    | .ok text => Text.trim text
    | .error _ => (Value.bytes content).toText
  | .printed (.buffer content) => match Text.ofUtf8 content with
    | .ok text => Text.trim text
    | .error _ => (Value.buffer content).toText
  | .printed value => value.toText
  | _ => "MySQL client not found on the system"

/-- The rows of a bug report: what they are about and what there is to say. -/
def report (platform : Platform) : List (Text × Text) := [
  (programName, programVersion),
  ([], []),
  ("Operating System", platform.systemText),
  ("Python", platform.implementationText),
  ("MySQL", platform.clientText),
  ([], [])]

/-- The libraries whose versions a bug report ends with. -/
def libraries : List Text := ["click", "mysql-connector-python", "packaging", "tabulate", "tqdm"]

end Platform

end DumpRestore
