import RenderSync.Settings.Basic
import RenderSync.Yaml.Written

/-!
# The settings document

Settings as a YAML text.  Written, every section and every field with a value has its line;
read, whatever is missing takes its default, and fields that no section has are passed over.
-/

namespace RenderSync.Settings

open Yaml (Document Node)

/-! ## 1. Writing -/

/-- A field of a section, two blanks deep. -/
def fieldLine (name : String) (value : List Char) : List Char :=
  ' ' :: ' ' :: name.toList ++ ':' :: value

/-- A text as a value; further lines of it are two blanks deeper than the field. -/
def textValue (text : String) : List Char := Yaml.writeText 4 text.toList

/-- A word as a value: a number, a truth value or a name that needs no quotes. -/
def wordValue (word : List Char) : List Char := ' ' :: word ++ ['\n']

/-- A number as a value. -/
def natValue (n : Nat) : List Char := wordValue (Digits.ofNat n)

/-- A field that is left out when there is nothing to say. -/
def presentLine (name : String) : Option Path → List Char
  | none => []
  | some path => fieldLine name (textValue path.text)

/-- The text of a settings file. -/
def toDocument (settings : Settings) : List Char :=
  "server:\n".toList ++
  fieldLine "ip" (textValue settings.server.ip) ++
  fieldLine "port" (natValue settings.server.port.toNat) ++
  fieldLine "location" (wordValue settings.server.location.name.toList) ++
  presentLine "custom_cli_path" settings.server.customCliPath ++
  presentLine "bundled_cli_path" settings.server.bundledCliPath ++
  "project:\n".toList ++
  fieldLine "directory" (textValue settings.project.directory.text) ++
  fieldLine "build_executable_on_change"
    (wordValue (if settings.project.buildExecutableOnChange then "true" else "false").toList) ++
  (match settings.libraryPath with
    | none => "library: \x7b\x7d\n".toList
    | some path => "library:\n".toList ++ fieldLine "path" (textValue path.text)) ++
  "notifications:\n".toList ++
  fieldLine "duration_secs" (natValue settings.notificationSeconds.toNat) ++
  "reconcile:\n".toList ++
  fieldLine "retry_interval_ms" (natValue settings.retryMilliseconds.toNat)

/-! ## 2. Reading -/

/-- A field that may be missing, but if it is there has to fit. -/
def fieldOr {α : Type} (default : α) (decode : Node → Option α) : Option Node → Option α
  | none => some default
  | some node => decode node

/-- A path. -/
def pathOfNode? (document : Document) (node : Node) : Option Path :=
  (document.text? node).map Path.mk

/-- The section on the server. -/
def serverOfNode? (document : Document) (node : Node) : Option ServerSettings := do
  let names := ["ip", "port", "location", "custom_cli_path", "bundled_cli_path"]
  match ← document.fields? names node with
  | [ip, port, location, customCliPath, bundledCliPath] =>
    let path := document.optional? (pathOfNode? document)
    return ⟨← fieldOr defaultIp document.text? ip,
      ← fieldOr defaultPort (fun n => (document.natBelow? (Nat.pow 2 16) n).map Nat.toUInt16) port,
      ← fieldOr .builtInCli (document.choice? ServerLocation.names) location,
      ← fieldOr none path customCliPath, ← fieldOr none path bundledCliPath⟩
  | _ => none

/-- The section on the project. -/
def projectOfNode? (document : Document) (node : Node) : Option ProjectSettings := do
  match ← document.fields? ["directory", "build_executable_on_change"] node with
  | [directory, executable] =>
    return ⟨← fieldOr defaultProject.directory (pathOfNode? document) directory,
      ← fieldOr false document.bool? executable⟩
  | _ => none

/-- The only field of a section with one. -/
def soleOfNode? {α : Type} (document : Document) (name : String) (default : α)
    (decode : Node → Option α) (node : Node) : Option α := do
  match ← document.fields? [name] node with
  | [field] => fieldOr default decode field
  | _ => none

/-- A word of sixty-four bits. -/
def wordOfNode? (document : Document) (node : Node) : Option UInt64 :=
  (document.natBelow? (Nat.pow 2 64) node).map Nat.toUInt64

/-- The settings of a document. -/
def ofNode? (document : Document) (node : Node) : Option Settings := do
  let names := ["server", "project", "library", "notifications", "reconcile"]
  match ← document.fields? names node with
  | [server, project, library, notifications, reconcile] =>
    return ⟨← fieldOr defaultServer (serverOfNode? document) server,
      ← fieldOr defaultProject (projectOfNode? document) project,
      ← fieldOr none
          (soleOfNode? document "path" none (document.optional? (pathOfNode? document))) library,
      ← fieldOr 5 (soleOfNode? document "duration_secs" 5 (wordOfNode? document)) notifications,
      ← fieldOr 1000 (soleOfNode? document "retry_interval_ms" 1000 (wordOfNode? document))
          reconcile⟩
  | _ => none

/-- The settings of a text; one without a document, or of blanks only, says nothing. -/
def ofText? (text : List Char) : Option Settings :=
  if Text.isAllBlank text then some default
  else
    match Document.ofText? text with
    | none => none
    | some none => some default
    | some (some document) => ofNode? document document.root

end RenderSync.Settings
