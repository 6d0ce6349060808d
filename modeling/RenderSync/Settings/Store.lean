import RenderSync.Settings.Document
import RenderSync.Files.Tree

/-!
# Settings files

Settings live in `.shiba/settings.yaml` below the home directory, in a directory of mode 0700 and
a file of mode 0600.  Saving writes a sibling file first and then moves it over the old one, so
that the settings are never half written: a failed save leaves no trace but that sibling and
directories made for it.
-/

namespace RenderSync

/-- Why settings could not be loaded or saved. -/
inductive SettingsError where
  /-- The system refused to read or write. -/
  | io
  /-- The text holds no settings. -/
  | parse
  /-- Nobody says where the home directory is. -/
  | homeNotFound
deriving DecidableEq, Repr, Inhabited

namespace Settings

/-! ## 1. Places -/

/-- The directory below the home directory. -/
def rootIn (home : Path) : Path := home.join ⟨".shiba"⟩

/-- The file below the home directory. -/
def fileIn (home : Path) : Path := (rootIn home).join ⟨"settings.yaml"⟩

/-- The sibling that is written first. -/
def draftOf (file : Path) : Path := file.withExtension "yaml.tmp"

/-- The mode of the directory. -/
def directoryMode : Nat := 0o700

/-- The mode of the file. -/
def fileMode : Nat := 0o600

/-! ## 2. Loading -/

/-- Loads a settings file; a missing one says nothing. -/
def load (tree : FileTree) (file : Path) : Except SettingsError Settings :=
  if !tree.contains file then .ok default
  else
    match (tree.read? file).bind Utf8.decode? with
    | none => .error .io
    | some text =>
      match ofText? text with
      | some settings => .ok settings
      | none => .error .parse

/-- Loads the settings below a home directory. -/
def loadIn (tree : FileTree) (home : Path) : Except SettingsError Settings :=
  load tree (fileIn home)

/-! ## 3. Saving -/

/-- Makes a directory of the settings' mode, with the directories above it. -/
def makeRoot (tree : FileTree) (directory : Path) : Except SettingsError Unit × FileTree :=
  match tree.layDirectories directory with
  | (false, tree) => (.error .io, tree)
  | (true, tree) =>
    match tree.setMode directory directoryMode with
    | none => (.error .io, tree)
    | some tree => (.ok (), tree)

/-- Makes a directory that is missing. -/
def ensureRoot (tree : FileTree) (directory : Path) : Except SettingsError Unit × FileTree :=
  if tree.contains directory then (.ok (), tree) else makeRoot tree directory

/-- Makes the directory of a file, if it is missing. -/
def ensureParent (tree : FileTree) (file : Path) : Except SettingsError Unit × FileTree :=
  match file.parent? with
  | none => (.ok (), tree)
  | some parent => if parent.text = "" then (.ok (), tree) else ensureRoot tree parent

/-- Writes the sibling and moves it over the file. -/
def replaceFile (tree : FileTree) (file : Path) (settings : Settings) :
    Except SettingsError Unit × FileTree :=
  match tree.write (draftOf file) (Utf8.encode settings.toDocument) with
  | none => (.error .io, tree)
  | some tree =>
    match tree.setMode (draftOf file) fileMode with
    | none => (.error .io, tree)
    | some tree =>
      match tree.rename (draftOf file) file with
      | none => (.error .io, tree)
      | some tree => (.ok (), tree)

/-- Saves settings to a file. -/
def save (tree : FileTree) (file : Path) (settings : Settings) :
    Except SettingsError Unit × FileTree :=
  match ensureParent tree file with
  | (.error e, tree) => (.error e, tree)
  | (.ok (), tree) => replaceFile tree file settings

/-- Saves settings below a home directory. -/
def saveIn (tree : FileTree) (home : Path) (settings : Settings) :
    Except SettingsError Unit × FileTree :=
  match ensureRoot tree (rootIn home) with
  | (.error e, tree) => (.error e, tree)
  | (.ok (), tree) => save tree (fileIn home) settings

/-- Loads the settings below a home directory, or saves defaults if there are none. -/
def initIn (tree : FileTree) (home : Path) : Except SettingsError Settings × FileTree :=
  if tree.contains (fileIn home) then (loadIn tree home, tree)
  else
    match saveIn tree home default with
    | (.error e, tree) => (.error e, tree)
    | (.ok (), tree) => (.ok default, tree)

end Settings

end RenderSync
