import RenderSync.Proofs.Reading
import RenderSync.Proofs.YamlOutline
import RenderSync.Settings.Store

/-!
# Settings read back

The settings document is an outline: five sections, each field a text or a word.  Its nodes are
looked up by name, and each field is decoded from the scalar that was written for it.  A text
stays a text because `isAmbiguous` keeps those from being plain that a reader takes for nothing;
numbers, truth values and locations are plain words.
-/

namespace RenderSync

namespace Yaml

/-! ## 1. Scalars -/

theorem isWord_of_isDecimal {c : Char} (h : Digits.isDecimal c = true) : isWord c = true := by
  simp [isWord, h]

/-- Decimal digits have no mark for a base. -/
theorem based?_of_isDecimal {text : List Char} (h : ∀ c ∈ text, Digits.isDecimal c = true) :
    based? text = none := by
  unfold based?
  split
  · exact absurd (h 'x' (by simp)) (by decide)
  · exact absurd (h 'o' (by simp)) (by decide)
  · exact absurd (h 'b' (by simp)) (by decide)
  · rfl

/-- The digits of a number have no zero in front that could be left out. -/
theorem hasSpareZero_ofNat (n : Nat) : hasSpareZero (Digits.ofNat n) = false := by
  have hdigits := Digits.isDecimal_ofNat n
  obtain ⟨c, rest, hcons⟩ := List.exists_cons_of_ne_nil (Digits.ofNat_ne_nil n)
  have hzero : c = '0' → rest = [] := by
    rintro rfl
    have hn : n = 0 := Digits.head?_ofNat (by rw [hcons]; rfl)
    subst hn
    have hdigits : Digits.ofNat 0 = ['0'] := by
      rw [Digits.ofNat]
      rfl
    simpa [hdigits] using hcons.symm
  rw [hcons] at hdigits ⊢
  have hsign : isSign c = false := by
    rw [Bool.eq_false_iff]
    intro heq
    simp only [isSign, Bool.or_eq_true, decide_eq_true_eq] at heq
    rcases heq with rfl | rfl
    · exact absurd (hdigits '+' (by simp)) (by decide)
    · exact absurd (hdigits '-' (by simp)) (by decide)
  simp only [hasSpareZero, hsign, Bool.false_eq_true, if_false]
  split
  · next heq =>
    obtain ⟨rfl, rfl⟩ := List.cons_eq_cons.mp heq
    simp at hzero
  · rfl

/-- **A number is read back from its decimal digits.** -/
theorem natBelow?_ofNat {n : Nat} (bound : Nat) (hn : n < bound) :
    natBelow? bound (Digits.ofNat n) = some n := by
  have hdigits := Digits.isDecimal_ofNat n
  have hbased := based?_of_isDecimal hdigits
  have hspare := hasSpareZero_ofNat n
  have hread := Digits.toNat?_ofNat n
  obtain ⟨c, rest, hcons⟩ := List.exists_cons_of_ne_nil (Digits.ofNat_ne_nil n)
  have hsign : c ≠ '+' := by
    rintro rfl
    exact absurd (hdigits '+' (by simp [hcons])) (by decide)
  rw [hcons] at hbased hspare hread ⊢
  simp [natBelow?, hsign, hbased, hspare, hread, hn]

namespace Document

variable (document : Document)

/-- A text is not taken for nothing. -/
theorem optional?_text {α : Type} (decode : Node → Option α) (text : List Char) :
    document.optional? decode (.scalar none text (styleOf text)) =
      (decode (.scalar none text (styleOf text))).map some := by
  rcases styleOf_cases text with ⟨hstyle, hambiguous, -⟩ | ⟨hstyle, -⟩ | hstyle | ⟨hstyle, -⟩ <;>
    rw [hstyle]
  · have hsome : ¬ (text = [] ∨ isNull text = true) := by
      simp only [isAmbiguous, Bool.or_eq_false_iff, decide_eq_false_iff_not] at hambiguous
      simp [hambiguous]
    simp [optional?, resolve, hsome]
  all_goals rfl

/-- **The fields of a mapping**, by the names that its keys write. -/
theorem fields?_mapping (names : List String) (entries : List (String × Node)) :
    document.fields? names (.mapping none (entries.map fun entry =>
        (.scalar none entry.1.toList .plain, entry.2))) =
      names.mapM fun name =>
        match entries.filter (·.1 = name) with
        | [] => some none
        | [(_, value)] => some (some value)
        | _ => none := by
  have hnamed : (entries.map fun entry =>
        ((.scalar none entry.1.toList .plain, entry.2) : Node × Node)).mapM
      (fun entry => (document.text? entry.1).map fun name => (name, entry.2)) = some entries := by
    induction entries with
    | nil => rfl
    | cons entry entries ih =>
      rw [List.map_cons, List.mapM_cons, ih]
      simp [text?, resolve]
  change Option.bind _ _ = _
  rw [hnamed]
  rfl

/-- The fields of a section, by name. -/
theorem fields?_section (names : List String) (s : Section) :
    document.fields? names s.node.2 =
      names.mapM fun name =>
        match (s.fields.map fun field => (field.name, field.node.2)).filter (·.1 = name) with
        | [] => some none
        | [(_, value)] => some (some value)
        | _ => none := by
  have := document.fields?_mapping names (s.fields.map fun field => (field.name, field.node.2))
  rw [List.map_map] at this
  exact this

end Document

end Yaml

namespace Settings

open Yaml (Document Node Field Section)

/-! ## 2. The outline of the settings -/

/-- A text as a field. -/
def textField (name : String) (named : Yaml.FieldName name.toList) (text : String) : Field where
  name := name
  value := textValue text
  text := text.toList
  style := Yaml.styleOf text.toList
  named := named
  reads := Yaml.Scanner.reads_text text.toList

/-- A word as a field. -/
def wordField (name : String) (named : Yaml.FieldName name.toList) (word : List Char)
    (h : Yaml.ValueWord word) : Field where
  name := name
  value := wordValue word
  text := word
  style := .plain
  named := named
  reads := Yaml.Scanner.reads_word h

/-- A path as a field, if it is there. -/
def presentField (name : String) (named : Yaml.FieldName name.toList) :
    Option Path → List Field
  | none => []
  | some path => [textField name named path.text]

theorem valueWord_ofNat (n : Nat) : Yaml.ValueWord (Digits.ofNat n) where
  word := fun c hc => Yaml.isWord_of_isDecimal (Digits.isDecimal_ofNat n c hc)
  starts := by
    have hdigits := Digits.isDecimal_ofNat n
    obtain ⟨c, rest, hcons⟩ := List.exists_cons_of_ne_nil (Digits.ofNat_ne_nil n)
    refine ⟨c, rest, hcons, ?_⟩
    rintro rfl
    exact absurd (hdigits '-' (by simp [hcons])) (by decide)

theorem valueWord_location (location : ServerLocation) :
    Yaml.ValueWord location.name.toList := by
  cases location <;> exact ⟨List.all_eq_true.mp (by decide), _, _, rfl, by decide⟩

/-- How a truth value is written. -/
def boolWord (b : Bool) : List Char := (if b then "true" else "false").toList

theorem valueWord_bool (b : Bool) : Yaml.ValueWord (boolWord b) := by
  cases b <;> exact ⟨List.all_eq_true.mp (by decide), _, _, rfl, by decide⟩

/-- The section on the server. -/
def serverSection (server : ServerSettings) : Section where
  name := "server"
  named := by decide
  fields :=
    textField "ip" (by decide) server.ip ::
    wordField "port" (by decide) _ (valueWord_ofNat server.port.toNat) ::
    wordField "location" (by decide) _ (valueWord_location server.location) ::
    (presentField "custom_cli_path" (by decide) server.customCliPath ++
      presentField "bundled_cli_path" (by decide) server.bundledCliPath)

/-- The section on the project. -/
def projectSection (project : ProjectSettings) : Section where
  name := "project"
  named := by decide
  fields :=
    [textField "directory" (by decide) project.directory.text,
      wordField "build_executable_on_change" (by decide) _
        (valueWord_bool project.buildExecutableOnChange)]

/-- The section on the library, which may be empty. -/
def librarySection (path : Option Path) : Section where
  name := "library"
  named := by decide
  fields := presentField "path" (by decide) path

/-- A section with one number. -/
def numberSection (name field : String) (named : Yaml.FieldName name.toList)
    (named' : Yaml.FieldName field.toList) (n : Nat) : Section where
  name := name
  named := named
  fields := [wordField field named' _ (valueWord_ofNat n)]

/-- The sections of the settings. -/
def outline (settings : Settings) : List Section :=
  [serverSection settings.server, projectSection settings.project,
    librarySection settings.libraryPath,
    numberSection "notifications" "duration_secs" (by decide) (by decide)
      settings.notificationSeconds.toNat,
    numberSection "reconcile" "retry_interval_ms" (by decide) (by decide)
      settings.retryMilliseconds.toNat]

@[simp] theorem name_textField (name : String) (named : Yaml.FieldName name.toList)
    (text : String) : (textField name named text).name = name := rfl

@[simp] theorem name_wordField (name : String) (named : Yaml.FieldName name.toList)
    {word : List Char} (h : Yaml.ValueWord word) : (wordField name named word h).name = name := rfl

theorem lines_textField (name : String) (named : Yaml.FieldName name.toList) (text : String) :
    (textField name named text).line = fieldLine name (textValue text) := rfl

theorem lines_presentField (name : String) (named : Yaml.FieldName name.toList)
    (path : Option Path) :
    (presentField name named path).flatMap Field.line = presentLine name path := by
  cases path with
  | none => rfl
  | some path => rw [presentField, List.flatMap_singleton, lines_textField, presentLine]

/-- A section with fields has a line of its own. -/
theorem lines_section {s : Section} (hne : s.fields ≠ []) :
    s.lines = s.name.toList ++ [':', '\n'] ++ s.fields.flatMap Field.line := by
  obtain ⟨field, fields, hfields⟩ := List.exists_cons_of_ne_nil hne
  rw [Section.lines, hfields, Section.body_cons, List.append_assoc]
  rfl

theorem lines_server (server : ServerSettings) :
    (serverSection server).lines = "server:\n".toList ++
      (fieldLine "ip" (textValue server.ip) ++ (fieldLine "port" (natValue server.port.toNat) ++
      (fieldLine "location" (wordValue server.location.name.toList) ++
      (presentLine "custom_cli_path" server.customCliPath ++
      presentLine "bundled_cli_path" server.bundledCliPath)))) := by
  rw [lines_section (by simp [serverSection])]
  simp only [serverSection, List.flatMap_cons, List.flatMap_append, lines_presentField]
  rfl

theorem lines_project (project : ProjectSettings) :
    (projectSection project).lines = "project:\n".toList ++
      (fieldLine "directory" (textValue project.directory.text) ++
      fieldLine "build_executable_on_change"
        (wordValue (boolWord project.buildExecutableOnChange))) := by
  rw [lines_section (by simp [projectSection])]
  simp only [projectSection, List.flatMap_cons, List.flatMap_nil, List.append_nil]
  rfl

theorem lines_library (path : Option Path) :
    (librarySection path).lines =
      match path with
      | none => "library: \x7b\x7d\n".toList
      | some path => "library:\n".toList ++ fieldLine "path" (textValue path.text) := by
  cases path with
  | none => decide
  | some path =>
    rw [lines_section (by simp [librarySection, presentField])]
    simp only [librarySection, lines_presentField]
    rfl

theorem lines_number (name field : String) (named : Yaml.FieldName name.toList)
    (named' : Yaml.FieldName field.toList) {header : List Char}
    (hheader : header = name.toList ++ [':', '\n']) (n : Nat) :
    (numberSection name field named named' n).lines = header ++ fieldLine field (natValue n) := by
  rw [lines_section (by simp [numberSection]), hheader]
  simp only [numberSection, List.flatMap_cons, List.flatMap_nil, List.append_nil]
  rfl

/-- **The settings document is the text of its outline.** -/
theorem toDocument_eq (settings : Settings) :
    settings.toDocument = (outline settings).flatMap Section.lines := by
  have hnotifications : "notifications:\n".toList = "notifications".toList ++ [':', '\n'] := by
    decide
  have hreconcile : "reconcile:\n".toList = "reconcile".toList ++ [':', '\n'] := by decide
  obtain ⟨server, project, path, seconds, milliseconds⟩ := settings
  simp only [outline, List.flatMap_cons, List.flatMap_nil, lines_server, lines_project,
    lines_library, lines_number _ _ _ _ hnotifications, lines_number _ _ _ _ hreconcile, boolWord]
  unfold toDocument
  -- what the headers say does not matter any more
  generalize "server:\n".toList = serverLine
  generalize "project:\n".toList = projectLine
  generalize "library: \x7b\x7d\n".toList = emptyLine
  generalize "library:\n".toList = libraryLine
  generalize "notifications:\n".toList = notificationsLine
  generalize "reconcile:\n".toList = reconcileLine
  cases path <;> simp only [List.append_assoc, List.append_nil]

/-! ## 3. Reading the sections -/

variable (document : Document)

/-- The text of a field is the text it was written for. -/
theorem text?_field (name : String) (named : Yaml.FieldName name.toList) (text : String) :
    document.text? (textField name named text).node.2 = some text := by
  simp [Document.text?, Document.resolve, Field.node, textField]

theorem pathOfNode?_field (name : String) (named : Yaml.FieldName name.toList) (path : Path) :
    pathOfNode? document (textField name named path.text).node.2 = some path := by
  rw [pathOfNode?, text?_field]
  rfl

/-- A path that may be missing is read as it was written, or left out. -/
theorem optional?_field (name : String) (named : Yaml.FieldName name.toList) (path : Path) :
    document.optional? (pathOfNode? document) (textField name named path.text).node.2 =
      some (some path) := by
  have := pathOfNode?_field document name named path
  simp only [Field.node, textField] at this ⊢
  rw [document.optional?_text, this]
  rfl

/-- A number that fits is read as it was written. -/
theorem natBelow?_field (name : String) (named : Yaml.FieldName name.toList) (bound : Nat)
    {n : Nat} (hn : n < bound) (hbound : bound ≤ Nat.pow 2 64) :
    document.natBelow? bound (wordField name named _ (valueWord_ofNat n)).node.2 = some n := by
  have hword := Yaml.natBelow?_ofNat (Nat.pow 2 64) (Nat.lt_of_lt_of_le hn hbound)
  simp only [Document.natBelow?, Document.resolve, Field.node, wordField, Yaml.isTyped,
    decide_true, Bool.true_or, if_true, hword, Option.bind_some, hn]

theorem bool?_field (name : String) (named : Yaml.FieldName name.toList) (b : Bool) :
    document.bool? (wordField name named _ (valueWord_bool b)).node.2 = some b := by
  cases b <;> rfl

theorem choice?_field (name : String) (named : Yaml.FieldName name.toList)
    (location : ServerLocation) :
    document.choice? ServerLocation.names
      (wordField name named _ (valueWord_location location)).node.2 = some location := by
  cases location <;> rfl

/-- **The section on the server is read back.** -/
theorem serverOfNode?_section (server : ServerSettings) :
    serverOfNode? document (serverSection server).node.2 = some server := by
  obtain ⟨ip, port, location, custom, bundled⟩ := server
  have hip := text?_field document "ip" (by decide) ip
  have hport := natBelow?_field document "port" (by decide) (Nat.pow 2 16) port.toNat_lt (by decide)
  have hlocation := choice?_field document "location" (by decide) location
  have hcustom := optional?_field document "custom_cli_path" (by decide)
  have hbundled := optional?_field document "bundled_cli_path" (by decide)
  cases custom <;> cases bundled <;>
    simp [serverOfNode?, document.fields?_section, serverSection, presentField, fieldOr, hip,
      hport, hlocation, hcustom, hbundled]

/-- **The section on the project is read back.** -/
theorem projectOfNode?_section (project : ProjectSettings) :
    projectOfNode? document (projectSection project).node.2 = some project := by
  have hdirectory := pathOfNode?_field document "directory" (by decide) project.directory
  have hexecutable := bool?_field document "build_executable_on_change" (by decide)
    project.buildExecutableOnChange
  simp [projectOfNode?, document.fields?_section, projectSection, fieldOr, hdirectory,
    hexecutable]

/-- **The section on the library is read back**, empty or not. -/
theorem soleOfNode?_library (path : Option Path) :
    soleOfNode? document "path" none (document.optional? (pathOfNode? document))
      (librarySection path).node.2 = some path := by
  have hpath := optional?_field document "path" (by decide)
  cases path <;>
    simp [soleOfNode?, document.fields?_section, librarySection, presentField, fieldOr, hpath]

/-- **A section with one number is read back.** -/
theorem soleOfNode?_number (name field : String) (named : Yaml.FieldName name.toList)
    (named' : Yaml.FieldName field.toList) (default n : UInt64) :
    soleOfNode? document field default (wordOfNode? document)
      (numberSection name field named named' n.toNat).node.2 = some n := by
  have hnumber := natBelow?_field document field named' (Nat.pow 2 64) n.toNat_lt (Nat.le_refl _)
  simp [soleOfNode?, document.fields?_section, numberSection, fieldOr, wordOfNode?, hnumber]

@[simp] theorem name_serverSection (server : ServerSettings) :
    (serverSection server).name = "server" := rfl

@[simp] theorem name_projectSection (project : ProjectSettings) :
    (projectSection project).name = "project" := rfl

@[simp] theorem name_librarySection (path : Option Path) :
    (librarySection path).name = "library" := rfl

@[simp] theorem name_numberSection (name field : String) (named : Yaml.FieldName name.toList)
    (named' : Yaml.FieldName field.toList) (n : Nat) :
    (numberSection name field named named' n).name = name := rfl

/-- **The settings are read back from their nodes.** -/
theorem ofNode?_outline (settings : Settings) :
    ofNode? document (.mapping none ((outline settings).map Section.node)) = some settings := by
  have hfields := document.fields?_mapping
    ["server", "project", "library", "notifications", "reconcile"]
    ((outline settings).map fun s => (s.name, s.node.2))
  rw [List.map_map] at hfields
  have hroot : (outline settings).map Section.node = (outline settings).map
      ((fun entry : String × Node => (.scalar none entry.1.toList .plain, entry.2)) ∘
        fun s => (s.name, s.node.2)) := rfl
  rw [ofNode?, hroot, hfields]
  simp [outline, fieldOr, serverOfNode?_section, projectOfNode?_section, soleOfNode?_library,
    soleOfNode?_number]

/-! ## 4. The file -/

/-- The document does not look empty. -/
theorem isAllBlank_toDocument (settings : Settings) :
    Text.isAllBlank settings.toDocument = false := by
  have hs : 's' ∈ settings.toDocument := by
    rw [toDocument_eq, outline, List.flatMap_cons, lines_server, List.append_assoc]
    exact List.mem_append_left _ (by decide)
  exact List.all_eq_false.mpr ⟨'s', hs, by decide⟩

/-- **The text that is written for settings is read as these settings.** -/
theorem ofText?_toDocument (settings : Settings) :
    ofText? settings.toDocument = some settings := by
  have houtline : outline settings ≠ [] := by simp [outline]
  rw [ofText?, isAllBlank_toDocument, toDocument_eq, Document.ofText?_outline houtline]
  exact ofNode?_outline _ settings

end Settings

end RenderSync
