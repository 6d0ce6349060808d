import RenderSync.WorkingCopy.Witnessed
import RenderSync.Proofs.Lodging

/-!
# Two working copies in one directory

The library and the command line tool keep their working copies in one directory, each under the
name of its source.  Nobody looks whether the name is taken: a copy that is made replaces the one
of the other party, and if its user refuses it both are gone.

The copies are private as long as neither party makes one in the place of the other's
(`SharedWork.Overwrites`), whatever else they do in whatever order, and whatever becomes of the
sources; where one does, `SharedWork.Clobbers` says when that shows, and
`SharedWork.Reached.private_iff` that nothing else does.  Sources with different names never come to
that (`SharedWork.not_overwrites_of_name`).
-/

namespace RenderSync

variable {ρ : Type}

open FileTree

/-! ## 1. Two parties -/

/-- One of two parties. -/
inductive Party where
  | first
  | second
deriving DecidableEq

/-- The other one. -/
def Party.other : Party → Party
  | first => second
  | second => first

theorem Party.eq_or (party other : Party) : other = party ∨ other = party.other := by
  cases party <;> cases other <;> simp [Party.other]

@[simp] theorem Party.other_other (party : Party) : party.other.other = party := by
  cases party <;> rfl

theorem Party.other_ne (party : Party) : party.other ≠ party := by
  cases party <;> decide

/-- Two working copies among the same files, each with a user; one type serves for both users. -/
structure SharedWork (ρ : Type) where
  held : Party → WorkingCopy
  user : Party → ρ × Option Content
  files : FileTree

namespace SharedWork

/-- Two working copies in one directory; nothing was put to use yet. -/
def start (directory : Path) (files : FileTree) (users : Party → ρ) : SharedWork ρ :=
  ⟨fun _ => .start directory, fun party => (users party, none), files⟩

/-- What one party sees. -/
def view (party : Party) (shared : SharedWork ρ) : CopyState (ρ × Option Content) :=
  ⟨shared.held party, shared.files, shared.user party⟩

/-- What comes of it when one party has done something. -/
def update (party : Party) (state : CopyState (ρ × Option Content)) (shared : SharedWork ρ) :
    SharedWork ρ where
  held other := if other = party then state.held else shared.held other
  user other := if other = party then state.user else shared.user other
  files := state.files

/-- An operation of one party. -/
def perform (use : Party → CopyUse ρ) (party : Party) (operation : CopyState.Operation)
    (shared : SharedWork ρ) : Bool × SharedWork ρ :=
  let (answer, after) := (shared.view party).perform (use party).remembering operation
  (answer, shared.update party after)

/-- Others have changed the files, and the users have changed for reasons of their own. -/
def meanwhile (files : FileTree) (users : Party → ρ) (shared : SharedWork ρ) : SharedWork ρ :=
  { shared with files := files, user := fun party => (users party, (shared.user party).2) }

/-- **While the copy of a party is in use it is there, with the content that it was put to use
with.** -/
def IsPrivate (party : Party) (shared : SharedWork ρ) : Prop :=
  (shared.held party).isOpen = true → ∃ copy content, (shared.held party).copy = some copy ∧
    (shared.user party).2 = some content ∧ shared.files.content? copy = some content

/-- The operation makes a copy in the place of the one that the other party has. -/
def Overwrites (use : Party → CopyUse ρ) (party : Party) (operation : CopyState.Operation)
    (shared : SharedWork ρ) : Prop :=
  ∃ copy files user, (shared.view party).making? (use party).remembering operation =
    some (copy, files, user) ∧ (shared.held party.other).copy = some copy

/-- **It does, and it shows**: the user of the new copy refuses it, so that it is removed, or it has
another content. -/
def Clobbers (use : Party → CopyUse ρ) (party : Party) (operation : CopyState.Operation)
    (shared : SharedWork ρ) : Prop :=
  ∃ copy files user, (shared.view party).making? (use party).remembering operation =
    some (copy, files, user) ∧ (shared.held party.other).copy = some copy ∧
      (((use party).remembering.opened files copy user).1 = true →
        files.content? copy ≠ (shared.user party.other).2)

instance (use : Party → CopyUse ρ) (party : Party) (operation : CopyState.Operation)
    (shared : SharedWork ρ) : Decidable (shared.Overwrites use party operation) :=
  decidable_of_iff
    (((shared.view party).making? (use party).remembering operation).any fun made =>
      (shared.held party.other).copy = some made.1)
    (by simp [Overwrites, Option.any_eq_true])

instance (use : Party → CopyUse ρ) (party : Party) (operation : CopyState.Operation)
    (shared : SharedWork ρ) : Decidable (shared.Clobbers use party operation) :=
  decidable_of_iff
    (((shared.view party).making? (use party).remembering operation).any
      fun (copy, files, user) => (shared.held party.other).copy = some copy ∧
        (((use party).remembering.opened files copy user).1 = true →
          files.content? copy ≠ (shared.user party.other).2)) <| by
    rw [Option.any_eq_true]
    refine ⟨fun ⟨(copy, files, user), hmaking, hshows⟩ => ?_,
      fun ⟨copy, files, user, hmaking, hshows⟩ => ?_⟩
    · exact ⟨copy, files, user, hmaking, of_decide_eq_true hshows⟩
    · exact ⟨(copy, files, user), hmaking, decide_eq_true hshows⟩

/-- **Runs**: operations of both in any order that do not make a copy in the place of the other's,
between which others leave the directory alone. -/
inductive Reached (use : Party → CopyUse ρ) (directory : Path) : SharedWork ρ → Prop where
  | start {files : FileTree} (users : Party → ρ) : files.IsRooted → files.IsVacant directory →
      Reached use directory (.start directory files users)
  | performed {shared : SharedWork ρ} (party : Party) (operation : CopyState.Operation) :
      Reached use directory shared → ¬ shared.Overwrites use party operation →
      Reached use directory (shared.perform use party operation).2
  | meanwhile {shared : SharedWork ρ} {files : FileTree} (users : Party → ρ) :
      Reached use directory shared → shared.files.Spares directory files →
      Reached use directory (shared.meanwhile files users)

/-! ## 2. What both know -/

variable {use : Party → CopyUse ρ} {directory : Path} {shared : SharedWork ρ}
  {inside remaining : String → Option Content} {used : Party → Option String}
  {later : Option String} {party : Party} {after : CopyState (ρ × Option Content)}

/-- Both parties know what is inside, and their copies have different names. -/
structure Sound (directory : Path) (inside : String → Option Content)
    (used : Party → Option String) (shared : SharedWork ρ) : Prop where
  lodged : ∀ party, (shared.view party).Lodged directory inside (used party)
  apart : ∀ party name, used party = some name → used party.other ≠ some name

@[simp] theorem update_view_self : (shared.update party after).view party = after := by
  obtain ⟨held, files, user⟩ := after
  simp [view, update]

theorem update_view_other :
    (shared.update party after).view party.other =
      ⟨shared.held party.other, after.files, shared.user party.other⟩ := by
  simp [view, update, party.other_ne]

/-- A party whose copy stays inside is not concerned. -/
theorem lodged_other (h : (shared.view party.other).Lodged directory inside (used party.other))
    (hafter : after.Lodged directory remaining later)
    (hsame : ∀ name, used party.other = some name → remaining name = inside name) :
    ((shared.update party after).view party.other).Lodged directory remaining
      (used party.other) := by
  rw [update_view_other]
  refine ⟨h.place, h.isOpen, h.copy, fun name hname => ?_, hafter.houses⟩
  obtain ⟨content, hinside, hremembered⟩ := h.remembered name hname
  exact ⟨content, (hsame name hname).trans hinside, hremembered⟩

/-- **Where the copy of the other party stays inside, both are sound.** -/
theorem Sound.update (h : shared.Sound directory inside used)
    (hafter : after.Lodged directory remaining later)
    (hsame : ∀ name, used party.other = some name → remaining name = inside name)
    (hapart : ∀ name, later = some name → used party.other ≠ some name) :
    (shared.update party after).Sound directory remaining
      fun other => if other = party then later else used other := by
  refine ⟨fun other => ?_, fun other name hname => ?_⟩
  · rcases party.eq_or other with rfl | rfl
    · rw [update_view_self, if_pos rfl]
      exact hafter
    · rw [if_neg party.other_ne]
      exact lodged_other (h.lodged party.other) hafter hsame
  · rcases party.eq_or other with rfl | rfl
    · rw [if_pos rfl] at hname
      rw [if_neg other.other_ne]
      exact hapart name hname
    · rw [if_neg party.other_ne] at hname
      rw [Party.other_other, if_pos rfl]
      exact fun hlater => hapart name hlater hname

/-- What a party knows makes its copy private. -/
theorem isPrivate_of_lodged {name? : Option String}
    (h : (shared.view party).Lodged directory inside name?) : shared.IsPrivate party := by
  intro hopen
  obtain ⟨name, hname⟩ := Option.isSome_iff_exists.mp (h.isOpen.symm.trans hopen)
  obtain ⟨content, hinside, hremembered⟩ := h.remembered name hname
  refine ⟨directory.join ⟨name⟩, content, h.copy.trans (congrArg _ hname), hremembered, ?_⟩
  exact (h.houses.has hinside).content? h.houses.rooted

/-- **An operation that overwrites nothing keeps both sound.** -/
theorem Sound.perform (use : Party → CopyUse ρ) (h : shared.Sound directory inside used)
    (party : Party) {operation : CopyState.Operation}
    (hkeeps : ¬ shared.Overwrites use party operation) :
    ∃ remaining later, (shared.perform use party operation).2.Sound directory remaining later := by
  have hparty := h.lodged party
  have hother := h.lodged party.other
  have hne : ∀ name, used party.other = some name → used party ≠ some name := by
    intro name hname hsame
    exact h.apart party name hsame hname
  cases hmaking : (shared.view party).making? (use party).remembering operation with
  | none =>
    obtain ⟨later, remaining, hafter, hlater, hsame⟩ :=
      hparty.perform_of_not_making (use party) hmaking
    refine ⟨remaining, _, h.update hafter (fun name hname => hsame name (hne name hname)) ?_⟩
    rintro name rfl
    rcases hlater with hlater | hlater
    · exact h.apart party name hlater.symm
    · cases hlater
  | some made =>
    obtain ⟨copy, files, user⟩ := made
    obtain ⟨name, later, remaining, -, rfl, hafter, hothers, hlater⟩ :=
      hparty.perform_of_making (use party) hmaking
    -- the name of the new copy is not that of the other party's, whose path would be the same
    have hfree : used party.other ≠ some name := fun hused =>
      hkeeps ⟨_, files, user, hmaking, hother.copy.trans (congrArg _ hused)⟩
    refine ⟨remaining, _, h.update hafter (fun single hsingle => ?_) fun single hsingle => ?_⟩
    · exact hothers single (fun hsame => hfree (hsame ▸ hsingle)) (hne single hsingle)
    · rcases hlater with ⟨-, rfl, -⟩ | ⟨-, rfl, -⟩
      · rwa [← Option.some.inj hsingle]
      · cases hsingle

/-! ## 3. Runs -/

/-- **Along a run both parties are sound.** -/
theorem Reached.sound (h : Reached use directory shared) :
    ∃ inside used, shared.Sound directory inside used := by
  induction h with
  | start users hrooted hvacant =>
    exact ⟨fun _ => none, fun _ => none,
      fun _ => .unused rfl rfl rfl (.of_isVacant hrooted hvacant),
      fun _ _ h => absurd h (Option.some_ne_none _).symm⟩
  | performed party operation _ hkeeps ih =>
    obtain ⟨inside, used, hsound⟩ := ih
    exact hsound.perform use party hkeeps
  | meanwhile users _ hspares ih =>
    obtain ⟨inside, used, hsound⟩ := ih
    refine ⟨inside, used, fun party => ?_, hsound.apart⟩
    obtain ⟨hplace, hopen, hcopy, hremembered, hhouses⟩ := hsound.lodged party
    exact ⟨hplace, hopen, hcopy, hremembered, hhouses.spared hspares⟩

/-- Where the copy of the other party is overwritten, it is private still if its content is the
same as before. -/
theorem Sound.private_iff_of_overwrites (use : Party → CopyUse ρ)
    (h : shared.Sound directory inside used) {party : Party} {operation : CopyState.Operation}
    {copy : Path} {files : FileTree} {user : ρ × Option Content}
    (hmaking : (shared.view party).making? (use party).remembering operation =
      some (copy, files, user)) (hcopy : (shared.held party.other).copy = some copy) :
    (∀ other, (shared.perform use party operation).2.IsPrivate other) ↔
      ((use party).remembering.opened files copy user).1 = true ∧
        files.content? copy = (shared.user party.other).2 := by
  have hother := h.lodged party.other
  obtain ⟨name, later, remaining, hname, rfl, hafter, -, hlater⟩ :=
    (h.lodged party).perform_of_making (use party) hmaking
  -- the other party has the same name for its copy, and a content in mind
  obtain ⟨single, hused, hjoin⟩ := Option.map_eq_some_iff.mp (hother.copy.symm.trans hcopy)
  obtain ⟨content, hinside, hremembered⟩ := hother.remembered single hused
  obtain ⟨-, -, -, hsingle, -⟩ := hother.houses.has hinside
  obtain rfl := Path.join_inj hsingle.slash hname.slash hjoin
  have hopen : (shared.held party.other).isOpen = true := by
    rw [show (shared.held party.other).isOpen = _ from hother.isOpen, hused]
    rfl
  have hthere : ((shared.perform use party operation).2.files.content? (directory.join ⟨single⟩)) =
      remaining single := hafter.houses.content? hname
  have hself : (shared.perform use party operation).2.IsPrivate party := by
    have hview : (shared.perform use party operation).2.view party =
        ((shared.view party).perform (use party).remembering operation).2 := update_view_self
    exact isPrivate_of_lodged (hview ▸ hafter)
  have hheld : (shared.perform use party operation).2.held party.other =
      shared.held party.other := if_neg party.other_ne
  have huser : (shared.perform use party operation).2.user party.other =
      shared.user party.other := if_neg party.other_ne
  replace hremembered : (shared.user party.other).2 = some content := hremembered
  have hprivate : (∀ other, (shared.perform use party operation).2.IsPrivate other) ↔
      remaining single = some content := by
    refine ⟨fun hall => ?_, fun hsame other => ?_⟩
    · obtain ⟨copy, kept, hcopy', hkept, hcontent⟩ := hall party.other (hheld ▸ hopen)
      rw [hheld, hcopy] at hcopy'
      rw [huser, hremembered] at hkept
      cases hcopy'
      rw [← hthere, hcontent, hkept]
    · rcases party.eq_or other with rfl | rfl
      · exact hself
      · exact fun _ => ⟨_, content, hheld ▸ hcopy, huser ▸ hremembered, hthere.trans hsame⟩
  rw [hprivate, hremembered]
  rcases hlater with ⟨htaken, -, hcontent⟩ | ⟨hrefused, -, hnone⟩
  · simp [htaken, hcontent]
  · simp [hrefused, hnone]

/-- **Both copies are private after an operation exactly if it does not clobber the one of the other
party**, in every run in which none was overwritten before. -/
theorem Reached.private_iff (h : Reached use directory shared) (party : Party)
    (operation : CopyState.Operation) :
    (∀ other, (shared.perform use party operation).2.IsPrivate other) ↔
      ¬ shared.Clobbers use party operation := by
  obtain ⟨inside, used, hsound⟩ := h.sound
  by_cases hover : shared.Overwrites use party operation
  · obtain ⟨copy, files, user, hmaking, hcopy⟩ := hover
    rw [hsound.private_iff_of_overwrites use hmaking hcopy]
    refine ⟨?_, fun hclobbers => ?_⟩
    · rintro ⟨htaken, hcontent⟩ ⟨copy', files', user', hmaking', -, hdiffers⟩
      cases hmaking.symm.trans hmaking'
      exact hdiffers htaken hcontent
    · by_cases htaken : ((use party).remembering.opened files copy user).1 = true
      · refine ⟨htaken, ?_⟩
        by_cases hcontent : files.content? copy = (shared.user party.other).2
        · exact hcontent
        · exact absurd ⟨copy, files, user, hmaking, hcopy, fun _ => hcontent⟩ hclobbers
      · exact absurd ⟨copy, files, user, hmaking, hcopy, fun hnow => absurd hnow htaken⟩ hclobbers
  · obtain ⟨remaining, later, hlater⟩ := hsound.perform use party hover
    refine ⟨fun _ hclobbers => ?_, fun _ other => isPrivate_of_lodged (hlater.lodged other)⟩
    obtain ⟨copy, files, user, hmaking, hcopy, -⟩ := hclobbers
    exact hover ⟨copy, files, user, hmaking, hcopy⟩

/-- **Copies with different names do not get in each other's way.** -/
theorem not_overwrites_of_name {operation : CopyState.Operation}
    (h : ∀ source name, operation.target (shared.held party).source = some source →
      WorkingCopy.nameFor? source = some name →
      (shared.held party.other).copy ≠ some ((shared.held party).directory.join ⟨name⟩)) :
    ¬ shared.Overwrites use party operation := by
  rintro ⟨copy, files, user, hmaking, hcopy⟩
  obtain ⟨source, name, hsource, hname, rfl⟩ := CopyState.making?_name hmaking
  exact h source name hsource hname hcopy

/-- Sources of two parties; two of them have the same name. -/
def besideThree : FileTree where
  entries := [(["work"], .directory 0o755), (["a"], .directory 0o755), (["b"], .directory 0o755),
    (["a", "x"], .file 0o755 (.octets [1])), (["b", "x"], .file 0o755 (.octets [2])),
    (["b", "y"], .file 0o755 (.octets [3]))]
  here := []

/-- What two parties do before both have a copy in use. -/
def movingIn : List (Party × CopyState.Operation) :=
  [(.first, .setSource (some ⟨"/a/x"⟩)), (.first, .openCopy),
    (.second, .setSource (some ⟨"/b/y"⟩)), (.second, .openCopy)]

/-- Both have a copy in use. -/
def sideBySide : SharedWork CopyWitness :=
  movingIn.foldl (fun shared step => (shared.perform (fun _ => CopyWitness.use) step.1 step.2).2)
    (start ⟨"/work"⟩ besideThree fun _ => .start)

theorem sideBySide_reached : Reached (fun _ => CopyWitness.use) ⟨"/work"⟩ sideBySide := by
  have hrooted : besideThree.IsRooted := rfl
  have hroom : besideThree.room? ⟨"/work"⟩ = some ["work"] := by decide +kernel
  have hempty : ∀ names, names ≠ [] → besideThree.get? (["work"] ++ names) = none := by
    intro names hnames
    obtain ⟨name, names, rfl⟩ := List.exists_cons_of_ne_nil hnames
    rfl
  have hstart : Reached (fun _ => CopyWitness.use) ⟨"/work"⟩
      (start ⟨"/work"⟩ besideThree fun _ => CopyWitness.start) :=
    .start _ hrooted (.of_room? hrooted hroom hempty)
  exact (((hstart.performed .first (.setSource (some ⟨"/a/x"⟩)) (by decide +kernel)).performed
    .first .openCopy (by decide +kernel)).performed
    .second (.setSource (some ⟨"/b/y"⟩)) (by decide +kernel)).performed
    .second .openCopy (by decide +kernel)

/-- **A source of the same name replaces the copy that the other party has in use.** -/
theorem same_name_replaces :
    Reached (fun _ => CopyWitness.use) ⟨"/work"⟩ sideBySide ∧
      (sideBySide.held .first).isOpen = true ∧ (sideBySide.user .first).2 = some (.octets [1]) ∧
      (let after := (sideBySide.perform (fun _ => CopyWitness.use) .second
        (.setSource (some ⟨"/b/x"⟩))).2
      (after.held .first).isOpen = true ∧
        (after.held .first).copy = some ⟨"/work/locked.x"⟩ ∧
        (after.user .first).2 = some (.octets [1]) ∧
        after.files.content? ⟨"/work/locked.x"⟩ = some (.octets [2])) :=
  ⟨sideBySide_reached, by decide +kernel, by decide +kernel, by decide +kernel⟩

/-- A reload of the other's own copy does not show, but that does. -/
theorem sideBySide_private :
    Reached (fun _ => CopyWitness.use) ⟨"/work"⟩ sideBySide ∧
      (∀ other, (sideBySide.perform (fun _ => CopyWitness.use) .second .reload).2.IsPrivate other) ∧
      ¬ ∀ other, (sideBySide.perform (fun _ => CopyWitness.use) .second
        (.setSource (some ⟨"/b/x"⟩))).2.IsPrivate other := by
  refine ⟨sideBySide_reached, ?_, fun hall => ?_⟩
  · exact (sideBySide_reached.private_iff .second .reload).mpr (by decide +kernel)
  · exact (sideBySide_reached.private_iff .second (.setSource (some ⟨"/b/x"⟩))).mp hall
      (by decide +kernel)

end SharedWork

end RenderSync
