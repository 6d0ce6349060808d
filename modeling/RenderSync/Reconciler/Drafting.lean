import RenderSync.Reconciler.Basic

/-!
# Drafts

A draft is a copy of the desired state that is edited by itself and then committed: it takes the
place of the desired state, whatever has become of that meanwhile.  Drafts go by names and each
name has at most one; a draft that is given up is committed, too, so no edit is ever lost.

An edit that comes as a value is an object: each field names one part of the desired state by its
way down to it, and says what it shall be.  The fields count in their order, so the last one of a
name does; a name that is none changes nothing.
-/

namespace RenderSync

/-! ## 1. Edits -/

namespace DesiredState

/-- The location that a value names, or else the usual one. -/
def locationOf (value : Json) : ServerLocation :=
  (Json.choice? ServerLocation.names false value).getD .builtInCli

/-- Changes the part of a name. -/
def setPart (desired : DesiredState) (name : String) (value : Json) : DesiredState :=
  let path := value.string?.map Path.mk
  let yes := value == .bool true
  match name with
  | "library.loaded" => { desired with library.loaded := yes }
  | "library.path" => { desired with library.path := path }
  | "server.connected" => { desired with server.connected := yes }
  | "server.ip" => { desired with server.ip := value.string?.getD "" }
  | "server.port" => { desired with server.port := (Json.word16? value).getD 0 }
  | "server.location" => { desired with server.location := locationOf value }
  | "server.custom_cli_path" => { desired with server.customCliPath := path }
  | _ => desired

/-- Makes the changes of an edit. -/
def edit (changes : Json) (desired : DesiredState) : DesiredState :=
  match changes with
  | .object fields => fields.foldl (fun desired (name, value) => desired.setPart name value) desired
  | _ => desired

end DesiredState

/-! ## 2. Open drafts -/

/-- A reconciler, what it acts on, and the drafts that are open. -/
structure Drafting (σ : Type) where
  reconciler : Reconciler
  state : σ
  drafts : List (String × DesiredState)

namespace Drafting

variable {σ : Type}

/-- No draft yet. -/
def start (desired : DesiredState) (state : σ) : Drafting σ := ⟨.start desired, state, []⟩

/-- The result of a pass that was made. -/
abbrev Outcome := Option (Except ReconcileError Unit)

/-- Does something that ends with a pass. -/
def pass (made : Reconciler → σ → Except ReconcileError Unit × Reconciler × σ)
    (drafting : Drafting σ) : Except ReconcileError Unit × Drafting σ :=
  let (result, reconciler, state) := made drafting.reconciler drafting.state
  (result, { drafting with reconciler, state })

/-- Commits the draft of a name; no pass without one. -/
def commit (controls : ResourceControls σ) (now : Moment) (name : String)
    (drafting : Drafting σ) : Outcome × Drafting σ :=
  match drafting.drafts.lookup name with
  | none => (none, drafting)
  | some draft =>
    let (result, drafting) := drafting.pass (Reconciler.commit controls now draft)
    (some result, { drafting with drafts := drafting.drafts.filter (·.1 != name) })

/-- Opens a draft of what is desired now; one that was open under that name is committed after the
copy was made. -/
def openDraft (controls : ResourceControls σ) (now : Moment) (name : String)
    (drafting : Drafting σ) : Drafting σ :=
  let draft := drafting.reconciler.draft
  let (_, drafting) := drafting.commit controls now name
  { drafting with drafts := (name, draft) :: drafting.drafts }

/-- Edits the draft of a name; answers the draft. -/
def edit (change : DesiredState → DesiredState) (name : String) (drafting : Drafting σ) :
    DesiredState × Drafting σ :=
  let draft := change ((drafting.drafts.lookup name).getD drafting.reconciler.draft)
  (draft,
    { drafting with drafts := (name, draft) :: drafting.drafts.filter (·.1 != name) })

/-- The names of the open drafts, sorted. -/
def names (drafting : Drafting σ) : List String :=
  (drafting.drafts.map Prod.fst).mergeSort fun a b => a ≤ b

/-- Gives all drafts up, in the order of their names. -/
def finish (controls : ResourceControls σ) (now : Moment) (drafting : Drafting σ) : Drafting σ :=
  drafting.names.foldl (fun drafting name => (drafting.commit controls now name).2) drafting

end Drafting

end RenderSync
