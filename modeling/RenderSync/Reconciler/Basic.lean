import RenderSync.Failure
import RenderSync.Notifications
import RenderSync.Settings.Basic

/-!
# Reconciliation

A pass takes a snapshot of the desired state and brings what is in effect towards it: the server
first, then the library, and it stops at the first failure.  What a resource says of itself
changes only with a transition that succeeded completely, so a failed pass leaves the last state
that was good.

The resources are a state of any type and the operations on it (`Controls`), and every operation
is a function from the state before to the state after.  Passes never overlap; edits of the
desired state may come between them, and a pass is planned for each, so the last pass has seen
the last edit.
-/

namespace RenderSync

/-- The library and the server as a pass sees them: operations on a state. -/
structure ResourceControls (σ : Type) where
  library : σ → LibraryCurrent
  setPath : Option Path → σ → Bool × σ
  load : σ → Bool × σ
  unload : σ → Bool × σ
  server : σ → ServerCurrent
  connect : ServerConfig → σ → Except ServerError Unit × σ
  disconnect : σ → σ

namespace ResourceControls

variable {σ : Type}

/-- What is in effect. -/
def current (controls : ResourceControls σ) (state : σ) : CurrentState :=
  ⟨controls.library state, controls.server state⟩

/-! ## 1. The server -/

/-- The connection has to go before anything else: it is not wanted, or not like this. -/
def mustDrop (current : ServerCurrent) (wanted : ServerDesired) : Bool :=
  current.connected && (!wanted.connected || !current.applies wanted.config)

/-- Brings the server towards what is wanted.  Where no connection is wanted the server is told
to disconnect in any case: a process may be left over from a connection that failed. -/
def matchServer (controls : ResourceControls σ) (wanted : ServerDesired) (state : σ) :
    Except ReconcileError Unit × σ :=
  let state :=
    if mustDrop (controls.server state) wanted then controls.disconnect state else state
  if !wanted.connected then (.ok (), controls.disconnect state)
  else if (controls.server state).connected then (.ok (), state)
  else
    match controls.connect wanted.config state with
    | (.ok (), state) => (.ok (), state)
    | (.error e, state) => (.error (.server e), state)

/-! ## 2. The library -/

/-- Unloads a library that is not wanted. -/
def matchUnloaded (controls : ResourceControls σ) (wanted : LibraryDesired) (state : σ) :
    Except ReconcileError Unit × σ :=
  if !wanted.loaded && (controls.library state).loaded then
    match controls.unload state with
    | (true, state) => (.ok (), state)
    | (false, state) => (.error .libraryUnload, state)
  else (.ok (), state)

/-- Points the library to the path that is wanted. -/
def matchPath (controls : ResourceControls σ) (wanted : LibraryDesired) (state : σ) :
    Except ReconcileError Unit × σ :=
  if Path.sameOption (controls.library state).path wanted.path then (.ok (), state)
  else
    match controls.setPath wanted.path state with
    | (true, state) => (.ok (), state)
    | (false, state) => (.error (.libraryLoad (wanted.path.getD ⟨""⟩)), state)

/-- Loads a library that is wanted, unless its path is still to come. -/
def matchLoaded (controls : ResourceControls σ) (wanted : LibraryDesired) (state : σ) :
    Except ReconcileError Unit × σ :=
  match wanted.path with
  | none => (.ok (), state)
  | some path =>
    if wanted.loaded && !(controls.library state).loaded then
      match controls.load state with
      | (true, state) => (.ok (), state)
      | (false, state) => (.error (.libraryLoad path), state)
    else (.ok (), state)

/-- One step after the other, until one fails. -/
def inTurn {ε : Type} (first second : σ → Except ε Unit × σ) (state : σ) : Except ε Unit × σ :=
  match first state with
  | (.ok (), state) => second state
  | (.error e, state) => (.error e, state)

/-- Brings the library towards what is wanted. -/
def matchLibrary (controls : ResourceControls σ) (wanted : LibraryDesired) :
    σ → Except ReconcileError Unit × σ :=
  inTurn (controls.matchUnloaded wanted)
    (inTurn (controls.matchPath wanted) (controls.matchLoaded wanted))

/-- Brings everything towards what is wanted. -/
def matchAll (controls : ResourceControls σ) (desired : DesiredState) :
    σ → Except ReconcileError Unit × σ :=
  inTurn (controls.matchServer desired.server) (controls.matchLibrary desired.library)

end ResourceControls

/-! ## 3. Passes -/

/-- How the passes went so far. -/
structure ReconcileStatus where
  passes : UInt64
  converged : Bool
  lastSuccess : Option Moment
  lastFailure : Option Moment
  /-- The message of the last failure; it outlives later successes. -/
  lastError : Option String
deriving DecidableEq, Repr, Inhabited

namespace ReconcileStatus

/-- No pass yet. -/
def none : ReconcileStatus := ⟨0, false, .none, .none, .none⟩

/-- A status as a value, with moments as `moment` has them. -/
def toJson (moment : Option Moment → Json) (status : ReconcileStatus) : Json :=
  .object [("passes", Json.nat status.passes.toNat), ("converged", .bool status.converged),
    ("last_success", moment status.lastSuccess), ("last_failure", moment status.lastFailure),
    ("last_error", Json.ofOption .string status.lastError)]

/-- The status after a pass that ended at `now` with `result`, where `matching` says whether what
is in effect is what was desired. -/
def after (status : ReconcileStatus) (now : Moment) (result : Except ReconcileError Unit)
    (matching : Bool) : ReconcileStatus :=
  match result with
  | .ok () =>
    { status with passes := status.passes + 1, lastSuccess := some now, converged := matching }
  | .error e =>
    { status with
      passes := status.passes + 1
      lastFailure := some now
      lastError := some e.message
      converged := false }

end ReconcileStatus

/-- What is desired, and how bringing it about went. -/
structure Reconciler where
  desired : DesiredState
  /-- The exit has begun: settings do not count any more. -/
  isExiting : Bool
  status : ReconcileStatus
deriving DecidableEq, Repr, Inhabited

namespace Reconciler

variable {σ : Type}

/-- Nothing done yet. -/
def start (desired : DesiredState) : Reconciler := ⟨desired, false, .none⟩

/-- Everything is as desired. -/
def isConverged (reconciler : Reconciler) (controls : ResourceControls σ) (state : σ) : Bool :=
  (controls.current state).meets reconciler.desired

/-- What is desired, what is in effect and how it went, as a value. -/
def report (controls : ResourceControls σ) (moment : Option Moment → Json)
    (reconciler : Reconciler) (state : σ) : List (String × Json) :=
  [("desired", reconciler.desired.toJson), ("current", (controls.current state).toJson),
    ("converged", .bool (reconciler.isConverged controls state)),
    ("exiting", .bool reconciler.isExiting), ("status", reconciler.status.toJson moment)]

/-- One pass. -/
def reconcile (controls : ResourceControls σ) (now : Moment) (reconciler : Reconciler)
    (state : σ) : Except ReconcileError Unit × Reconciler × σ :=
  let (result, state) := controls.matchAll reconciler.desired state
  let matching := (controls.current state).meets reconciler.desired
  (result, { reconciler with status := reconciler.status.after now result matching }, state)

/-- Edits the desired state; a pass has to follow. -/
def mutate (edit : DesiredState → DesiredState) (reconciler : Reconciler) : Reconciler :=
  { reconciler with desired := edit reconciler.desired }

/-- Edits the desired state and makes a pass. -/
def apply (controls : ResourceControls σ) (now : Moment) (edit : DesiredState → DesiredState)
    (reconciler : Reconciler) (state : σ) : Except ReconcileError Unit × Reconciler × σ :=
  (reconciler.mutate edit).reconcile controls now state

/-- A copy of the desired state, to be edited and committed later. -/
def draft (reconciler : Reconciler) : DesiredState := reconciler.desired

/-- Puts a draft in place of the desired state, whatever has become of that, and makes a pass. -/
def commit (controls : ResourceControls σ) (now : Moment) (draft : DesiredState)
    (reconciler : Reconciler) (state : σ) : Except ReconcileError Unit × Reconciler × σ :=
  reconciler.apply controls now (fun _ => draft) state

/-- Copies preferences into the desired state and makes a pass; nothing once the exit has
begun. -/
def applySettings (controls : ResourceControls σ) (now : Moment) (settings : Settings)
    (reconciler : Reconciler) (state : σ) : Except ReconcileError Unit × Reconciler × σ :=
  if reconciler.isExiting then (.ok (), reconciler, state)
  else reconciler.apply controls now settings.applyTo state

/-- The exit begins. -/
def setExiting (reconciler : Reconciler) : Reconciler := { reconciler with isExiting := true }

/-- Neither library nor connection is wanted. -/
def atRest (desired : DesiredState) : DesiredState :=
  { desired with
    library := { desired.library with loaded := false }
    server := { desired.server with connected := false } }

/-- Exit: unloads the library and disconnects. -/
def shutdown (controls : ResourceControls σ) (now : Moment) (reconciler : Reconciler)
    (state : σ) : Except ReconcileError Unit × Reconciler × σ :=
  reconciler.setExiting.apply controls now atRest state

end Reconciler

end RenderSync
