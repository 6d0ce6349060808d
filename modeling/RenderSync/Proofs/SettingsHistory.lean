import Mathlib.Data.List.Induction
import RenderSync.Settings.Basic

/-!
# Settings, one after the other

Settings are applied to the same desired state whenever they change.  They leave things behind: a
custom path stays in the desired state after settings that do not use it (`applyAll_customCliPath`),
and the first library path stays for good (`applyAll_libraryPath`).

None of what was left behind gets into the effective configuration.  A custom path is looked at only
in the location in which settings write it, so that after settings the configuration is the one
that they describe (`config_applyTo`), from whatever desired state.
-/

namespace RenderSync

namespace Settings

/-- The configuration that settings describe: a custom path counts only where it is used. -/
def config (settings : Settings) : ServerConfig where
  ip := settings.server.ip
  port := settings.server.port
  location := settings.server.location
  customCliPath :=
    if settings.server.location = .customCli then settings.server.customCliPath else none

/-- Settings applied to a desired state in turn, oldest first. -/
def applyAll (history : List Settings) (desired : DesiredState) : DesiredState :=
  history.foldl (fun desired settings => settings.applyTo desired) desired

/-- The settings write a custom path. -/
def usesCustomCli (settings : Settings) : Bool := settings.server.location = .customCli

/-! ## 1. One change of the settings -/

/-- **After settings the effective configuration is the one that they describe.**  A path that was
there before stays only in a location that does not look at it. -/
theorem config_applyTo (settings : Settings) (desired : DesiredState) :
    (settings.applyTo desired).server.config = settings.config := by
  unfold applyTo ServerDesired.config config
  cases settings.server.location <;> rfl

/-- A library path stays, and is taken where there is none. -/
theorem applyTo_libraryPath (settings : Settings) (desired : DesiredState) :
    (settings.applyTo desired).library.path = desired.library.path.or settings.libraryPath := by
  rw [applyTo]
  cases desired.library.path <;> rfl

theorem applyTo_customCliPath (settings : Settings) (desired : DesiredState) :
    (settings.applyTo desired).server.customCliPath =
      if settings.usesCustomCli then settings.server.customCliPath
      else desired.server.customCliPath := by
  simp only [applyTo, usesCustomCli, decide_eq_true_eq]

/-! ## 2. Settings in turn -/

theorem applyAll_concat (earlier : List Settings) (last : Settings) (desired : DesiredState) :
    applyAll (earlier ++ [last]) desired = last.applyTo (applyAll earlier desired) :=
  List.foldl_append

/-- **The first library path that is there stays**, the one of the desired state before all. -/
theorem applyAll_libraryPath (history : List Settings) : ∀ desired : DesiredState,
    (applyAll history desired).library.path =
      desired.library.path.or (history.findSome? Settings.libraryPath) := by
  induction history with
  | nil => exact fun desired => (Option.or_none).symm
  | cons first rest ih =>
    intro desired
    rw [applyAll, List.foldl_cons, ← applyAll, ih, applyTo_libraryPath, Option.or_assoc,
      List.findSome?_cons]
    cases first.libraryPath <;> rfl

/-- **The custom path that stays is the one of the last settings that use one**, whether it is in
effect or not. -/
theorem applyAll_customCliPath (history : List Settings) (desired : DesiredState) :
    (applyAll history desired).server.customCliPath =
      ((history.filter usesCustomCli).getLast?.map (·.server.customCliPath)).getD
        desired.server.customCliPath := by
  induction history using List.reverseRecOn with
  | nil => rfl
  | append_singleton earlier last ih =>
    rw [applyAll_concat, applyTo_customCliPath, List.filter_append]
    cases hlast : last.usesCustomCli with
    | true => simp [hlast]
    | false => simpa [hlast] using ih

/-- Settings load and connect nothing, and unload and disconnect nothing. -/
theorem applyAll_wishes (history : List Settings) (desired : DesiredState) :
    (applyAll history desired).library.loaded = desired.library.loaded ∧
      (applyAll history desired).server.connected = desired.server.connected := by
  induction history using List.reverseRecOn with
  | nil => exact ⟨rfl, rfl⟩
  | append_singleton earlier last ih =>
    rw [applyAll_concat]
    exact ih

/-- **What settings in turn amount to.**  The effective configuration is the one that the last of
them describe, whatever came before; the library path is the first one that is there; and whether to
load and to connect is as it was. -/
theorem applyAll_amounts_to (desired : DesiredState) (earlier : List Settings) (last : Settings) :
    let after := applyAll (earlier ++ [last]) desired
    after.server.config = last.config ∧
      (∀ (before : List Settings) (other : DesiredState),
        (applyAll (before ++ [last]) other).server.config = after.server.config) ∧
      after.library.path =
        desired.library.path.or ((earlier ++ [last]).findSome? Settings.libraryPath) ∧
      after.library.loaded = desired.library.loaded ∧
      after.server.connected = desired.server.connected := by
  have hconfig (before : List Settings) (other : DesiredState) :
      (applyAll (before ++ [last]) other).server.config = last.config := by
    rw [applyAll_concat, config_applyTo]
  refine ⟨hconfig earlier desired, fun before other => ?_, applyAll_libraryPath _ desired,
    applyAll_wishes _ desired⟩
  rw [hconfig, hconfig]

/-- A path of settings that came before stays, and is not in effect. -/
example :
    let custom : Settings := { Settings.default with
      server := { defaultServer with location := .customCli, customCliPath := some ⟨"/bin/cli"⟩ } }
    let after := applyAll [custom, .default] .default
    after.server.customCliPath = some ⟨"/bin/cli"⟩ ∧ after.server.config.customCliPath = none := by
  decide

end Settings

end RenderSync
