import Mathlib.Data.List.Induction
import RenderSync.Proofs.Runs

/-!
# From shader sets to the values of uniforms

Values are handed on by place, so that a value too many or too few would shift all that follow.  The
active uniforms of a set and the values of them are lists of the same length in the same order
(`ShaderSet.values_descriptors`), and the value at a place is made of the name of the uniform there
and of its first annotation of a known kind (`UniformValue.annotated`).  Which set that is depends
on the last one for the library alone (`Engine.handleAll_stores`).

The bounds of a slider come from a text that nobody checks.  A clamp fails when its bounds are no
numbers or out of order (`Single.clamp?`); it is asked only where they are neither, so that values
made with such a clamp are made all the same (`UniformSource.guarded?_eq`).
-/

namespace RenderSync

open BinaryFloat

/-! ## 1. Bounds -/

namespace BinaryFloat.Single

/-- `clamp` for bounds that anybody may have chosen: it fails unless they are numbers and in
order. -/
def clamp? (value low high : Single) : Option Single :=
  if low.isNaN || high.isNaN || high.lt low then none else some (value.clamp low high)

/-- **Bounds are compared well exactly if they are numbers and in order.** -/
theorem le_iff {low high : Single} :
    low.le high = true ↔ low.isNaN = false ∧ high.isNaN = false ∧ high.lt low = false := by
  unfold le lt isNaN Format.le Format.lt
  cases hlow : single.isNaN low.pattern with
  | true => simp
  | false =>
    cases hhigh : single.isNaN high.pattern with
    | true => simp
    | false => simp

theorem clamp?_of_le {low high : Single} (h : low.le high = true) (value : Single) :
    value.clamp? low high = some (value.clamp low high) := by
  obtain ⟨hlow, hhigh, horder⟩ := le_iff.mp h
  rw [clamp?, hlow, hhigh, horder]
  rfl

end BinaryFloat.Single

namespace UniformSource

/-- The value that a source gives, if no clamp fails on the way. -/
def guarded? (name : String) (context : FrameContext) (controls : Controls) :
    UniformSource → Option UniformValue
  | slider default low high =>
    let chosen := (controls.slider name).getD default
    (if low.le high then chosen.clamp? low high else some chosen).map .scalar
  | source => some (source.value name context controls)

/-- **No clamp fails**, whatever the bounds of a slider are. -/
theorem guarded?_eq (name : String) (context : FrameContext) (controls : Controls)
    (source : UniformSource) :
    source.guarded? name context controls = some (source.value name context controls) := by
  cases source with
  | slider default low high =>
    simp only [guarded?, value, clamped]
    split
    · next hle => rw [Single.clamp?_of_le hle, Option.map_some]
    · rfl
  | _ => rfl

end UniformSource

/-- The value of a uniform, if no clamp fails. -/
def UniformDescriptor.guarded? (descriptor : UniformDescriptor) (context : FrameContext)
    (controls : Controls) : Option UniformValue :=
  match descriptor.sources with
  | [] => some .zero
  | source :: _ => source.guarded? descriptor.name context controls

/-- The values of all uniforms, if no clamp fails. -/
def Uniforms.guarded? (uniforms : Uniforms) (context : FrameContext) (controls : Controls) :
    Option (List UniformValue) :=
  uniforms.descriptors.mapM fun descriptor => descriptor.guarded? context controls

theorem Uniforms.guarded?_eq (uniforms : Uniforms) (context : FrameContext)
    (controls : Controls) :
    uniforms.guarded? context controls = some (uniforms.values context controls) := by
  have hvalue (descriptor : UniformDescriptor) : descriptor.guarded? context controls =
      some (descriptor.value context controls) := by
    rw [UniformDescriptor.guarded?, UniformDescriptor.value]
    cases descriptor.sources with
    | nil => rfl
    | cons source rest => exact source.guarded?_eq descriptor.name context controls
  rw [guarded?, funext hvalue]
  exact List.mapM_pure

/-! ## 2. Annotations -/

namespace Annotation

/-- Its kind is known: a control that users can be shown, or a property of the frame. -/
def isKnown : Annotation → Bool
  | control kind _ => kind = "checkbox" || kind = "slider" || kind = "object"
  | _ => true

/-- An annotation names a source exactly if its kind is known. -/
theorem ofAnnotation?_isSome (first : Annotation) :
    (UniformSource.ofAnnotation? first).isSome = first.isKnown := by
  cases first with
  | control kind parameters =>
    unfold UniformSource.ofAnnotation? UniformSource.ofControl? isKnown
    dsimp only
    split
    · rfl
    · rfl
    · rfl
    · next hcheckbox hslider hobject => simpa using ⟨⟨hcheckbox, hslider⟩, hobject⟩
  | _ => rfl

/-- The first source among annotations is the one that the first known annotation names. -/
theorem findSome?_ofAnnotation? (annotations : List Annotation) :
    annotations.findSome? UniformSource.ofAnnotation? =
      (annotations.find? isKnown).bind UniformSource.ofAnnotation? := by
  induction annotations with
  | nil => rfl
  | cons first rest ih =>
    have hknown := ofAnnotation?_isSome first
    rw [List.findSome?_cons, List.find?_cons, ← hknown]
    cases hsource : UniformSource.ofAnnotation? first with
    | none => exact ih
    | some source => exact hsource.symm

end Annotation

/-- The value of the uniform of a name, from an annotation; zero without one. -/
def UniformValue.annotated (name : String) (context : FrameContext) (controls : Controls)
    (first? : Option Annotation) : UniformValue :=
  match first?.bind UniformSource.ofAnnotation? with
  | none => .zero
  | some source => source.value name context controls

/-! ## 3. Shader sets -/

namespace ShaderVariable

/-- The annotations of a uniform; other variables have none. -/
def annotations (variable_ : ShaderVariable) : List Annotation :=
  match variable_.kind with
  | .uniform annotations => annotations
  | _ => []

/-- The variable is a uniform, and in use. -/
def isActiveUniform (variable_ : ShaderVariable) : Bool :=
  variable_.active && match variable_.kind with
    | .uniform _ => true
    | _ => false

/-- The descriptor of an active uniform. -/
def descriptor (variable_ : ShaderVariable) : UniformDescriptor :=
  ⟨variable_.name, variable_.typeName,
    variable_.annotations.filterMap UniformSource.ofAnnotation?⟩

theorem ofVariable?_eq (variable_ : ShaderVariable) :
    UniformDescriptor.ofVariable? variable_ =
      if variable_.isActiveUniform then some variable_.descriptor else none := by
  obtain ⟨kind, name, typeName, active, length, minifiedName⟩ := variable_
  cases kind with
  | uniform annotations => cases active <;> rfl
  | const value => cases active <;> rfl
  | regular => cases active <;> rfl

/-- **The value of a uniform depends on its name and its first known annotation.** -/
theorem value_descriptor (variable_ : ShaderVariable) (context : FrameContext)
    (controls : Controls) :
    variable_.descriptor.value context controls =
      .annotated variable_.name context controls
        (variable_.annotations.find? Annotation.isKnown) := by
  rw [UniformValue.annotated, ← Annotation.findSome?_ofAnnotation?, ← List.head?_filterMap,
    UniformDescriptor.value, descriptor]
  cases variable_.annotations.filterMap UniformSource.ofAnnotation? <;> rfl

end ShaderVariable

namespace ShaderSet

/-- The active uniforms, in the order in which they are declared. -/
def activeUniforms (set : ShaderSet) : List ShaderVariable :=
  set.declared.filter ShaderVariable.isActiveUniform

/-- The descriptors of the active uniforms. -/
def descriptors (set : ShaderSet) : List UniformDescriptor :=
  set.activeUniforms.map ShaderVariable.descriptor

/-- The values of the active uniforms, one each. -/
def uniformValues (set : ShaderSet) (context : FrameContext) (controls : Controls) :
    List UniformValue :=
  set.activeUniforms.map fun uniform =>
    .annotated uniform.name context controls (uniform.annotations.find? Annotation.isKnown)

theorem apply_descriptors (set : ShaderSet) (uniforms : Uniforms) :
    (uniforms.apply set.declared).descriptors = set.descriptors := by
  rw [Uniforms.apply, funext ShaderVariable.ofVariable?_eq, descriptors, activeUniforms,
    ← List.filterMap_eq_map, List.filterMap_filter]
  rfl

/-- **There is one value for each active uniform, at its place.** -/
theorem values_descriptors (set : ShaderSet) (context : FrameContext) (controls : Controls) :
    set.descriptors.map (fun descriptor => descriptor.value context controls) =
      set.uniformValues context controls := by
  rw [descriptors, List.map_map, uniformValues]
  exact List.map_congr_left fun uniform _ => uniform.value_descriptor context controls

end ShaderSet

/-! ## 4. Engines -/

/-- The set that an event brings, if it is one for the library. -/
def Event.librarySet? : Event → Option ShaderSet
  | .shaderSetProvided set => if set.target = .library then some set else none
  | _ => none

/-- The set that the last event with one for the library brings. -/
def Event.lastLibrarySet? (events : List (Moment × Event)) : Option ShaderSet :=
  (events.filterMap fun event => event.2.librarySet?).getLast?

namespace Engine

variable {ι : Type}

/-- Handles events, each at its moment. -/
def handleAll (events : List (Moment × Event)) (engine : Engine ι) : Engine ι :=
  events.foldl (fun engine event => (engine.handle event.1 event.2).2) engine

/-- The programs that are kept for the library. -/
def programs (engine : Engine ι) : Option (List ShaderSource) :=
  engine.resources.library.slot.programs

/-- Notices and builds are no uniforms. -/
theorem uniforms_of_notices (engine : Engine ι) (notifications : Notifications)
    (spans : BuildSpans) :
    { engine with notifications := notifications, spans := spans }.uniforms = engine.uniforms :=
  rfl

theorem tell_uniforms (now : Moment) (message : String) (engine : Engine ι) :
    (engine.tell now message).2.uniforms = engine.uniforms :=
  uniforms_of_notices engine (engine.notifications.addTimed now message).2 engine.spans

theorem buildStarted_uniforms (now : Moment) (target : BuildTarget) (engine : Engine ι) :
    (engine.buildStarted now target).uniforms = engine.uniforms :=
  uniforms_of_notices engine (engine.spans.started now target engine.notifications).2
    (engine.spans.started now target engine.notifications).1

theorem buildEnded_uniforms (target : BuildTarget) (engine : Engine ι) :
    (engine.buildEnded target).uniforms = engine.uniforms :=
  uniforms_of_notices engine (engine.spans.ended target engine.notifications).2.2
    (engine.spans.ended target engine.notifications).2.1

/-- **An event with a set for the library replaces programs and descriptors**, and any other event
leaves both alone. -/
theorem handle_provides (now : Moment) (event : Event) (engine : Engine ι) :
    (engine.handle now event).2.programs =
        (event.librarySet?.map ShaderSet.sources).or engine.programs ∧
      (engine.handle now event).2.uniforms.descriptors =
        (event.librarySet?.map ShaderSet.descriptors).getD engine.uniforms.descriptors := by
  have hkept {next : Engine ι} (hresources : next.resources = engine.resources)
      (huniforms : next.uniforms = engine.uniforms) : next.programs = engine.programs ∧
        next.uniforms.descriptors = engine.uniforms.descriptors := by
    rw [programs, hresources, huniforms]
    exact ⟨rfl, rfl⟩
  cases event with
  | buildStarted target =>
    exact hkept (buildStarted_resources now target engine) (buildStarted_uniforms now target engine)
  | buildEnded target successful duration =>
    cases successful with
    | true => exact hkept (buildEnded_resources target engine) (buildEnded_uniforms target engine)
    | false =>
      refine hkept ?_ ?_
      · exact (tell_resources now _ _).trans (buildEnded_resources target engine)
      · exact (tell_uniforms now _ _).trans (buildEnded_uniforms target engine)
  | libraryCompiled path => exact hkept rfl rfl
  | executableCompiled path size =>
    exact hkept (tell_resources now _ engine) (tell_uniforms now _ engine)
  | exported path => exact hkept (tell_resources now _ engine) (tell_uniforms now _ engine)
  | runFinished duration => exact hkept rfl rfl
  | error message => exact hkept rfl rfl
  | shaderSetProvided set =>
    unfold Engine.handle Engine.shaderSetProvided Event.librarySet?
    dsimp only
    cases htarget : set.target with
    | executable => exact hkept rfl rfl
    | library => exact ⟨rfl, set.apply_descriptors engine.uniforms⟩

theorem handleAll_concat (events : List (Moment × Event)) (last : Moment × Event)
    (engine : Engine ι) :
    engine.handleAll (events ++ [last]) = ((engine.handleAll events).handle last.1 last.2).2 :=
  List.foldl_append

theorem lastLibrarySet?_concat (events : List (Moment × Event)) (last : Moment × Event) :
    Event.lastLibrarySet? (events ++ [last]) =
      last.2.librarySet?.or (Event.lastLibrarySet? events) := by
  rw [Event.lastLibrarySet?, List.filterMap_append, List.getLast?_append, Event.lastLibrarySet?]
  cases hset : last.2.librarySet? <;> simp [hset]

/-- **Programs and descriptors are those of the last set for the library**, or what they were where
there was none. -/
theorem handleAll_stores (engine : Engine ι) (events : List (Moment × Event)) :
    (engine.handleAll events).programs =
        ((Event.lastLibrarySet? events).map ShaderSet.sources).or engine.programs ∧
      (engine.handleAll events).uniforms.descriptors =
        ((Event.lastLibrarySet? events).map ShaderSet.descriptors).getD
          engine.uniforms.descriptors := by
  induction events using List.reverseRecOn with
  | nil => exact ⟨rfl, rfl⟩
  | append_singleton earlier last ih =>
    obtain ⟨hprograms, hdescriptors⟩ := handle_provides last.1 last.2 (engine.handleAll earlier)
    rw [handleAll_concat, lastLibrarySet?_concat, hprograms, hdescriptors, ih.1, ih.2]
    cases last.2.librarySet? <;> exact ⟨rfl, rfl⟩

/-- **What events make of the uniforms.**  The programs and the descriptors are those of the last
set for the library; there is one value for each active uniform of that set, at its place, made of
the name and the first known annotation; and no value is clamped to bounds that are no numbers or
out of order. -/
theorem handleAll_provides (engine : Engine ι) (events : List (Moment × Event)) :
    let after := engine.handleAll events
    let last? := Event.lastLibrarySet? events
    after.programs = (last?.map ShaderSet.sources).or engine.programs ∧
      after.uniforms.descriptors =
        (last?.map ShaderSet.descriptors).getD engine.uniforms.descriptors ∧
      ∀ (context : FrameContext) (controls : Controls),
        after.uniforms.values context controls =
          (last?.map fun set => set.uniformValues context controls).getD
            (engine.uniforms.values context controls) ∧
        after.uniforms.guarded? context controls =
          some (after.uniforms.values context controls) := by
  obtain ⟨hprograms, hdescriptors⟩ := engine.handleAll_stores events
  refine ⟨hprograms, hdescriptors, fun context controls => ⟨?_, ?_⟩⟩
  · rw [Uniforms.values, hdescriptors]
    cases Event.lastLibrarySet? events with
    | none => rfl
    | some set => exact set.values_descriptors context controls
  · exact Uniforms.guarded?_eq _ context controls

end Engine

end RenderSync
