import RenderSync.Library.Call
import RenderSync.WorkingCopy

/-!
# The slot of the loaded library

A slot holds at most one instance, and what every instance has to know: the latest programs,
uniform values and object instances.  What is set while nothing is loaded is kept for the next
instance.  Programs reach an instance late, at the first drawing of each of the two passes after
they were set or the instance was loaded; the other two reach it at once.

`events` is what happened to the instances, in order.
-/

namespace RenderSync

/-- What happened to the instances of a slot. -/
inductive LibraryEvent (ι : Type) where
  /-- The loader was asked for an instance from a copy with these contents. -/
  | tried (copy : Path) (content : Content) (result : Except LibraryError ι)
  | received (call : LibraryCall)
  | dropped (loaded : ι)

/-- The place of the loaded library. -/
structure LibrarySlot (ι : Type) where
  loaded : Option ι
  programs : Option (List ShaderSource)
  /-- The programs are still to be told to the final pass. -/
  renderPending : Bool
  /-- The programs are still to be told to the viewport pass. -/
  viewportPending : Bool
  uniformValues : Option (List UniformValue)
  objectInstances : Option (List ObjectInstance)
  /-- How often a load or an unload was announced. -/
  changes : Nat
  events : List (LibraryEvent ι)

namespace LibrarySlot

variable {ι : Type}

/-- Nothing loaded, nothing known. -/
def empty : LibrarySlot ι := ⟨none, none, false, false, none, none, 0, []⟩

/-- Adds to what happened. -/
def note (slot : LibrarySlot ι) (event : LibraryEvent ι) : LibrarySlot ι :=
  { slot with events := slot.events ++ [event] }

/-- Asks the loaded library for something; nothing while none is loaded. -/
def ask (loader : LibraryLoader ι) (call : LibraryCall) (slot : LibrarySlot ι) : LibrarySlot ι :=
  match slot.loaded with
  | none => slot
  | some loaded => { slot with loaded := some (loader.receive call loaded) }.note (.received call)

/-- Tells object instances to a library that knows about them. -/
def askInstances (loader : LibraryLoader ι) (instances : List ObjectInstance)
    (slot : LibrarySlot ι) : LibrarySlot ι :=
  match slot.loaded with
  | none => slot
  | some loaded =>
    if loader.takesInstances loaded then slot.ask loader (.objectInstances instances) else slot

/-! ## 1. Loading and unloading -/

/-- The programs are to be told to both passes. -/
def markPending (slot : LibrarySlot ι) : LibrarySlot ι :=
  { slot with renderPending := slot.programs.isSome, viewportPending := slot.programs.isSome }

/-- A load or an unload is announced. -/
def announce (slot : LibrarySlot ι) : LibrarySlot ι := { slot with changes := slot.changes + 1 }

/-- Tells what is known to a fresh instance. -/
def replay (loader : LibraryLoader ι) (slot : LibrarySlot ι) : LibrarySlot ι :=
  let slot := match slot.uniformValues with
    | none => slot
    | some values => slot.ask loader (.uniformValues values)
  match slot.objectInstances with
  | none => slot
  | some instances => slot.askInstances loader instances

/-- Loads an instance from a copy. -/
def opened (loader : LibraryLoader ι) (files : FileTree) (copy : Path) (slot : LibrarySlot ι) :
    Bool × LibrarySlot ι :=
  let content := (files.content? copy).getD (.octets [])
  let result := loader.load content
  let slot := slot.note (.tried copy content result)
  match result with
  | .error _ => (false, slot)
  | .ok fresh => (true, ({ slot with loaded := some fresh }.replay loader).markPending.announce)

/-- Drops the instance. -/
def closed (slot : LibrarySlot ι) : LibrarySlot ι :=
  match slot.loaded with
  | none => slot.announce
  | some loaded => ({ slot with loaded := none }.note (.dropped loaded)).announce

/-- Working copies of libraries are loaded and unloaded. -/
def use (loader : LibraryLoader ι) : CopyUse (LibrarySlot ι) where
  opened := opened loader
  closed := fun _ slot => (true, slot.closed)

/-! ## 2. Updates -/

/-- Sets the programs. -/
def setPrograms (programs : List ShaderSource) (slot : LibrarySlot ι) : LibrarySlot ι :=
  { slot with programs := some programs }.markPending

/-- Sets the values of the uniforms. -/
def setUniformValues (loader : LibraryLoader ι) (values : List UniformValue)
    (slot : LibrarySlot ι) : LibrarySlot ι :=
  { slot.ask loader (.uniformValues values) with uniformValues := some values }

/-- Sets the object instances. -/
def setObjectInstances (loader : LibraryLoader ι) (instances : List ObjectInstance)
    (slot : LibrarySlot ι) : LibrarySlot ι :=
  { slot.askInstances loader instances with objectInstances := some instances }

/-! ## 3. Passes -/

/-- Tells the programs, if there are any. -/
def tellPrograms (loader : LibraryLoader ι) (slot : LibrarySlot ι) : LibrarySlot ι :=
  match slot.programs with
  | none => slot
  | some programs => slot.ask loader (.programs programs)

/-- Updates the final pass. -/
def update (loader : LibraryLoader ι) (width height : UInt32) (preview : Bool)
    (slot : LibrarySlot ι) : LibrarySlot ι :=
  slot.ask loader (.update width height preview)

/-- Tells pending programs to the final pass. -/
def settleRender (loader : LibraryLoader ι) (slot : LibrarySlot ι) : LibrarySlot ι :=
  if slot.renderPending then { slot.tellPrograms loader with renderPending := false } else slot

/-- Renders a frame; `none` while nothing is loaded. -/
def render (loader : LibraryLoader ι) (width height : UInt32) (preview : Bool)
    (slot : LibrarySlot ι) : Option Frame × LibrarySlot ι :=
  if slot.loaded.isNone then (none, slot)
  else
    let blank := Frame.empty width height
    let slot := (slot.ask loader (.setUp width height)).settleRender loader
    let slot := slot.ask loader (.render width height preview blank.size)
    (slot.loaded.map fun loaded => loader.draw width height preview loaded blank, slot)

/-- Updates the viewport pass. -/
def viewportUpdate (loader : LibraryLoader ι) (width height : UInt32) (slot : LibrarySlot ι) :
    LibrarySlot ι :=
  slot.ask loader (.viewportUpdate width height)

/-- Tells pending programs to the viewport pass. -/
def settleViewport (loader : LibraryLoader ι) (slot : LibrarySlot ι) : LibrarySlot ι :=
  if slot.viewportPending then { slot.tellPrograms loader with viewportPending := false } else slot

/-- Draws the viewport; answers whether anything was drawn. -/
def viewportRender (loader : LibraryLoader ι) (width height : UInt32) (slot : LibrarySlot ι) :
    Bool × LibrarySlot ι :=
  if slot.loaded.isNone then (false, slot)
  else
    let slot := (slot.ask loader (.viewportSetUp width height)).settleViewport loader
    (true, slot.ask loader (.viewportRender width height))

end LibrarySlot

end RenderSync
