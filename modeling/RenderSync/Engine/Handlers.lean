import RenderSync.Engine.Basic

/-!
# Reactions to events

What an engine does when the server reports something.  A handler goes on unless a notification
has a lifetime that leads beyond the end of the clock.
-/

namespace RenderSync.Engine

variable {ι : Type}

/-- Adds a passing notification; answers whether the clock can hold its end. -/
def tell (now : Moment) (message : String) (engine : Engine ι) : Bool × Engine ι :=
  let added := engine.notifications.addTimed now message
  (added.1.isSome, { engine with notifications := added.2 })

/-- A build has started. -/
def buildStarted (now : Moment) (target : BuildTarget) (engine : Engine ι) : Engine ι :=
  let started := engine.spans.started now target engine.notifications
  { engine with spans := started.1, notifications := started.2 }

/-- A build has ended. -/
def buildEnded (target : BuildTarget) (engine : Engine ι) : Engine ι :=
  let ended := engine.spans.ended target engine.notifications
  { engine with spans := ended.2.1, notifications := ended.2.2 }

/-- The shaders of a target are known; only those of the library matter. -/
def shaderSetProvided (set : ShaderSet) (engine : Engine ι) : Engine ι :=
  match set.target with
  | .executable => engine
  | .library =>
    { engine with
      resources := { engine.resources with
        library := engine.resources.library.mapSlot (LibrarySlot.setPrograms set.sources) }
      uniforms := engine.uniforms.apply set.declared }

/-- Points the desired state to a library. -/
def wantLibraryAt (path : String) (desired : DesiredState) : DesiredState :=
  { desired with library := { desired.library with path := some ⟨path⟩ } }

/-- What an engine does about an event; answers whether it could go on. -/
def handle (now : Moment) (event : Event) (engine : Engine ι) : Bool × Engine ι :=
  match event with
  | .buildStarted target => (true, engine.buildStarted now target)
  | .buildEnded target successful _ =>
    let engine := engine.buildEnded target
    if successful then (true, engine)
    else engine.tell now ("Build failed: " ++ target.name ++ ".")
  | .libraryCompiled path => (true, engine.schedule (wantLibraryAt path))
  | .executableCompiled _ size =>
    engine.tell now ("Executable size: " ++ String.ofList (Digits.ofNat size.toNat) ++ ".")
  | .exported path => engine.tell now ("Exported to " ++ path ++ ".")
  | .runFinished _ => (true, engine)
  | .error _ => (true, engine)
  | .shaderSetProvided set => (true, engine.shaderSetProvided set)

/-- A handler for every kind of event. -/
def handlers (now : Moment) : HandlerTable (Engine ι) :=
  EventKind.all.foldl (fun table kind => table.on kind (handle now)) .empty

/-- The channel inside an engine. -/
def channelPlace : Channel.Place (Engine ι) where
  get engine := engine.resources.session.channel
  set channel engine :=
    { engine with resources := { engine.resources with
        session := { engine.resources.session with channel := channel } } }

/-- Bytes arrive from the server: the events are handled, and then the passes that they
scheduled are run. -/
def receive (loader : LibraryLoader ι) (now : Moment) (bytes : List UInt8) (engine : Engine ι) :
    Engine ι :=
  (Channel.receive channelPlace (handlers now) bytes engine).runScheduled loader now

/-- The end of an engine: the connection goes, the process is stopped and the library unloaded. -/
def finish (loader : LibraryLoader ι) (engine : Engine ι) : Engine ι :=
  let resources := engine.resources.disconnect
  { engine with resources := (resources.withLibrary (Library.unload loader)).2 }

end RenderSync.Engine
