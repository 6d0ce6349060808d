import RenderSync.Wire.Event

/-!
# Handlers

A table of handlers by the name of an event; the last one registered under a name counts.  A
handler changes a state of any type and says whether it could go on: one that could not ends the
reader of the channel, and no later frame is handled.
-/

namespace RenderSync

/-- What a handler does with a frame. -/
abbrev Handler (σ : Type) := Json → σ → Bool × σ

/-- Handlers by the name of their event, each name once. -/
structure HandlerTable (σ : Type) where
  entries : List (String × Handler σ)

namespace HandlerTable

variable {σ : Type}

/-- No handler. -/
def empty : HandlerTable σ := ⟨[]⟩

/-- Registers a handler for whole frames. -/
def insert (name : String) (handler : Handler σ) (table : HandlerTable σ) : HandlerTable σ :=
  ⟨(name, handler) :: table.entries.filter (·.1 != name)⟩

/-- Registers a handler for an event; a frame whose payload does not decode is dropped. -/
def on (kind : EventKind) (handle : Event → σ → Bool × σ) (table : HandlerTable σ) :
    HandlerTable σ :=
  table.insert kind.name fun frame state =>
    match Event.ofJson? kind frame with
    | some event => handle event state
    | none => (true, state)

/-- How many names have a handler. -/
def size (table : HandlerTable σ) : Nat := table.entries.length

/-- Whether a name has a handler. -/
def contains (table : HandlerTable σ) (name : String) : Bool :=
  (table.entries.lookup name).isSome

/-- The name of the event of a frame. -/
def nameOf? (frame : Json) : Option String := (frame.field? "event").bind Json.string?

/-- The handler that a frame goes to. -/
def handlerOf? (table : HandlerTable σ) (frame : Json) : Option (Handler σ) :=
  (nameOf? frame).bind fun name => table.entries.lookup name

/-- Hands a frame to its handler; a frame without one is dropped. -/
def dispatch (table : HandlerTable σ) (frame : Json) (state : σ) : Bool × σ :=
  match table.handlerOf? frame with
  | some handler => handler frame state
  | none => (true, state)

/-- Hands frames to their handlers, until one could not go on. -/
def dispatchAll (table : HandlerTable σ) : List Json → σ → Bool × σ
  | [], state => (true, state)
  | frame :: rest, state =>
    match table.dispatch frame state with
    | (true, state) => dispatchAll table rest state
    | (false, state) => (false, state)

end HandlerTable

end RenderSync
