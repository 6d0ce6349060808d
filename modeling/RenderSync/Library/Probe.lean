import RenderSync.Library.Slot

/-!
# Probes

A probe stands for a library behind the binary interface: it sees the arguments as that interface
passes them on, counts the calls in registers, and renders its registers.  Dimensions arrive as
signed words, so the large ones are cut down to the largest; a stage of a program that holds NUL
has no text there and is left out.

The image of a probe has a name that tells what it exports and how many uniforms it reads.  Every
symbol of the interface has to be there but the one for object instances.
-/

namespace RenderSync

open BinaryFloat

/-- What a probe exports and reads. -/
structure ProbeKind where
  /-- Symbols of the interface that are not exported. -/
  hidden : List String
  /-- How many uniforms are read. -/
  reads : Nat
deriving DecidableEq, Repr, Inhabited

namespace ProbeKind

/-- The optional symbol. -/
def instancesSymbol : String := "_shibaSetObjectInstances"

/-- The symbols that have to be there, in the order in which they are looked for. -/
def required : List String :=
  ["_shibaEnsureIsInitialized", "_shibaUpdate", "_shibaRender",
    "_shibaViewportEnsureIsInitialized", "_shibaViewportUpdate", "_shibaViewportRender",
    "_shibaUpdatePrograms", "_shibaSetActiveUniformValues"]

/-- The probes there are, by name. -/
def names : List (String × ProbeKind) :=
  [("full", ⟨[], 1⟩), ("two", ⟨[], 2⟩), ("blind", ⟨[], 0⟩), ("noinst", ⟨[instancesSymbol], 1⟩),
    ("missing", ⟨["_shibaViewportRender"], 1⟩)]

/-- The content of the file of a probe. -/
def image (name : String) : Content := .image ("probe " ++ name)

/-- The kind of probe in a file. -/
def ofImage? (content : Content) : Option ProbeKind :=
  (names.find? fun entry => image entry.1 = content).map Prod.snd

end ProbeKind

/-- A loaded probe. -/
structure Probe where
  kind : ProbeKind
  registers : Vector Single 64
deriving DecidableEq, Repr, Inhabited

namespace Probe

/-- The probe in a file. -/
def load (content : Content) : Except LibraryError Probe :=
  match ProbeKind.ofImage? content with
  | none => .error .notLoadable
  | some kind =>
    match ProbeKind.required.find? fun symbol => kind.hidden.contains symbol with
    | some symbol => .error (.missingSymbol symbol)
    | none => .ok ⟨kind, Vector.replicate 64 .zero⟩

/-! ## 1. The interface -/

/-- A dimension as it is passed on. -/
def dimension (size : UInt32) : Nat := min size.toNat (Nat.pow 2 31 - 1)

/-- The length of a stage as it is passed on; `none` where none is. -/
def stageLength? (stage : Option String) : Option Nat :=
  match stage with
  | none => none
  | some text => if text.toList.contains '\x00' then none else some (Utf8.size text.toList)

/-! ## 2. Registers -/

/-- Sets registers from a place on; what does not fit is left out. -/
def set (start : Nat) (values : List Single) (probe : Probe) : Probe :=
  { probe with
    registers := (values.zipIdx start).foldl
      (fun registers entry => registers.setIfInBounds entry.2 entry.1) probe.registers }

/-- Adds one to the count in a register. -/
def count (place : Nat) (probe : Probe) : Probe :=
  let old := (probe.registers[place]?).getD .zero
  probe.set place [.ofInt (old.toInt32 + 1)]

/-- A call with dimensions. -/
def sized (place : Nat) (width height : UInt32) (probe : Probe) : Probe :=
  (probe.count place).set (place + 1) [.ofNat (dimension width), .ofNat (dimension height)]

/-- The number of a stage. -/
def stageNumber (stage : Option String) : Single :=
  match stageLength? stage with
  | none => .ofInt (-1)
  | some length => .ofNat length

/-- The entry of a matrix column by column. -/
def entry (matrix : List Single) (place : Nat) : Single := matrix.getD place .zero

/-- What is read of a uniform. -/
def uniformNumbers (value : UniformValue) : List Single :=
  [value.float, .ofInt value.int, .ofInt value.word, entry value.mat4 1, entry value.mat4 12]

/-- What a call does to the registers. -/
def receive (call : LibraryCall) (probe : Probe) : Probe :=
  match call with
  | .setUp width height => probe.sized 0 width height
  | .update width height preview =>
    (probe.sized 3 width height).set 6 [.ofNat preview.toNat]
  | .render .. => probe
  | .viewportSetUp width height => probe.sized 7 width height
  | .viewportUpdate width height => probe.sized 10 width height
  | .viewportRender width height => probe.sized 13 width height
  | .programs sources =>
    ((probe.count 16).set 17 [.ofNat sources.length]).set 18
      ((List.range 2).flatMap fun place =>
        [stageNumber (sources[place]?.bind ShaderSource.vertex),
          stageNumber (sources[place]?.bind ShaderSource.fragment)])
  | .uniformValues values =>
    (probe.count 22).set 27 ((values.take probe.kind.reads).flatMap uniformNumbers)
  | .objectInstances instances =>
    let counted := (probe.count 23).set 24 [.ofNat instances.length]
    match instances.head?, instances.getLast? with
    | some first, some last => counted.set 25 [entry first.transform 0, entry last.transform 15]
    | _, _ => counted

/-- What a probe draws: the arguments, the registers, and then `-1`. -/
def draw (width height : UInt32) (preview : Bool) (probe : Probe) (frame : Frame) : Frame :=
  let numbers := #[Single.ofNat (dimension width), .ofNat (dimension height),
    .ofNat preview.toNat] ++ probe.registers.toArray
  let number (place : Nat) : Single := (numbers[place]?).getD (.ofInt (-1))
  { frame with pixel := fun place => Vector.ofFn fun part => number (4 * place + part.val) }

/-- Files as probes. -/
def loader : LibraryLoader Probe where
  load := load
  takesInstances probe := !probe.kind.hidden.contains ProbeKind.instancesSymbol
  receive := receive
  draw := draw

end Probe

end RenderSync
