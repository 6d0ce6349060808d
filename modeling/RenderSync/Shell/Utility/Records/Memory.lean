import RenderSync.Shell.Course
import RenderSync.Shell.Utility.Dates
import RenderSync.Shell.Utility.Records.Matching
import RenderSync.Shell.Utility.Records.Table

/-!
# What a program for records remembers

Variables and tables, the record and its fields, the texts that are being read, and what was printed
but not written yet.

A record and its fields are two views of one thing: `withRecord` takes a record apart, and
`withField` puts it together again.
-/

namespace RenderSync.Shell.Records

/-- What a name stands for. -/
inductive Slot where
  | unset
  | cell (cell : Cell)
  /-- A table, which others may share; it may not have been used yet. -/
  | table (number : Nat)
deriving Inhabited

/-- A text that is read record by record. -/
structure Source where
  rest : List Char
  /-- The descriptor that the rest of it comes from. -/
  more : Option Nat
  /-- How the command ended that has printed it. -/
  status : Int := 0
deriving Inhabited

/-- A file or a command that something is printed to. -/
structure Output where
  name : String
  isCommand : Bool
  /-- What was printed but not written, the last first. -/
  pending : List String
deriving Inhabited

/-- What a program remembers. -/
structure Memory where
  globals : List (String × Slot) := []
  /-- The variables of the functions that are on, the latest first. -/
  locals : List (List (String × Slot)) := []
  tables : List (Nat × Table) := []
  /-- The number of the next table. -/
  fresh : Nat := 0
  record : String := ""
  fields : List Cell := []
  main : Option Source := none
  /-- The number of the argument that is read next. -/
  place : Nat := 1
  /-- A file was read. -/
  reads : Bool := false
  sources : List (String × Source) := []
  /-- The latest first. -/
  outputs : List Output := []
  /-- What was printed but not written, the last first, and its length. -/
  pending : List String := []
  size : Nat := 0
  status : Nat := 0
  /-- The rules whose last record has not come yet. -/
  ranges : List Nat := []
  /-- What the next random number is made of, and what that was made of. -/
  seed : Nat := 1
  sown : Int := 1
deriving Inhabited

namespace Memory

/-! ## 1. Variables -/

/-- The first items with a name changed. -/
def replaced {α : Type} (name : String) (value : α) : List (String × α) → List (String × α)
  | [] => [(name, value)]
  | item :: rest =>
    if item.1 = name then (name, value) :: rest else item :: replaced name value rest

/-- A function that is on has a variable with this name. -/
def isLocal (name : String) (memory : Memory) : Bool :=
  (memory.locals.headD []).any (·.1 = name)

/-- What a name stands for. -/
def slot (name : String) (memory : Memory) : Slot :=
  match (memory.locals.headD []).lookup name with
  | some slot => slot
  | none => (memory.globals.lookup name).getD .unset

/-- Lets a name stand for something. -/
def setSlot (name : String) (slot : Slot) (memory : Memory) : Memory :=
  match memory.locals with
  | frame :: frames =>
    if frame.any (·.1 = name) then
      { memory with locals := replaced name slot frame :: frames }
    else { memory with globals := replaced name slot memory.globals }
  | [] => { memory with globals := replaced name slot memory.globals }

/-- The cell of a variable. -/
def cell (name : String) (memory : Memory) : Cell :=
  match memory.slot name with
  | .cell cell => cell
  | _ => .nothing

/-- The cell of a variable that is not one of a function. -/
def global (name : String) (memory : Memory) : Cell :=
  match memory.globals.lookup name with
  | some (.cell cell) => cell
  | _ => .nothing

/-- Sets a variable that is not one of a function. -/
def setGlobal (name : String) (cell : Cell) (memory : Memory) : Memory :=
  { memory with globals := replaced name (.cell cell) memory.globals }

/-- The format that numbers become texts by. -/
def convention (memory : Memory) : String := (memory.global "CONVFMT").toText "%.6g"

/-- A cell as text. -/
def textOf (cell : Cell) (memory : Memory) : String := cell.toText memory.convention

/-- The text of a variable that is not one of a function. -/
def text (name : String) (memory : Memory) : String := memory.textOf (memory.global name)

/-! ## 2. Tables -/

/-- The number of the table that a name stands for; one that is new gets a number. -/
def tableNumber (name : String) (memory : Memory) : Nat × Memory :=
  match memory.slot name with
  | .table number => (number, memory)
  | _ =>
    (memory.fresh,
      { memory with fresh := memory.fresh + 1 }.setSlot name (.table memory.fresh))

/-- A table by its number. -/
def tableAt (number : Nat) (memory : Memory) : Table := (memory.tables.lookup number).getD .empty

/-- Puts a table in the place of another one. -/
def setTable (number : Nat) (table : Table) (memory : Memory) : Memory :=
  { memory with tables := (number, table) :: memory.tables.filter (·.1 ≠ number) }

/-- Does something with the table that a name stands for. -/
def withTable {α : Type} (name : String) (act : Table → α × Table) (memory : Memory) :
    α × Memory :=
  let (number, memory) := memory.tableNumber name
  let (value, table) := act (memory.tableAt number)
  (value, memory.setTable number table)

/-- A name stands for a table with elements. -/
def isTable (name : String) (memory : Memory) : Bool :=
  match memory.slot name with
  | .table number => (memory.tables.lookup number).isSome
  | _ => false

/-- The key that cells make together. -/
def keyOf (cells : List Cell) (memory : Memory) : Key :=
  match cells with
  | [.number bits] =>
    if double.isWhole bits then .number (toInteger bits)
    else .text (memory.textOf (.number bits))
  | cells => .text ((memory.text "SUBSEP").intercalate (cells.map memory.textOf))

/-! ## 3. The record -/

/-- The separator of fields. -/
def separator (memory : Memory) : Separator := Separator.ofText (memory.text "FS")

/-- Takes a record apart. -/
def withRecord (record : String) (memory : Memory) : Memory :=
  let fields := (memory.separator.fields record.toList).map fun field =>
    Cell.found (String.ofList field)
  { memory with record, fields }.setGlobal "NF" (.ofInt fields.length)

/-- Puts the record together. -/
def rejoined (memory : Memory) : Memory :=
  { memory with
    record := (memory.text "OFS").intercalate (memory.fields.map memory.textOf) }.setGlobal "NF"
      (.ofInt memory.fields.length)

/-- Lets the record have so many fields. -/
def withCount (count : Nat) (memory : Memory) : Memory :=
  { memory with
    fields := memory.fields.take count ++
      List.replicate (count - memory.fields.length) Cell.nothing }.rejoined

/-- The cell of a field; the one with the number zero is the record. -/
def field (index : Nat) (memory : Memory) : Cell :=
  match index with
  | 0 => .found memory.record
  | index + 1 => (memory.fields[index]?).getD .nothing

/-- Sets a field. -/
def withField (index : Nat) (cell : Cell) (memory : Memory) : Memory :=
  match index with
  | 0 => memory.withRecord (memory.textOf cell)
  | index + 1 =>
    let fields := memory.fields ++
      List.replicate (index + 1 - memory.fields.length) Cell.nothing
    { memory with fields := fields.set index cell }.rejoined

/-- Sets a variable; the record follows the number of its fields. -/
def assign (name : String) (cell : Cell) (memory : Memory) : Memory :=
  let memory := memory.setSlot name (.cell cell)
  if name = "NF" && !memory.isLocal name then
    memory.withCount (toInteger cell.toNumber).toNat
  else memory

/-- Counts one more. -/
def counted (name : String) (memory : Memory) : Memory :=
  memory.setGlobal name
    (.number (double.sum (memory.global name).toNumber (double.round 1 1)))

/-! ## 4. Printing -/

/-- How much is kept before it is written. -/
def outputRoom : Nat := 4096

/-- Writes what was printed. -/
def flushed (next : Memory → Course) (memory : Memory) : Course :=
  .printing (String.join memory.pending.reverse) (next { memory with pending := [], size := 0 })

/-- Prints. -/
def printed (text : String) (next : Memory → Course) (memory : Memory) : Course :=
  let memory := { memory with
    pending := text :: memory.pending, size := memory.size + text.length }
  if outputRoom ≤ memory.size then memory.flushed next else next memory

end Memory

end RenderSync.Shell.Records
