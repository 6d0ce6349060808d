import RenderSync.Shell.Utility.Records.Cell

/-!
# Tables

The elements of a table are gone through in an order that nobody has chosen: it comes from where
they are kept.  A text leads to a slot by a code that is made of its octets, and an element that is
put into a slot, or found there, stands first in it from then on.

Tables whose elements have been reached by whole numbers only are kept by these, or as a plain list,
and are rearranged when they are reached by a text for the first time.
-/

namespace RenderSync.Shell.Records

/-- How an element is reached. -/
inductive Key where
  | number (n : Int)
  | text (text : String)
deriving DecidableEq, Repr, Inhabited

/-- The text that leads where a key leads. -/
def Key.shown : Key → String
  | .number n => signedDecimal n
  | .text words => words

/-- An element that is kept by a text; `counted` says that it was reached by a number, too. -/
structure Kept where
  text : String
  counted : Bool
  cell : Cell
deriving Inhabited

/-- A table. -/
inductive Table where
  /-- Elements with the numbers from one on. -/
  | listed (cells : List Cell)
  /-- Elements by number. -/
  | numbered (size : Nat) (slots : Array (List (Int × Cell)))
  /-- Elements by text. -/
  | keyed (size : Nat) (slots : Array (List Kept))
deriving Inhabited

namespace Table

/-- No elements. -/
def empty : Table := .listed []

/-- How many elements there are. -/
def size : Table → Nat
  | listed cells => cells.length
  | numbered size _ => size
  | keyed size _ => size

/-! ## 1. Slots -/

/-- The code of a text. -/
def codeOf (text : String) : Nat :=
  text.toList.foldl (fun code c => (code ^^^ c.toNat) * 16777619 % 4294967296) 2166136261

/-- The slot of a text among some. -/
def slotOf (count : Nat) (text : String) : Nat := codeOf text % count

/-- The slot of a number among some. -/
def slotOfNumber (count : Nat) (n : Int) : Nat := (n % (count : Int)).toNat

/-- How many slots there are at first. -/
def firstSlots : Nat := 64

/-- How many elements there may be for each slot on average. -/
def crowd : Nat := 12

/-- How many slots are enough for some elements; `fuel` bounds how often they are doubled. -/
def slotsFor (size : Nat) : (fuel : Nat) → (count : Nat) → Nat
  | 0, count => count
  | fuel + 1, count => if crowd * count < size then slotsFor size fuel (2 * count) else count

/-- Twice as many slots: what belongs elsewhere moves into the new half. -/
def doubled {α : Type} (slot : Nat → α → Nat) (slots : Array (List α)) : Array (List α) :=
  let count := slots.size
  let part (keep : Bool) : List (List α) := slots.toList.zipIdx.map fun (items, n) =>
    items.filter fun item => (slot (2 * count) item = n) = keep
  (part true ++ part false).toArray

/-- Puts an element in front of a slot. -/
def pushed {α : Type} (slot : Nat) (item : α) (slots : Array (List α)) : Array (List α) :=
  slots.modify slot (item :: ·)

/-! ## 2. Rearranging -/

/-- The elements by number. -/
def byNumber : Table → Nat × Array (List (Int × Cell))
  | listed cells =>
    let count := slotsFor cells.length 40 firstSlots
    (cells.length, cells.zipIdx.foldl (fun slots (cell, n) =>
      let number : Int := (n + 1 : Nat)
      pushed (slotOfNumber count number) (number, cell) slots) (Array.replicate count []))
  | numbered size slots => (size, slots)
  | keyed size _ => (size, Array.replicate firstSlots [])

/-- The elements by text. -/
def byText (table : Table) : Nat × Array (List Kept) :=
  match table with
  | keyed size slots => (size, slots)
  | table =>
    let (size, slots) := table.byNumber
    (size, slots.toList.flatten.foldl (fun texts (n, cell) =>
      let text := signedDecimal n
      pushed (slotOf slots.size text) ⟨text, true, cell⟩ texts) (Array.replicate slots.size []))

/-! ## 3. Reaching elements -/

/-- Reaches an element by a text, which stands for a number if it is `counted`; one that is not
there is made if `creates` says so. -/
def reachText (creates counted : Bool) (text : String) (table : Table) : Option Cell × Table :=
  let (size, slots) := table.byText
  let slot := slotOf slots.size text
  let items := (slots[slot]?).getD []
  match items.find? (·.text = text) with
  | some kept =>
    if counted && kept.counted then (some kept.cell, .keyed size slots)
    else
      let kept := { kept with counted := kept.counted || counted }
      (some kept.cell, .keyed size (slots.set! slot (kept :: items.filter (·.text ≠ text))))
  | none =>
    if !creates then (none, .keyed size slots)
    else
      let slots := if crowd * slots.size < size + 1 then
        doubled (fun count (item : Kept) => slotOf count item.text) slots else slots
      (some .nothing,
        .keyed (size + 1) (pushed (slotOf slots.size text) ⟨text, counted, .nothing⟩ slots))

/-- Reaches an element by a number among others with numbers. -/
def reachNumber (creates : Bool) (n : Int) (size : Nat) (slots : Array (List (Int × Cell))) :
    Option Cell × Table :=
  let slot := slotOfNumber slots.size n
  let items := (slots[slot]?).getD []
  match items.lookup n with
  | some cell =>
    (some cell, .numbered size (slots.set! slot ((n, cell) :: items.filter (·.1 ≠ n))))
  | none =>
    if !creates then (none, .numbered size slots)
    else
      let slots := if crowd * slots.size < size + 1 then
        doubled (fun count (item : Int × Cell) => slotOfNumber count item.1) slots else slots
      (some .nothing,
        .numbered (size + 1) (pushed (slotOfNumber slots.size n) (n, .nothing) slots))

/-- Reaches an element; one that is not there is made if `creates` says so. -/
def reach (creates : Bool) (key : Key) (table : Table) : Option Cell × Table :=
  match key, table with
  | .text text, table => table.reachText creates false text
  | .number n, .keyed .. => table.reachText creates true (signedDecimal n)
  | .number n, .listed cells =>
    if 1 ≤ n && n ≤ (cells.length : Int) then (cells[n.toNat - 1]?, table)
    else if creates then
      let (size, slots) := table.byNumber
      reachNumber true n size slots
    else (none, table)
  | .number n, .numbered size slots => reachNumber creates n size slots

/-- The same table with another cell for an element that is there. -/
def replace (key : Key) (cell : Cell) (table : Table) : Table :=
  match key, table with
  | .number n, .listed cells => .listed (cells.set (n.toNat - 1) cell)
  | .number n, .numbered size slots =>
    .numbered size (slots.modify (slotOfNumber slots.size n)
      (·.map fun item => if item.1 = n then (n, cell) else item))
  | key, .keyed size slots =>
    .keyed size (slots.modify (slotOf slots.size key.shown)
      (·.map fun item => if item.text = key.shown then { item with cell } else item))
  | .text _, table => table

/-- Gives an element a cell. -/
def put (key : Key) (cell : Cell) (table : Table) : Table :=
  (table.reach true key).2.replace key cell

/-- The cell of an element, which is made if it is not there. -/
def get (key : Key) (table : Table) : Cell × Table :=
  let (cell, table) := table.reach true key
  (cell.getD .nothing, table)

/-- An element is there. -/
def contains (key : Key) (table : Table) : Bool × Table :=
  if table.size = 0 then (false, table)
  else
    let (cell, table) := table.reach false key
    (cell.isSome, table)

/-- Takes an element away. -/
def erase (key : Key) (table : Table) : Table :=
  let table : Table := match key, table with
    | .number n, .listed cells =>
      if 1 ≤ n && n ≤ (cells.length : Int) then
        let (size, slots) := table.byNumber
        .numbered size slots
      else table
    | _, table => table
  match table.contains key with
  | (false, table) => table
  | (true, .numbered size slots) =>
    match key with
    | .number n =>
      .numbered (size - 1) (slots.modify (slotOfNumber slots.size n) (·.filter (·.1 ≠ n)))
    | .text _ => .numbered size slots
  | (true, .keyed size slots) =>
    .keyed (size - 1) (slots.modify (slotOf slots.size key.shown)
      (·.filter (·.text ≠ key.shown)))
  | (true, table) => table

/-- The texts that lead to elements, in their order. -/
def keys (table : Table) : List String × Table :=
  if table.size = 0 then ([], table)
  else
    let (size, slots) := table.byText
    (slots.toList.flatMap (·.map Kept.text), .keyed size slots)

end Table

end RenderSync.Shell.Records
