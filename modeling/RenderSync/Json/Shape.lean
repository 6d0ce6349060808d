import RenderSync.Json.Reader
import RenderSync.Json.Decode

/-!
# Reading a text of a known shape

A text that is to become a record is checked while it is read: what stops the reading is
whatever is wrong first, a field of the wrong kind (`Fault.mismatched`) just as a broken bracket.
A `Shape` says what is expected where; `Shape.read` gives the value with the unknown fields of
records left out, and accepts no record without its required fields.

* Fields that a record does not know are passed over and may hold anything well written.
* A tagged choice and an open record cannot be checked in passing: they are read whole, then
  `accepts` decides.
-/

namespace RenderSync.Json

/-- What a text is expected to hold. -/
inductive Shape where
  | string
  | bool
  /-- A natural number below a bound. -/
  | natBelow (bound : Nat)
  | double
  /-- `null` or the shape. -/
  | optional (shape : Shape)
  | list (shape : Shape)
  /-- One of the names, alone or as the only field of an object with `null` behind it. -/
  | choice (names : List String)
  /-- Fields by their names; the flag says which are required. -/
  | record (fields : List (List String × Bool × Shape))
  /-- A choice of the `names` by the field `tag`. -/
  | tagged (tag : String) (names : List String) (accepts : Json → Bool)
  /-- An object with known fields and others that matter. -/
  | openRecord (fields : List (List String × Bool × Shape)) (accepts : Json → Bool)

namespace Shape

/-- The fault of a value of another kind.  Its text is still read, as far as it is a leaf. -/
def mismatch (text : List Char) : Fault :=
  match text with
  | [] => .truncated
  | 'n' :: rest => fault (readLiteral ['u', 'l', 'l'] rest)
  | 't' :: rest => fault (readLiteral ['r', 'u', 'e'] rest)
  | 'f' :: rest => fault (readLiteral ['a', 'l', 's', 'e'] rest)
  | '"' :: rest => fault (readString rest)
  | '[' :: _ | '{' :: _ => .mismatched
  | c :: rest =>
    if c = '-' || Digits.isDecimal c then fault (readNumber (c :: rest)) else .malformed
where
  /-- The leaf's own fault, if it has one. -/
  fault {α : Type} : Except Fault α → Fault
    | .ok _ => .mismatched
    | .error fault => fault

/-- The entry of a field list that goes by a name. -/
def find? (fields : List (List String × Bool × Shape)) (name : String) :
    Option (List String × Bool × Shape) :=
  fields.find? fun field => field.1.contains name

/-- Whether an entry by any of the names was read before. -/
def isRepeated (aliases : List String) (seen : List (String × Json)) : Bool :=
  seen.any fun entry => aliases.contains entry.1

/-- Whether every required field was read. -/
def complete (fields : List (List String × Bool × Shape)) (seen : List (String × Json)) : Bool :=
  fields.all fun field => !field.2.1 || isRepeated field.1 seen

/-- A number, for the shapes that take one. -/
def readNumberAs (accepts : Json → Bool) (text : List Char) : Except Fault (Reading Json) :=
  match text with
  | c :: rest =>
    if c = '-' || Digits.isDecimal c then do
      let (n, rest) ← readNumber (c :: rest)
      if accepts (.number n) then .ok (.number n, rest) else .error .mismatched
    else .error (mismatch text)
  | [] => .error .truncated

/-- A tag: the name of a choice. -/
def readTag (names : List String) (text : List Char) : Except Fault (Reading Json) :=
  match skipSpace text with
  | [] => .error .truncated
  | '"' :: rest => do
    let (name, rest) ← readString rest
    if names.contains name then .ok (.string name, rest) else .error .mismatched
  | text => .error (mismatch text)

/-- The closing bracket of an array whose items were all taken. -/
def closeList (text : List Char) : Except Fault (List Char) :=
  match skipSpace text with
  | ']' :: rest => .ok rest
  | [] => .error .truncated
  | _ => .error .malformed

mutual

/-- A value of a shape; `fuel` bounds the calls, `depth` how many brackets may still open. -/
def readFuel : (fuel depth : Nat) → Shape → List Char → Except Fault (Reading Json)
  | 0, _, _, _ => .error .malformed
  | fuel + 1, depth, shape, text =>
    let text := skipSpace text
    match shape, text with
    | _, [] => .error .truncated
    | .string, '"' :: rest => do
      let (s, rest) ← readString rest
      .ok (.string s, rest)
    | .string, _ => .error (mismatch text)
    | .bool, 't' :: rest => do .ok (.bool true, ← readLiteral ['r', 'u', 'e'] rest)
    | .bool, 'f' :: rest => do .ok (.bool false, ← readLiteral ['a', 'l', 's', 'e'] rest)
    | .bool, _ => .error (mismatch text)
    | .natBelow bound, _ => readNumberAs (fun n => (natBelow? bound n).isSome) text
    | .double, _ => readNumberAs (fun _ => true) text
    | .optional _, 'n' :: rest => do .ok (.null, ← readLiteral ['u', 'l', 'l'] rest)
    | .optional shape, _ => readFuel fuel depth shape text
    | .list shape, '[' :: rest =>
      if depth ≤ 1 then .error .malformed
      else do
        let (items, rest) ← readListFuel fuel (depth - 1) shape true [] rest
        .ok (.array items, rest)
    | .list _, _ => .error (mismatch text)
    | .choice names, '"' :: rest => do
      let (name, rest) ← readString rest
      if names.contains name then .ok (.string name, rest) else .error .mismatched
    | .choice names, '{' :: rest =>
      if depth ≤ 1 then .error .malformed
      else
        match skipSpace rest with
        | '"' :: rest => do
          let (name, rest) ← readString rest
          if !names.contains name then .error .mismatched
          let rest ← readColon rest
          match skipSpace rest with
          | 'n' :: rest =>
            let rest ← readLiteral ['u', 'l', 'l'] rest
            match skipSpace rest with
            | '}' :: rest => .ok (.string name, rest)
            | [] => .error .truncated
            | _ => .error .malformed
          | rest => .error (mismatch rest)
        | [] => .error .truncated
        | _ => .error .malformed
    | .choice _, _ => .error .malformed
    | .record fields, '[' :: rest =>
      if depth ≤ 1 then .error .malformed
      else do
        let (items, rest) ← readPlacesFuel fuel (depth - 1) fields true [] rest
        .ok (.array items, rest)
    | .record fields, '{' :: rest =>
      if depth ≤ 1 then .error .malformed
      else do
        let (entries, rest) ← readRecordFuel fuel (depth - 1) false fields true [] rest
        if complete fields entries then .ok (.object entries, rest) else .error .mismatched
    | .record _, _ => .error (mismatch text)
    | .openRecord fields accepts, '{' :: rest =>
      if depth ≤ 1 then .error .malformed
      else do
        let (entries, rest) ← readRecordFuel fuel (depth - 1) true fields true [] rest
        if accepts (.object entries) then .ok (.object entries, rest) else .error .mismatched
    | .openRecord _ _, _ => .error (mismatch text)
    | .tagged _ names accepts, '[' :: rest =>
      if depth ≤ 1 then .error .malformed
      else do
        match ← nextItem true rest with
        | (.close, _) => .error .mismatched
        | (.member, rest) =>
          let (value, rest) ← readTag names rest
          let (items, rest) ← readItemsFuel .all fuel (depth - 1) false [] rest
          if accepts (.array (value :: items)) then .ok (.array (value :: items), rest)
          else .error .mismatched
    | .tagged tag names accepts, '{' :: rest =>
      if depth ≤ 1 then .error .malformed
      else do
        let (entries, rest) ← readTaggedFuel fuel (depth - 1) tag names true [] rest
        if accepts (.object entries) then .ok (.object entries, rest) else .error .mismatched
    | .tagged _ _ _, _ => .error (mismatch text)

/-- The items of an array of one shape; `seen` holds those before, last first. -/
def readListFuel : (fuel depth : Nat) → Shape → (first : Bool) → (seen : List Json) → List Char →
    Except Fault (Reading (List Json))
  | 0, _, _, _, _, _ => .error .malformed
  | fuel + 1, depth, shape, first, seen, text => do
    match ← nextItem first text with
    | (.close, rest) => .ok (seen.reverse, rest.drop 1)
    | (.member, rest) =>
      let (item, rest) ← readFuel fuel depth shape rest
      readListFuel fuel depth shape false (item :: seen) rest

/-- A record written as an array: its fields in order. -/
def readPlacesFuel : (fuel depth : Nat) → List (List String × Bool × Shape) → (first : Bool) →
    (seen : List Json) → List Char → Except Fault (Reading (List Json))
  | 0, _, _, _, _, _ => .error .malformed
  | _ + 1, _, [], _, seen, text => do .ok (seen.reverse, ← closeList text)
  | fuel + 1, depth, (_, isRequired, shape) :: fields, first, seen, text => do
    match ← nextItem first text with
    | (.close, rest) =>
      if isRequired || fields.any (fun field => field.2.1) then .error .mismatched
      else .ok (seen.reverse, rest.drop 1)
    | (.member, rest) =>
      let (item, rest) ← readFuel fuel depth shape rest
      readPlacesFuel fuel depth fields false (item :: seen) rest

/-- The entries of a record; `keepsOthers` says whether those it does not know are kept. -/
def readRecordFuel : (fuel depth : Nat) → (keepsOthers : Bool) →
    List (List String × Bool × Shape) → (first : Bool) → (seen : List (String × Json)) →
    List Char → Except Fault (Reading (List (String × Json)))
  | 0, _, _, _, _, _, _ => .error .malformed
  | fuel + 1, depth, keepsOthers, fields, first, seen, text => do
    match ← nextName first text with
    | (.close, rest) => .ok (seen.reverse, rest.drop 1)
    | (.member, rest) =>
      let (name, rest) ← readString rest
      match find? fields name with
      | some (aliases, _, shape) =>
        if isRepeated aliases seen then .error .mismatched
        let rest ← readColon rest
        let (value, rest) ← readFuel fuel depth shape rest
        readRecordFuel fuel depth keepsOthers fields false ((name, value) :: seen) rest
      | none =>
        let rest ← readColon rest
        if keepsOthers then
          let (value, rest) ← readValueFuel .all fuel depth rest
          readRecordFuel fuel depth keepsOthers fields false ((name, value) :: seen) rest
        else
          let rest ← skipValue rest
          readRecordFuel fuel depth keepsOthers fields false seen rest

/-- The entries of a tagged choice. -/
def readTaggedFuel : (fuel depth : Nat) → (tag : String) → (names : List String) →
    (first : Bool) → (seen : List (String × Json)) → List Char →
    Except Fault (Reading (List (String × Json)))
  | 0, _, _, _, _, _, _ => .error .malformed
  | fuel + 1, depth, tag, names, first, seen, text => do
    match ← nextName first text with
    | (.close, rest) => .ok (seen.reverse, rest.drop 1)
    | (.member, rest) =>
      let (name, rest) ← readString rest
      if name = tag then
        if isRepeated [tag] seen then .error .mismatched
        let (value, rest) ← readTag names (← readColon rest)
        readTaggedFuel fuel depth tag names false ((name, value) :: seen) rest
      else
        let (value, rest) ← readValueFuel .all fuel depth (← readColon rest)
        readTaggedFuel fuel depth tag names false ((name, value) :: seen) rest

end

/-- A text in octets that is one value of the shape. -/
def read (shape : Shape) (octets : List UInt8) : Except Fault Json := do
  let text := octets.map fun b => Char.ofNat b.toNat
  let (value, rest) ← readFuel (fuelFor text) depthLimit shape text
  expectEnd rest
  .ok value

/-- The data of a text of the shape. -/
def decode {α : Type} (shape : Shape) (ofValue : Json → Option α) (octets : List UInt8) :
    Except Fault α := do
  let value ← shape.read octets
  match ofValue value with
  | some a => .ok a
  | none => .error .mismatched

end Shape

end RenderSync.Json
