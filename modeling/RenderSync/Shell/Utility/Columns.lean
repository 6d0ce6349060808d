import RenderSync.Shell.Utility.Lines

/-!
# Columns

Utilities that take lines apart or put them side by side.
-/

namespace RenderSync.Shell.Call

/-! ## 1. Parts of lines -/

/-- Places from one to another; without a last one they go on to the end. -/
abbrev Places := Nat × Option Nat

/-- Why a list of places makes no sense. -/
inductive PlacesFault where
  | zero
  | decreasing
  | endless
  | bad

/-- The places that a list such as `1,3-5,7-` names. -/
def places? (text : String) : Except PlacesFault (List Places) :=
  let number (digits : List Char) : Except PlacesFault (Option Nat) :=
    match digits, Digits.toNat? 10 digits with
    | [], _ => .ok none
    | _, some 0 => .error .zero
    | _, some n => .ok (some n)
    | _, none => .error .bad
  let isSeparator (c : Char) : Bool := c = ',' || c = ' ' || c = '\t'
  let pieces := Text.splitAt ',' (text.toList.map fun c => if isSeparator c then ',' else c)
  pieces.mapM fun piece =>
    match piece.span (· ≠ '-') with
    | (first, []) => do
      match ← number first with
      | some n => return (n, some n)
      | none => throw .zero
    | (first, _ :: last) => do
      match ← number first, ← number last with
      | none, none => throw .endless
      | first, none => return (first.getD 1, none)
      | first, some last =>
        if last < first.getD 1 then throw .decreasing else return (first.getD 1, some last)

/-- Places in order, those that overlap made one; `joins` also those that touch. -/
def mergedPlaces (places : List Places) : List Places :=
  let sorted := places.mergeSort fun a b => a.1 ≤ b.1
  (sorted.foldl (fun (kept : List Places) (next : Places) =>
    match kept with
    | (first, last) :: others =>
      match last, next.2 with
      | none, _ => kept
      | some end_, some further =>
        if next.1 ≤ end_ then (first, some (max end_ further)) :: others else next :: kept
      | some end_, none => if next.1 ≤ end_ then (first, none) :: others else next :: kept
    | [] => [next]) []).reverse

/-- All other places. -/
def otherPlaces (places : List Places) : List Places :=
  let (found, next) := (mergedPlaces places).foldl (fun (found, next) (first, last) =>
    let found : List Places :=
      match next with
      | some n => if n < first then found ++ [(n, some (first - 1))] else found
      | none => found
    (found, next.bind fun _ => last.map (· + 1))) (([] : List Places), some 1)
  match next with
  | some n => found ++ [(n, none)]
  | none => found

/-- The items of a list from one place to another; the first place is one. -/
def itemsAt {α : Type} (items : List α) (places : Places) : List α :=
  let rest := items.drop (places.1 - 1)
  match places.2 with
  | some last => rest.take (last + 1 - places.1)
  | none => rest

/-- Fields or octets of every line. -/
def cut (call : Call) (options : Options) : Deed :=
  let separator := separatorOf options
  let chosen := options.chosen.filter fun entry => entry.1 = 'b' || entry.1 = 'c' || entry.1 = 'f'
  let refused (message : String) : Deed := call.misused message 1
  match chosen with
  | [] => refused "you must specify a list of bytes, characters, or fields"
  | _ :: _ :: _ => refused "only one list may be specified"
  | [(letter, text)] =>
    let fields := letter = 'f'
    let unit := if fields then "field" else "byte/character position"
    let delimiter := options.value? 'd'
    if !fields && delimiter.isSome then
      refused "an input delimiter may be specified only when operating on fields"
    else if !fields && options.has 's' then
      refused "suppressing non-delimited lines makes sense\n\tonly when operating on fields"
    else if delimiter.any fun text => text.length > 1 then
      refused "the delimiter must be a single character"
    else
      match places? text with
      | .error fault => refused (match fault with
        | .zero => unit ++ "s are numbered from 1"
        | .decreasing => "invalid decreasing range"
        | .endless => "invalid range with no endpoint: -"
        | .bad => "invalid " ++ (if fields then "field value " else unit ++ " ") ++ curly text)
      | .ok places =>
        let merged := mergedPlaces places
        let merged := if options.has 'γ' then otherPlaces merged else merged
        let delimiter := match delimiter with
          | some text => (text.toList.head?).getD '\x00'
          | none => '\t'
        let between := match options.value? 'ο' with
          | some text => text.toList
          | none => if fields then [delimiter] else []
        let make (line : List Char) : Option (List Char) :=
          if fields then
            if line.contains delimiter then
              let all := Text.splitAt delimiter line
              some (between.intercalate (merged.flatMap (itemsAt all)))
            else if options.has 's' then none
            else some line
          else some (between.intercalate ((merged.map (itemsAt line)).filter (· ≠ [])))
        call.filters options.operands 1 fun text =>
          ofLinesBy separator ((linesBy separator text).filterMap make)

/-! ## 2. Side by side -/

/-- The separators that a text such as `,\t` writes. -/
def delimiters : List Char → List (List Char)
  | [] => []
  | '\\' :: '0' :: rest => [] :: delimiters rest
  | '\\' :: c :: rest => [((Format.escapes.lookup c).getD c)] :: delimiters rest
  | c :: rest => [c] :: delimiters rest

/-- Takes the first line of each of some texts; texts with the same name are one text.  The flag
says whether there was any line. -/
def takeLines (texts : List (String × List (List Char))) : List String →
    List (List Char) × Bool × List (String × List (List Char))
  | [] => ([], false, texts)
  | name :: rest =>
    let line := (texts.lookup name).bind List.head?
    let texts := texts.map fun entry => if entry.1 = name then (name, entry.2.tail) else entry
    let (lines, found, texts) := takeLines texts rest
    (line.getD [] :: lines, line.isSome || found, texts)

/-- Rows of lines side by side, as long as one of the texts has any. -/
def pasteRows (names : List String) : (fuel : Nat) → List (String × List (List Char)) →
    List (List (List Char))
  | 0, _ => []
  | fuel + 1, texts =>
    let (lines, found, texts) := takeLines texts names
    if found then lines :: pasteRows names fuel texts else []

/-- Lines of several texts side by side, or all lines of a text. -/
def paste (call : Call) (options : Options) : Deed :=
  let separator := separatorOf options
  let between := delimiters ((options.value? 'd').getD "\t").toList
  let between := if between = [] then [[]] else between
  let beside (items : List (List Char)) : List Char :=
    (items.zipIdx.map fun (item, n) =>
      if n = 0 then item else ((between[(n - 1) % between.length]?).getD []) ++ item).flatten
  let operands := orInput options.operands
  let (found, complaints) := call.allContents operands about
  let texts := found.map fun (name, text) => (name, linesBy separator text)
  if options.has 's' then
    ⟨complaints ++ [(1, ofLinesBy separator (texts.map fun entry => beside entry.2))],
      if complaints = [] then 0 else 1, call.files⟩
  else if complaints ≠ [] then ⟨complaints.take 1, 1, call.files⟩
  else
    let names := operands.zipIdx.map fun (operand, n) =>
      if operand = "-" then "-" else decimal n
    let keyed := names.zip (texts.map Prod.snd)
    let rows := pasteRows names ((keyed.map fun entry => entry.2.length).foldl (· + ·) 1) keyed
    call.gives (ofLinesBy separator (rows.map beside))

/-- Two texts in order, taken apart into what only one of them has and what both have. -/
def compareLines : (fuel : Nat) → List (List Char) → List (List Char) → List (Nat × List Char)
  | 0, _, _ => []
  | _, [], second => second.map (2, ·)
  | _, first, [] => first.map (1, ·)
  | fuel + 1, a :: first, b :: second =>
    if a = b then (3, a) :: compareLines fuel first second
    else if String.ofList a < String.ofList b then (1, a) :: compareLines fuel first (b :: second)
    else (2, b) :: compareLines fuel (a :: first) second

/-- Lines are in order. -/
def isSorted : List (List Char) → Bool
  | a :: b :: rest => String.ofList a ≤ String.ofList b && isSorted (b :: rest)
  | _ => true

/-- Compares two texts whose lines are in order. -/
def common (call : Call) (options : Options) : Deed :=
  match options.operands with
  | [first, second] =>
    match call.contents first, call.contents second with
    | .error problem, _ => call.complains (about first problem) 1
    | _, .error problem => call.complains (about second problem) 1
    | .ok a, .ok b =>
      let separator := separatorOf options
      let a := linesBy separator a
      let b := linesBy separator b
      let between := (options.value? 'ο').getD "\t"
      let shows (column : Nat) : Bool := !options.has (Char.ofNat (48 + column))
      let lead (column : Nat) : String :=
        String.join ((((List.range column).drop 1).filter shows).map fun _ => between)
      let found := compareLines (a.length + b.length) a b
      let rows := (found.filter (shows ·.1)).map fun (column, line) =>
        (lead column).toList ++ line
      let total := if options.has 'τ' then
        String.join ([1, 2, 3].map fun column =>
          decimal (found.filter (·.1 = column)).length ++ between) ++ "total\n" else ""
      let disorder (n : Nat) (lines : List (List Char)) : List (Nat × String) :=
        if isSorted lines || options.has 'ν' then []
        else [call.complaint ("file " ++ decimal n ++ " is not in sorted order")]
      let faults := if found.all (·.1 = 3) then [] else disorder 1 a ++ disorder 2 b
      let faults := if faults = [] then [] else
        faults ++ [call.complaint "input is not in sorted order"]
      ⟨(1, ofLinesBy separator rows) :: (1, total) :: faults, if faults = [] then 0 else 1,
        call.files⟩
  | [] => call.misused "missing operand" 1
  | [only] => call.misused ("missing operand after " ++ curly only) 1
  | _ :: _ :: extra :: _ => call.misused ("extra operand " ++ curly extra) 1

/-- The fields of a line: between single separators, or runs of what is no blank. -/
def joinFields (separator : Option Char) (line : List Char) : List (List Char) :=
  match separator with
  | some c => Text.splitAt c line
  | none =>
    (Text.splitAt ' ' (line.map fun c => if c = '\t' then ' ' else c)).filter (· ≠ [])

/-- Rows that come together because they agree in a field: which sides they have. -/
def joinRows (order : List Char → List Char → Ordering) (keyA keyB : List (List Char) → List Char) :
    (fuel : Nat) → List (List (List Char)) → List (List (List Char)) →
      List (Option (List (List Char)) × Option (List (List Char)))
  | 0, _, _ => []
  | _, [], second => second.map fun row => (none, some row)
  | _, first, [] => first.map fun row => (some row, none)
  | fuel + 1, a :: first, b :: second =>
    match order (keyA a) (keyB b) with
    | .lt => (some a, none) :: joinRows order keyA keyB fuel first (b :: second)
    | .gt => (none, some b) :: joinRows order keyA keyB fuel (a :: first) second
    | .eq =>
      let same (row : List (List Char)) : Bool := order (keyA a) (keyB row) = .eq
      let left := a :: first.takeWhile fun row => order (keyA row) (keyB b) = .eq
      let right := b :: second.takeWhile same
      (left.flatMap fun x => right.map fun y => (some x, some y)) ++
        joinRows order keyA keyB fuel (first.drop (left.length - 1))
          (second.drop (right.length - 1))

/-- Joins the lines of two texts that agree in a field. -/
def join (call : Call) (options : Options) : Deed :=
  match options.operands with
  | [first, second] =>
    match call.contents first, call.contents second with
    | .error problem, _ => call.complains (about first problem) 1
    | _, .error problem => call.complains (about second problem) 1
    | .ok a, .ok b =>
      let end_ := separatorOf options
      let separator := (options.value? 't').map fun text =>
        if text = "\\0" then '\x00' else (text.toList.head?).getD '\n'
      let place (letter : Char) : Nat :=
        (((options.chosen.reverse.find? fun entry => entry.1 = letter || entry.1 = 'j').bind
          fun entry => Digits.toNat? 10 entry.2.toList)).getD 1
      let field (n : Nat) (row : List (List Char)) : List Char := (row[n - 1]?).getD []
      let fold (text : List Char) := if options.has 'i' then text.map Char.toLower else text
      let order (x y : List Char) : Ordering :=
        compare (String.ofList (fold x)) (String.ofList (fold y))
      let rows (text : String) := (linesBy end_ text).map (joinFields separator)
      let a := rows a
      let b := rows b
      let found := joinRows order (field (place '1')) (field (place '2')) (a.length + b.length) a b
      let sides := options.values 'a' ++ options.values 'v'
      let pairs := !(options.has 'v')
      let shown := found.filter fun
        | (some _, some _) => pairs
        | (some _, none) => sides.contains "1"
        | _ => sides.contains "2"
      let filler := ((options.value? 'e').getD "").toList
      let between := (separator.getD ' ')
      let others (n : Nat) (row : List (List Char)) : List (List Char) :=
        (row.zipIdx.filter fun (_, k) => k + 1 ≠ n).map Prod.fst
      let filled (text : List Char) : List Char := if text = [] then filler else text
      let wanted := (options.value? 'o').map fun text =>
        (Text.splitAt ',' (text.toList.map fun c => if c = ' ' then ',' else c)).filter (· ≠ [])
      let line : Option (List (List Char)) × Option (List (List Char)) → List Char :=
        fun (left, right) =>
          let key := match left, right with
            | some row, _ => field (place '1') row
            | none, some row => field (place '2') row
            | none, none => []
          match wanted with
          | some specs =>
            if specs = ["auto".toList] then
              let width (rows : List (List (List Char))) (n : Nat) : List (List Char) :=
                others n ((rows.head?).getD [])
              let fill (side : Option (List (List Char))) (all : List (List (List Char)))
                  (n : Nat) : List (List Char) :=
                let own := (side.map (others n)).getD []
                (width all n).zipIdx.map fun (_, k) => filled ((own[k]?).getD [])
              [between].intercalate (key :: fill left a (place '1') ++ fill right b (place '2'))
            else [between].intercalate (specs.map fun spec =>
              match spec with
              | ['0'] => filled key
              | '1' :: '.' :: digits =>
                filled ((left.map (field (Digits.toNat digits))).getD [])
              | '2' :: '.' :: digits =>
                filled ((right.map (field (Digits.toNat digits))).getD [])
              | _ => [])
          | none =>
            [between].intercalate (key ::
              ((left.map (others (place '1'))).getD [] ++
                (right.map (others (place '2'))).getD []))
      call.gives (ofLinesBy end_ (shown.map line))
  | [] => call.misused "missing operand" 1
  | [only] => call.misused ("missing operand after " ++ curly only) 1
  | _ :: _ :: extra :: _ => call.misused ("extra operand " ++ curly extra) 1

/-! ## 3. Widths -/

/-- The column behind an octet. -/
def columnAfter (octets : Bool) (column : Nat) (c : Char) : Nat :=
  if octets then column + 1
  else if c = '\t' then (column / 8 + 1) * 8
  else if c = '\x08' then column - 1
  else if c = '\r' then 0
  else column + 1

/-- A line cut into lines that are no wider than a width; behind blanks if `atBlanks` says so. -/
def foldLine (width : Nat) (octets atBlanks : Bool) : (fuel : Nat) → (column : Nat) →
    (done_ : List Char) → List Char → List (List Char)
  | 0, _, done_, rest => [done_.reverse ++ rest]
  | _, _, done_, [] => [done_.reverse]
  | fuel + 1, column, done_, c :: rest =>
    let next := columnAfter octets column c
    if next ≤ width || done_ = [] then foldLine width octets atBlanks fuel next (c :: done_) rest
    else
      let isBlank (c : Char) : Bool := c = ' ' || c = '\t'
      let tail := if atBlanks then done_.takeWhile fun c => !isBlank c else []
      let (head, tail) := if tail.length = done_.length then (done_, []) else
        (done_.drop tail.length, tail)
      let again := tail.reverse ++ c :: rest
      head.reverse :: foldLine width octets atBlanks fuel 0 [] again

/-- Cuts long lines. -/
def foldLines (call : Call) (options : Options) : Deed :=
  let text := (options.value? 'w').getD "80"
  match Digits.toNat? 10 text.toList with
  | none => call.complains ("invalid number of columns: " ++ curly text) 1
  | some 0 =>
    call.complains ("invalid number of columns: " ++ curly text ++
      ": Numerical result out of range") 1
  | some width =>
    call.eachContent options.operands 1 about fun _ text =>
      String.join ((piecesBy '\n' text).map fun piece =>
        let (body, ending) := piece.span (· ≠ '\n')
        let lines := foldLine width (options.has 'b') (options.has 's')
          (2 * body.length * (body.length + 1) + 1) 0 [] body
        String.ofList (['\n'].intercalate lines ++ ending))

/-- The places of tabs: the first ones, and how far apart the others are. -/
structure TabStops where
  first : List Nat
  step : Nat

/-- The next place of a tab behind a column; one further on if there are no more. -/
def TabStops.next (stops : TabStops) (column : Nat) : Nat :=
  match stops.first.find? (column < ·) with
  | some place => place
  | none => if stops.step = 0 then column + 1 else (column / stops.step + 1) * stops.step

/-- The places of tabs that a list names. -/
def tabStops? (text : String) : Option TabStops := do
  let pieces := (Text.splitAt ',' (text.toList.map fun c => if c = ' ' then ',' else c)).filter
    (· ≠ [])
  let numbers ← (pieces.mapM fun piece => Digits.toNat? 10 piece)
  match numbers with
  | [] => return ⟨[], 8⟩
  | [n] => return ⟨[], n⟩
  | many => return ⟨many, 0⟩

/-- Goes on with the places of tabs. -/
def withTabs (call : Call) (options : Options) (act : TabStops → Deed) : Deed :=
  let text := ",".intercalate (options.values 't')
  match tabStops? text with
  | some stops => act stops
  | none =>
    call.complains ("tab size contains invalid character(s): " ++
      curly (String.ofList (text.toList.dropWhile Digits.isDecimal))) 1

/-- Tabs made blanks. -/
def expandTabs (call : Call) (options : Options) : Deed :=
  call.withTabs options fun stops =>
    let step (state : List Char × Nat × Bool) (c : Char) : List Char × Nat × Bool :=
      let (output, column, leading) := state
      if c = '\n' then (c :: output, 0, true)
      else if c = '\t' && (leading || !options.has 'i') then
        let next := stops.next column
        (List.replicate (next - column) ' ' ++ output, next, leading)
      else if c = '\x08' then (c :: output, column - 1, leading)
      else (c :: output, column + 1, leading && (c = ' ' || c = '\t'))
    call.eachContent options.operands 1 about fun _ text =>
      String.ofList (text.toList.foldl step ([], 0, true)).1.reverse

/-- A run of blanks from one column to another, with as many tabs as possible. -/
def tabsBetween (stops : TabStops) : (fuel : Nat) → (from_ to_ : Nat) → List Char
  | 0, _, _ => []
  | fuel + 1, from_, to_ =>
    let next := stops.next from_
    if to_ ≤ from_ then []
    else if next ≤ to_ && (stops.step ≠ 0 || stops.first.contains next) then
      (if next = from_ + 1 && to_ = next then [' '] else ['\t']) ++ tabsBetween stops fuel next to_
    else List.replicate (to_ - from_) ' '

/-- Blanks made tabs. -/
def unexpandTabs (call : Call) (options : Options) : Deed :=
  call.withTabs options fun stops =>
    let everywhere := (options.has 'a' || options.has 't') && !options.has 'φ'
    let line (text : List Char) : List Char :=
      let flush (output : List Char) (start column : Nat) : List Char :=
        (tabsBetween stops (column - start + 1) start column).reverse ++ output
      let step (state : List Char × Nat × Nat × Bool) (c : Char) : List Char × Nat × Nat × Bool :=
        let (output, start, column, leading) := state
        if (c = ' ' || c = '\t') && leading then
          (output, start, if c = '\t' then stops.next column else column + 1, true)
        else
          let output := flush output start column
          (c :: output, column + 1, column + 1, everywhere)
      let (output, start, column, _) := text.foldl step ([], 0, 0, true)
      (flush output start column).reverse
    call.eachContent options.operands 1 about fun _ text =>
      String.join ((piecesBy '\n' text).map fun piece =>
        let (body, ending) := piece.span (· ≠ '\n')
        String.ofList (line body ++ ending))

end RenderSync.Shell.Call
