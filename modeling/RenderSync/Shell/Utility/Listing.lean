import RenderSync.Shell.Utility.Dates
import RenderSync.Shell.Utility.Order
import RenderSync.Shell.Utility.Transfer

/-!
# Listings

Utilities that show what is in directories, and the properties of files.
-/

namespace RenderSync.Shell.Call

/-! ## 1. Properties -/

/-- The size of an entry. -/
def sizeOf : Entry → Nat
  | .file _ content => content.bytes.length
  | .directory _ => 4096
  | .link target => Utf8.size target.toList
  | _ => 0

/-- How much room an entry takes, in blocks of 512 octets. -/
def blocksOf : Entry → Nat
  | .file _ content => (content.bytes.length + 4095) / 4096 * 8
  | .directory _ => 8
  | _ => 0

/-- How many names an entry has. -/
def linksOf (files : FileTree) (place : Place) : Nat :=
  if files.isDirectoryAt place then
    2 + ((files.namesBelow place).filter fun name =>
      files.isDirectoryAt (place ++ [name])).length
  else 1

/-- The kind of an entry in words. -/
def kindName : Entry → String
  | .file _ content => if content.bytes = [] then "regular empty file" else "regular file"
  | .directory _ => "directory"
  | .link _ => "symbolic link"
  | .pipe _ => "fifo"
  | .device .. => "character special file"

/-- The bits that stand for the kind of an entry. -/
def kindBits : Entry → Nat
  | .file .. => 0o100000
  | .directory _ => 0o040000
  | .link _ => 0o120000
  | .pipe _ => 0o010000
  | .device .. => 0o020000

/-- The numbers of a device. -/
def deviceNumbers : Entry → Nat × Nat
  | .device _ .null => (1, 3)
  | .device _ .zero => (1, 5)
  | .device _ .full => (1, 7)
  | .device _ .random => (1, 8)
  | _ => (0, 0)

/-- A number of octets in a few characters. -/
def humanSize (n : Nat) : String :=
  if n < 1024 then decimal n
  else
    let units := ["K", "M", "G", "T", "P"]
    let rec go (n : Nat) : List String → String
      -- Sizes are rounded up, with a digit behind the point below ten.
      | [] => decimal n
      | unit :: others =>
        if n < 1024 * 1024 || others = [] then
          let tenths := (n * 10 + 1023) / 1024
          if tenths < 100 then decimal (tenths / 10) ++ "." ++ decimal (tenths % 10) ++ unit
          else
            let whole := (n + 1023) / 1024
            if whole ≥ 1024 then
              match others with
              | next :: _ => "1.0" ++ next
              | [] => decimal whole ++ unit
            else decimal whole ++ unit
        else go ((n + 1023) / 1024) others
    go n units

/-! ## 2. Single files -/

/-- A directive of a format for properties. -/
def statField (call : Call) (place : Place) (entry : Entry) (name : String) (letter : Char) :
    Option String :=
  let moment := call.files.stampOf place
  let seconds := String.ofList (Digits.ofInt (moment.fdiv second))
  let full := dated moment "%Y-%m-%d %H:%M:%S.%N %z"
  let hex (n : Nat) : String := String.ofList (Format.Directive.digitsIn 16 16 n)
  match letter with
  | 'n' => some name
  | 'N' => some (inQuotes name ++ match entry with
      | .link target => " -> " ++ inQuotes (Octets.ofString target)
      | _ => "")
  | 'F' => some (kindName entry)
  | 's' => some (decimal (sizeOf entry))
  | 'a' => some (octalMode 1 entry.mode)
  | 'A' => some ((kindLetter entry).toString ++ modeLetters entry.mode)
  | 'f' => some (hex (kindBits entry + entry.mode))
  | 'U' | 'G' => some "root"
  | 'u' | 'g' => some "0"
  | 'h' => some (decimal (linksOf call.files place))
  | 'b' => some (decimal (blocksOf entry))
  | 'B' => some "512"
  | 'o' => some "4096"
  | 't' => some (hex (deviceNumbers entry).1)
  | 'T' => some (hex (deviceNumbers entry).2)
  | 'i' => some (decimal (1000 + ((call.files.entries.findIdx? (·.1 = place)).getD 0)))
  | 'd' | 'D' => some "36"
  | 'm' => some "/"
  | 'w' => some "-"
  | 'W' => some "0"
  | 'X' | 'Y' | 'Z' => some seconds
  | 'x' | 'y' | 'z' => some full
  | '%' => some "%"
  | _ => none

/-- Properties printed by a format; `fuel` bounds its length. -/
def statText (call : Call) (place : Place) (entry : Entry) (name : String) : (fuel : Nat) →
    List Char → List Char
  | 0, _ | _, [] => []
  | fuel + 1, '%' :: rest =>
    let (flags, behind) := rest.span fun c => "-0+ #".toList.contains c
    let (digits, behind) := behind.span Digits.isDecimal
    let behind := match behind with
      | '.' :: more => more.dropWhile Digits.isDecimal
      | other => other
    match behind with
    | [] => '%' :: rest
    | letter :: left =>
      let text := ((call.statField place entry name letter).getD "?").toList
      let width := (Digits.toNat? 10 digits).getD 0
      let filler := List.replicate (width - text.length)
        (if flags.contains '0' && "sabuginhfXYZ".toList.contains letter then '0' else ' ')
      (if flags.contains '-' then text ++ List.replicate (width - text.length) ' '
        else filler ++ text) ++ statText call place entry name fuel left
  | fuel + 1, c :: rest => c :: statText call place entry name fuel rest

/-- The whole of what is shown of a file if nothing is said. -/
def statDefault (entry : Entry) : String :=
  "  File: %N\n  Size: %-10s\tBlocks: %-10b IO Block: %-6o %F\nDevice: 0,36\tInode: %-10i  " ++
    "Links: %h" ++ (if entry.isDevice then "     Device type: %t,%T" else "") ++
    "\nAccess: (%04a/%10A)  Uid: (%5u/%8U)   Gid: (%5g/%8G)\n" ++
    "Access: %x\nModify: %y\nChange: %z\n Birth: %w\n"

/-- Shows the properties of files. -/
def status (call : Call) (options : Options) : Deed :=
  call.withOperands options fun operands =>
    call.forEach operands fun files operand =>
      let found := if options.has 'L' then
          (files.locate? (call.path operand)).bind fun place =>
            (files.entryAt? place).map (place, ·)
        else call.entryOf? files operand
      match found with
      | none => cannot "cannot statx" operand (files.trouble (call.path operand)).message
      | some (place, entry) =>
        let text := match options.last? "cπ" with
          | some 'c' => (options.value? 'c').getD "" ++ "\n"
          | some _ =>
            String.ofList (Format.unescape ((options.value? 'π').getD "")).1
          | none => statDefault entry
        .ok (String.ofList (call.statText place entry operand (text.length + 1) text.toList), files)

/-! ## 3. Directories -/

/-- A file as it is listed. -/
structure Listed where
  name : String
  place : Place
  entry : Entry

/-- The sign behind a name that says what it is. -/
def kindSign (options : Options) (entry : Entry) : String :=
  if options.has 'F' then
    match entry with
    | .directory _ => "/"
    | .link _ => "@"
    | .pipe _ => "|"
    | .file mode _ => if mode &&& 0o111 ≠ 0 then "*" else ""
    | .device .. => ""
  else if options.has 'p' && entry.isDirectory then "/"
  else ""

/-- The order of a listing. -/
def listedOrder (call : Call) (options : Options) (a b : Listed) : Ordering :=
  let byName := compare a.name b.name
  let ending (text : String) : List Char :=
    let chars := text.toList.reverse
    if chars.contains '.' then (chars.takeWhile (· ≠ '.')).reverse else []
  match options.last? "tSXvUf" with
  | some 't' =>
    (compare (call.files.stampOf b.place) (call.files.stampOf a.place)).then byName
  | some 'S' => (compare (sizeOf b.entry) (sizeOf a.entry)).then byName
  | some 'X' =>
    (compare (String.ofList (ending a.name)) (String.ofList (ending b.name))).then byName
  | some 'v' => (versionOrder a.name.toList b.name.toList).then byName
  | _ => byName

/-- Files in the order of a listing. -/
def inListing (call : Call) (options : Options) (listed : List Listed) : List Listed :=
  let sorted := listed.mergeSort fun a b => (listedOrder call options a b).isLE
  let sorted := if options.has 'r' then sorted.reverse else sorted
  if options.has 'δ' then
    sorted.filter (·.entry.isDirectory) ++ sorted.filter fun one => !one.entry.isDirectory
  else sorted

/-- The name of a file as it is shown, with what it leads to if that is asked for. -/
def shownName (call : Call) (options : Options) (long : Bool) (one : Listed) : String :=
  let quote (text : String) : String := if options.has 'Q' then "\"" ++ text ++ "\"" else text
  let target := match one.entry, long with
    | .link target, true =>
      let behind := call.files.find? ((FileTree.pathOf one.place.dropLast).join ⟨target⟩)
      " -> " ++ quote (Octets.ofString target) ++
        (if options.has 'F' then (behind.map (kindSign options)).getD "" else "")
    | _, _ => ""
  let sign := if long && one.entry.isLink then "" else kindSign options one.entry
  quote one.name ++ sign ++ target

/-- A text with blanks in front of it or behind it. -/
def fitted (left : Bool) (width : Nat) (text : String) : String :=
  let blanks := String.ofList (List.replicate (width - text.length) ' ')
  if left then text ++ blanks else blanks ++ text

/-- The time of a file as it is listed. -/
def listedTime (call : Call) (options : Options) (place : Place) : String :=
  let moment := call.files.stampOf place
  let old := call.clock - moment > 15778476 * second || moment > call.clock
  match options.value? 'τ' with
  | some "full-iso" => dated moment "%Y-%m-%d %H:%M:%S.%N %z"
  | some "long-iso" => dated moment "%Y-%m-%d %H:%M"
  | some "iso" => dated moment (if old then "%Y-%m-%d " else "%m-%d %H:%M")
  | some style =>
    match style.toList with
    | '+' :: format => dated moment (String.ofList format)
    | _ => dated moment (if old then "%b %e  %Y" else "%b %e %H:%M")
  | none => dated moment (if old then "%b %e  %Y" else "%b %e %H:%M")

/-- Files with all that is known of them, one on a line. -/
def longLines (call : Call) (options : Options) (listed : List Listed) : List String :=
  let user := if options.has 'n' then "0" else "root"
  let size (one : Listed) : String :=
    match one.entry with
    | .device .. =>
      let (major, minor) := deviceNumbers one.entry
      decimal major ++ ", " ++ decimal minor
    | entry => if options.has 'h' then humanSize (sizeOf entry) else decimal (sizeOf entry)
  let row (one : Listed) : List (Bool × String) :=
    (if options.has 'i' then [(false, (call.statField one.place one.entry "" 'i').getD "")]
      else []) ++
      (if options.has 's' then [(false, decimal (blocksOf one.entry / 2))] else []) ++
      [(true, (kindLetter one.entry).toString ++ modeLetters one.entry.mode),
        (false, decimal (linksOf call.files one.place))] ++
      (if options.has 'g' then [] else [(true, user)]) ++
      (if options.hasAny "oG" then [] else [(true, user)]) ++
      [(false, size one)]
  let rows := listed.map row
  let widths := rows.foldl (fun widths row =>
    row.zipIdx.map fun (field, n) => max field.2.length ((widths[n]?).getD 0)) []
  (listed.zip rows).map fun (one, row) =>
    " ".intercalate ((row.zip widths).map fun (field, width) => fitted field.1 width field.2) ++
      " " ++ call.listedTime options one.place ++ " " ++ call.shownName options true one

/-- Names in columns, as many as a line of eighty places holds; `across` says that they go on to
the right. -/
def inColumns (across : Bool) (names : List String) : String :=
  let count := names.length
  let shape (columns : Nat) : List (List String) :=
    let rows := (count + columns - 1) / columns
    (List.range rows).map fun row =>
      (List.range columns).filterMap fun column =>
        names[if across then row * columns + column else column * rows + row]?
  let widths (table : List (List String)) : List Nat :=
    table.foldl (fun widths row =>
      (List.range (max widths.length row.length)).map fun n =>
        max ((widths[n]?).getD 0) (((row[n]?).map String.length).getD 0)) []
  let fits (columns : Nat) : Bool :=
    let all := widths (shape columns)
    (all.foldl (· + ·) 0) + 2 * (all.length - 1) < 80
  let columns := (((List.range count).map (· + 1)).reverse.find? fits).getD 1
  let table := shape columns
  let all := widths table
  String.join (table.map fun row =>
    String.join (row.zipIdx.map fun (name, n) =>
      if n + 1 = row.length then name
      else fitted true (((all[n]?).getD 0) + 2) name) ++ "\n")

/-- Files listed as the options say. -/
def listingText (call : Call) (options : Options) (listed : List Listed) : String :=
  let sorted := call.inListing options listed
  let names := sorted.map fun one =>
    (if options.has 'i' then (call.statField one.place one.entry "" 'i').getD "" ++ " " else "") ++
      (if options.has 's' then
        let width := (sorted.map fun one => (decimal (blocksOf one.entry / 2)).length).foldl max 0
        fitted false width (decimal (blocksOf one.entry / 2)) ++ " " else "") ++
      call.shownName options false one
  let isLong := options.hasAny "lgon"
  match options.last? "lgon1Cmx" with
  | some 'C' => if names = [] then "" else inColumns false names
  | some 'x' => if names = [] then "" else inColumns true names
  | some 'm' => if names = [] then "" else ", ".intercalate names ++ "\n"
  | some '1' =>
    String.join ((if isLong then call.longLines options sorted else names).map (· ++ "\n"))
  | some _ => String.join ((call.longLines options sorted).map (· ++ "\n"))
  | none => String.join (names.map (· ++ "\n"))

/-- A name is left out because a pattern matches it. -/
def isHiddenName (options : Options) (name : String) : Bool :=
  let covers (text : String) : Bool :=
    let pattern : Marked := text.toList.map fun c => (c, false)
    pattern.covers name.toList
  (options.values 'I').any covers ||
    (!options.hasAny "aAf" && (options.values 'η').any covers) ||
    (options.has 'B' && name.toList.getLast? = some '~')

/-- What is in a directory. -/
def listedIn (call : Call) (options : Options) (place : Place) : List Listed :=
  let names := (call.files.namesBelow place).filter fun name =>
    (options.hasAny "aAf" || name.toList.head? ≠ some '.') &&
      !isHiddenName options (Octets.ofString name)
  let below := names.filterMap fun name =>
    (call.files.get? (place ++ [name])).map fun entry =>
      let place := place ++ [name]
      let resolved := if options.has 'L' then
          ((call.files.locate? (FileTree.pathOf place)).bind call.files.entryAt?).getD entry
        else entry
      (⟨Octets.ofString name, place, resolved⟩ : Listed)
  let both := options.last? "aAf" = some 'a' || options.last? "aAf" = some 'f'
  if both then
    ⟨".", place, .directory ((call.files.entryAt? place).map Entry.mode |>.getD 0o755)⟩ ::
      ⟨"..", place.dropLast,
        .directory ((call.files.entryAt? place.dropLast).map Entry.mode |>.getD 0o755)⟩ :: below
  else below

/-- What is said in front of a directory that is listed at length. -/
def totalLine (options : Options) (listed : List Listed) : String :=
  if options.hasAny "lgons" && options.last? "lgon1Cmx" ≠ some 'C' then
    let blocks := (listed.map fun one => blocksOf one.entry).foldl (· + ·) 0 / 2
    "total " ++ (if options.has 'h' then humanSize (blocks * 1024) else decimal blocks) ++ "\n"
  else ""

/-- Blocks for a directory and, if that is asked for, for those below it. -/
def directoryBlocks (call : Call) (options : Options) (titled : Bool) : (fuel : Nat) →
    (name : String) → (place : Place) → List String
  | 0, _, _ => []
  | fuel + 1, name, place =>
    let listed := call.listedIn options place
    let block := (if titled || options.has 'R' then name ++ ":\n" else "") ++
      totalLine options listed ++ call.listingText options listed
    let below := if options.has 'R' then
        (call.inListing options listed).filter fun one =>
          one.entry.isDirectory && one.name ≠ "." && one.name ≠ ".."
      else []
    block :: below.flatMap fun one =>
      directoryBlocks call options titled fuel (inside name one.name) one.place

/-- Lists directories. -/
def list (call : Call) (options : Options) : Deed :=
  let operands := if options.operands = [] then ["."] else options.operands
  let follows := !(options.hasAny "ldFgon") || options.has 'L' || options.has 'h'
  let look (operand : String) : Option Listed :=
    let link := call.entryOf? call.files operand
    let found := (call.files.locate? (call.path operand)).bind fun place =>
      (call.files.entryAt? place).map (place, ·)
    let chosen := match options.has 'L', follows || options.has 'H', found with
      | true, _, found => found
      | false, true, some found => if found.2.isDirectory then some found else link
      | _, _, _ => link
    chosen.map fun (place, entry) => ⟨operand, place, entry⟩
  let missing := operands.filter fun operand => (look operand).isNone
  let there := operands.filterMap look
  let isListed (one : Listed) : Bool := one.entry.isDirectory && !options.has 'd'
  let plain := there.filter fun one => !isListed one
  let directories := call.inListing { options with chosen := options.chosen.filter (·.1 ≠ 'δ') }
    (there.filter isListed)
  let titled := operands.length > 1
  let blocks := (if plain = [] then [] else [call.listingText options plain]) ++
    directories.flatMap fun one =>
      call.directoryBlocks options titled (deepest call.files + 1) one.name one.place
  ⟨missing.map (fun operand => call.complaint ("cannot access " ++ inQuotes operand ++ ": " ++
      (call.files.trouble (call.path operand)).message)) ++ [(1, "\n".intercalate blocks)],
    if missing = [] then 0 else 2, call.files⟩

/-- How much room directories take. -/
def usage (call : Call) (options : Options) : Deed :=
  let operands := if options.operands = [] then ["."] else options.operands
  let apparent := options.has 'b'
  let unit := match options.last? "bkmB" with
    | some 'm' => 1024 * 1024
    | some 'b' => 1
    | _ => 1024
  let own (place : Place) : Nat :=
    match call.files.entryAt? place with
    | some entry => if apparent then sizeOf entry else blocksOf entry * 512
    | none => 0
  let size (place : Place) : Nat :=
    (((subtree call.files place).map fun entry => own (place ++ entry.1)).foldl (· + ·) 0)
  let shown (n : Nat) : String :=
    if options.has 'h' then humanSize n else decimal ((n + unit - 1) / unit)
  call.forEach operands fun files operand =>
    match call.entryOf? files operand with
    | none => cannot "cannot access" operand (files.trouble (call.path operand)).message
    | some (place, entry) =>
      let below := placesBelow files (deepest files) place operand
      let limit := if options.has 's' then some 0
        else (options.value? 'd').bind fun text => Digits.toNat? 10 text.toList
      let kept := below.filter fun (at_, _) =>
        at_ = place || ((files.isDirectoryAt at_ || options.has 'a') &&
          limit.all fun n => at_.length - place.length ≤ n)
      let rec ordered : (fuel : Nat) → List (Place × String) → List (Place × String)
        | 0, _ | _, [] => []
        | fuel + 1, (at_, name) :: rest =>
          let (under, others) := rest.span fun other => at_.isPrefixOf other.1
          ordered fuel under ++ (at_, name) :: ordered fuel others
      let rows := if entry.isDirectory then ordered (kept.length + 1) kept else kept.take 1
      .ok (String.join (rows.map fun (at_, name) =>
        shown (size at_) ++ "\t" ++ name ++ "\n"), files)

/-! ## 4. Paths -/

/-- A path without steps that lead nowhere; links are not looked at. -/
def lexically (here : Place) (text : String) : Place :=
  let path : Path := ⟨Octets.toString text⟩
  path.pieces.foldl (fun place piece =>
    if piece = "" || piece = "." then place
    else if piece = ".." then place.dropLast
    else place ++ [piece]) (if path.isAbsolute then [] else here)

/-- Which of the steps of a path have to exist. -/
inductive Existing where
  | all
  | allButLast
  | none
deriving DecidableEq

/-- The path from the root to what a text names. -/
def resolved (call : Call) (existing : Existing) (text : String) : Except String Place :=
  let path := call.path text
  let trouble := (call.files.trouble path).message
  if text = "" then .error PathTrouble.missing.message
  else
    match existing, call.files.locate? path with
    | .all, some place => if (call.files.entryAt? place).isSome then .ok place else .error trouble
    | .allButLast, some place =>
      if (call.files.entryAt? place).isSome || call.files.isDirectoryAt place.dropLast then
        .ok place
      else .error trouble
    | .none, _ =>
      let here := (call.files.follow? (call.path ".")).getD []
      .ok (lexically here (Octets.ofString (FileTree.pathOf (follow call.files here path)).text))
    | _, none => .error trouble
where
  /-- As far as something is there, links are passed through. -/
  follow (files : FileTree) (here : Place) (path : Path) : Place :=
    path.pieces.foldl (fun place piece =>
      if piece = "" || piece = "." then place
      else if piece = ".." then place.dropLast
      else (files.follow? (FileTree.pathOf (place ++ [piece]))).getD (place ++ [piece]))
      (if path.isAbsolute then [] else here)

/-- The text of a place. -/
def placeText (place : Place) : String := Octets.ofString (FileTree.pathOf place).text

/-- Prints what links hold, or the paths from the root to operands. -/
def readLink (call : Call) (options : Options) : Deed :=
  call.withOperands options fun operands =>
    let ending := if options.has 'z' then "\x00"
      else if options.has 'n' && operands.length = 1 then "" else "\n"
    let verbose := options.last? "vqs" = some 'v'
    operands.foldl (fun deed operand =>
      let found : Except String String :=
        match options.last? "fem" with
        | some 'f' => (call.resolved .allButLast operand).map placeText
        | some 'e' => (call.resolved .all operand).map placeText
        | some _ => (call.resolved .none operand).map placeText
        | none =>
          match call.entryOf? call.files operand with
          | some (_, .link target) => .ok (Octets.ofString target)
          | some _ => .error "Invalid argument"
          | none => .error (call.files.trouble (call.path operand)).message
      match found with
      | .ok text => { deed with said := deed.said ++ [(1, text ++ ending)] }
      | .error problem =>
        { deed with
          said := deed.said ++ if verbose then [call.complaint (about operand problem)] else []
          status := 1 }) (call.answers 0)

/-- Prints the paths from the root to operands. -/
def realPath (call : Call) (options : Options) : Deed :=
  call.withOperands options fun operands =>
    let ending := if options.has 'z' then "\x00" else "\n"
    let here := (call.files.follow? (call.path ".")).getD []
    let resolve (operand : String) : Except String Place :=
      if options.has 's' then .ok (lexically here operand)
      else
        call.resolved (match options.last? "em" with
          | some 'e' => .all
          | some _ => .none
          | none => .allButLast) operand
    let shown (place : Place) : String :=
      let base? := (options.value? 'τ').bind fun text => (resolve text).toOption
      let within? := (options.value? 'β').bind fun text => (resolve text).toOption
      let way (base : Place) : String :=
        let steps := wayBetween base place
        if steps = [] then "." else Octets.ofString ("/".intercalate steps)
      match base?, within? with
      | some base, none => way base
      | _, some within =>
        if within.isPrefixOf place then way (base?.getD within) else placeText place
      | none, none => placeText place
    call.forEach operands fun files operand =>
      match resolve operand with
      | .ok place => .ok (shown place ++ ending, files)
      | .error problem => .error (about operand problem)

end RenderSync.Shell.Call
