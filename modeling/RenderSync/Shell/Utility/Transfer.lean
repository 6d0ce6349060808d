import RenderSync.Shell.Utility.Files

/-!
# Transferring files

Utilities that copy, move and link files, directories among them.  Sources come first and a target
last; where the target is a directory, each source gets a place in it.
-/

namespace RenderSync.Shell.Call

/-! ## 1. Sources and targets -/

/-- What was said and done on the way. -/
structure Progress where
  said : List (Nat × String)
  failed : Bool
  files : FileTree

namespace Progress

/-- Nothing but files. -/
def of (files : FileTree) : Progress := ⟨[], false, files⟩

/-- A complaint. -/
def fails (call : Call) (message : String) (files : FileTree) : Progress :=
  ⟨[call.complaint message], true, files⟩

/-- What one step does after the others. -/
def andThen (progress : Progress) (step : FileTree → Progress) : Progress :=
  let next := step progress.files
  ⟨progress.said ++ next.said, progress.failed || next.failed, next.files⟩

/-- The deed of a utility that got so far. -/
def deed (progress : Progress) : Deed :=
  ⟨progress.said, if progress.failed then 1 else 0, progress.files⟩

end Progress

/-- The last name of a path, slashes behind it apart. -/
def lastName (text : String) : String :=
  let body := (text.toList.reverse.dropWhile (· = '/'))
  String.ofList (body.takeWhile (· ≠ '/')).reverse

/-- A name in a directory, as it is written. -/
def inside (directory name : String) : String :=
  if directory.toList.getLast? = some '/' then directory ++ name else directory ++ "/" ++ name

/-- The operand is a directory. -/
def isDirectory (call : Call) (files : FileTree) (operand : String) : Bool :=
  files.isDirectory (call.path operand)

/-- Goes on with every source and what it is to become; `single` says that the target is no
directory to put things into. -/
def withTargets (call : Call) (options : Options) (single : Bool)
    (act : FileTree → String → String → Progress) : Deed :=
  let into (directory : String) (sources : List String) : Deed :=
    (sources.foldl (fun progress source =>
      progress.andThen fun files => act files source (inside directory (lastName source)))
      (Progress.of call.files)).deed
  let trouble (operand : String) : String :=
    if call.files.contains (call.path operand) then PathTrouble.notDirectory.message
    else (call.files.trouble (call.path operand)).message
  match options.value? 't' with
  | some directory =>
    if options.operands = [] then call.misused "missing file operand" 1
    else if call.isDirectory call.files directory then into directory options.operands
    else call.complains ("target directory " ++ inQuotes directory ++ ": " ++ trouble directory) 1
  | none =>
    match options.operands.reverse with
    | [] => call.misused "missing file operand" 1
    | [only] => call.misused ("missing destination file operand after " ++ inQuotes only) 1
    | [target, source] =>
      if call.isDirectory call.files target && !single then into target [source]
      else (act call.files source target).deed
    | target :: sources =>
      if single then
        call.misused ("extra operand " ++ inQuotes (options.operands[2]?.getD "")) 1
      else if call.isDirectory call.files target then into target sources.reverse
      else call.complains ("target " ++ inQuotes target ++ ": " ++ trouble target) 1

/-- Puts the old contents of a target aside. -/
def backedUp (call : Call) (options : Options) (files : FileTree) (target : String) : FileTree :=
  if options.hasAny "bS" then
    match call.entryOf? files target with
    | some (place, entry) =>
      let name := (place.getLast?.getD "") ++ Octets.toString ((options.value? 'S').getD "~")
      (files.erase place).put (place.dropLast ++ [name]) entry
    | none => files
  else files

/-- What is there already is to stay. -/
def isSpared (call : Call) (options : Options) (files : FileTree) (source target : String) : Bool :=
  let stamp (operand : String) : Option Int :=
    (call.entryOf? files operand).map fun (place, _) => files.stampOf place
  match stamp target with
  | none => false
  | some old => options.last? "nfi" = some 'n' ||
      (options.has 'u' && (stamp source).any (· ≤ old))

/-- Somebody is asked whether to overwrite a target, and does not say yes. -/
def isDeclined (call : Call) (options : Options) (files : FileTree) (target : String) : Bool :=
  options.last? "nfi" = some 'i' && (call.entryOf? files target).isSome &&
    !"yY".toList.contains ((call.input.toList.head?).getD 'n')

/-! ## 2. Copying -/

/-- Links are passed through: those among the operands, or all. -/
def followsLinks (options : Options) (top : Bool) : Bool :=
  match options.last? "LPdaH" with
  | some 'L' => true
  | some 'H' => top
  | some _ => false
  | none => !options.hasAny "rR"

/-- What a source names; a slash behind it passes through a link. -/
def sourceEntry? (call : Call) (options : Options) (top : Bool) (files : FileTree)
    (source : String) : Option (Place × Entry) :=
  if followsLinks options top || source.toList.getLast? = some '/' then
    (files.locate? (call.path source)).bind fun place => (files.entryAt? place).map (place, ·)
  else call.entryOf? files source

/-- Why there is no source. -/
def statProblem (call : Call) (files : FileTree) (source : String) : String :=
  let bare := String.ofList (source.toList.reverse.dropWhile (· = '/')).reverse
  let trouble := if bare ≠ source && (call.entryOf? files bare).isSome then .notDirectory
    else files.trouble (call.path source)
  "cannot stat " ++ inQuotes source ++ ": " ++ trouble.message

/-- What is said about a copy. -/
def copySaid (options : Options) (source target : String) : List (Nat × String) :=
  if options.has 'v' then [(1, inQuotes source ++ " -> " ++ inQuotes target ++ "\n")] else []

/-- The copy gets the mode and the time of the origin if it is to keep them. -/
def keepProperties (call : Call) (options : Options) (files : FileTree) (target : String)
    (mode : Nat) (origin : Place) : FileTree :=
  match files.locate? (call.path target) with
  | some place =>
    match options.hasAny "pa", files.get? place with
    | true, some entry =>
      (files.put place (entry.withMode mode)).stampAt place (files.stampOf origin)
    | _, _ => files
  | none => files

/-- Copies the contents of a file. -/
def copyContents (call : Call) (options : Options) (files : FileTree) (source target : String)
    (origin : Place) (entry : Entry) : Progress :=
  let fails (message : String) : Progress := .fails call message files
  let isDangling := match call.entryOf? files target with
    | some (_, .link _) => !files.contains (call.path target)
    | _ => false
  let ends : Bool := target.toList.getLast? = some '/'
  let problem := if ends then PathTrouble.notDirectory.message
    else call.makingProblem files target
  let contents := match entry with
    | .file _ content => some content
    | _ => files.content? (call.path source)
  let made := contents.bind fun content =>
    files.writeContent (call.allowed (entry.mode &&& 0o777)) (call.path target) content
  match isDangling, ends, made with
  | true, _, _ => fails ("not writing through dangling symlink " ++ inQuotes target)
  | _, false, some made =>
    ⟨copySaid options source target, false,
      keepProperties call options made target entry.mode origin⟩
  | _, _, _ => fails ("cannot create regular file " ++ inQuotes target ++ ": " ++ problem)

/-- Copies something that is no directory. -/
def copyPlain (call : Call) (options : Options) (files : FileTree) (source target : String)
    (origin : Place) (entry : Entry) : Progress :=
  let fails (message : String) : Progress := .fails call message files
  let old := call.entryOf? files target
  if source.toList.getLast? = some '/' then
    fails ("cannot stat " ++ inQuotes source ++ ": " ++ PathTrouble.notDirectory.message)
  else if isSpared call options files source target then .of files
  else if isDeclined call options files target then
    ⟨[(2, call.name ++ ": overwrite " ++ inQuotes target ++ "? ")], true, files⟩
  else if call.isDirectory files target then
    fails ("cannot overwrite directory " ++ inQuotes target ++ " with non-directory " ++
      inQuotes source)
  else if (old.map Prod.fst) = some origin ||
      (!options.hasAny "ls" && files.locate? (call.path target) = some origin) then
    fails (inQuotes source ++ " and " ++ inQuotes target ++ " are the same file")
  else
    let files := call.backedUp options files target
    let cleared := match old with
      | some (place, _) => files.erase place
      | none => files
    let put (entry : Entry) (act : String) : Progress :=
      match call.makeEntry cleared target entry with
      | .ok made => ⟨copySaid options source target, false, made⟩
      | .error trouble => fails (act ++ " " ++ inQuotes target ++ ": " ++ trouble.message)
    match options.last? "sl", entry with
    | some 's', _ => put (.link (Octets.toString source)) "cannot create symbolic link"
    | some _, _ => put entry "cannot create hard link"
    | none, .link text => put (.link text) "cannot create symbolic link"
    | none, .pipe mode => put (.pipe (call.allowed mode)) "cannot create fifo"
    | none, entry => call.copyContents options files source target origin entry

/-- Makes the directory that a directory is to be copied to; the flag says whether it is new. -/
def copiedDirectory (call : Call) (options : Options) (files : FileTree) (source target : String)
    (origin : Place) (mode : Nat) : Except String (Bool × FileTree) :=
  let into : String := "cannot copy a directory, " ++ inQuotes source ++ ", into itself, " ++
    inQuotes target
  let place := files.locate? (call.path target)
  match files.find? (call.path target) with
  | some (.directory _) =>
    if place = some origin then
      .error (inQuotes source ++ " and " ++ inQuotes target ++ " are the same file")
    else if place.any (origin.isPrefixOf ·) then .error into
    else .ok (false, files)
  | some _ => .error ("cannot overwrite non-directory " ++ inQuotes target ++ " with directory " ++
      inQuotes source)
  | none =>
    let mode := if options.hasAny "pa" then mode else call.allowed mode
    match (files.makeDirectory (call.path target)).bind (·.setMode (call.path target) mode) with
    | some made => .ok (true, made)
    | none => .error ("cannot create directory " ++ inQuotes target ++ ": " ++
        (files.trouble (call.path target)).message)

/-- Copies what a path names, with all that is in it. -/
def copyTree (call : Call) (options : Options) : (fuel : Nat) → (top : Bool) →
    (source target : String) → FileTree → Progress
  | 0, _, _, _, files => .of files
  | fuel + 1, top, source, target, files =>
    match call.sourceEntry? options top files source with
    | none => .fails call (call.statProblem files source) files
    | some (origin, .directory mode) =>
      if !options.hasAny "rRa" then
        .fails call ("-r not specified; omitting directory " ++ inQuotes source) files
      else
        match call.copiedDirectory options files source target origin mode with
        | .error message => .fails call message files
        | .ok (isNew, made) =>
          let isInside := (made.locate? (call.path target)).any (origin.isPrefixOf ·)
          let names := (made.namesBelow origin).filter fun name =>
            some (origin ++ [name]) ≠ made.locate? (call.path target)
          let said := if isNew then copySaid options source target else []
          let progress := names.foldl (fun progress name =>
            let name := Octets.ofString name
            progress.andThen (copyTree call options fuel false (inside source name)
              (inside target name))) (⟨said, false, made⟩ : Progress)
          if isInside then
            progress.andThen (.fails call ("cannot copy a directory, " ++ inQuotes source ++
              ", into itself, " ++ inQuotes target))
          else ⟨progress.said, progress.failed,
            call.keepProperties options progress.files target mode origin⟩
    | some (origin, entry) => call.copyPlain options files source target origin entry

/-- Copies files, and directories if told to. -/
def copy (call : Call) (options : Options) : Deed :=
  call.withTargets options (options.has 'T') fun files source target =>
    copyTree call options (deepest files + 2) true source target files

/-! ## 3. Moving -/

/-- Moves what a path names. -/
def moveOne (call : Call) (options : Options) (files : FileTree) (source target : String) :
    Progress :=
  let fails (message : String) : Progress := .fails call message files
  match call.entryOf? files source with
  | none => fails (call.statProblem files source)
  | some (origin, entry) =>
    let bare := String.ofList (target.toList.reverse.dropWhile (· = '/')).reverse
    let shownTarget := target
    let target := if entry.isDirectory && bare ≠ "" then bare else target
    let old := call.entryOf? files target
    match files.locateLink? (call.path target) with
    | none => fails ("cannot move " ++ inQuotes source ++ " to " ++ inQuotes shownTarget ++ ": " ++
        (files.trouble (call.path target)).message)
    | some place =>
      if source.toList.getLast? = some '/' && !entry.isDirectory then
        fails ("cannot stat " ++ inQuotes source ++ ": " ++ PathTrouble.notDirectory.message)
      else if isSpared call options files source target then .of files
      else if isDeclined call options files target then
        ⟨[(2, call.name ++ ": overwrite " ++ inQuotes target ++ "? ")], true, files⟩
      else if entry.isDirectory && origin.isPrefixOf place then
        fails ("cannot move " ++ inQuotes source ++ " to a subdirectory of itself, " ++
          inQuotes shownTarget)
      else if origin = place then
        fails (inQuotes source ++ " and " ++ inQuotes target ++ " are the same file")
      else if target.toList.getLast? = some '/' && !entry.isDirectory then
        fails ("cannot move " ++ inQuotes source ++ " to " ++ inQuotes target ++ ": " ++
          PathTrouble.notDirectory.message)
      else if !files.isDirectoryAt place.dropLast then
        fails ("cannot move " ++ inQuotes source ++ " to " ++ inQuotes target ++ ": " ++
          (files.trouble (call.path target)).message)
      else
        match entry.isDirectory, old.map fun entry => entry.2.isDirectory with
        | true, some false =>
          fails ("cannot overwrite non-directory " ++ inQuotes target ++ " with directory " ++
            inQuotes source)
        | false, some true =>
          fails ("cannot overwrite directory " ++ inQuotes target ++ " with non-directory")
        | _, _ =>
          if files.namesBelow place ≠ [] then
            fails ("cannot overwrite " ++ inQuotes target ++ ": " ++ PathTrouble.notEmpty.message)
          else
            let files := call.backedUp options files target
            let taken := subtree files origin
            let stamps := files.stamps.filterMap fun (at_, moment) =>
              if origin.isPrefixOf at_ then some (place ++ at_.drop origin.length, moment) else none
            let moved := graft (prune files origin) place taken
            let moved := { moved with stamps := stamps ++ moved.stamps }
            let said := if options.has 'v' then
                [(1, "renamed " ++ inQuotes source ++ " -> " ++ inQuotes target ++ "\n")] else []
            ⟨said, false, moved⟩

/-- Moves files and directories. -/
def move (call : Call) (options : Options) : Deed :=
  call.withTargets options (options.has 'T') (call.moveOne options)

/-! ## 4. Linking -/

/-- The way from one place to another. -/
def wayBetween : (from_ to_ : Place) → List String
  | a :: from_, b :: to_ =>
    if a = b then wayBetween from_ to_ else (a :: from_).map (fun _ => "..") ++ b :: to_
  | from_, to_ => from_.map (fun _ => "..") ++ to_

/-- Links a path to what another one names. -/
def linkOne (call : Call) (options : Options) (files : FileTree) (source target : String) :
    Progress :=
  let fails (message : String) : Progress := .fails call message files
  let soft := options.has 's'
  let said := if options.has 'v' then
      [(1, inQuotes target ++ (if soft then " -> " else " => ") ++ inQuotes source ++ "\n")] else []
  let files' := call.backedUp options files target
  let cleared := if options.has 'f' then (files'.remove (call.path target)).getD files' else files'
  let make (entry : Entry) (act : String) : Progress :=
    match call.makeEntry cleared target entry with
    | .ok made => ⟨said, false, made⟩
    | .error trouble => fails (act ++ " " ++ inQuotes target ++ ": " ++ trouble.message)
  if soft then
    let text := if options.has 'r' then
        match files.follow? (call.path source), files.locateLink? (call.path target) with
        | some to_, some from_ =>
          let way := wayBetween from_.dropLast to_
          if way = [] then "." else "/".intercalate way
        | _, _ => Octets.toString source
      else Octets.toString source
    make (.link text) "failed to create symbolic link"
  else
    match if options.has 'L' then (files.locate? (call.path source)).bind fun place =>
        (files.entryAt? place).map (place, ·)
      else call.entryOf? files source with
    | none => fails ("failed to access " ++ inQuotes source ++ ": " ++
        (files.trouble (call.path source)).message)
    | some (_, .directory _) => fails (source ++ ": hard link not allowed for directory")
    | some (_, entry) => make entry "failed to create hard link"

/-- Links files. -/
def link (call : Call) (options : Options) : Deed :=
  match options.operands with
  | [] => call.misused "missing file operand" 1
  | [only] =>
    if options.has 'T' then call.misused ("missing destination file operand after " ++
      inQuotes only) 1
    else (call.linkOne options call.files only (inside "." (lastName only))).deed
  | _ =>
    let last := options.operands.getLast?.getD ""
    let isLink := (call.entryOf? call.files last).any fun entry => entry.2.isLink
    call.withTargets options (options.has 'T' || (options.has 'n' && isLink))
      (call.linkOne options)

/-- Links two names. -/
def linkPlainly (call : Call) (options : Options) : Deed :=
  match options.operands with
  | [] => call.misused "missing operand" 1
  | [only] => call.misused ("missing operand after " ++ curly only) 1
  | [source, target] =>
    let problem : Option String :=
      match call.entryOf? call.files source with
      | none => some (call.files.trouble (call.path source)).message
      | some (_, entry) =>
        match call.makeEntry call.files target entry with
        | .ok _ => none
        | .error trouble => some trouble.message
    match problem with
    | some problem => call.complains ("cannot create link " ++ inQuotes target ++ " to " ++
        inQuotes source ++ ": " ++ problem) 1
    | none => (call.linkOne ⟨[], []⟩ call.files source target).deed
  | _ :: _ :: extra :: _ => call.misused ("extra operand " ++ curly extra) 1

/-! ## 5. Installing -/

/-- Copies files and sets their modes, or makes directories. -/
def install (call : Call) (options : Options) : Deed :=
  match modeOf? 0 false 0 ((options.value? 'm').getD "755") with
  | none => call.complains ("invalid mode " ++ curly ((options.value? 'm').getD "")) 1
  | some mode =>
    let inParents : Options := ⟨[('p', "")], []⟩
    if options.has 'd' then
      if options.operands = [] then call.misused "missing file operand" 1
      else call.forEach options.operands fun files operand =>
        match { call with name := "install" }.makeDirectory inParents mode files operand with
        | .ok (_, made) => .ok ("", (made.setMode (call.path operand) mode).getD made)
        | .error message => .error message
    else
      call.withTargets options (options.has 'T') fun files source target =>
        let above := (call.path target).parent?
        let files := if options.has 'D' then
            (above.bind fun path => files.makeDirectories path).getD files
          else files
        let fails (message : String) : Progress := .fails call message files
        if call.isDirectory files source then
          fails ("omitting directory " ++ inQuotes source)
        else
          match files.read? (call.path source) with
          | none => fails ("cannot stat " ++ inQuotes source ++ ": " ++
              (files.trouble (call.path source)).message)
          | some bytes =>
            let path := call.path target
            let cleared := (files.remove path).getD files
            match (cleared.writeWith mode path bytes).bind (·.setMode path mode) with
            | some made =>
              let said := if options.has 'v' then
                  [(1, inQuotes source ++ " -> " ++ inQuotes target ++ "\n")] else []
              ⟨said, false, made⟩
            | none => fails ("cannot create regular file " ++ inQuotes target ++ ": " ++
                (files.trouble path).message)

/-! ## 6. Blocks -/

/-- What the operands of a copy by blocks say. -/
structure BlockCopy where
  source : Option String
  target : Option String
  inSize : Nat
  outSize : Nat
  count : Option Nat
  skip : Nat
  seek : Nat
  conversions : List String
  status : String
  /-- Counts and places are in octets. -/
  byOctets : List String

/-- A number with letters behind it, perhaps several of them multiplied. -/
def blockNumber? (text : List Char) : Option Nat :=
  (Text.splitAt 'x' text).foldlM (fun product piece =>
    let (digits, suffix) := piece.span Digits.isDecimal
    let factor := match suffix with
      | ['c'] => some 1
      | ['w'] => some 2
      | suffix => multiplier? suffix
    (Digits.toNat? 10 digits).bind fun n => factor.map (product * n * ·)) 1

/-- The conversions that there are. -/
def conversionNames : List String :=
  ["ascii", "ebcdic", "ibm", "block", "unblock", "lcase", "ucase", "sparse", "swab", "sync", "excl",
    "nocreat", "notrunc", "noerror", "fdatasync", "fsync"]

/-- Reads the operands of a copy by blocks. -/
def blockCopy? (operands : List String) : Except (String × Bool) BlockCopy :=
  operands.foldlM (fun copy operand => do
    let (name, rest) := operand.toList.span (· ≠ '=')
    let value := String.ofList rest.tail
    let numbered : Except (String × Bool) Nat :=
      match blockNumber? value.toList with
      | some n => .ok n
      | none => .error ("invalid number: " ++ curly value, false)
    let sized : Except (String × Bool) Nat := do
      let n ← numbered
      if n = 0 then throw ("invalid number: " ++ curly value, false)
      return n
    let words := (Text.splitAt ',' value.toList).map String.ofList
    match String.ofList name with
    | "if" => return { copy with source := some value }
    | "of" => return { copy with target := some value }
    | "bs" => do let n ← sized; return { copy with inSize := n, outSize := n }
    | "ibs" => do return { copy with inSize := ← sized }
    | "obs" => do return { copy with outSize := ← sized }
    | "cbs" => do let _ ← sized; return copy
    | "count" =>
      let byOctets := if value.toList.getLast? = some 'B' then "count_bytes" :: copy.byOctets
        else copy.byOctets
      do return { copy with count := some (← numbered), byOctets }
    | "skip" | "iseek" => do return { copy with skip := ← numbered }
    | "seek" | "oseek" => do return { copy with seek := ← numbered }
    | "status" => return { copy with status := value }
    | "iflag" | "oflag" => return { copy with byOctets := copy.byOctets ++ words }
    | "conv" =>
      match words.find? fun word => !conversionNames.contains word with
      | some word => throw ("invalid conversion: " ++ curly word, true)
      | none => return { copy with conversions := copy.conversions ++ words }
    | _ => throw ("unrecognized operand " ++ curly operand, true))
    ⟨none, none, 512, 512, none, 0, 0, [], "", []⟩

namespace BlockCopy

/-- How many octets are skipped, and how many are read at most. -/
def extent (copy : BlockCopy) : Nat × Option Nat :=
  let unit (flag : String) (size : Nat) : Nat := if copy.byOctets.contains flag then 1 else size
  (copy.skip * unit "skip_bytes" copy.inSize,
    copy.count.map (· * unit "count_bytes" copy.inSize))

/-- Octets as conversions change them. -/
def convert (copy : BlockCopy) (octets : List Char) : List Char :=
  let has := copy.conversions.contains
  let octets := if has "sync" then
      let missing := (copy.inSize - octets.length % copy.inSize) % copy.inSize
      octets ++ List.replicate missing '\x00'
    else octets
  let octets := if has "ucase" then octets.map Char.toUpper
    else if has "lcase" then octets.map Char.toLower else octets
  let rec swap : List Char → List Char
    | a :: b :: rest => b :: a :: swap rest
    | rest => rest
  if has "swab" then swap octets else octets

/-- What is said about how much was copied. -/
def summary (copy : BlockCopy) (read written : Nat) : String :=
  let records (n size : Nat) : String :=
    decimal (n / size) ++ "+" ++ (if n % size = 0 then "0" else "1") ++ " records "
  let first := records read copy.inSize ++ "in\n" ++ records written copy.outSize ++ "out\n"
  match copy.status with
  | "none" => ""
  | "noxfer" => first
  | _ => first ++ decimal written ++ (if written = 1 then " byte" else " bytes") ++
      " copied, 0.0001 s, " ++ decimal (written * 10) ++ " kB/s\n"

end BlockCopy

/-- Copies octets by blocks. -/
def copyBlocks (call : Call) : Deed :=
  match blockCopy? call.arguments with
  | .error (message, true) => call.misused message 1
  | .error (message, false) => call.complains message 1
  | .ok copy =>
    let opened := match copy.source with
      | none => (Except.ok call.input : Except String String)
      | some source => call.contents source
    match opened with
    | .error problem =>
      let source := copy.source.getD ""
      call.complains (if problem = PathTrouble.isDirectory.message then
          "error reading " ++ inQuotes source ++ ": " ++ problem
        else "failed to open " ++ inQuotes source ++ ": " ++ problem) 1
    | .ok text =>
      let (skip, most) := copy.extent
      let read := text.toList.drop skip
      let read := match most with
        | some n => read.take n
        | none => read
      let octets := copy.convert read
      let summary := [(2, copy.summary read.length octets.length)]
      match copy.target with
      | none => ⟨(1, String.ofList octets) :: summary, 0, call.files⟩
      | some target =>
        let path := call.path target
        let old := (call.files.read? path).getD []
        let seek := copy.seek * (if copy.byOctets.contains "seek_bytes" then 1 else copy.outSize)
        let bytes := Octets.toBytes (String.ofList octets)
        let tail :=
          if copy.conversions.contains "notrunc" then old.drop (seek + bytes.length) else []
        let new := old.take seek ++ List.replicate (seek - old.length) 0 ++ bytes ++ tail
        match call.files.writeWith (call.allowed 0o666) path new with
        | some files => ⟨summary, 0, files⟩
        | none => call.complains ("failed to open " ++ inQuotes target ++ ": " ++
            call.makingProblem call.files target) 1

end RenderSync.Shell.Call
