import RenderSync.Shell.Utility.Lines
import RenderSync.Shell.Utility.Modes

/-!
# Making and taking away files

Utilities that make files of every kind, and that take them away.  What a utility does with an
operand is a change of the files that may fail for a reason.
-/

namespace RenderSync.Shell.Call

/-- Something cannot be done with an operand, because of a problem. -/
def cannot {α : Type} (act operand problem : String) : Except String α :=
  .error (act ++ " " ++ inQuotes operand ++ ": " ++ problem)

/-- The same with the quotes of print. -/
def cannotCurly {α : Type} (act operand problem : String) : Except String α :=
  .error (act ++ " " ++ curly operand ++ ": " ++ problem)

/-- Goes on with at least one operand. -/
def withOperands (call : Call) (options : Options) (act : List String → Deed) : Deed :=
  if options.operands = [] then call.misused "missing operand" 1 else act options.operands

/-- Why a file cannot be made where an operand says. -/
def makingProblem (call : Call) (files : FileTree) (operand : String) : String :=
  let path := call.path operand
  if files.isDirectory path then PathTrouble.isDirectory.message
  else if operand.toList.getLast? = some '/' && files.isDirectory ((path.parent?).getD path) then
    PathTrouble.isDirectory.message
  else (files.trouble path).message

/-- What an operand names, be it a link: its place and entry. -/
def entryOf? (call : Call) (files : FileTree) (operand : String) : Option (Place × Entry) :=
  let path := call.path operand
  let ends := operand.toList.getLast? = some '/'
  let place := if ends then files.locate? path else files.locateLink? path
  place.bind fun place => (files.entryAt? place).map (place, ·)

/-! ## 1. Making -/

/-- Makes empty files where nothing is, and says that the others have changed; `times` says
when. -/
def touchAt (call : Call) (options : Options) (moment : Int) : Deed :=
  if options.operands = [] then call.misused "missing file operand" 1
  else call.forEach options.operands fun files operand =>
    let path := call.path operand
    match files.find? path, files.locate? path with
    | some _, some place => .ok ("", files.stampAt place moment)
    | _, _ =>
      if options.hasAny "ch" then .ok ("", files)
      else
        match files.writeWith (unmasked 0o666 call.creationMask) path [] with
        | some made => .ok ("", ((files.locate? path).map fun place =>
            made.stampAt place moment).getD made)
        | none => cannot "cannot touch" operand (call.makingProblem files operand)

/-- A mode that is asked for; otherwise one that the mask leaves. -/
def wantedMode (call : Call) (options : Options) (whole : Nat) (isDirectory : Bool) :
    Option Nat :=
  match options.value? 'm' with
  | none => some (call.allowed whole)
  | some text => modeOf? call.creationMask isDirectory whole text

/-- Makes a directory, and those above it if told to. -/
def makeDirectory (call : Call) (options : Options) (mode : Nat) (files : FileTree)
    (operand : String) : Except String (String × FileTree) :=
  let path := call.path operand
  let said (name : String) : String :=
    if options.has 'v' then call.name ++ ": created directory " ++ inQuotes name ++ "\n" else ""
  let make (files : FileTree) (path : Path) (mode : Nat) : Option FileTree :=
    (files.makeDirectory path).bind fun made => made.setMode path mode
  if !options.has 'p' then
    match make files path mode with
    | some made => .ok (said operand, made)
    | none => cannotCurly "cannot create directory" operand
        (if (files.findLink? path).isSome then PathTrouble.exists_.message
          else (files.trouble path).message)
  else
    let pieces := Text.splitAt '/' operand.toList
    let prefixes := (List.range pieces.length).map fun n =>
      String.ofList (['/'].intercalate (pieces.take (n + 1)))
    let last := operand
    let steps :=
      (prefixes.filter fun text => text ≠ "" && text.toList.getLast? ≠ some '/').eraseDups
    (steps.foldlM (fun (shown, files) name =>
      if files.isDirectory (call.path name) then .ok (shown, files)
      else
        let mode := if name = last || name ++ "/" = last then mode else call.allowed 0o777
        match make files (call.path name) mode with
        | some made => .ok (shown ++ said name, made)
        | none => cannotCurly "cannot create directory" name
            (if (files.find? (call.path name)).isSome then
              (if name = last then PathTrouble.exists_ else .notDirectory).message
              else if (files.findLink? (call.path name)).isSome then PathTrouble.exists_.message
              else (files.trouble (call.path name)).message)) ("", files))

/-- Makes directories. -/
def makeDirectories (call : Call) (options : Options) : Deed :=
  call.withOperands options fun operands =>
    match call.wantedMode options 0o777 true with
    | none => call.complains ("invalid mode " ++ curly ((options.value? 'm').getD "")) 1
    | some mode => call.forEach operands (call.makeDirectory options mode)

/-- Makes something that nothing may stand in the way of. -/
def makeEntry (call : Call) (files : FileTree) (operand : String) (entry : Entry) :
    Except PathTrouble FileTree :=
  let path := call.path operand
  match files.locateLink? path with
  | none => .error (files.trouble path)
  | some place =>
    if (files.entryAt? place).isSome then .error .exists_
    else if !files.isDirectoryAt place.dropLast then .error (files.trouble path)
    else .ok ((files.put place entry).stamp place)

/-- Makes pipes with names. -/
def makePipes (call : Call) (options : Options) : Deed :=
  call.withOperands options fun operands =>
    match call.wantedMode options 0o666 false with
    | none => call.complains "invalid mode" 1
    | some mode => call.forEach operands fun files operand =>
      match call.makeEntry files operand (.pipe mode) with
      | .ok files => .ok ("", files)
      | .error trouble => cannot "cannot create fifo" operand trouble.message

/-- Makes a file of a special kind. -/
def makeSpecial (call : Call) (options : Options) : Deed :=
  match options.operands with
  | [name, "p"] => call.makePipes { options with operands := [name] }
  | name :: _ :: _ => call.complains (inQuotes name ++ ": Operation not permitted") 1
  | [name] => call.misused ("missing operand after " ++ curly name) 1
  | [] => call.misused "missing operand" 1

/-- A name of which nobody has one yet: the places of `X` filled with letters. -/
def freshName (taken : String → Bool) (number : Nat) (front : String) (count : Nat)
    (ending : String) : String :=
  let letters := "abcdefghijklmnopqrstuvwxyzABCDEFGHIJKLMNOPQRSTUVWXYZ0123456789".toList
  let name (n : Nat) : String :=
    front ++ String.ofList ((List.range count).map fun k =>
      (letters[(n + 7 * k + n / Nat.pow 62 k) % 62]?).getD 'a') ++ ending
  (((List.range 1000).map fun n => name (number + n)).find? fun name => !taken name).getD
    (name number)

/-- Makes a file or a directory that did not exist before, and prints its name. -/
def makeTemporary (call : Call) (options : Options) : Deed :=
  match options.operands with
  | _ :: _ :: _ => call.misused "too many templates" 1
  | operands =>
    let shared := (call.environment.lookup "TMPDIR").getD "/tmp"
    let shared := if shared = "" then "/tmp" else shared
    let template := operands.headD "tmp.XXXXXXXXXX"
    let directory := match options.value? 'p' with
      | some "" => some shared
      | some text => some text
      | none => if operands = [] || options.has 't' then some shared else none
    let ending := options.value? 'S'
    let (body, tail) : List Char × List Char := match ending with
      | some text => (template.toList, text.toList)
      | none =>
        let back := template.toList.reverse
        ((back.dropWhile (· ≠ 'X')).reverse, (back.takeWhile (· ≠ 'X')).reverse)
    let front := (body.reverse.dropWhile (· = 'X')).reverse
    let count := body.length - front.length
    let whole (text : String) : String := match directory with
      | some directory => if directory.toList.getLast? = some '/' then directory ++ text
          else directory ++ "/" ++ text
      | none => text
    let silent (deed : Deed) : Deed := if options.has 'q' then { deed with said := [] } else deed
    if count < 3 then
      silent (call.complains ("too few X's in template " ++ curly template) 1)
    else if options.has 't' && template.toList.contains '/' then
      silent (call.complains ("invalid template, " ++ curly template ++
        ", contains directory separator") 1)
    else
      let taken (name : String) : Bool := (call.files.findLink? (call.path name)).isSome
      let name := freshName taken call.number (whole (String.ofList front)) count
        (String.ofList tail)
      let made := if options.has 'u' then some call.files
        else if options.has 'd' then
          (call.files.makeDirectory (call.path name)).bind fun made =>
            made.setMode (call.path name) 0o700
        else (call.files.writeWith 0o600 (call.path name) [])
      match made with
      | some files => { call.gives (name ++ "\n") with files }
      | none =>
        let act := if options.has 'd' then "failed to create directory via template "
          else "failed to create file via template "
        silent (call.complains (act ++ curly (whole template) ++ ": " ++
          (call.files.trouble (call.path name)).message) 1)

/-- Makes files longer or shorter. -/
def truncate (call : Call) (options : Options) : Deed :=
  let reference := (options.value? 'r').map fun name =>
    (call.files.read? (call.path name)).map List.length
  match options.value? 's', reference with
  | none, none =>
    call.misused ("you must specify either " ++ curly "--size" ++ " or " ++ curly "--reference") 1
  | none, some none =>
    call.complains ("cannot stat " ++ inQuotes ((options.value? 'r').getD "") ++ ": " ++
      PathTrouble.missing.message) 1
  | text, reference =>
    let text := (text.getD "").toList
    let base := (reference.bind id)
    let (sign, digits) : Char × List Char := match text with
      | c :: rest => if "+-<>/%".toList.contains c then (c, rest) else (' ', text)
      | [] => ('+', ['0'])
    match size? digits with
    | none => call.complains ("Invalid number: " ++ curly (String.ofList text)) 1
    | some n =>
      if options.operands = [] then call.misused "missing file operand" 1
      else call.forEach options.operands fun files operand =>
        let path := call.path operand
        if options.has 'c' && !files.contains path then .ok ("", files)
        else if files.isDirectory path then
          cannot "cannot open" operand PathTrouble.isDirectory.message
        else
          let old := (files.read? path).getD []
          let from_ := base.getD old.length
          let size := match sign with
            | '+' => from_ + n
            | '-' => from_ - n
            | '<' => min from_ n
            | '>' => max from_ n
            | '/' => if n = 0 then from_ else from_ / n * n
            | '%' => if n = 0 then from_ else (from_ + n - 1) / n * n
            | _ => n
          let new := old.take size ++ List.replicate (size - old.length) 0
          match files.writeWith (call.allowed 0o666) path new with
          | some files => .ok ("", files)
          | none => cannot ("cannot open") operand (call.makingProblem files operand)

/-! ## 2. Taking away -/

/-- All that is at or below a place, seen from there. -/
def subtree (tree : FileTree) (place : Place) : List (Place × Entry) :=
  tree.entries.filterMap fun (at_, entry) =>
    if place.isPrefixOf at_ then some (at_.drop place.length, entry) else none

/-- Puts entries below a place. -/
def graft (tree : FileTree) (place : Place) (entries : List (Place × Entry)) : FileTree :=
  entries.foldl (fun tree (below, entry) => tree.put (place ++ below) entry) tree

/-- Takes away all that is at or below a place. -/
def prune (tree : FileTree) (place : Place) : FileTree :=
  { tree with entries := tree.entries.filter fun entry => !place.isPrefixOf entry.1 }

/-- Takes away what an operand names. -/
def removeOne (call : Call) (options : Options) (files : FileTree) (operand : String) :
    Except String (String × FileTree) :=
  let path := call.path operand
  let whole := options.hasAny "rR"
  let verbose := options.has 'v'
  let last := FileTree.lastPiece ⟨Octets.toString operand⟩
  match call.entryOf? files operand with
  | none =>
    let trouble := files.trouble path
    if options.has 'f' && (trouble = .missing || trouble = .notDirectory) then .ok ("", files)
    else cannot "cannot remove" operand trouble.message
  | some (place, .directory _) =>
    if whole && (last = "." || last = "..") then
      .error ("refusing to remove '.' or '..' directory: skipping " ++ inQuotes operand)
    else if whole && place = [] then
      .error ("it is dangerous to operate recursively on '/'\n" ++ call.name ++
        ": use --no-preserve-root to override this failsafe")
    else if whole then
      let shown := ((placesBelow files (deepest files) place operand).map fun (place, name) =>
        (if files.isDirectoryAt place then "removed directory " else "removed ") ++
          inQuotes name ++ "\n").reverse
      .ok (if verbose then String.join shown else "", prune files place)
    else if options.has 'd' then
      if files.namesBelow place = [] then
        .ok (if verbose then "removed directory " ++ inQuotes operand ++ "\n" else "",
          files.erase place)
      else cannot "cannot remove" operand PathTrouble.notEmpty.message
    else cannot "cannot remove" operand PathTrouble.isDirectory.message
  | some (place, entry) =>
    if operand.toList.getLast? = some '/' && !entry.isDirectory then
      cannot "cannot remove" operand PathTrouble.notDirectory.message
    else .ok (if verbose then "removed " ++ inQuotes operand ++ "\n" else "", files.erase place)

/-- Takes files away, and directories if told to. -/
def remove (call : Call) (options : Options) : Deed :=
  if options.operands = [] && options.has 'f' then call.answers 0
  else call.withOperands options fun operands => call.forEach operands (call.removeOne options)

/-- Takes an empty directory away. -/
def removeDirectory (call : Call) (options : Options) (act : String) (files : FileTree)
    (operand : String) : Except String (String × FileTree) :=
  let shown := if options.has 'v' then "rmdir: removing directory, " ++ inQuotes operand ++ "\n"
    else ""
  let refused (problem : String) : Except String (String × FileTree) :=
    if options.has 'ι' && problem = PathTrouble.notEmpty.message then .ok (shown, files)
    else cannot act operand problem
  match call.entryOf? files operand with
  | some (place, .directory _) =>
    let last := FileTree.lastPiece ⟨Octets.toString operand⟩
    if last = "." then refused "Invalid argument"
    else if place = [] || files.namesBelow place ≠ [] || last = ".." then
      refused PathTrouble.notEmpty.message
    else .ok (shown, files.erase place)
  | some _ => refused PathTrouble.notDirectory.message
  | none => refused (files.trouble (call.path operand)).message

/-- A path and those above it as they are written, the longest first. -/
def pathsAbove : (fuel : Nat) → List Char → List (List Char)
  | 0, _ => []
  | fuel + 1, text =>
    let text := (text.reverse.dropWhile (· = '/')).reverse
    let above := ((text.reverse.dropWhile (· ≠ '/')).dropWhile (· = '/')).reverse
    if text = [] then [] else text :: pathsAbove fuel above

/-- Takes empty directories away. -/
def removeDirectories (call : Call) (options : Options) : Deed :=
  call.withOperands options fun operands =>
    operands.foldl (fun deed operand =>
      let names := if options.has 'p' then
          (pathsAbove (operand.length + 1) operand.toList).map String.ofList
        else [operand]
      (names.foldl (fun (deed, goesOn) name =>
        if !goesOn then (deed, false)
        else
          let act := if name = names.headD "" then "failed to remove" else
            "failed to remove directory"
          match call.removeDirectory options act deed.files name with
          | .ok (shown, files) => ({ deed with said := deed.said ++ [(1, shown)], files }, true)
          | .error message =>
            ({ deed with said := deed.said ++ [call.complaint message], status := 1 }, false))
        (deed, true)).1) (call.answers 0)

/-- Takes one file away. -/
def unlink (call : Call) (options : Options) : Deed :=
  match options.operands with
  | [] => call.misused "missing operand" 1
  | [operand] =>
    match call.files.remove (call.path operand) with
    | some files => ⟨[], 0, files⟩
    | none =>
      let problem := if call.files.isDirectory (call.path operand) then
          PathTrouble.isDirectory.message
        else (call.files.trouble (call.path operand)).message
      call.complains ("cannot unlink " ++ inQuotes operand ++ ": " ++ problem) 1
  | _ :: extra :: _ => call.misused ("extra operand " ++ curly extra) 1

end RenderSync.Shell.Call
