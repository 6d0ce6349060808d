import RenderSync.Shell.Format
import RenderSync.Shell.Utility.Basic

/-!
# Modes

Permission bits as they are written and shown: octal digits, or clauses such as `u+x`.
-/

namespace RenderSync.Shell.Call

/-- The bits of a mode that a mask leaves. -/
def unmasked (mode mask : Nat) : Nat := mode - (mode &&& mask)

/-- The bits of a mode for everybody that letters stand for. -/
def permissionBits (old : Nat) (isDirectory : Bool) (letters : List Char) : Nat :=
  letters.foldl (fun bits letter =>
    bits ||| match letter with
      | 'r' => 0o444
      | 'w' => 0o222
      | 'x' => 0o111
      | 'X' => if isDirectory || old &&& 0o111 ≠ 0 then 0o111 else 0
      | 's' => 0o6000
      | 't' => 0o1000
      | 'u' => old / 64 % 8 * 0o111
      | 'g' => old / 8 % 8 * 0o111
      | 'o' => old % 8 * 0o111
      | _ => 0) 0

/-- The bits that belong to some of those who use a file. -/
def userBits (who : List Char) : Nat :=
  who.foldl (fun bits c => bits ||| match c with
    | 'u' => 0o4700
    | 'g' => 0o2070
    | 'o' => 0o1007
    | _ => 0o7777) 0

/-- The changes of a clause behind those who it is for; `fuel` bounds them. -/
def changesOf (mask users : Nat) (isDirectory : Bool) : (fuel : Nat) → (old : Nat) → List Char →
    Option Nat
  | 0, _, _ => none
  | _, old, [] => some old
  | fuel + 1, old, sign :: rest =>
    let (letters, rest) := rest.span fun c => !"+-=".toList.contains c
    let isCopy := letters.length = 1 && letters.all "ugo".toList.contains
    if !(isCopy || letters.all "rwxXst".toList.contains) then none
    else
      let bits := unmasked (permissionBits old isDirectory letters &&& users) mask
      let kept := if isDirectory then 0o6000 else 0
      let new := match sign with
        | '+' => some (old ||| bits)
        | '-' => some (unmasked old bits)
        | '=' => some (unmasked old (unmasked users kept) ||| bits)
        | _ => none
      new.bind fun new => changesOf mask users isDirectory fuel new rest

/-- A mode changed by a clause such as `u+x`; `none` for a clause that makes no sense. -/
def modeAfter (mask : Nat) (isDirectory : Bool) (old : Nat) (clause : List Char) : Option Nat :=
  let (who, rest) := clause.span fun c => "ugoa".toList.contains c
  if rest = [] then none
  else
    let (users, mask) := if who = [] then (0o7777, mask) else (userBits who, 0)
    changesOf mask users isDirectory (rest.length + 1) old rest

/-- A mode changed as a text says; the mask counts where nobody is named. -/
def modeOf? (mask : Nat) (isDirectory : Bool) (old : Nat) (text : String) : Option Nat :=
  match Digits.toNat? 8 text.toList with
  | some mode =>
    let kept := if isDirectory && text.length < 5 then old &&& 0o6000 else 0
    if mode ≤ 0o7777 then some (mode ||| kept) else none
  | none =>
    if text.toList.head?.any Digits.isDecimal then none
    else (Text.splitAt ',' text.toList).foldlM (modeAfter mask isDirectory) old

/-- The letter for the kind of an entry. -/
def kindLetter : Entry → Char
  | .file .. => '-'
  | .directory _ => 'd'
  | .link _ => 'l'
  | .pipe _ => 'p'
  | .device .. => 'c'

/-- Permission bits as letters. -/
def modeLetters (mode : Nat) : String :=
  let three (bits : Nat) (special : Bool) (with_ without : Char) : List Char :=
    [if bits &&& 4 ≠ 0 then 'r' else '-', if bits &&& 2 ≠ 0 then 'w' else '-',
      match special, decide (bits &&& 1 ≠ 0) with
      | true, true => with_
      | true, false => without
      | false, true => 'x'
      | false, false => '-']
  String.ofList (three (mode / 64 % 8) (mode &&& 0o4000 ≠ 0) 's' 'S' ++
    three (mode / 8 % 8) (mode &&& 0o2000 ≠ 0) 's' 'S' ++
    three (mode % 8) (mode &&& 0o1000 ≠ 0) 't' 'T')

/-- A mode in octal digits. -/
def octalMode (width mode : Nat) : String :=
  let digits := Format.Directive.digitsIn 8 8 mode
  String.ofList (List.replicate (width - digits.length) '0' ++ digits)

/-- Changes the mode of what is at a place; what is said about that. -/
def changeMode (call : Call) (options : Options) (text : String) (files : FileTree)
    (place : Place) (shown : String) : String × FileTree :=
  match files.entryAt? place with
  | none | some (.link _) => ("", files)
  | some entry =>
    let old := entry.mode
    match modeOf? call.creationMask entry.isDirectory old text with
    | none => ("", files)
    | some mode =>
      let files := if place = [] then files else files.put place (entry.withMode mode)
      let words (mode : Nat) : String := octalMode 4 mode ++ " (" ++ modeLetters mode ++ ")"
      let said :=
        if mode ≠ old && options.hasAny "vc" then
          "mode of " ++ inQuotes shown ++ " changed from " ++ words old ++ " to " ++ words mode ++
            "\n"
        else if mode = old && options.has 'v' then
          "mode of " ++ inQuotes shown ++ " retained as " ++ words mode ++ "\n"
        else ""
      (said, files)

/-- Places at and below a place, with how they are shown; a directory comes before its entries. -/
def placesBelow (files : FileTree) : (fuel : Nat) → (place : Place) → (shown : String) →
    List (Place × String)
  | 0, _, _ => []
  | fuel + 1, place, shown =>
    let below := if files.isDirectoryAt place then files.namesBelow place else []
    (place, shown) :: below.flatMap fun name =>
      placesBelow files fuel (place ++ [name])
        ((if shown.toList.getLast? = some '/' then shown else shown ++ "/") ++ Octets.ofString name)

/-- More than the depth of any tree of files. -/
def deepest (files : FileTree) : Nat :=
  (files.entries.map fun entry => entry.1.length).foldl max 1 + 1

/-- A word that is a mode although it looks like options. -/
def isModeWord (word : String) : Bool :=
  match word.toList with
  | '-' :: c :: _ => "rwxXstugo".toList.contains c
  | _ => false

/-- Changes modes. -/
def changeModes (call : Call) : Deed :=
  let first := call.arguments.find? fun word => word = "--" || isModeWord word
  let arguments := match first with
    | some word => if word = "--" then call.arguments
      else
        let others := call.arguments.filter (· ≠ word)
        others.takeWhile (fun w => w.toList.head? = some '-') ++
          "--" :: word :: others.dropWhile fun w => w.toList.head? = some '-'
    | none => call.arguments
  { call with arguments }.withGrammar ⟨"Rcvf", "ρ", "", [("recursive", 'R'), ("changes", 'c'),
      ("verbose", 'v'), ("silent", 'f'), ("quiet", 'f'), ("reference", 'ρ')], false⟩ 1
      fun options =>
    let reference := (options.value? 'ρ').bind fun name =>
      (call.files.mode? (call.path name)).map (octalMode 4)
    let (mode, operands) := match reference with
      | some mode => (some mode, options.operands)
      | none => (options.operands.head?, options.operands.tail)
    match mode, operands with
    | none, _ => call.misused "missing operand" 1
    | some mode, [] => call.misused ("missing operand after " ++ curly mode) 1
    | some text, operands =>
      if (modeOf? call.creationMask false 0 text).isNone then
        call.misused ("invalid mode: " ++ curly text) 1
      else call.forEach operands fun files operand =>
        match files.find? (call.path operand), files.locate? (call.path operand) with
        | some _, some place =>
          let places := if options.has 'R' then placesBelow files (deepest files) place operand
            else [(place, operand)]
          .ok (places.foldl (fun (said, files) (place, shown) =>
            let (more, files) := call.changeMode options text files place shown
            (said ++ more, files)) ("", files))
        | _, _ =>
          .error ("cannot access " ++ inQuotes operand ++ ": " ++
            (files.trouble (call.path operand)).message)

/-- Gives files to somebody; everything belongs to one user. -/
def changeOwners (group : Bool) (call : Call) : Deed :=
  call.withGrammar ⟨"RcvfhHLP", "ρ", "", [("recursive", 'R'), ("changes", 'c'), ("verbose", 'v'),
      ("silent", 'f'), ("quiet", 'f'), ("no-dereference", 'h'), ("reference", 'ρ')], false⟩ 1
    fun options =>
      match options.operands with
      | [] => call.misused "missing operand" 1
      | [owner] => call.misused ("missing operand after " ++ curly owner) 1
      | owner :: operands =>
        let isKnown (name : List Char) : Bool :=
          name = [] || name = "root".toList || name.all Digits.isDecimal
        let parts := Text.splitAt ':' owner.toList
        if !parts.all isKnown then
          call.complains ((if group then "invalid group: " else if parts.length > 1 &&
            isKnown (parts.headD []) then "invalid group: " else "invalid user: ") ++ curly owner) 1
        else call.forEach operands fun files operand =>
          if (files.findLink? (call.path operand)).isSome then .ok ("", files)
          else .error ("cannot access " ++ inQuotes operand ++ ": " ++
            (files.trouble (call.path operand)).message)

end RenderSync.Shell.Call
