import RenderSync.Files.Trouble
import RenderSync.Shell.Expansion
import RenderSync.Shell.System

/-!
# Redirections

A redirection lets a descriptor lead to another stream.  What the descriptor led to before is put
aside under a descriptor of its own, so that `putBack` can restore everything when the command is
done.
-/

namespace RenderSync.Shell

/-- A redirection whose target is known. -/
structure Lead where
  descriptor : Nat
  direction : Direction
  /-- A path, a descriptor, or the text of a document. -/
  target : String
deriving Inhabited

/-- Descriptors, with those under which their streams were put aside. -/
abbrev Saved := List (Nat × Option Nat)

/-! ## 1. Targets -/

/-- The descriptor that a device stands for. -/
def descriptorOf? : Place → Option Nat
  | ["dev", "stdin"] => some 0
  | ["dev", "stdout"] => some 1
  | ["dev", "stderr"] => some 2
  | ["dev", "fd", text] => Digits.toNat? 10 text.toList
  | _ => none

/-- The place that a path leads to, or that it spells if it leads nowhere. -/
def placeNamed (files : FileTree) (path : Path) : Place :=
  (files.locate? path).getD (path.pieces.filter (· ≠ ""))

/-- Why a path cannot be opened, in the words of a plain shell. -/
def problemAt (files : FileTree) (path : Path) (creating : Bool) : String :=
  if files.isDirectory path then "Is a directory"
  else if FileTree.isTooLong path ||
      path.pieces.any fun piece => FileTree.longestName < Utf8.size piece.toList then
    "File name too long"
  else if creating then "Directory nonexistent"
  else "No such file"

/-- What is said about a path that cannot be opened. -/
def cannotOpen (isRich : Bool) (files : FileTree) (text : String) (path : Path) (creating : Bool) :
    String :=
  if isRich then
    text ++ ": " ++ (if files.isDirectory path then PathTrouble.isDirectory else
      files.trouble path).message
  else
    "cannot " ++ (if creating then "create " else "open ") ++ text ++ ": " ++
      problemAt files path creating

namespace Turn

/-- Opens a path to read or to write; `creating` says that it may be new, and `prepare` what
becomes of it first. -/
def openPath (text : String) (reads creating : Bool)
    (prepare : FileTree → Path → Option (FileTree × Bool)) (turn : Turn) :
    Except String (Nat × Turn) :=
  let path := pathFrom turn.me.here text
  let place := placeNamed turn.files path
  match turn.files.get? place, descriptorOf? place with
  | some (.device _ device), _ => .ok (turn.openStream (.device device))
  | some (.pipe _), _ => .ok (turn.openNamed place reads creating)
  | _, some descriptor =>
      match turn.me.stream? descriptor with
      | some stream => .ok (stream, turn)
      | none => .error (cannotOpen turn.me.isRich turn.files text path false)
  | _, none =>
      match prepare turn.files path with
      | some (files, appends) =>
        .ok ({ turn with files }.openStream (.file place 0 appends))
      | none =>
        .error (cannotOpen turn.me.isRich turn.files text path creating)

/-- Opens the target of a redirection; `none` stands for a descriptor that is to be closed. -/
def openTarget (lead : Lead) (turn : Turn) : Except String (Option Nat × Turn) :=
  let mode := 0o666 - (0o666 &&& turn.me.creationMask)
  let some_ (opened : Except String (Nat × Turn)) : Except String (Option Nat × Turn) :=
    opened.map fun (stream, turn) => (some stream, turn)
  let whole : Except String (Option Nat × Turn) :=
    some_ (turn.openPath lead.target false true fun files path =>
      (files.writeWith mode path []).map (·, false))
  match lead.direction with
  | .duplicate =>
    match lead.target.toList with
    | ['-'] => .ok (none, turn)
    | digits =>
      match Digits.toNat? 10 digits with
      | some descriptor =>
        match turn.me.stream? descriptor with
        | some stream => .ok (some stream, turn)
        | none => .error (lead.target ++ ": Bad file descriptor")
      | none => .error (if turn.me.isRich then lead.target ++ ": ambiguous redirect"
          else "Syntax error: Bad fd number")
  | .document _ => some_ (.ok (turn.openStream (.document (Octets.toBytes lead.target))))
  | .text => some_ (.ok (turn.openStream (.document (Octets.toBytes (lead.target ++ "\n")))))
  | .read =>
    some_ (turn.openPath lead.target true false fun files path =>
      if files.contains path then some (files, false) else none)
  | .both =>
    some_ (turn.openPath lead.target true true fun files path =>
      match files.read? path with
      | some _ => some (files, false)
      | none => (files.writeWith mode path []).map (·, false))
  | .append =>
    some_ (turn.openPath lead.target false true fun files path =>
      match files.read? path with
      | some _ => some (files, true)
      | none => (files.writeWith mode path []).map (·, true))
  | .force => whole
  | .write =>
    let path := pathFrom turn.me.here lead.target
    let isOrdinary := match turn.files.find? path with
      | some (.file ..) => true
      | _ => false
    if turn.me.hasOption 'C' && isOrdinary then
      .error (if turn.me.isRich then lead.target ++ ": cannot overwrite existing file"
        else "cannot create " ++ lead.target ++ ": File exists")
    else whole

/-! ## 2. Leading and putting back -/

/-- Lets descriptors lead to other streams.  `saved` are those that were put aside already; the
message says what could not be opened. -/
def redirect : List Lead → Saved → Turn → Option String × Saved × Turn
  | [], saved, turn => (none, saved, turn)
  | lead :: rest, saved, turn =>
    match turn.openTarget lead with
    | .error message => (some message, saved, turn)
    | .ok (stream, turn) =>
      let (saved, turn) : Saved × Turn :=
        if saved.any (·.1 = lead.descriptor) then (saved, turn)
        else
          match turn.me.stream? lead.descriptor with
          | none => ((lead.descriptor, none) :: saved, turn)
          | some old =>
            let aside := turn.me.asideFor
            ((lead.descriptor, some aside) :: saved, turn.mine (·.lead aside old))
      let turn := turn.mine fun me =>
        match stream with
        | some stream => me.lead lead.descriptor stream
        | none => me.close lead.descriptor
      redirect rest saved turn

end Turn

/-- Puts back what was put aside. -/
def Process.putBack (saved : Saved) (process : Process) : Process :=
  saved.foldl (fun process (descriptor, aside) =>
    match aside.bind fun aside => process.stream? aside with
    | some stream => (process.lead descriptor stream).close (aside.getD descriptor)
    | none => process.close descriptor) process

/-- Forgets what was put aside. -/
def Process.forgetSaved (saved : Saved) (process : Process) : Process :=
  saved.foldl (fun process (_, aside) =>
    match aside with
    | some aside => process.close aside
    | none => process) process

end RenderSync.Shell
