import RenderSync.Text.Blank

/-!
# Options

The arguments of a program are options and operands.  Options are letters, several of which may
share a word, or long names, which may be cut short as long as it stays clear which one is meant; a
`Grammar` says which there are and which of them have values.  Every long name stands for a letter,
be it one that nobody can type.
-/

namespace RenderSync.Shell

/-- The options of a program. -/
structure Grammar where
  /-- Letters of options without a value. -/
  plain : String
  /-- Letters of options that want a value. -/
  valued : String := ""
  /-- Letters of options whose value is in the same word or missing. -/
  attached : String := ""
  /-- Long names, and the letters that they stand for. -/
  long : List (String × Char) := []
  /-- The first operand ends the options. -/
  stops : Bool := false

/-- Options with their values, and operands. -/
structure Options where
  chosen : List (Char × String)
  operands : List String
deriving Inhabited

namespace Options

/-- An option is on. -/
def has (options : Options) (letter : Char) : Bool := options.chosen.any (·.1 = letter)

/-- One of some options is on. -/
def hasAny (options : Options) (letters : String) : Bool := letters.toList.any options.has

/-- The last value of an option. -/
def value? (options : Options) (letter : Char) : Option String :=
  (options.chosen.reverse.find? (·.1 = letter)).map Prod.snd

/-- All values of an option. -/
def values (options : Options) (letter : Char) : List String :=
  (options.chosen.filter (·.1 = letter)).map Prod.snd

/-- The last of some options that is on. -/
def last? (options : Options) (letters : String) : Option Char :=
  (options.chosen.reverse.find? fun entry => letters.toList.contains entry.1).map Prod.fst

end Options

namespace Grammar

/-- The options in a word behind its dash; the last of them may want the next word as its value. -/
def cluster (grammar : Grammar) : List Char → Except String (List (Char × String) × Option Char)
  | [] => .ok ([], none)
  | letter :: rest =>
    if grammar.valued.toList.contains letter then
      if rest = [] then .ok ([], some letter) else .ok ([(letter, String.ofList rest)], none)
    else if grammar.attached.toList.contains letter then
      .ok ([(letter, String.ofList rest)], none)
    else if grammar.plain.toList.contains letter then do
      let (chosen, wanting) ← grammar.cluster rest
      return ((letter, "") :: chosen, wanting)
    else .error ("invalid option -- '" ++ letter.toString ++ "'")

/-- The option that a long name stands for, which may be cut short. -/
def longOption (grammar : Grammar) (name : String) : Except String (String × Char) :=
  match grammar.long.find? (·.1 = name) with
  | some found => .ok found
  | none =>
    match grammar.long.filter fun entry => name.toList.isPrefixOf entry.1.toList with
    | [] => .error ("unrecognized option '--" ++ name ++ "'")
    | found :: others =>
      if others.all (·.2 = found.2) then .ok found
      else .error ("option '--" ++ name ++ "' is ambiguous; possibilities:" ++
        String.join ((found :: others).map fun entry => " '--" ++ entry.1 ++ "'"))

/-- What a word with a long name chooses; it may want the next word as its value. -/
def longWord (grammar : Grammar) (text : List Char) :
    Except String (Option (Char × String) × Option (String × Char)) := do
  let (name, rest) := text.span (· ≠ '=')
  let value := rest.head?.map fun _ => String.ofList rest.tail
  let shown := String.ofList name
  let (name, letter) ← grammar.longOption shown
  if grammar.valued.toList.contains letter then
    match value with
    | some value => return (some (letter, value), none)
    | none => return (none, some (name, letter))
  else if grammar.attached.toList.contains letter then
    return (some (letter, value.getD ""), none)
  else if value.isSome then throw ("option '--" ++ name ++ "' doesn't allow an argument")
  else return (some (letter, ""), none)

/-- Options and operands in any order; behind two dashes there are only operands. -/
def split (grammar : Grammar) : List String → Except String Options
  | [] => .ok ⟨[], []⟩
  | word :: rest =>
    let withMore (chosen : List (Char × String)) (rest : Except String Options) :
        Except String Options :=
      rest.map fun options => { options with chosen := chosen ++ options.chosen }
    match word.toList with
    | ['-', '-'] => .ok ⟨[], rest⟩
    | '-' :: '-' :: text =>
      match grammar.longWord text, rest with
      | .error message, _ => .error message
      | .ok (chosen, none), rest => withMore chosen.toList (grammar.split rest)
      | .ok (_, some (_, letter)), value :: rest => withMore [(letter, value)] (grammar.split rest)
      | .ok (_, some (name, _)), [] => .error ("option '--" ++ name ++ "' requires an argument")
    | '-' :: c :: letters =>
      match grammar.cluster (c :: letters), rest with
      | .error message, _ => .error message
      | .ok (chosen, none), rest => withMore chosen (grammar.split rest)
      | .ok (chosen, some letter), value :: rest =>
        withMore (chosen ++ [(letter, value)]) (grammar.split rest)
      | .ok (_, some letter), [] =>
        .error ("option requires an argument -- '" ++ letter.toString ++ "'")
    | _ =>
      if grammar.stops then .ok ⟨[], word :: rest⟩
      else (grammar.split rest).map fun options =>
        { options with operands := word :: options.operands }

end Grammar

end RenderSync.Shell
