import RenderSync.Process.Program
import RenderSync.Shell.Utility.Batches
import RenderSync.Shell.Utility.Columns
import RenderSync.Shell.Utility.Compare
import RenderSync.Shell.Utility.Dates
import RenderSync.Shell.Utility.Digest
import RenderSync.Shell.Utility.Dump
import RenderSync.Shell.Utility.Edit
import RenderSync.Shell.Utility.Exchange
import RenderSync.Shell.Utility.Find
import RenderSync.Shell.Utility.Listing
import RenderSync.Shell.Utility.Order
import RenderSync.Shell.Utility.Records
import RenderSync.Shell.Utility.Search
import RenderSync.Shell.Utility.Transfer
import RenderSync.Shell.Utility.Values

/-!
# The utilities of the system

Every utility by its name, with the options that it has, the operands whose contents it reads, and
how much of these is enough.  Long names of options that have no letter stand for Greek ones.

Programs that take time, or in whose place other programs run, are no utilities: `programs` names
these, too.
-/

namespace RenderSync.Shell

/-- A utility with what has to be known before it can do its work. -/
structure Tool where
  name : String
  /-- The operands among these arguments whose contents it reads; a dash is the input. -/
  reads : List String → List String
  /-- What was read so far is enough. -/
  enough : Call → Bool
  act : Utility

namespace Tool

/-- Options and operands, or none if they make no sense. -/
def optionsOf (grammar : Grammar) (arguments : List String) : Options :=
  match grammar.split arguments with
  | .ok options => options
  | .error _ => ⟨[], []⟩

/-- A utility whose options have a grammar; `status` says that they make no sense. -/
def of (name : String) (grammar : Grammar) (status : Nat) (act : Call → Options → Deed) : Tool :=
  ⟨name, fun _ => [], fun _ => false, fun call =>
    (call.withGrammar grammar status (act call)).course⟩

/-- A utility that reads all of its operands but some, or its input if there are none. -/
def filter (name : String) (grammar : Grammar) (status : Nat) (act : Call → Options → Deed)
    (leading : Options → Nat := fun _ => 0) : Tool :=
  { of name grammar status act with
    reads := fun arguments =>
      match grammar.split arguments with
      | .ok options => Call.orInput (options.operands.drop (leading options))
      | .error _ => [] }

/-- A utility that reads operands that depend on its options. -/
def reader (name : String) (grammar : Grammar) (status : Nat) (act : Call → Options → Deed)
    (reads : Options → List String) : Tool :=
  { of name grammar status act with
    reads := fun arguments =>
      match grammar.split arguments with
      | .ok options => reads options
      | .error _ => [] }

/-- A utility that does everything by itself. -/
def plain (name : String) (act : Call → Deed) (reads : List String → List String := fun _ => []) :
    Tool := ⟨name, reads, fun _ => false, fun call => (act call).course⟩

/-- The same utility, which may have read enough before the end. -/
def whenEnough (enough : Call → Bool) (tool : Tool) : Tool := { tool with enough }

/-- The same utility, whose arguments are changed first. -/
def after (change : List String → List String) (tool : Tool) : Tool :=
  { tool with
    reads := fun arguments => tool.reads (change arguments)
    enough := fun call => tool.enough { call with arguments := change call.arguments }
    act := fun call => tool.act { call with arguments := change call.arguments } }

end Tool

namespace Utility

/-! ## 1. Grammars -/

/-- A word such as `-5` as the value of an option. -/
def numbered? (option word : String) : Option (List String) :=
  match word.toList with
  | '-' :: digits =>
    if digits ≠ [] && digits.all Digits.isDecimal then some [option, String.ofList digits] else none
  | _ => none

/-- A number behind a dash in front of all arguments as the value of an option. -/
def numberFirst (option : String) : List String → List String
  | [] => []
  | word :: rest => ((numbered? option word).getD [word]) ++ rest

/-- Numbers behind dashes among the options as values of an option; a word behind one of some
options is its value. -/
def numberAmong (option : String) (valued : List String) : List String → List String
  | [] => []
  | word :: rest =>
    if word = "--" then word :: rest
    else if valued.contains word then
      match rest with
      | value :: rest => word :: value :: numberAmong option valued rest
      | [] => [word]
    else ((numbered? option word).getD [word]) ++ numberAmong option valued rest

/-- The options of the utilities that print the first lines, and the last ones. -/
def headGrammar : Grammar :=
  ⟨"qvz", "nc", "", [("bytes", 'c'), ("lines", 'n'), ("quiet", 'q'), ("silent", 'q'),
    ("verbose", 'v'), ("zero-terminated", 'z')], false⟩

/-- The options of the utility that prints the last lines. -/
def tailGrammar : Grammar :=
  ⟨"qvzfFρ", "ncsπμ", "φ", [("bytes", 'c'), ("lines", 'n'), ("quiet", 'q'), ("silent", 'q'),
    ("verbose", 'v'), ("zero-terminated", 'z'), ("follow", 'φ'), ("retry", 'ρ'),
    ("sleep-interval", 's'), ("pid", 'π'), ("max-unchanged-stats", 'μ')], false⟩

/-- The options of the utility that copies its input. -/
def teeGrammar : Grammar :=
  ⟨"aip", "", "ε", [("append", 'a'), ("ignore-interrupts", 'i'), ("output-error", 'ε')], false⟩

/-- The options of the utility that joins texts. -/
def catGrammar : Grammar :=
  ⟨"AbeEnstTuv", "", "", [("show-all", 'A'), ("number-nonblank", 'b'), ("show-ends", 'E'),
    ("number", 'n'), ("squeeze-blank", 's'), ("show-tabs", 'T'), ("show-nonprinting", 'v')],
    false⟩

/-- The options of the utility that looks for lines. -/
def searchGrammar : Grammar :=
  ⟨"EFGPivyclLqsnHhoabxwzrRUTZIuνγ", "efmABCdDιεδλβσξ", "κ",
    [("extended-regexp", 'E'), ("fixed-strings", 'F'), ("basic-regexp", 'G'), ("perl-regexp", 'P'),
      ("regexp", 'e'), ("file", 'f'), ("ignore-case", 'i'), ("no-ignore-case", 'ν'),
      ("word-regexp", 'w'), ("line-regexp", 'x'), ("null-data", 'z'), ("no-messages", 's'),
      ("invert-match", 'v'), ("max-count", 'm'), ("byte-offset", 'b'), ("line-number", 'n'),
      ("line-buffered", 'u'), ("with-filename", 'H'), ("no-filename", 'h'), ("label", 'λ'),
      ("only-matching", 'o'), ("quiet", 'q'), ("silent", 'q'), ("binary-files", 'β'),
      ("text", 'a'), ("directories", 'd'), ("devices", 'D'), ("recursive", 'r'),
      ("dereference-recursive", 'R'), ("include", 'ι'), ("exclude", 'ε'), ("exclude-from", 'ξ'),
      ("exclude-dir", 'δ'), ("files-without-match", 'L'), ("files-with-matches", 'l'),
      ("count", 'c'), ("initial-tab", 'T'), ("null", 'Z'), ("before-context", 'B'),
      ("after-context", 'A'), ("context", 'C'), ("group-separator", 'σ'),
      ("no-group-separator", 'γ'), ("color", 'κ'), ("colour", 'κ'), ("binary", 'U')], false⟩

/-- The options of the utility that edits lines. -/
def editGrammar : Grammar :=
  ⟨"nErsuzπσδφη", "efl", "i", [("quiet", 'n'), ("silent", 'n'), ("expression", 'e'), ("file", 'f'),
    ("regexp-extended", 'E'), ("in-place", 'i'), ("line-length", 'l'), ("separate", 's'),
    ("unbuffered", 'u'), ("null-data", 'z'), ("zero-terminated", 'z'), ("posix", 'π'),
    ("sandbox", 'σ'), ("debug", 'δ'), ("follow-symlinks", 'φ'), ("help", 'η')], false⟩

/-- The options of the utility that puts lines in order. -/
def sortGrammar : Grammar :=
  ⟨"bdfghiMnRrVsumzcCδ", "kotSTπβρφ", "χσ", [("ignore-leading-blanks", 'b'),
    ("dictionary-order", 'd'), ("ignore-case", 'f'), ("general-numeric-sort", 'g'),
    ("human-numeric-sort", 'h'), ("ignore-nonprinting", 'i'), ("month-sort", 'M'),
    ("numeric-sort", 'n'), ("random-sort", 'R'), ("reverse", 'r'), ("version-sort", 'V'),
    ("stable", 's'), ("unique", 'u'), ("merge", 'm'), ("zero-terminated", 'z'), ("check", 'χ'),
    ("sort", 'σ'), ("key", 'k'), ("output", 'o'), ("field-separator", 't'), ("buffer-size", 'S'),
    ("temporary-directory", 'T'), ("parallel", 'π'), ("batch-size", 'β'), ("random-source", 'ρ'),
    ("files0-from", 'φ'), ("debug", 'δ')], false⟩

/-- The letters for the kinds of order that have names. -/
def orderNames : List (String × Char) :=
  [("general-numeric", 'g'), ("human-numeric", 'h'), ("month", 'M'), ("numeric", 'n'),
    ("random", 'R'), ("version", 'V')]

/-- Options of an order with letters for what has names. -/
def orderOptions (options : Options) : Options :=
  { options with
    chosen := options.chosen.map fun (letter, value) =>
      if letter = 'χ' then
        (if value = "quiet" || value = "silent" then ('C', "") else ('c', ""))
      else if letter = 'σ' then ((orderNames.lookup value).getD 'σ', "")
      else (letter, value) }

/-- The options of the utilities that copy, move, link and install files. -/
def transferNames : List (String × Char) :=
  [("archive", 'a'), ("attributes-only", 'α'), ("backup", 'β'), ("copy-contents", 'κ'),
    ("force", 'f'), ("interactive", 'i'), ("link", 'l'), ("dereference", 'L'),
    ("no-clobber", 'n'), ("no-dereference", 'P'), ("preserve", 'π'), ("no-preserve", 'ν'),
    ("parents", 'ρ'), ("recursive", 'R'), ("reflink", 'φ'), ("remove-destination", 'δ'),
    ("sparse", 'σ'), ("strip-trailing-slashes", 'τ'), ("symbolic-link", 's'), ("suffix", 'S'),
    ("target-directory", 't'), ("no-target-directory", 'T'), ("update", 'υ'), ("verbose", 'v'),
    ("one-file-system", 'x')]

/-- Options of a transfer with letters for what has names. -/
def transferOptions (options : Options) : Options :=
  { options with
    chosen := options.chosen.flatMap fun (letter, value) =>
      if letter = 'β' then (if value = "none" || value = "off" then [] else [('b', "")])
      else if letter = 'π' then [('p', "")]
      else if letter = 'δ' then [('f', "")]
      else if letter = 'υ' then
        (if value = "none" then [('n', "")] else if value = "all" then [] else [('u', "")])
      else [(letter, value)] }

/-- The options of the utility that lists directories. -/
def listGrammar : Grammar :=
  ⟨"aAbBcCdDfFgGhHiklLmnNopqQrRsStuUvxXZ1δφσ", "wTIητβψ", "κχ",
    [("all", 'a'), ("almost-all", 'A'), ("escape", 'b'), ("ignore-backups", 'B'),
      ("directory", 'd'), ("classify", 'χ'), ("file-type", 'φ'), ("format", 'ψ'),
      ("group-directories-first", 'δ'), ("no-group", 'G'), ("human-readable", 'h'),
      ("dereference-command-line", 'H'), ("hide", 'η'), ("inode", 'i'), ("ignore", 'I'),
      ("kibibytes", 'k'), ("dereference", 'L'), ("numeric-uid-gid", 'n'), ("literal", 'N'),
      ("hide-control-chars", 'q'), ("quote-name", 'Q'), ("reverse", 'r'), ("recursive", 'R'),
      ("size", 's'), ("si", 'σ'), ("sort", 'β'), ("time-style", 'τ'), ("width", 'w'),
      ("tabsize", 'T'), ("color", 'κ'), ("zero", 'σ')], false⟩

/-- Options of a listing with letters for what has names. -/
def listOptions (options : Options) : Options :=
  { options with
    chosen := options.chosen.flatMap fun (letter, value) =>
      if letter = 'χ' then (if value = "" || value = "always" then [('F', "")] else [])
      else if letter = 'β' then
        (([("time", 't'), ("size", 'S'), ("extension", 'X'), ("version", 'v'), ("none", 'U')].lookup
          value).map (·, "")).toList
      else if letter = 'ψ' then
        (([("long", 'l'), ("verbose", 'l'), ("commas", 'm'), ("horizontal", 'x'), ("across", 'x'),
          ("vertical", 'C'), ("single-column", '1')].lookup value).map (·, "")).toList
      else [(letter, value)] }

/-! ## 2. Enough -/

/-- What was read last. -/
def gathered (call : Call) : String := ((call.inputs.getLast?).map Prod.snd).getD ""

/-- First lines or octets: as many as are asked for. -/
def enoughFirst (call : Call) : Bool :=
  match headGrammar.split call.arguments with
  | .ok options =>
    let octets := options.last? "nc" = some 'c'
    match Call.howMany ((options.value? (if octets then 'c' else 'n')).getD "10") with
    | some (sign, n) =>
      sign ≠ '-' && n ≤ (if octets then (gathered call).length
        else (gathered call).toList.count (Call.separatorOf options))
    | none => true
  | .error _ => true

/-- Whole lines of a text that may go on. -/
def wholeLines (text : String) : String :=
  String.ofList ((text.toList.reverse.dropWhile (· ≠ '\n')).reverse)

/-- A search that only asks whether there is a match, or for some of them. -/
def enoughFound (call : Call) : Bool :=
  match searchGrammar.split call.arguments with
  | .ok options =>
    if options.hasAny "qlLm" then
      let inputs := call.inputs.map fun (name, text) => (name, wholeLines text)
      let lines := { call with inputs }
      let count := lines.search { options with chosen := options.chosen ++ [('c', "")] }
      if options.has 'm' && !options.hasAny "qlL" then
        let wanted := ((options.value? 'm').bind fun text => Digits.toNat? 10 text.toList)
        let last := (count.output.toList.reverse.drop 1).takeWhile Digits.isDecimal
        let found := (Digits.toNat? 10 last.reverse).getD 0
        wanted.any (· ≤ found)
      else count.status = 0
    else false
  | .error _ => true

/-- An edit that a step has ended. -/
def enoughEdited (call : Call) : Bool :=
  match editGrammar.split call.arguments with
  | .ok options =>
    match call.editScript options with
    | .ok script =>
      let quits := script.steps.any fun step =>
        match step.act with
        | .letter kind _ => kind = 'q' || kind = 'Q'
        | _ => false
      quits && (
        let separator := Call.separatorOf options
        let lines := Call.editLines separator (gathered call)
        let setting : EditSetting := ⟨script, separator, false, false, true, 70, fun _ => none⟩
        -- The last line that is there need not be the last one of all.
        let first : EditState := { sources := [⟨"-", lines.dropLast⟩, ⟨"-", [([], true)]⟩] }
        match EditState.start setting first with
        | (some _, state) => state.number < lines.length
        | (none, _) => false)
    | .error _ => true
  | .error _ => true

/-- Blocks: as many as are asked for. -/
def enoughBlocks (call : Call) : Bool :=
  match Call.blockCopy? call.arguments with
  | .ok copy =>
    let (skip, most) := copy.extent
    most.any fun n => skip + n ≤ (gathered call).length
  | .error _ => true

/-- Octets to be shown: as many as are asked for. -/
def enoughShown (grammar : Grammar) (call : Call) : Bool :=
  match grammar.split call.arguments with
  | .ok options =>
    let number (letter : Char) : Option Nat :=
      (options.value? letter).bind fun text => Call.size? text.toList
    (number 'N').any fun n => (number 'j').getD 0 + n ≤ (gathered call).length
  | .error _ => true

/-! ## 3. The utilities -/

/-- The options of the utility that shows octets. -/
def dumpGrammar : Grammar :=
  ⟨"abcdfiloshxv", "AjNtS", "w", [("address-radix", 'A'), ("skip-bytes", 'j'), ("read-bytes", 'N'),
    ("format", 't'), ("output-duplicates", 'v'), ("width", 'w'), ("strings", 'S')], false⟩

/-- The options of the utilities that write octets in an alphabet. -/
def recodeGrammar : Grammar :=
  ⟨"di", "w", "", [("decode", 'd'), ("ignore-garbage", 'i'), ("wrap", 'w')], false⟩

/-- The options of the utilities that print digests. -/
def digestGrammar : Grammar :=
  ⟨"bctwzκστιςυ", "al", "", [("binary", 'b'), ("check", 'c'), ("text", 't'), ("tag", 'τ'),
    ("untagged", 'υ'), ("quiet", 'κ'), ("status", 'σ'), ("warn", 'w'), ("zero", 'z'),
    ("ignore-missing", 'ι'), ("strict", 'ς'), ("algorithm", 'a'), ("length", 'l')], false⟩

/-- Utilities that read texts and print what comes of them. -/
def textTools : List Tool :=
  [.filter "cat" catGrammar 1 Call.concatenate,
    .filter "tac" ⟨"br", "s", "", [("before", 'b'), ("regex", 'r'), ("separator", 's')], false⟩ 1
      Call.reverseLines,
    .filter "rev" ⟨"", "", "", [], false⟩ 1 Call.reverseEach,
    ((Tool.filter "head" headGrammar 1 Call.head).whenEnough enoughFirst).after (numberFirst "-n"),
    (Tool.filter "tail" tailGrammar 1 Call.tail).after (numberFirst "-n"),
    .filter "wc" ⟨"cmlwL", "τ", "", [("bytes", 'c'), ("chars", 'm'), ("lines", 'l'),
      ("words", 'w'), ("max-line-length", 'L'), ("total", 'τ')], false⟩ 1 Call.count,
    .filter "nl" ⟨"p", "bdfhilnsvw", "", [("body-numbering", 'b'), ("number-format", 'n'),
      ("number-separator", 's'), ("starting-line-number", 'v'), ("line-increment", 'i'),
      ("number-width", 'w'), ("join-blank-lines", 'l'), ("no-renumber", 'p')], false⟩ 1
      Call.numberLines,
    .reader "uniq" ⟨"cdDiuz", "fsw", "", [("count", 'c'), ("repeated", 'd'), ("all-repeated", 'D'),
      ("skip-fields", 'f'), ("ignore-case", 'i'), ("skip-chars", 's'), ("unique", 'u'),
      ("zero-terminated", 'z'), ("check-chars", 'w')], false⟩ 1 Call.unique fun options =>
        Call.orInput (options.operands.take 1),
    .filter "cut" ⟨"nszγ", "bcfdο", "", [("bytes", 'b'), ("characters", 'c'), ("fields", 'f'),
      ("delimiter", 'd'), ("complement", 'γ'), ("only-delimited", 's'),
      ("output-delimiter", 'ο'), ("zero-terminated", 'z')], false⟩ 1 Call.cut,
    .filter "paste" ⟨"sz", "d", "", [("delimiters", 'd'), ("serial", 's'),
      ("zero-terminated", 'z')], false⟩ 1 Call.paste,
    .filter "comm" ⟨"123zτνκ", "ο", "", [("check-order", 'κ'), ("nocheck-order", 'ν'),
      ("output-delimiter", 'ο'), ("total", 'τ'), ("zero-terminated", 'z')], false⟩ 1 Call.common,
    .filter "join" ⟨"izκνη", "aejotv12", "", [("ignore-case", 'i'), ("check-order", 'κ'),
      ("nocheck-order", 'ν'), ("header", 'η'), ("zero-terminated", 'z')], false⟩ 1 Call.join,
    (Tool.filter "fold" ⟨"bs", "w", "", [("bytes", 'b'), ("spaces", 's'), ("width", 'w')], false⟩ 1
      Call.foldLines).after (numberFirst "-w"),
    (Tool.filter "expand" ⟨"i", "t", "", [("initial", 'i'), ("tabs", 't')], false⟩ 1
      Call.expandTabs).after (numberFirst "-t"),
    (Tool.filter "unexpand" ⟨"aφ", "t", "", [("all", 'a'), ("first-only", 'φ'), ("tabs", 't')],
      false⟩ 1 Call.unexpandTabs).after (numberFirst "-t"),
    .filter "sort" sortGrammar 2 fun call options => call.sort (orderOptions options),
    .filter "tsort" ⟨"", "", "", [], false⟩ 1 Call.sortRelation,
    .reader "shuf" ⟨"erz", "nioρ", "", [("echo", 'e'), ("input-range", 'i'), ("head-count", 'n'),
      ("output", 'o'), ("repeat", 'r'), ("zero-terminated", 'z'), ("random-source", 'ρ')], false⟩ 1
      Call.shuffle fun options =>
        if options.hasAny "ei" then [] else Call.orInput (options.operands.take 1),
    (Tool.filter "grep" searchGrammar 2 Call.search Call.leadingOne).whenEnough enoughFound
      |>.after (numberAmong "-C" ["-A", "-B", "-C", "-e", "-f", "-m"]),
    (Tool.filter "sed" editGrammar 1 Call.edit fun options =>
      if options.hasAny "ef" then 0 else 1).whenEnough enoughEdited,
    .plain "tr" Call.exchange fun _ => ["-"]]

/-- Utilities that read octets. -/
def octetTools : List Tool :=
  [(Tool.filter "od" dumpGrammar 1 Call.dump).whenEnough (enoughShown dumpGrammar),
    .filter "base64" recodeGrammar 1 (Call.recode Call.alphabet64 6 3),
    .filter "base32" recodeGrammar 1 (Call.recode Call.alphabet32 5 5),
    .filter "cksum" digestGrammar 1 Call.checkSums,
    .filter "sum" ⟨"rs", "", "", [("sysv", 's')], false⟩ 1 Call.shortSums,
    (Tool.plain "dd" Call.copyBlocks fun arguments =>
      match Call.blockCopy? arguments with
      | .ok copy => [copy.source.getD "-"]
      | .error _ => []).whenEnough enoughBlocks] ++
  Call.digests.map fun (name, tag, digest) =>
    .filter name digestGrammar 1 (Call.digestFiles tag digest)

/-- Utilities that make, change and show files. -/
def fileTools : List Tool :=
  [.of "touch" ⟨"acfhm", "drtτ", "", [("no-create", 'c'), ("date", 'd'), ("no-dereference", 'h'),
      ("reference", 'r'), ("time", 'τ')], false⟩ 1 Call.touch,
    .of "mkdir" ⟨"pv", "m", "", [("parents", 'p'), ("verbose", 'v'), ("mode", 'm')], false⟩ 1
      Call.makeDirectories,
    .of "mkfifo" ⟨"", "m", "", [("mode", 'm')], false⟩ 1 Call.makePipes,
    .of "mknod" ⟨"", "m", "", [("mode", 'm')], false⟩ 1 Call.makeSpecial,
    .of "mktemp" ⟨"dqtu", "pS", "π", [("directory", 'd'), ("quiet", 'q'), ("dry-run", 'u'),
      ("tmpdir", 'π'), ("suffix", 'S')], false⟩ 1 fun call options =>
        call.makeTemporary { options with
          chosen := options.chosen.map fun (letter, value) =>
            (if letter = 'π' then 'p' else letter, value) },
    .of "truncate" ⟨"co", "sr", "", [("no-create", 'c'), ("io-blocks", 'o'), ("size", 's'),
      ("reference", 'r')], false⟩ 1 Call.truncate,
    .of "rm" ⟨"rRfvdiIπν", "", "ι", [("recursive", 'r'), ("force", 'f'), ("verbose", 'v'),
      ("dir", 'd'), ("interactive", 'ι'), ("preserve-root", 'π'), ("no-preserve-root", 'ν'),
      ("one-file-system", 'ν')], false⟩ 1 Call.remove,
    .of "rmdir" ⟨"pvι", "", "", [("parents", 'p'), ("verbose", 'v'),
      ("ignore-fail-on-non-empty", 'ι')], false⟩ 1 Call.removeDirectories,
    .of "unlink" ⟨"", "", "", [], false⟩ 1 Call.unlink,
    .of "cp" ⟨"abdfilnrRsTuvxPLHpZακρδτ", "tSνσ", "βπφυ", transferNames, false⟩ 1
      fun call options => call.copy (transferOptions options),
    .of "mv" ⟨"bfinTuvZτ", "tS", "βυ", transferNames, false⟩ 1 fun call options =>
      call.move (transferOptions options),
    .of "ln" ⟨"bdFfiLnPrsTv", "tS", "β", [("symbolic", 's'), ("force", 'f'), ("verbose", 'v'),
      ("relative", 'r'), ("no-dereference", 'n'), ("logical", 'L'), ("physical", 'P'),
      ("backup", 'β'), ("suffix", 'S'), ("target-directory", 't'), ("no-target-directory", 'T'),
      ("interactive", 'i'), ("directory", 'd')], false⟩ 1 fun call options =>
        call.link (transferOptions options),
    .of "link" ⟨"", "", "", [], false⟩ 1 Call.linkPlainly,
    .of "install" ⟨"bcCdDpsTvZ", "gmotS", "β", [("directory", 'd'), ("mode", 'm'),
      ("target-directory", 't'), ("no-target-directory", 'T'), ("verbose", 'v'), ("group", 'g'),
      ("owner", 'o'), ("preserve-timestamps", 'p'), ("compare", 'C'), ("strip", 's'),
      ("backup", 'β'), ("suffix", 'S')], false⟩ 1 fun call options =>
        call.install (transferOptions options),
    .plain "chmod" Call.changeModes, .plain "chown" (Call.changeOwners false),
    .plain "chgrp" (Call.changeOwners true),
    .of "ls" listGrammar 2 fun call options => call.list (listOptions options),
    .of "stat" ⟨"Lft", "cπ", "", [("dereference", 'L'), ("file-system", 'f'), ("format", 'c'),
      ("printf", 'π'), ("terse", 't')], false⟩ 1 Call.status,
    .of "du" ⟨"0abchHklLmsxSα", "dBtX", "", [("all", 'a'), ("bytes", 'b'), ("total", 'c'),
      ("human-readable", 'h'), ("summarize", 's'), ("max-depth", 'd'), ("apparent-size", 'α'),
      ("block-size", 'B'), ("one-file-system", 'x'), ("separate-dirs", 'S')], false⟩ 1 Call.usage,
    .of "readlink" ⟨"efmnqsvz", "", "", [("canonicalize", 'f'), ("canonicalize-existing", 'e'),
      ("canonicalize-missing", 'm'), ("no-newline", 'n'), ("quiet", 'q'), ("silent", 's'),
      ("verbose", 'v'), ("zero", 'z')], false⟩ 1 Call.readLink,
    .of "realpath" ⟨"eLmPqsz", "τβ", "", [("canonicalize-existing", 'e'),
      ("canonicalize-missing", 'm'), ("logical", 'L'), ("physical", 'P'), ("quiet", 'q'),
      ("relative-to", 'τ'), ("relative-base", 'β'), ("strip", 's'), ("no-symlinks", 's'),
      ("zero", 'z')], false⟩ 1 Call.realPath]

/-- Utilities that print values. -/
def valueTools : List Tool :=
  [.plain "true" (·.answers 0), .plain "false" (·.answers 1), .plain "echo" Call.echoWords,
    .plain "printf" Call.printFormatted, .plain "test" (Call.decideCondition false),
    .plain "[" (Call.decideCondition true),
    .of "basename" ⟨"az", "s", "", [("multiple", 'a'), ("suffix", 's'), ("zero", 'z')], true⟩ 1
      Call.baseName,
    .of "dirname" ⟨"z", "", "", [("zero", 'z')], false⟩ 1 Call.directoryName,
    .of "printenv" ⟨"0", "", "", [("null", '0')], true⟩ 2 Call.printEnvironment,
    .plain "seq" Call.sequence, .plain "expr" Call.evaluate,
    .reader "factor" ⟨"h", "", "", [("exponents", 'h')], false⟩ 1 Call.factors fun options =>
      if options.operands = [] then ["-"] else [],
    .plain "pwd" fun call => call.gives (call.here ++ "\n"),
    .of "uname" ⟨"asnrvmpio", "", "", [("all", 'a'), ("kernel-name", 's'), ("nodename", 'n'),
      ("kernel-release", 'r'), ("kernel-version", 'v'), ("machine", 'm'), ("processor", 'p'),
      ("hardware-platform", 'i'), ("operating-system", 'o')], false⟩ 1 Call.systemName,
    .plain "arch" (·.gives "x86_64\n"),
    .of "id" ⟨"anruGgzZ", "", "", [("user", 'u'), ("group", 'g'), ("groups", 'G'), ("name", 'n'),
      ("real", 'r'), ("zero", 'z')], false⟩ 1 Call.identity,
    .plain "whoami" (·.gives "root\n"), .plain "groups" (·.gives "root\n"),
    .plain "tty" fun call => { call.gives "not a tty\n" with status := 1 },
    .plain "sync" (·.answers 0),
    .of "which" ⟨"as", "", "", [], true⟩ 2 (Call.whichPrograms Program.isExecutable),
    .plain "getopt" Call.arrangeOptions,
    .of "date" ⟨"Ruδ", "dfrsρ", "I", [("date", 'd'), ("iso-8601", 'I'), ("rfc-email", 'R'),
      ("reference", 'r'), ("universal", 'u'), ("utc", 'u'), ("set", 's'), ("file", 'f'),
      ("rfc-3339", 'ρ'), ("debug", 'δ')], false⟩ 1 Call.date]

/-- Utilities that compare texts. -/
def comparisonTools : List Tool :=
  [.reader "cmp" Call.octetGrammar 2 Call.compareOctets fun options => options.operands.take 2,
    .reader "diff" Call.lineGrammar 2 Call.compareFiles fun options => options.operands.take 2]

/-- Utilities that run other programs. -/
def runningTools : List Tool :=
  [{ name := "xargs"
     reads := fun arguments => [((Tool.optionsOf Call.batchGrammar arguments).value? 'a').getD "-"]
     enough := fun _ => false
     act := Call.inBatches },
    { name := "find"
      reads := fun _ => []
      enough := fun _ => false
      act := Call.findFiles },
    { name := "mawk"
      reads := Records.operandsRead
      enough := fun _ => false
      act := Call.processRecords }]

/-- All utilities. -/
def tools : List Tool :=
  textTools ++ octetTools ++ fileTools ++ valueTools ++ comparisonTools ++ runningTools

/-- Other names of utilities, with an option that they stand for. -/
def aliases : List (String × String × List String) :=
  [("awk", "mawk", []), ("egrep", "grep", ["-E"]), ("fgrep", "grep", ["-F"]),
    ("dir", "ls", ["-C", "-b"]), ("vdir", "ls", ["-l", "-b"])]

/-- The utility of a name. -/
def find? (name : String) : Option Tool :=
  match aliases.lookup name with
  | some (other, options) =>
    (tools.find? (·.name = other)).map (·.after (options ++ ·))
  | none => tools.find? (·.name = name)

/-- Programs that are no utilities. -/
def special : List String :=
  ["sh", "dash", "bash", "sleep", "kill", "env", "nohup", "setsid", "yes", "tee", "nice", "timeout",
    "stdbuf"]

/-- The names of all programs. -/
def programs : List String :=
  special ++ tools.map Tool.name ++ aliases.map Prod.fst

end Utility

end RenderSync.Shell
