import RenderSync.Shell.Regex

/-!
# Programs for records

A program for records is a list of rules: a pattern says for which records its action is carried
out.  Actions are statements, and these have expressions in them, whose values are numbers and
texts.
-/

namespace RenderSync.Shell.Records

/-- An operation between two numbers. -/
inductive Operator where
  | add | subtract | multiply | divide | remainder | power
deriving DecidableEq, Repr, Inhabited

/-- A relation between two values. -/
inductive Relation where
  | less | lessEqual | equal | unequal | greater | greaterEqual
deriving DecidableEq, Repr, Inhabited

/-- Where a record comes from that an expression asks for. -/
inductive Origin where
  /-- The input of the program. -/
  | main
  | file
  | command
deriving DecidableEq, Repr, Inhabited

/-- An expression. -/
inductive Expr where
  | number (bits : Nat)
  | text (text : String)
  /-- The record has a match, or a match is looked for elsewhere. -/
  | regex (regex : Regex)
  | name (name : String)
  /-- What stands between brackets. -/
  | group (inner : Expr)
  | field (index : Expr)
  | element (table : String) (keys : List Expr)
  /-- Gives a place a value, perhaps made from the one that is there. -/
  | assign (operator : Option Operator) (target value : Expr)
  /-- Counts up or down; the value is that before or behind it. -/
  | step (up before : Bool) (target : Expr)
  | choose (condition yes no : Expr)
  | both (first second : Expr)
  | either (first second : Expr)
  | not (inner : Expr)
  | sign (negative : Bool) (inner : Expr)
  | binary (operator : Operator) (left right : Expr)
  | join (left right : Expr)
  | relate (relation : Relation) (left right : Expr)
  | fits (positive : Bool) (text pattern : Expr)
  | contains (keys : List Expr) (table : String)
  | call (function : String) (arguments : List Expr)
  | builtin (function : String) (arguments : List Expr)
  /-- Reads a record, perhaps into a place. -/
  | read (origin : Origin) (source : Option Expr) (target : Option Expr)
deriving Inhabited

/-- Where a statement prints. -/
inductive Direction where
  | write
  | append
  | command
deriving DecidableEq, Repr, Inhabited

/-- A statement. -/
inductive Statement where
  | expression (value : Expr)
  | print (items : List Expr) (target : Option (Direction × Expr))
  | printf (items : List Expr) (target : Option (Direction × Expr))
  | branch (condition : Expr) (yes : Statement) (no : Option Statement)
  | loop (condition : Expr) (body : Statement)
  /-- A loop whose body is carried out at least once. -/
  | loopAfter (body : Statement) (condition : Expr)
  | count (start : Option Statement) (condition : Option Expr) (step : Option Statement)
      (body : Statement)
  | each (name table : String) (body : Statement)
  | block (body : List Statement)
  | next
  | nextFile
  | exit (status : Option Expr)
  | return_ (value : Option Expr)
  | break_
  | continue_
  | delete (table : String) (keys : Option (List Expr))
deriving Inhabited

/-- What a rule applies to. -/
inductive Scope where
  | start
  | finish
  | every
  | when (condition : Expr)
  /-- From one record on up to another one. -/
  | between (first last : Expr)
deriving Inhabited

/-- A rule; without an action the record is printed. -/
structure Rule where
  scope : Scope
  action : Option (List Statement)
deriving Inhabited

/-- A function. -/
structure Function where
  name : String
  parameters : List String
  body : List Statement
deriving Inhabited

/-- A program. -/
structure Program where
  rules : List Rule
  functions : List Function
deriving Inhabited

end RenderSync.Shell.Records
