/-! Scripts: words, redirections and commands. -/

namespace Enforcement.Shell

/-- What becomes of a variable's value. The operands are words, read when they are needed. -/
inductive Use where
  | value
  | length
  | orElse (operand : List Char) (alsoEmpty : Bool)
  | orAssign (operand : List Char) (alsoEmpty : Bool)
  | orFail (operand : List Char) (alsoEmpty : Bool)
  | ifSet (operand : List Char) (alsoEmpty : Bool)
  | withoutStart (pattern : List Char) (longest : Bool)
  | withoutEnd (pattern : List Char) (longest : Bool)
  deriving DecidableEq, Repr, Inhabited

inductive Piece where
  | plain (text : List Char)
  | quoted (text : List Char)
  | variableValue (name : String) (use : Use) (inQuotes : Bool)
  | outputOf (source : List Char) (inQuotes : Bool)
  | sum (source : List Char) (inQuotes : Bool)
  deriving DecidableEq, Repr, Inhabited

abbrev Word := List Piece

inductive Direction where
  | input
  | output
  | append
  | copy
  /-- The target is the input itself. -/
  | here
  deriving DecidableEq, Repr, Inhabited

structure Redirection where
  stream : Nat
  direction : Direction
  target : Word
  deriving DecidableEq, Repr, Inhabited

inductive Command where
  | simple (line : Nat) (assignments : List (String × Word)) (words : List Word)
  | pipeline (stages : List Command)
  | negated (command : Command)
  | both (first second : Command)
  | either (first second : Command)
  | background (command : Command)
  | group (body : List Command)
  | subshell (body : List Command)
  | choice (branches : List (List Command × List Command)) (otherwise : List Command)
  /-- The body runs as long as the condition ends well, or as long as it does not. -/
  | loop (whileFails : Bool) (condition body : List Command)
  | each (name : String) (words : Option (List Word)) (body : List Command)
  | select (subject : Word) (branches : List (List Word × List Command))
  | define (name : String) (body : Command)
  | redirected (command : Command) (line : Nat) (redirections : List Redirection)
  deriving Inhabited

end Enforcement.Shell
