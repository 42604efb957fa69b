import Enforcement.Json.Value

/-! Documents as text: on one line without blanks, or one item a line and two blanks a level. -/

namespace Enforcement.Json

def hexDigit (value : Nat) : Char := Nat.digitChar (value % 16)

def escapeChar (c : Char) : List Char :=
  if c = '"' then ['\\', '"']
  else if c = '\\' then ['\\', '\\']
  else if c = '\x08' then ['\\', 'b']
  else if c = '\x0c' then ['\\', 'f']
  else if c = '\n' then ['\\', 'n']
  else if c = '\r' then ['\\', 'r']
  else if c = '\t' then ['\\', 't']
  else if c.toNat < 32 then ['\\', 'u', '0', '0', hexDigit (c.toNat / 16), hexDigit c.toNat]
  else [c]

def escape (text : List Char) : List Char := text.flatMap escapeChar

def printString (text : String) : List Char := '"' :: (escape text.toList ++ ['"'])

mutual

def compact : Value → List Char
  | .null => ['n', 'u', 'l', 'l']
  | .bool true => ['t', 'r', 'u', 'e']
  | .bool false => ['f', 'a', 'l', 's', 'e']
  | .number number => number.render
  | .string text => printString text
  | .array items => '[' :: compactItems items
  | .object members => '{' :: compactMembers members

def compactItems : List Value → List Char
  | [] => [']']
  | [item] => compact item ++ [']']
  | item :: rest => compact item ++ ',' :: compactItems rest

def compactMembers : List (String × Value) → List Char
  | [] => ['}']
  | [(key, value)] => printString key ++ ':' :: compact value ++ ['}']
  | (key, value) :: rest => printString key ++ ':' :: compact value ++ ',' :: compactMembers rest

end

def newline (level : Nat) : List Char := '\n' :: List.replicate (2 * level) ' '

mutual

def prettyAt (level : Nat) : Value → List Char
  | .array [] => ['[', ']']
  | .array items => '[' :: (newline (level + 1) ++ prettyItems level items)
  | .object [] => ['{', '}']
  | .object members => '{' :: (newline (level + 1) ++ prettyMembers level members)
  | value => compact value

def prettyItems (level : Nat) : List Value → List Char
  | [] => newline level ++ [']']
  | [item] => prettyAt (level + 1) item ++ newline level ++ [']']
  | item :: rest =>
    prettyAt (level + 1) item ++ ',' :: (newline (level + 1) ++ prettyItems level rest)

def prettyMembers (level : Nat) : List (String × Value) → List Char
  | [] => newline level ++ ['}']
  | [(key, value)] =>
    printString key ++ ':' :: ' ' :: prettyAt (level + 1) value ++ newline level ++ ['}']
  | (key, value) :: rest =>
    printString key ++ ':' :: ' ' :: prettyAt (level + 1) value ++
      ',' :: (newline (level + 1) ++ prettyMembers level rest)

end

def Value.compactText (value : Value) : String := String.ofList (compact value)

def Value.prettyText (value : Value) : String := String.ofList (prettyAt 0 value)

end Enforcement.Json
