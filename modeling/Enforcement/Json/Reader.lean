import Enforcement.Json.Token
import Enforcement.Json.Value

/-! Documents read from text. -/

namespace Enforcement.Json

/-- Arrays and objects inside one another; one less is allowed. -/
def depthLimit : Nat := 128

mutual

/-- A value that may nest fewer than `depth` levels. -/
def readValue : Nat → Nat → List Char → Except Fault (Value × List Char)
  | 0, _, _ => .error .truncated
  | fuel + 1, depth, text =>
    match skipSpaces text with
    | [] => .error .truncated
    | c :: rest =>
      if c = 'n' then readLiteral .null ['u', 'l', 'l'] rest
      else if c = 't' then readLiteral (.bool true) ['r', 'u', 'e'] rest
      else if c = 'f' then readLiteral (.bool false) ['a', 'l', 's', 'e'] rest
      else if c = '"' then do
        let (text, rest) ← readString rest
        return (.string (String.ofList text), rest)
      else if c = '-' || c.isDigit then do
        let (number, rest) ← readNumber (c :: rest)
        return (.number number, rest)
      else if c = '[' then
        if depth ≤ 1 then .error .malformed
        else do
          let (items, rest) ← readItems fuel (depth - 1) true rest
          return (.array items, rest)
      else if c = '{' then
        if depth ≤ 1 then .error .malformed
        else do
          let (members, rest) ← readMembers fuel (depth - 1) true [] rest
          return (.object members, rest)
      else .error .malformed

def readItems : Nat → Nat → Bool → List Char → Except Fault (List Value × List Char)
  | 0, _, _, _ => .error .truncated
  | fuel + 1, depth, first, text =>
    match skipSpaces text with
    | [] => .error .truncated
    | c :: rest =>
      if c = ']' then .ok ([], rest)
      else if first || c = ',' then
        let start := if first then c :: rest else skipSpaces rest
        match start with
        | ']' :: _ => .error .malformed
        | _ => do
          let (item, rest) ← readValue fuel depth start
          let (items, rest) ← readItems fuel depth false rest
          return (item :: items, rest)
      else .error .malformed

/-- The members of an object up to its closing brace; of equal keys the last one holds. -/
def readMembers :
    Nat → Nat → Bool → List (String × Value) → List Char →
      Except Fault (List (String × Value) × List Char)
  | 0, _, _, _, _ => .error .truncated
  | fuel + 1, depth, first, members, text =>
    match skipSpaces text with
    | [] => .error .truncated
    | c :: rest =>
      if c = '}' then .ok (members, rest)
      else if first || c = ',' then
        match (if first then c :: rest else skipSpaces rest) with
        | [] => .error .truncated
        | quote :: rest =>
          if quote = '"' then do
            let (key, rest) ← readString rest
            match skipSpaces rest with
            | [] => .error .truncated
            | colon :: rest =>
              if colon = ':' then do
                let (value, rest) ← readValue fuel depth rest
                readMembers fuel depth false (insertMember (String.ofList key) value members) rest
              else .error .malformed
          else .error .malformed
      else .error .malformed

end

def atEnd {α : Type} : Except Fault (α × List Char) → Except Fault α
  | .error fault => .error fault
  | .ok (value, rest) => if (skipSpaces rest).isEmpty then .ok value else .error .malformed

def readText (text : List Char) : Except Fault Value :=
  atEnd (readValue (text.length + 1) depthLimit text)

def Value.read (text : String) : Except Fault Value := readText text.toList

end Enforcement.Json
