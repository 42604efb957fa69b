import Enforcement.Json.Token

/-!
Values that are passed over. They must keep to the grammar, but they may nest to any depth and
their strings and numbers need not have a value.
-/

namespace Enforcement.Json

def skipString : List Char → Except Fault (List Char)
  | [] => .error .truncated
  | c :: rest =>
    if c = '"' then .ok rest
    else if c = '\\' then
      match rest with
      | [] => .error .truncated
      | mark :: rest =>
        if mark = 'u' then
          match rest with
          | a :: b :: c :: d :: rest =>
            if (hexUnit? a b c d).isSome then skipString rest else .error .malformed
          | short => .error (shortEscape short)
        else if (plainEscape? mark).isSome then skipString rest
        else .error .malformed
    else if c.toNat < 32 then .error .malformed
    else skipString rest

private def someDigits (text : List Char) : Except Fault (List Char) :=
  if (text.takeWhile Char.isDigit).isEmpty then .error .malformed
  else .ok (text.dropWhile Char.isDigit)

private def skipExponent : List Char → Except Fault (List Char)
  | '+' :: rest | '-' :: rest => someDigits rest
  | text => someDigits text

private def skipTail : List Char → Except Fault (List Char)
  | '.' :: rest => do
    match ← someDigits rest with
    | 'e' :: rest | 'E' :: rest => skipExponent rest
    | rest => return rest
  | 'e' :: rest | 'E' :: rest => skipExponent rest
  | text => .ok text

def skipNumber (text : List Char) : Except Fault (List Char) :=
  let unsigned := match text with
    | '-' :: rest => rest
    | text => text
  match unsigned.takeWhile Char.isDigit with
  | [] | '0' :: _ :: _ => .error .malformed
  | _ => skipTail (unsigned.dropWhile Char.isDigit)

mutual

def skipValue : Nat → List Char → Except Fault (List Char)
  | 0, _ => .error .truncated
  | fuel + 1, text =>
    match skipSpaces text with
    | [] => .error .truncated
    | c :: rest =>
      if c = 'n' then (readLiteral () ['u', 'l', 'l'] rest).map (·.2)
      else if c = 't' then (readLiteral () ['r', 'u', 'e'] rest).map (·.2)
      else if c = 'f' then (readLiteral () ['a', 'l', 's', 'e'] rest).map (·.2)
      else if c = '"' then skipString rest
      else if c = '-' || c.isDigit then skipNumber (c :: rest)
      else if c = '[' then skipItems fuel true rest
      else if c = '{' then skipMembers fuel true rest
      else .error .malformed

def skipItems : Nat → Bool → List Char → Except Fault (List Char)
  | 0, _, _ => .error .truncated
  | fuel + 1, first, text =>
    match skipSpaces text with
    | [] => .error .truncated
    | c :: rest =>
      if c = ']' then .ok rest
      else if first then do skipItems fuel false (← skipValue fuel (c :: rest))
      else if c = ',' then do skipItems fuel false (← skipValue fuel rest)
      else .error .malformed

def skipMembers : Nat → Bool → List Char → Except Fault (List Char)
  | 0, _, _ => .error .truncated
  | fuel + 1, first, text =>
    match skipSpaces text with
    | [] => .error .truncated
    | c :: rest =>
      if c = '}' then .ok rest
      else if first || c = ',' then
        match (if first then c :: rest else skipSpaces rest) with
        | [] => .error .truncated
        | quote :: rest =>
          if quote = '"' then do
            match skipSpaces (← skipString rest) with
            | [] => throw .truncated
            | colon :: rest =>
              if colon = ':' then skipMembers fuel false (← skipValue fuel rest)
              else throw .malformed
          else .error .malformed
      else .error .malformed

end

end Enforcement.Json
