import Enforcement.Json.Reader
import Enforcement.Json.Skip

/-!
Documents of a known shape. Reading checks a text against its shape from left to right, so the
first fault of the text is the one reported, and gives a value in normal form: the members of a
record in their order, each under its first name, and none that is null.
-/

namespace Enforcement.Json

inductive Shape where
  | text
  | flag
  /-- A signed whole number of a number of bits. -/
  | integer (width : Nat)
  /-- One of several words. -/
  | choice (words : List String)
  | list (item : Shape)
  /-- Fields by their names, each with a mark whether it may be absent. -/
  | record (fields : List (List String × Bool × Shape))
  deriving Repr, Inhabited

def unwanted (text : List Char) : Fault :=
  let reading : Except Fault Unit :=
    match text with
    | [] => .error .truncated
    | c :: rest =>
      if c = 'n' then (readLiteral () ['u', 'l', 'l'] rest).map (·.1)
      else if c = 't' then (readLiteral () ['r', 'u', 'e'] rest).map (·.1)
      else if c = 'f' then (readLiteral () ['a', 'l', 's', 'e'] rest).map (·.1)
      else if c = '"' then (readString rest).map fun _ => ()
      else if c = '-' || c.isDigit then (readNumber text).map fun _ => ()
      else if c = '[' || c = '{' then .ok ()
      else .error .malformed
  match reading with
  | .ok _ => .mismatched
  | .error fault => fault

def readText? (text : List Char) : Except Fault (String × List Char) :=
  match skipSpaces text with
  | '"' :: rest => (readString rest).map fun (text, rest) => (String.ofList text, rest)
  | text => .error (unwanted text)

def readFlag (text : List Char) : Except Fault (Value × List Char) :=
  match skipSpaces text with
  | 't' :: rest => readLiteral (.bool true) ['r', 'u', 'e'] rest
  | 'f' :: rest => readLiteral (.bool false) ['a', 'l', 's', 'e'] rest
  | text => .error (unwanted text)

def integerValue? (width : Nat) (number : Number) : Option Value :=
  (number.signed? width).map fun value => .number (.whole value)

def readInteger (width : Nat) (text : List Char) : Except Fault (Value × List Char) :=
  match skipSpaces text with
  | [] => .error .truncated
  | c :: rest =>
    if c = '-' || c.isDigit then do
      let (number, rest) ← readNumber (c :: rest)
      match integerValue? width number with
      | some value => return (value, rest)
      | none => throw .mismatched
    else .error (unwanted (c :: rest))

def expect (wanted : Char) (text : List Char) : Except Fault (List Char) :=
  match skipSpaces text with
  | [] => .error .truncated
  | c :: rest => if c = wanted then .ok rest else .error .malformed

/-- A word stands by itself, or as the only key of an object that gives it null. -/
def readChoice (words : List String) (text : List Char) : Except Fault (Value × List Char) :=
  match skipSpaces text with
  | [] => .error .truncated
  | '"' :: rest => do
    let (word, rest) ← readString rest
    if words.contains (String.ofList word) then return (.string (String.ofList word), rest)
    throw .mismatched
  | '{' :: rest => do
    let (word, rest) ← readText? rest
    if !words.contains word then throw .mismatched
    match skipSpaces (← expect ':' rest) with
    | 'n' :: rest =>
      let (_, rest) ← readLiteral () ['u', 'l', 'l'] rest
      return (.string word, ← expect '}' rest)
    | text => throw (unwanted text)
  | _ => .error .malformed

def nextItem? (first : Bool) (text : List Char) : Except Fault (Option (List Char)) :=
  match skipSpaces text with
  | [] => .error .truncated
  | c :: rest =>
    if c = ']' then .ok none
    else if first then .ok (some (c :: rest))
    else if c = ',' then
      match skipSpaces rest with
      | [] => .error .truncated
      | ']' :: _ => .error .malformed
      | text => .ok (some text)
    else .error .malformed

def closeArray (text : List Char) : Except Fault (List Char) := expect ']' text

def readEach (item : List Char → Except Fault (Value × List Char)) :
    Nat → Bool → List Char → Except Fault (List Value × List Char)
  | 0, _, _ => .error .truncated
  | fuel + 1, first, text => do
    match ← nextItem? first text with
    | none => return ([], ← closeArray text)
    | some text =>
      let (value, rest) ← item text
      let (values, rest) ← readEach item fuel false rest
      return (value :: values, rest)

/-- How the value of a field is read; none stands for a null that makes the field absent. -/
abbrev FieldReader := List Char → Except Fault (Option Value × List Char)

def readKnown (field : String → Option (String × FieldReader)) :
    Nat → Bool → List (String × Option Value) → List Char →
      Except Fault (List (String × Option Value) × List Char)
  | 0, _, _, _ => .error .truncated
  | fuel + 1, first, found, text =>
    match skipSpaces text with
    | [] => .error .truncated
    | c :: rest =>
      if c = '}' then .ok (found, rest)
      else if first || c = ',' then
        match (if first then c :: rest else skipSpaces rest) with
        | [] => .error .truncated
        | quote :: rest =>
          if quote = '"' then do
            let (key, rest) ← readString rest
            match field (String.ofList key) with
            | none =>
              let rest ← skipValue (rest.length + 1) (← expect ':' rest)
              readKnown field fuel false found rest
            | some (name, reader) =>
              if found.any (·.1 == name) then throw .mismatched
              let (value, rest) ← reader (← expect ':' rest)
              readKnown field fuel false ((name, value) :: found) rest
          else .error .malformed
      else .error .malformed

def normalMembers? (found : List (String × Option Value)) :
    List (List String × Bool × Shape) → Option (List (String × Value))
  | [] => some []
  | (names, optional, _) :: fields => do
    let name := names.headD ""
    let rest ← normalMembers? found fields
    match (found.find? (·.1 == name)).map (·.2) with
    | some (some value) => return (name, value) :: rest
    | _ => if optional then return rest else none

def orAbsent (optional : Bool) (reader : List Char → Except Fault (Value × List Char)) :
    FieldReader := fun text =>
  match optional, skipSpaces text with
  | true, 'n' :: rest => readLiteral none ['u', 'l', 'l'] rest
  | _, _ => (reader text).map fun (value, rest) => (some value, rest)

namespace Shape

mutual

def read : Shape → List Char → Except Fault (Value × List Char)
  | .text, input => (readText? input).map fun (found, rest) => (.string found, rest)
  | .flag, input => readFlag input
  | .integer width, input => readInteger width input
  | .choice words, input => readChoice words input
  | .list item, input =>
    match skipSpaces input with
    | '[' :: rest => do
      let (values, rest) ← readEach (read item) (rest.length + 1) true rest
      return (.array values, rest)
    | other => .error (unwanted other)
  | .record fields, input =>
    match skipSpaces input with
    | '[' :: rest => do
      let (members, rest) ← readInOrder fields true rest
      return (.object members, ← closeArray rest)
    | '{' :: rest => do
      let (found, rest) ← readKnown (readerFor? fields) (rest.length + 1) true [] rest
      match normalMembers? found fields with
      | some members => return (.object members, rest)
      | none => throw .mismatched
    | other => .error (unwanted other)

def readerFor? : List (List String × Bool × Shape) → String → Option (String × FieldReader)
  | [], _ => none
  | (names, optional, shape) :: fields, key =>
    if names.contains key then some (names.headD "", orAbsent optional (read shape))
    else readerFor? fields key

/-- A record may also be written as the array of its fields. -/
def readInOrder : List (List String × Bool × Shape) → Bool → List Char →
    Except Fault (List (String × Value) × List Char)
  | [], _, input => .ok ([], input)
  | (names, optional, shape) :: fields, first, input => do
    match ← nextItem? first input with
    | none =>
      if !optional then throw .mismatched
      readInOrder fields first input
    | some item =>
      let (value, rest) ← orAbsent optional (read shape) item
      let (members, rest) ← readInOrder fields false rest
      return (value.toList.map (names.headD "", ·) ++ members, rest)

end

def readDocument (shape : Shape) (document : String) : Except Fault Value :=
  atEnd (shape.read document.toList)

mutual

/-- The normal form of a value, if it is of the shape. -/
def check : Shape → Value → Option Value
  | .text, .string held => some (.string held)
  | .flag, .bool held => some (.bool held)
  | .integer width, .number number => integerValue? width number
  | .choice words, .string word => if words.contains word then some (.string word) else none
  | .choice words, .object [(word, .null)] =>
    if words.contains word then some (.string word) else none
  | .list item, .array values => (values.mapM (check item)).map .array
  | .record fields, .array values => (checkInOrder fields values).map .object
  | .record fields, .object members => (checkMembers fields members).map .object
  | _, _ => none

def checkInOrder :
    List (List String × Bool × Shape) → List Value → Option (List (String × Value))
  | [], [] => some []
  | [], _ :: _ => none
  | (_, optional, _) :: fields, [] => if optional then checkInOrder fields [] else none
  | (names, optional, shape) :: fields, value :: values => do
    let rest ← checkInOrder fields values
    if optional && value.isNull then return rest
    return (names.headD "", ← check shape value) :: rest

def checkMembers :
    List (List String × Bool × Shape) → List (String × Value) → Option (List (String × Value))
  | [], _ => some []
  | (names, optional, shape) :: fields, members => do
    let rest ← checkMembers fields members
    match members.filter (names.contains ·.1) with
    | [] => if optional then return rest else none
    | [(_, value)] =>
      if optional && value.isNull then return rest
      return (names.headD "", ← check shape value) :: rest
    | _ => none

end

end Shape

end Enforcement.Json
