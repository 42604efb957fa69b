import Enforcement.Toml.Quotation

/-! Settings texts: names, values, headers and whole texts. -/

namespace Enforcement.Toml

/-- Parts of a dotted name, and brackets and braces inside one another; one less is allowed. -/
def depthLimit : Nat := 80

def skipComment (text : List Char) : List Char :=
  match text with
  | '#' :: rest => rest.dropWhile isPlain
  | text => text

def afterLine? (text : List Char) : Option (List Char) :=
  match skipComment (skipSpaces text) with
  | [] => some []
  | rest => afterBreak? rest

def isBareName (c : Char) : Bool := c.isAlphanum || c == '_' || c == '-'

def readNamePart (text : List Char) : Option (String × List Char) :=
  match text with
  | '"' :: rest => (readLine rest).map fun (name, rest) => (String.ofList name, rest)
  | '\'' :: rest => (readLiteralLine rest).map fun (name, rest) => (String.ofList name, rest)
  | text =>
    let name := text.takeWhile isBareName
    if name.isEmpty then none else some (String.ofList name, text.dropWhile isBareName)

def readName : Nat → List Char → Option (List String × List Char)
  | 0, _ => none
  | parts + 1, text => do
    let (part, rest) ← readNamePart (skipSpaces text)
    match skipSpaces rest with
    | '.' :: rest => do
      let (path, rest) ← readName parts rest
      return (part :: path, rest)
    | rest => return ([part], rest)

def skipLines : Nat → List Char → List Char
  | 0, text => text
  | fuel + 1, text =>
    let text := skipSpaces text
    match afterBreak? text with
    | some rest => skipLines fuel rest
    | none =>
      match text with
      | '#' :: rest =>
        match afterBreak? (rest.dropWhile isPlain) with
        | some rest => skipLines fuel rest
        | none => text
      | _ => text

mutual

def readValue : Nat → Nat → List Char → Option (Value × List Char)
  | 0, _, _ => none
  | fuel + 1, depth, text =>
    match text with
    | '"' :: _ | '\'' :: _ => do
      let (text, rest) ← readQuotation text
      return (.text (String.ofList text), rest)
    | '[' :: rest =>
      if depth ≤ 1 then none
      else do
        let (items, rest) ← readItems fuel (depth - 1) rest
        return (.list items, rest)
    | '{' :: rest =>
      if depth ≤ 1 then none
      else do
        let (assignments, rest) ← match skipSpaces rest with
          | '}' :: rest => some ([], rest)
          | rest => readMembers fuel (depth - 1) rest
        return (.table .closed (← Members.assignAll assignments []), rest)
    | text => do
      let (word, rest) := wordOf text
      return (← scalar? word, rest)

/-- The items of a list up to its closing bracket; a comma may follow the last one. -/
def readItems : Nat → Nat → List Char → Option (List Value × List Char)
  | 0, _, _ => none
  | fuel + 1, depth, text =>
    match skipLines (text.length + 1) text with
    | ']' :: rest => some ([], rest)
    | text => do
      let (item, rest) ← readValue fuel depth text
      match skipLines (rest.length + 1) rest with
      | ']' :: rest => return ([item], rest)
      | ',' :: rest => do
        let (items, rest) ← readItems fuel depth rest
        return (item :: items, rest)
      | _ => none

def readMembers : Nat → Nat → List Char → Option (List (List String × Value) × List Char)
  | 0, _, _ => none
  | fuel + 1, depth, text => do
    let (path, rest) ← readName (depthLimit - 1) text
    match rest with
    | '=' :: rest => do
      let (value, rest) ← readValue fuel depth (skipSpaces rest)
      match skipSpaces rest with
      | '}' :: rest => return ([(path, value)], rest)
      | ',' :: rest => do
        let (members, rest) ← readMembers fuel depth rest
        return ((path, value) :: members, rest)
      | _ => none
    | _ => none

end

def readAssignments : Nat → List Char → Option (List (List String × Value) × List Char)
  | 0, _ => none
  | fuel + 1, text =>
    match skipSpaces text with
    | [] => some ([], [])
    | '[' :: rest => some ([], '[' :: rest)
    | '#' :: rest => do readAssignments fuel (← afterLine? ('#' :: rest))
    | text =>
      match afterBreak? text with
      | some rest => readAssignments fuel rest
      | none => do
        let (path, rest) ← readName (depthLimit - 1) text
        match rest with
        | '=' :: rest => do
          let (value, rest) ← readValue (rest.length + 1) depthLimit (skipSpaces rest)
          let (assignments, rest) ← readAssignments fuel (← afterLine? rest)
          return ((path, value) :: assignments, rest)
        | _ => none

def readHeader : List Char → Option (Bool × List String × List Char)
  | '[' :: '[' :: rest => do
    match ← readName (depthLimit - 1) rest with
    | (path, ']' :: ']' :: rest) => return (true, path, ← afterLine? rest)
    | _ => none
  | '[' :: rest => do
    match ← readName (depthLimit - 1) rest with
    | (path, ']' :: rest) => return (false, path, ← afterLine? rest)
    | _ => none
  | _ => none

def readSections : Nat → List Char → Option (List Section)
  | 0, _ => none
  | _ + 1, [] => some []
  | fuel + 1, text => do
    let (listed, path, rest) ← readHeader text
    let (assignments, rest) ← readAssignments (rest.length + 1) rest
    let sections ← readSections fuel rest
    return (if listed then .listed path assignments else .table path assignments) :: sections

def readText (text : List Char) : Option Members := do
  let text := if text.head? == some '\uFEFF' then text.tail else text
  let (assignments, rest) ← readAssignments (text.length + 1) text
  let sections ← readSections (rest.length + 1) rest
  membersOf (.table [] assignments :: sections)

end Enforcement.Toml
