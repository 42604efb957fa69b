import Enforcement.Shell.Syntax

/-! Words of a script read from text. -/

namespace Enforcement.Shell

def isBlank (c : Char) : Bool := c == ' ' || c == '\t'

def isDelimiter (c : Char) : Bool :=
  isBlank c || c == '\n' || c == ';' || c == '&' || c == '|' || c == '<' || c == '>' ||
    c == '(' || c == ')'

def isNameStart (c : Char) : Bool := c.isAlpha || c == '_'

def isNameCharacter (c : Char) : Bool := c.isAlphanum || c == '_'

def isSpecialName (c : Char) : Bool :=
  c == '@' || c == '*' || c == '#' || c == '?' || c == '-' || c == '$' || c == '!'

abbrev Taken := Option (List Char × List Char)

private def before (text : List Char) : Taken → Taken
  | some (taken, rest) => some (text ++ taken, rest)
  | none => none

def takeUntil (mark : Char) : List Char → Taken
  | [] => none
  | c :: rest => if c = mark then some ([], rest) else before [c] (takeUntil mark rest)

/-- The text between backquotes, where a backslash keeps the next one of three characters. -/
def takeBackquoted : List Char → Taken
  | [] => none
  | '`' :: rest => some ([], rest)
  | '\\' :: c :: rest =>
    before (if c == '`' || c == '\\' || c == '$' then [c] else ['\\', c]) (takeBackquoted rest)
  | c :: rest => before [c] (takeBackquoted rest)

mutual

/-- The text up to the bracket that closes it; quotes and inner brackets stay whole. -/
def takeGroup : Nat → Char → List Char → Taken
  | 0, _, _ => none
  | _ + 1, _, [] => none
  | fuel + 1, close, c :: rest =>
    if c = close then some ([], rest)
    else if c = '\\' then
      match rest with
      | [] => none
      | escaped :: rest => before ['\\', escaped] (takeGroup fuel close rest)
    else if c = '\'' then do
      let (inner, rest) ← takeUntil '\'' rest
      before ('\'' :: inner ++ ['\'']) (takeGroup fuel close rest)
    else if c = '"' then do
      let (inner, rest) ← takeDoubleQuoted fuel rest
      before ('"' :: inner ++ ['"']) (takeGroup fuel close rest)
    else if c = '`' then do
      let (inner, rest) ← takeUntil '`' rest
      before ('`' :: inner ++ ['`']) (takeGroup fuel close rest)
    else if c = '(' then do
      let (inner, rest) ← takeGroup fuel ')' rest
      before ('(' :: inner ++ [')']) (takeGroup fuel close rest)
    else if c = '$' then
      match rest with
      | '{' :: rest => do
        let (inner, rest) ← takeGroup fuel '}' rest
        before ('$' :: '{' :: inner ++ ['}']) (takeGroup fuel close rest)
      | rest => before ['$'] (takeGroup fuel close rest)
    else before [c] (takeGroup fuel close rest)

def takeDoubleQuoted : Nat → List Char → Taken
  | 0, _ => none
  | _ + 1, [] => none
  | fuel + 1, c :: rest =>
    if c = '"' then some ([], rest)
    else if c = '\\' then
      match rest with
      | [] => none
      | escaped :: rest => before ['\\', escaped] (takeDoubleQuoted fuel rest)
    else if c = '$' then
      match rest with
      | '{' :: rest => do
        let (inner, rest) ← takeGroup fuel '}' rest
        before ('$' :: '{' :: inner ++ ['}']) (takeDoubleQuoted fuel rest)
      | '(' :: rest => do
        let (inner, rest) ← takeGroup fuel ')' rest
        before ('$' :: '(' :: inner ++ [')']) (takeDoubleQuoted fuel rest)
      | rest => before ['$'] (takeDoubleQuoted fuel rest)
    else before [c] (takeDoubleQuoted fuel rest)

end

private def trimmingUse? (make : List Char → Bool → Use) (mark : Char) : List Char → Use
  | c :: rest => if c = mark then make rest true else make (c :: rest) false
  | [] => make [] false

private def useOf? : List Char → Option Use
  | [] => some .value
  | ':' :: '-' :: operand => some (.orElse operand true)
  | '-' :: operand => some (.orElse operand false)
  | ':' :: '=' :: operand => some (.orAssign operand true)
  | '=' :: operand => some (.orAssign operand false)
  | ':' :: '?' :: operand => some (.orFail operand true)
  | '?' :: operand => some (.orFail operand false)
  | ':' :: '+' :: operand => some (.ifSet operand true)
  | '+' :: operand => some (.ifSet operand false)
  | '#' :: rest => some (trimmingUse? .withoutStart '#' rest)
  | '%' :: rest => some (trimmingUse? .withoutEnd '%' rest)
  | _ => none

def takeName? : List Char → Option (String × List Char)
  | [] => none
  | c :: rest =>
    if isNameStart c then
      some (String.ofList (c :: rest.takeWhile isNameCharacter), rest.dropWhile isNameCharacter)
    else if c.isDigit then
      some (String.ofList (c :: rest.takeWhile Char.isDigit), rest.dropWhile Char.isDigit)
    else if isSpecialName c then some (c.toString, rest)
    else none

private def bracedPiece? (inQuotes : Bool) (text : List Char) : Option Piece :=
  let named (text : List Char) : Option Piece := do
    let (name, rest) ← takeName? text
    return .variableValue name (← useOf? rest) inQuotes
  match text with
  | '#' :: c :: rest =>
    match takeName? (c :: rest) with
    | some (name, []) => some (.variableValue name .length inQuotes)
    | _ => named text
  | _ => named text

def readDollar (inQuotes : Bool) (text : List Char) : Option (Piece × List Char) :=
  let fuel := text.length + 1
  let alone : Piece := if inQuotes then .quoted ['$'] else .plain ['$']
  match text with
  | '(' :: '(' :: rest => do
    let (inner, rest) ← takeGroup fuel ')' rest
    match rest with
    | ')' :: rest => return (.sum inner inQuotes, rest)
    | _ => none
  | '(' :: rest => do
    let (inner, rest) ← takeGroup fuel ')' rest
    return (.outputOf inner inQuotes, rest)
  | '{' :: rest => do
    let (inner, rest) ← takeGroup fuel '}' rest
    return (← bracedPiece? inQuotes inner, rest)
  | c :: rest =>
    if isNameStart c then do
      let (name, rest) ← takeName? text
      return (.variableValue name .value inQuotes, rest)
    else if c.isDigit || isSpecialName c then
      some (.variableValue c.toString .value inQuotes, rest)
    else some (alone, text)
  | [] => some (alone, [])

def addPiece (piece : Piece) (word : Word) : Word :=
  match piece, word with
  | .plain text, .plain more :: word => .plain (text ++ more) :: word
  | .quoted text, .quoted more :: word => .quoted (text ++ more) :: word
  | piece, word => piece :: word

private def withPiece (piece : Piece) :
    Option (Word × List Char) → Option (Word × List Char)
  | some (word, rest) => some (addPiece piece word, rest)
  | none => none

/--
Text in which only the dollar sign, the backquote and the backslash mean something, up to the
closing character or the end.
-/
def readOpenText : Nat → Option Char → List Char → Option (Word × List Char)
  | 0, _, _ => none
  | _ + 1, close, [] => if close.isNone then some ([], []) else none
  | fuel + 1, close, c :: rest =>
    if close = some c then some ([], rest)
    else if c = '\\' then
      match rest with
      | [] => withPiece (.quoted ['\\']) (readOpenText fuel close [])
      | escaped :: rest =>
        if escaped = '\n' then readOpenText fuel close rest
        else if escaped == '$' || escaped == '`' || escaped == '\\' || close == some escaped then
          withPiece (.quoted [escaped]) (readOpenText fuel close rest)
        else withPiece (.quoted ['\\', escaped]) (readOpenText fuel close rest)
    else if c = '$' then do
      let (piece, rest) ← readDollar true rest
      withPiece piece (readOpenText fuel close rest)
    else if c = '`' then do
      let (source, rest) ← takeBackquoted rest
      withPiece (.outputOf source true) (readOpenText fuel close rest)
    else withPiece (.quoted [c]) (readOpenText fuel close rest)

def readWordWith (ends : Char → Bool) : Nat → List Char → Option (Word × List Char)
  | 0, _ => none
  | _ + 1, [] => some ([], [])
  | fuel + 1, c :: rest =>
    if ends c then some ([], c :: rest)
    else if c = '\\' then
      match rest with
      | [] => some ([.plain ['\\']], [])
      | escaped :: rest =>
        if escaped = '\n' then readWordWith ends fuel rest
        else withPiece (.quoted [escaped]) (readWordWith ends fuel rest)
    else if c = '\'' then do
      let (text, rest) ← takeUntil '\'' rest
      withPiece (.quoted text) (readWordWith ends fuel rest)
    else if c = '"' then do
      let (pieces, rest) ← readOpenText fuel (some '"') rest
      let (word, rest) ← readWordWith ends fuel rest
      return ((if pieces.isEmpty then [.quoted []] else pieces) ++ word, rest)
    else if c = '$' then do
      let (piece, rest) ← readDollar false rest
      withPiece piece (readWordWith ends fuel rest)
    else if c = '`' then do
      let (source, rest) ← takeBackquoted rest
      withPiece (.outputOf source false) (readWordWith ends fuel rest)
    else withPiece (.plain [c]) (readWordWith ends fuel rest)

def readWord (text : List Char) : Option (Word × List Char) :=
  readWordWith isDelimiter (text.length + 1) text

def readOperand (inQuotes : Bool) (text : List Char) : Option Word :=
  if inQuotes then (readOpenText (text.length + 1) none text).map (·.1)
  else (readWordWith (fun _ => false) (text.length + 1) text).map (·.1)

end Enforcement.Shell
