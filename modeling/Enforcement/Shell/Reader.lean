import Enforcement.Shell.Word

/-! Commands of a script read from text. -/

namespace Enforcement.Shell

def skipBlanks : List Char → List Char
  | [] => []
  | '\\' :: '\n' :: rest => skipBlanks rest
  | c :: rest =>
    if isBlank c then skipBlanks rest
    else if c = '#' then rest.dropWhile (· != '\n')
    else c :: rest

def skipBreaks : Nat → List Char → List Char
  | 0, text => text
  | fuel + 1, text =>
    match skipBlanks text with
    | '\n' :: rest => skipBreaks fuel rest
    | text => text

def skipLines (text : List Char) : List Char := skipBreaks (text.length + 1) text

def afterKeyword? (word : String) (text : List Char) : Option (List Char) :=
  let letters := word.toList
  if !letters.isPrefixOf text then none
  else
    match text.drop letters.length with
    | [] => some []
    | c :: rest => if isDelimiter c then some (c :: rest) else none

def closingKeywords : List String := ["then", "else", "elif", "fi", "do", "done", "esac", "\x7d"]

def atClosing (text : List Char) : Bool :=
  match text with
  | [] => true
  | ')' :: _ => true
  | ';' :: ';' :: _ => true
  | text => closingKeywords.any fun word => (afterKeyword? word text).isSome

def takeHere (ending : List Char) (dropTabs : Bool) : Nat → List Char → List Char × List Char
  | 0, text => ([], text)
  | _ + 1, [] => ([], [])
  | fuel + 1, text =>
    let line := text.takeWhile (· != '\n')
    let rest := (text.dropWhile (· != '\n')).drop 1
    let line := if dropTabs then line.dropWhile (· == '\t') else line
    if line == ending then ([], rest)
    else
      let (body, rest) := takeHere ending dropTabs fuel rest
      (line ++ '\n' :: body, rest)

private def isQuoted : Piece → Bool
  | .quoted _ => true
  | _ => false

private def literalText (word : Word) : List Char :=
  word.flatMap fun piece => match piece with
    | .plain text => text
    | .quoted text => text
    | _ => []

/-- A text given in place: it stands on the lines after this one, and is cut out of them. -/
private def readHere (stream : Nat) (dropTabs : Bool) (text : List Char) :
    Option (Redirection × List Char) := do
  let (ending, rest) ← readWord (skipBlanks text)
  let line := rest.takeWhile (· != '\n')
  let below := (rest.dropWhile (· != '\n')).drop 1
  let (body, below) := takeHere (literalText ending) dropTabs (below.length + 1) below
  let target ← if ending.any isQuoted then some [.quoted body]
    else (readOpenText (body.length + 1) none body).map (·.1)
  return (⟨stream, .here, target⟩, line ++ '\n' :: below)

def readRedirection? (text : List Char) : Option (Option (Redirection × List Char)) :=
  let digits := text.takeWhile Char.isDigit
  let rest := text.dropWhile Char.isDigit
  let stream (standard : Nat) :=
    if digits.isEmpty then standard else (String.ofList digits).toNat?.getD standard
  let toWord (standard : Nat) (direction : Direction) (rest : List Char) := do
    let (target, rest) ← readWord (skipBlanks rest)
    if target.isEmpty then none
    else some (some (⟨stream standard, direction, target⟩, rest))
  match rest with
  | '<' :: '<' :: '-' :: rest => (readHere (stream 0) true rest).map some
  | '<' :: '<' :: rest => (readHere (stream 0) false rest).map some
  | '<' :: '&' :: rest => toWord 0 .copy rest
  | '<' :: rest => toWord 0 .input rest
  | '>' :: '>' :: rest => toWord 1 .append rest
  | '>' :: '&' :: rest => toWord 1 .copy rest
  | '>' :: '|' :: rest => toWord 1 .output rest
  | '>' :: rest => toWord 1 .output rest
  | _ => some none

def readRedirections : Nat → List Char → Option (List Redirection × List Char)
  | 0, _ => none
  | fuel + 1, text => do
    match ← readRedirection? (skipBlanks text) with
    | none => return ([], text)
    | some (redirection, rest) =>
      let (redirections, rest) ← readRedirections fuel rest
      return (redirection :: redirections, rest)

def assignment? : Word → Option (String × Word)
  | .plain text :: word =>
    let name := text.takeWhile isNameCharacter
    match name, text.dropWhile isNameCharacter with
    | c :: _, '=' :: value =>
      if isNameStart c then
        some (String.ofList name, if value.isEmpty then word else .plain value :: word)
      else none
    | _, _ => none
  | _ => none

structure SimpleParts where
  assignments : List (String × Word)
  words : List Word
  redirections : List Redirection

def readSimple : Nat → Bool → List Char → Option (SimpleParts × List Char)
  | 0, _, _ => none
  | fuel + 1, started, text => do
    let text := skipBlanks text
    match ← readRedirection? text with
    | some (redirection, rest) =>
      let (parts, rest) ← readSimple fuel started rest
      return ({ parts with redirections := redirection :: parts.redirections }, rest)
    | none =>
      match text with
      | [] => return (⟨[], [], []⟩, [])
      | c :: _ =>
        if isDelimiter c then return (⟨[], [], []⟩, text)
        else do
          let (word, rest) ← readWord text
          match started, assignment? word with
          | false, some held =>
            let (parts, rest) ← readSimple fuel false rest
            return ({ parts with assignments := held :: parts.assignments }, rest)
          | _, _ =>
            let (parts, rest) ← readSimple fuel true rest
            return ({ parts with words := word :: parts.words }, rest)

def readWords : Nat → List Char → Option (List Word × List Char)
  | 0, _ => none
  | fuel + 1, text =>
    match skipBlanks text with
    | [] => some ([], [])
    | c :: rest =>
      if isDelimiter c then some ([], c :: rest)
      else do
        let (word, rest) ← readWord (c :: rest)
        let (words, rest) ← readWords fuel rest
        return (word :: words, rest)

def readPatterns : Nat → List Char → Option (List Word × List Char)
  | 0, _ => none
  | fuel + 1, text => do
    let (pattern, rest) ← readWord (skipBlanks text)
    match skipBlanks rest with
    | '|' :: rest => do
      let (patterns, rest) ← readPatterns fuel rest
      return (pattern :: patterns, rest)
    | ')' :: rest => return ([pattern], rest)
    | _ => none

def functionName? (text : List Char) : Option (String × List Char) := do
  let (name, rest) ← takeName? text
  if !name.toList.all isNameCharacter then none
  match skipBlanks rest with
  | '(' :: rest =>
    match skipBlanks rest with
    | ')' :: rest => return (name, rest)
    | _ => none
  | _ => none

private def lineBreaks (text : List Char) : Nat := text.count '\n'

mutual

/-- Commands up to what ends them, or only those of the first line that has any. -/
def readSequence : Nat → Nat → Bool → List Char → Option (List Command × List Char)
  | 0, _, _, _ => none
  | fuel + 1, lines, oneLine, text =>
    let text := skipLines text
    if atClosing text then some ([], text)
    else do
      let (command, rest) ← readChain fuel lines text
      let (command, rest, ended) := match skipBlanks rest with
        | '&' :: rest => (Command.background command, rest, false)
        | ';' :: ';' :: rest => (command, ';' :: ';' :: rest, true)
        | ';' :: rest => (command, rest, false)
        | '\n' :: rest => (command, '\n' :: rest, oneLine)
        | rest => (command, rest, true)
      let ended := ended || (oneLine && (match skipBlanks rest with
        | '\n' :: _ => true
        | [] => true
        | _ => false))
      if ended then return ([command], rest)
      let (commands, rest) ← readSequence fuel lines oneLine rest
      return (command :: commands, rest)

def readChain : Nat → Nat → List Char → Option (Command × List Char)
  | 0, _, _ => none
  | fuel + 1, lines, text => do
    let (first, rest) ← readPipeline fuel lines text
    readChainFrom fuel lines first rest

def readChainFrom : Nat → Nat → Command → List Char → Option (Command × List Char)
  | 0, _, _, _ => none
  | fuel + 1, lines, first, text =>
    match skipBlanks text with
    | '&' :: '&' :: rest => do
      let (second, rest) ← readPipeline fuel lines (skipLines rest)
      readChainFrom fuel lines (.both first second) rest
    | '|' :: '|' :: rest => do
      let (second, rest) ← readPipeline fuel lines (skipLines rest)
      readChainFrom fuel lines (.either first second) rest
    | rest => some (first, rest)

def readPipeline : Nat → Nat → List Char → Option (Command × List Char)
  | 0, _, _ => none
  | fuel + 1, lines, text =>
    match afterKeyword? "!" text with
    | some rest => do
      let (command, rest) ← readPipeline fuel lines (skipBlanks rest)
      return (.negated command, rest)
    | none => do
      let (stages, rest) ← readStages fuel lines text
      match stages with
      | [stage] => return (stage, rest)
      | stages => return (.pipeline stages, rest)

def readStages : Nat → Nat → List Char → Option (List Command × List Char)
  | 0, _, _ => none
  | fuel + 1, lines, text => do
    let (stage, rest) ← readCommand fuel lines text
    match skipBlanks rest with
    | '|' :: '|' :: _ => return ([stage], rest)
    | '|' :: rest => do
      let (stages, rest) ← readStages fuel lines (skipLines rest)
      return (stage :: stages, rest)
    | rest => return ([stage], rest)

def readCommand : Nat → Nat → List Char → Option (Command × List Char)
  | 0, _, _ => none
  | fuel + 1, lines, text => do
    let line := lines - lineBreaks text + 1
    match ← readCompound fuel lines text with
    | some (command, rest) =>
      let (redirections, rest) ← readRedirections (rest.length + 1) rest
      return (if redirections.isEmpty then command else .redirected command line redirections, rest)
    | none =>
      match functionName? text with
      | some (name, rest) => do
        let (body, rest) ← readCommand fuel lines (skipLines rest)
        return (.define name body, rest)
      | none =>
        let (parts, rest) ← readSimple (text.length + 1) false text
        if parts.assignments.isEmpty && parts.words.isEmpty && parts.redirections.isEmpty then none
        let command := Command.simple line parts.assignments parts.words
        return (if parts.redirections.isEmpty then command
          else .redirected command line parts.redirections, rest)

def readCompound : Nat → Nat → List Char → Option (Option (Command × List Char))
  | 0, _, _ => none
  | fuel + 1, lines, text =>
    match text with
    | '(' :: rest => do
      let (body, rest) ← readSequence fuel lines false rest
      match rest with
      | ')' :: rest => return some (.subshell body, rest)
      | _ => none
    | text =>
      match afterKeyword? "\x7b" text, afterKeyword? "if" text, afterKeyword? "while" text,
        afterKeyword? "until" text, afterKeyword? "for" text, afterKeyword? "case" text with
      | some rest, _, _, _, _, _ => do
        let (body, rest) ← readSequence fuel lines false rest
        return some (.group body, ← afterKeyword? "\x7d" rest)
      | _, some rest, _, _, _, _ => do
        let (branches, otherwise, rest) ← readBranches fuel lines rest
        return some (.choice branches otherwise, rest)
      | _, _, some rest, _, _, _ => (readLoop fuel lines false rest).map some
      | _, _, _, some rest, _, _ => (readLoop fuel lines true rest).map some
      | _, _, _, _, some rest, _ => do
        let (name, rest) ← takeName? (skipBlanks rest)
        let rest := skipLines rest
        let (words, rest) ← match afterKeyword? "in" rest with
          | some rest =>
            (readWords (rest.length + 1) rest).map fun (words, rest) => (some words, rest)
          | none => some (none, rest)
        let rest := match skipBlanks rest with
          | ';' :: rest => rest
          | rest => rest
        let (body, rest) ← readSequence fuel lines false (← afterKeyword? "do" (skipLines rest))
        return some (.each name words body, ← afterKeyword? "done" rest)
      | _, _, _, _, _, some rest => do
        let (subject, rest) ← readWord (skipBlanks rest)
        let (branches, rest) ← readSelection fuel lines (← afterKeyword? "in" (skipLines rest))
        return some (.select subject branches, rest)
      | _, _, _, _, _, _ => some none

def readLoop : Nat → Nat → Bool → List Char → Option (Command × List Char)
  | 0, _, _, _ => none
  | fuel + 1, lines, whileFails, text => do
    let (condition, rest) ← readSequence fuel lines false text
    let (body, rest) ← readSequence fuel lines false (← afterKeyword? "do" rest)
    return (.loop whileFails condition body, ← afterKeyword? "done" rest)

def readBranches : Nat → Nat → List Char →
    Option (List (List Command × List Command) × List Command × List Char)
  | 0, _, _ => none
  | fuel + 1, lines, text => do
    let (condition, rest) ← readSequence fuel lines false text
    let (body, rest) ← readSequence fuel lines false (← afterKeyword? "then" rest)
    match afterKeyword? "elif" rest, afterKeyword? "else" rest with
    | some rest, _ =>
      let (branches, otherwise, rest) ← readBranches fuel lines rest
      return ((condition, body) :: branches, otherwise, rest)
    | _, some rest =>
      let (otherwise, rest) ← readSequence fuel lines false rest
      return ([(condition, body)], otherwise, ← afterKeyword? "fi" rest)
    | _, _ => return ([(condition, body)], [], ← afterKeyword? "fi" rest)

def readSelection : Nat → Nat → List Char →
    Option (List (List Word × List Command) × List Char)
  | 0, _, _ => none
  | fuel + 1, lines, text =>
    let text := skipLines text
    match afterKeyword? "esac" text with
    | some rest => some ([], rest)
    | none => do
      let start := match text with
        | '(' :: rest => rest
        | text => text
      let (patterns, rest) ← readPatterns (start.length + 1) start
      let (body, rest) ← readSequence fuel lines false rest
      match rest with
      | ';' :: ';' :: rest =>
        let (branches, rest) ← readSelection fuel lines rest
        return ((patterns, body) :: branches, rest)
      | rest => return ([(patterns, body)], ← afterKeyword? "esac" rest)

end

/--
The commands of the next line that has any, and the text after it. The first number is that of the
line breaks in the whole script.
-/
def readNext (lines : Nat) (text : List Char) : Option (List Command × List Char) :=
  readSequence (4 * text.length + 8) lines true text

end Enforcement.Shell
