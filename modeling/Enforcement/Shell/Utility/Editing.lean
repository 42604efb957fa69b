import Enforcement.Shell.Utility.Streams

/-! The stream editor: lines changed by a few commands. -/

namespace Enforcement.Shell.Utility

open Enforcement.Text

inductive Address where
  | line (number : Nat)
  | last
  | fitting (regex : Regex)
  deriving DecidableEq, Repr, Inhabited

inductive Edit where
  | substitute (regex : Regex) (replacement : List Char) (everywhere print ignoreCase : Bool)
      (occurrence : Nat)
  | delete
  | print
  | quit
  | transliterate (left right : List Char)
  | append (text : List Char)
  | insert (text : List Char)
  | change (text : List Char)
  deriving DecidableEq, Repr, Inhabited

structure EditRule where
  first : Option Address
  last : Option Address
  negated : Bool
  edit : Edit
  deriving DecidableEq, Repr, Inhabited

private def takeDelimited (mark : Char) : List Char → Option (List Char × List Char)
  | [] => none
  | '\\' :: c :: rest =>
    (takeDelimited mark rest).map fun (text, rest) =>
      (if c = mark then c :: text else '\\' :: c :: text, rest)
  | c :: rest =>
    if c = mark then some ([], rest)
    else (takeDelimited mark rest).map fun (text, rest) => (c :: text, rest)

private def readAddress? (extended : Bool) (text : List Char) :
    Option (Option Address × List Char) :=
  match text with
  | '$' :: rest => some (some .last, rest)
  | '/' :: rest => do
    let (pattern, rest) ← takeDelimited '/' rest
    return (some (.fitting (← Regex.ofText? extended pattern)), rest)
  | c :: _ =>
    if c.isDigit then
      let digits := text.takeWhile Char.isDigit
      some (some (.line ((String.ofList digits).toNat?.getD 0)), text.dropWhile Char.isDigit)
    else some (none, text)
  | [] => some (none, [])

private def isGap (c : Char) : Bool := c == ' ' || c == '\t' || c == ';' || c == '\n'

private def readAddedText (text : List Char) : List Char × List Char :=
  let text := text.dropWhile fun c => c == ' ' || c == '\t'
  let text := match text with
    | '\\' :: '\n' :: rest => rest
    | '\\' :: rest => rest
    | text => text
  (text.takeWhile (· != '\n'), text.dropWhile (· != '\n'))

private def readEdit? (extended : Bool) (text : List Char) : Option (Edit × List Char) :=
  match text with
  | 's' :: mark :: rest => do
    let (pattern, rest) ← takeDelimited mark rest
    let (replacement, rest) ← takeDelimited mark rest
    let flags := rest.takeWhile fun c => c == 'g' || c == 'p' || c == 'i' || c == 'I' || c.isDigit
    let digits := flags.filter Char.isDigit
    return (.substitute (← Regex.ofText? extended pattern) replacement (flags.contains 'g')
      (flags.contains 'p') (flags.contains 'i' || flags.contains 'I')
      ((String.ofList digits).toNat?.getD 1), rest.drop flags.length)
  | 'y' :: mark :: rest => do
    let (left, rest) ← takeDelimited mark rest
    let (right, rest) ← takeDelimited mark rest
    return (.transliterate left right, rest)
  | 'd' :: rest => some (.delete, rest)
  | 'p' :: rest => some (.print, rest)
  | 'q' :: rest => some (.quit, rest)
  | 'a' :: rest => let (text, rest) := readAddedText rest; some (.append text, rest)
  | 'i' :: rest => let (text, rest) := readAddedText rest; some (.insert text, rest)
  | 'c' :: rest => let (text, rest) := readAddedText rest; some (.change text, rest)
  | _ => none

def readRules (extended : Bool) : Nat → List Char → Option (List EditRule)
  | 0, _ => none
  | fuel + 1, text =>
    match text.dropWhile isGap with
    | [] => some []
    | text => do
      let (first, rest) ← readAddress? extended text
      let (last, rest) ← match rest with
        | ',' :: rest => readAddress? extended rest
        | rest => some (none, rest)
      let rest := rest.dropWhile fun c => c == ' '
      let (negated, rest) := match rest with
        | '!' :: rest => (true, rest)
        | rest => (false, rest)
      let (edit, rest) ← readEdit? extended rest
      return ⟨first, last, negated, edit⟩ :: (← readRules extended fuel rest)

/-- The replacement of one match. -/
private def replacementFor (matched : List Char) (groups : List (Nat × List Char)) :
    List Char → List Char
  | [] => []
  | '\\' :: c :: rest =>
    let more := replacementFor matched groups rest
    if c.isDigit then
      if c = '0' then matched ++ more
      else ((groups.find? (·.1 == c.toNat - 48)).map (·.2)).getD [] ++ more
    else if c = 'n' then '\n' :: more
    else if c = 't' then '\t' :: more
    else c :: more
  | '&' :: rest => matched ++ replacementFor matched groups rest
  | c :: rest => c :: replacementFor matched groups rest

private def replaceFrom (regex : Regex) (replacement : List Char) (everywhere ignoreCase : Bool) :
    Nat → Nat → Nat → List Char → List Char × Bool
  | 0, _, _, text => (text, false)
  | fuel + 1, wait, offset, text =>
    match regex.search? ignoreCase offset text with
    | none => (text, false)
    | some (start, spot) =>
      let skipped := text.take (start - offset)
      let matched := (text.drop (start - offset)).take (spot.offset - start)
      let (step, rest) := match matched, spot.rest with
        | [], c :: rest => ([c], rest)
        | _, rest => ([], rest)
      let next := spot.offset + step.length
      let atEnd := matched.isEmpty && spot.rest.isEmpty
      if 1 < wait then
        if atEnd then (text, false)
        else
          let (more, changed) :=
            replaceFrom regex replacement everywhere ignoreCase fuel (wait - 1) next rest
          (skipped ++ matched ++ step ++ more, changed)
      else
        let new := skipped ++ replacementFor matched spot.groups replacement ++ step
        if !everywhere || atEnd then (new ++ rest, true)
        else (new ++ (replaceFrom regex replacement everywhere ignoreCase fuel 1 next rest).1, true)

private structure EditState where
  text : List Char
  printed : List (List Char)
  after : List (List Char)
  deleted : Bool
  stopped : Bool

private def Address.isAt (address : Address) (number : Nat) (isLast : Bool) (text : List Char) :
    Bool :=
  match address with
  | .line held => held == number
  | .last => isLast
  | .fitting regex => (regex.search? false 0 text).isSome

private def applyEdit (state : EditState) : Edit → EditState
  | .substitute regex replacement everywhere print ignoreCase occurrence =>
    let (text, changed) := replaceFrom regex replacement everywhere ignoreCase
      (state.text.length + 2) occurrence 0 state.text
    if !changed then state
    else { state with text := text, printed := state.printed ++ (if print then [text] else []) }
  | .delete => { state with deleted := true }
  | .print => { state with printed := state.printed ++ [state.text] }
  | .quit => { state with stopped := true }
  | .transliterate left right =>
    { state with text := state.text.map fun c =>
        ((left.zip right).find? (·.1 == c)).elim c (·.2) }
  | .append text => { state with after := state.after ++ [text] }
  | .insert text => { state with printed := state.printed ++ [text] }
  | .change text => { state with printed := state.printed ++ [text], deleted := true }

private def applies (rule : EditRule) (isOpen : Bool) (number : Nat) (isLast : Bool)
    (text : List Char) : Bool × Bool :=
  match rule.first, rule.last with
  | none, _ => (true, false)
  | some first, none => (first.isAt number isLast text, false)
  | some first, some final =>
    if isOpen then (true, !final.isAt number isLast text)
    else if first.isAt number isLast text then
      match final with
      | .line held => (true, number < held)
      | .last => (true, !isLast)
      | .fitting _ => (true, true)
    else (false, false)

def sed (arguments : List String) : Script Nat := do
  let extended := arguments.contains "-E" || arguments.contains "-r"
  let silent := arguments.contains "-n"
  let isFlag (word : String) := word == "-E" || word == "-r" || word == "-n"
  let words := arguments.filter (!isFlag ·)
  let rec scripts : List String → List String × List String
    | "-e" :: script :: rest => let (more, paths) := scripts rest; (script :: more, paths)
    | word :: rest => let (more, paths) := scripts rest; (more, word :: paths)
    | [] => ([], [])
  let (given, operands) := scripts words
  let (script, paths) := if given.isEmpty then (operands.headD "", operands.drop 1)
    else ("\n".intercalate given, operands)
  match readRules extended (script.length + 1) script.toList with
  | none =>
    Script.complain s!"sed: -e expression #1, char {script.length}: unknown command"
    return 1
  | some rules =>
    let mut inputs : List UInt8 := []
    let mut whole := true
    if paths.isEmpty then inputs := ← Script.takeInput
    for path in paths do
      match ← Script.readFile path with
      | .ok bytes => inputs := inputs ++ bytes
      | .error fault =>
        Script.complain s!"sed: can't read {path}: {reason fault}"
        whole := false
    let lines := textLines inputs
    let unfinished := !inputs.isEmpty && inputs.getLast? != some 10
    let mut opened := rules.map fun _ => false
    let mut number := 0
    let mut running := true
    for line in lines do
      if running then
        number := number + 1
        let isLast := number == lines.length
        let mut state : EditState := ⟨line.toList, [], [], false, false⟩
        let mut place := 0
        for rule in rules do
          if !state.deleted && !state.stopped then
            let (holds, stays) := applies rule (opened.getD place false) number isLast state.text
            opened := opened.set place stays
            if holds != rule.negated then state := applyEdit state rule.edit
          place := place + 1
        let own := if state.deleted || silent then [] else [state.text]
        let out := state.printed ++ own ++ state.after
        let text := out.flatMap (· ++ ['\n'])
        Script.putText (String.ofList (if isLast && unfinished then text.dropLast else text))
        if state.stopped then running := false
    return if whole then 0 else 2

end Enforcement.Shell.Utility
