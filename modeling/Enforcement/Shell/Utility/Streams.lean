import Enforcement.Shell.Format
import Enforcement.Shell.Machine
import Enforcement.Shell.Regex

/-! Programs that read streams of text and print what they make of them. -/

namespace Enforcement.Shell.Utility

open Enforcement.Files Enforcement.Text

def reason : Fault → String
  | .notFound => "No such file or directory"
  | .permission => "Permission denied"
  | .alreadyExists => "File exists"
  | .notDirectory => "Not a directory"
  | .isDirectory => "Is a directory"
  | .nameTooLong => "File name too long"
  | .nameWithNul => "Invalid argument"
  | .notText => "Invalid argument"

def readInputs (program : String) (paths : List String) :
    Script (List (String × List UInt8) × Bool) := do
  if paths.isEmpty then return ([("-", ← Script.takeInput)], true)
  let mut inputs : List (String × List UInt8) := []
  let mut whole := true
  for path in paths do
    if path == "-" then inputs := inputs ++ [(path, ← Script.takeInput)]
    else
      match ← Script.readFile path with
      | .ok bytes => inputs := inputs ++ [(path, bytes)]
      | .error fault =>
        Script.complain s!"{program}: {path}: {reason fault}"
        whole := false
  return (inputs, whole)

def statusOf (succeeded : Bool) : Nat := if succeeded then 0 else 1

def byteLines : List UInt8 → List UInt8 → List (List UInt8)
  | [], [] => []
  | [], line => [line.reverse]
  | byte :: rest, line =>
    if byte = 10 then line.reverse :: byteLines rest [] else byteLines rest (byte :: line)

def linesOf (bytes : List UInt8) : List (List UInt8) := byteLines bytes []

def textLines (bytes : List UInt8) : List String := (linesOf bytes).map decodeUtf8

def putTextLine (text : String) : Script Unit := Script.putText (text ++ "\n")

def isOption (word : String) : Bool :=
  match word.toList with
  | '-' :: _ :: _ => true
  | _ => false

def lettersAndOperands (arguments : List String) : List Char × List String :=
  let options := (arguments.takeWhile isOption).takeWhile (· != "--")
  let operands := arguments.drop options.length
  let operands := if operands.head? == some "--" then operands.drop 1 else operands
  (options.flatMap fun option => option.toList.drop 1, operands)

def cat (arguments : List String) : Script Nat := do
  let (_, paths) := lettersAndOperands arguments
  let (inputs, whole) ← readInputs "cat" paths
  for (_, bytes) in inputs do Script.put bytes
  return statusOf whole

structure Extent where
  fromStart : Bool
  count : Nat
  inBytes : Bool

private def extentOf (inBytes : Bool) (text : String) : Extent :=
  match text.toList with
  | '+' :: digits => ⟨true, (String.ofList digits).toNat?.getD 0, inBytes⟩
  | '-' :: digits => ⟨false, (String.ofList digits).toNat?.getD 0, inBytes⟩
  | _ => ⟨false, text.toNat?.getD 0, inBytes⟩

private def readExtent : List String → Extent × List String
  | [] => (⟨false, 10, false⟩, [])
  | word :: rest =>
    match word.toList, rest with
    | ['-', 'n'], count :: rest => (extentOf false count, rest)
    | ['-', 'c'], count :: rest => (extentOf true count, rest)
    | '-' :: 'n' :: count, rest => (extentOf false (String.ofList count), rest)
    | '-' :: 'c' :: count, rest => (extentOf true (String.ofList count), rest)
    | '-' :: count, rest =>
      if count.isEmpty then (⟨false, 10, false⟩, word :: rest)
      else (extentOf false (String.ofList count), rest)
    | _, rest => (⟨false, 10, false⟩, word :: rest)

private def joinLines (bytes : List UInt8) (lines : List (List UInt8)) (reachesEnd : Bool) :
    List UInt8 :=
  let joined := lines.flatMap (· ++ [10])
  if reachesEnd && bytes.getLast? != some 10 then joined.dropLast else joined

def head (arguments : List String) : Script Nat := do
  let (extent, paths) := readExtent arguments
  let (inputs, whole) ← readInputs "head" paths
  for (_, bytes) in inputs do
    if extent.inBytes then Script.put (bytes.take extent.count)
    else
      let lines := linesOf bytes
      Script.put (joinLines bytes (lines.take extent.count) (lines.length ≤ extent.count))
  return statusOf whole

def tail (arguments : List String) : Script Nat := do
  let (extent, paths) := readExtent arguments
  let (inputs, whole) ← readInputs "tail" paths
  for (_, bytes) in inputs do
    let skipped (total : Nat) := if extent.fromStart then extent.count - 1 else total - extent.count
    if extent.inBytes then Script.put (bytes.drop (skipped bytes.length))
    else
      let lines := linesOf bytes
      Script.put (joinLines bytes (lines.drop (skipped lines.length)) true)
  return statusOf whole

private def rightAligned (width : Nat) (text : String) : String :=
  String.ofList (List.replicate (width - text.length) ' ') ++ text

private def wordCount (bytes : List UInt8) : Nat :=
  let isSpace (byte : UInt8) := byte == 32 || (9 ≤ byte && byte ≤ 13)
  (bytes.foldl (fun (count, inside) byte =>
    if isSpace byte then (count, false) else (if inside then count else count + 1, true))
    ((0, false) : Nat × Bool)).1

def wc (arguments : List String) : Script Nat := do
  let (letters, paths) := lettersAndOperands arguments
  let (inputs, whole) ← readInputs "wc" paths
  let wanted := if letters.isEmpty then ['l', 'w', 'c'] else letters
  let size := inputs.foldl (fun size input => size + input.2.length) 0
  let width := if wanted.length = 1 && inputs.length ≤ 1 then 1
    else if paths.isEmpty then 7 else (toString size).length
  let counts (bytes : List UInt8) : List Nat :=
    (if wanted.contains 'l' then [bytes.count 10] else []) ++
      (if wanted.contains 'w' then [wordCount bytes] else []) ++
      (if wanted.contains 'm' then [bytes.length] else []) ++
      (if wanted.contains 'c' then [bytes.length] else [])
  let row (numbers : List Nat) (name : String) : String :=
    " ".intercalate (numbers.map fun number => rightAligned width (toString number)) ++
      (if name == "-" && paths.isEmpty then "" else " " ++ name)
  for (name, bytes) in inputs do putTextLine (row (counts bytes) name)
  if 1 < inputs.length then
    let totals := inputs.foldl (fun totals (_, bytes) =>
      List.zipWith (· + ·) totals (counts bytes)) ((counts []).map fun _ => 0)
    putTextLine (row totals "total")
  return statusOf whole

private def setOf : Nat → List Char → List Char
  | 0, _ => []
  | _ + 1, [] => []
  | fuel + 1, c :: rest =>
    let span (low high : Char) : List Char :=
      (List.range (high.toNat + 1 - low.toNat)).map fun step => Char.ofNat (low.toNat + step)
    let classes : List (String × List Char) :=
      [("[:upper:]", span 'A' 'Z'), ("[:lower:]", span 'a' 'z'), ("[:digit:]", span '0' '9'),
        ("[:alpha:]", span 'A' 'Z' ++ span 'a' 'z'),
        ("[:alnum:]", span '0' '9' ++ span 'A' 'Z' ++ span 'a' 'z'),
        ("[:space:]", span '\t' '\r' ++ [' ']), ("[:blank:]", ['\t', ' '])]
    match classes.find? fun held => held.1.toList.isPrefixOf (c :: rest) with
    | some (name, members) => members ++ setOf fuel ((c :: rest).drop name.length)
    | none =>
      if c = '\\' && !rest.isEmpty then
        let (bytes, rest) := escape rest
        match bytes, rest with
        | [92], other :: rest => other :: setOf fuel rest
        | bytes, rest => (bytes.map fun byte => Char.ofNat byte.toNat) ++ setOf fuel rest
      else
        match rest with
        | '-' :: high :: rest => span c high ++ setOf fuel rest
        | rest => c :: setOf fuel rest

private def squeezed (set : List Char) : List Char → List Char
  | [] => []
  | [c] => [c]
  | c :: d :: rest =>
    if c = d && set.contains c then squeezed set (d :: rest) else c :: squeezed set (d :: rest)

def tr (arguments : List String) : Script Nat := do
  let (letters, sets) := lettersAndOperands arguments
  let members := sets.map fun set => setOf (set.length + 1) set.toList
  let first := members.headD []
  let second := members.getD 1 []
  let complement := letters.contains 'c' || letters.contains 'C'
  let inFirst (c : Char) := first.contains c != complement
  let text := (decodeUtf8 (← Script.takeInput)).toList
  let replaced (c : Char) : Char :=
    if complement then (if inFirst c then second.getLast?.getD c else c)
    else
      match (first.zip (List.range first.length)).reverse.find? (·.1 == c) with
      | some (_, place) => second.getD place (second.getLast?.getD c)
      | none => c
  let text := if letters.contains 'd' then text.filter (!inFirst ·)
    else if sets.length = 2 then text.map replaced else text
  let text := if letters.contains 's' then
      squeezed (if sets.length = 2 then second else first) text
    else text
  Script.putText (String.ofList text)
  return 0

private def leadingNumber (text : String) : Int :=
  let text := text.toList.dropWhile fun c => c == ' ' || c == '\t'
  let (negative, digits) := match text with
    | '-' :: rest => (true, rest)
    | rest => (false, rest)
  let value : Int :=
    (digits.takeWhile Char.isDigit).foldl (fun value c => value * 10 + (c.toNat - 48)) 0
  if negative then -value else value

private def withoutRepeats : List String → List String
  | [] => []
  | [line] => [line]
  | line :: next :: rest =>
    if line == next then withoutRepeats (next :: rest) else line :: withoutRepeats (next :: rest)

def sort (arguments : List String) : Script Nat := do
  let (letters, paths) := lettersAndOperands arguments
  let (inputs, whole) ← readInputs "sort" paths
  if !whole then return 2
  let lines := inputs.flatMap fun input => textLines input.2
  let before (left right : String) : Bool :=
    if letters.contains 'n' && leadingNumber left != leadingNumber right then
      decide (leadingNumber left < leadingNumber right)
    else decide (left ≤ right)
  let ordered := lines.mergeSort fun left right =>
    if letters.contains 'r' then before right left else before left right
  for line in (if letters.contains 'u' then withoutRepeats ordered else ordered) do putTextLine line
  return 0

private def runs : List String → List (Nat × String)
  | [] => []
  | line :: rest =>
    match runs rest with
    | (count, next) :: others =>
      if line == next then (count + 1, next) :: others else (1, line) :: (count, next) :: others
    | [] => [(1, line)]

def uniq (arguments : List String) : Script Nat := do
  let (letters, paths) := lettersAndOperands arguments
  let (inputs, whole) ← readInputs "uniq" paths
  for (count, line) in runs (inputs.flatMap fun input => textLines input.2) do
    if letters.contains 'd' && count < 2 then pure ()
    else if letters.contains 'u' && 1 < count then pure ()
    else if letters.contains 'c' then
      putTextLine (rightAligned 7 (toString count) ++ " " ++ line)
    else putTextLine line
  return statusOf whole

def seq (arguments : List String) : Script Nat := do
  let numbers := arguments.map leadingNumber
  let (first, step, last) : Int × Int × Int := match numbers with
    | [last] => (1, 1, last)
    | [first, last] => (first, 1, last)
    | [first, step, last] => (first, step, last)
    | _ => (1, 1, 0)
  if step = 0 then return 1
  let count := if 0 < step then (last - first + step) / step else (first - last - step) / -step
  for turn in List.range count.toNat do putTextLine (toString (first + step * turn))
  return 0

private def placesOf (text : String) : List (Nat × Option Nat) :=
  ((text.splitOn ",").map fun span =>
    match span.splitOn "-" with
    | [place] => (place.toNat?.getD 0, place.toNat?)
    | [first, last] => (first.toNat?.getD 1, last.toNat?)
    | _ => (0, some 0))

private def isPlace (places : List (Nat × Option Nat)) (place : Nat) : Bool :=
  places.any fun (first, last) => first ≤ place && last.all (place ≤ ·)

private def optionValue (letter : Char) : List String → Option String
  | [] => none
  | word :: rest =>
    match word.toList with
    | '-' :: c :: value =>
      if c = letter then
        if value.isEmpty then rest.head? else some (String.ofList value)
      else optionValue letter rest
    | _ => optionValue letter rest

private def operandsBeside (withValue : List Char) (isValue : Bool) : List String → List String
  | [] => []
  | word :: rest =>
    if isValue then operandsBeside withValue false rest
    else
      match word.toList with
      | '-' :: c :: value => operandsBeside withValue (withValue.contains c && value.isEmpty) rest
      | _ => word :: operandsBeside withValue false rest

def cut (arguments : List String) : Script Nat := do
  let (inputs, whole) ← readInputs "cut" (operandsBeside ['d', 'f', 'c', 'b'] false arguments)
  let mark := (optionValue 'd' arguments).getD "\t"
  let chosen {α : Type} (places : List (Nat × Option Nat)) (items : List α) : List α :=
    ((items.zip (List.range items.length)).filter fun item => isPlace places (item.2 + 1)).map (·.1)
  for line in inputs.flatMap fun input => textLines input.2 do
    match optionValue 'f' arguments with
    | some fields =>
      let parts := line.splitOn mark
      if parts.length = 1 then
        if !arguments.contains "-s" then putTextLine line
      else putTextLine (mark.intercalate (chosen (placesOf fields) parts))
    | none =>
      let places := placesOf (((optionValue 'c' arguments).orElse fun _ =>
        optionValue 'b' arguments).getD "1-")
      putTextLine (String.ofList (chosen places line.toList))
  return statusOf whole

def rev (arguments : List String) : Script Nat := do
  let (inputs, whole) ← readInputs "rev" arguments
  for line in inputs.flatMap fun input => textLines input.2 do
    putTextLine (String.ofList line.toList.reverse)
  return statusOf whole

def grep (arguments : List String) : Script Nat := do
  let (letters, operands) := lettersAndOperands (arguments.filter (· != "-e"))
  let pattern := operands.headD ""
  let paths := operands.drop 1
  let regex? := if letters.contains 'F' then
      some (pattern.toList.foldr (fun c rest => Regex.sequence (.exactly c) rest) .empty)
    else Regex.ofText? (letters.contains 'E') pattern.toList
  let ignoreCase := letters.contains 'i'
  match regex? with
  | none =>
    Script.complain "grep: Invalid regular expression"
    return 2
  | some regex =>
    let regex := if letters.contains 'x' then
        Regex.sequence .start (.sequence regex .finish)
      else regex
    let (inputs, whole) ← do
      let mut inputs : List (String × List UInt8) := []
      let mut whole := true
      if paths.isEmpty then inputs := [("(standard input)", ← Script.takeInput)]
      for path in paths do
        match ← Script.readFile path with
        | .ok bytes => inputs := inputs ++ [(path, bytes)]
        | .error fault =>
          if !letters.contains 's' then Script.complain s!"grep: {path}: {reason fault}"
          whole := false
      pure (inputs, whole)
    let quiet := letters.contains 'q'
    let mut found := false
    for (name, bytes) in inputs do
      let label := if 1 < paths.length && !letters.contains 'h' then name ++ ":" else ""
      let lines := textLines bytes
      let numbered := lines.zip (List.range lines.length)
      let fitting := numbered.filter fun (line, _) =>
        (regex.search? ignoreCase 0 line.toList).isSome != letters.contains 'v'
      if !fitting.isEmpty then found := true
      if quiet then pure ()
      else if letters.contains 'c' then putTextLine (label ++ toString fitting.length)
      else if letters.contains 'l' then
        if !fitting.isEmpty then putTextLine name
      else
        for (line, place) in fitting do
          let number := if letters.contains 'n' then toString (place + 1) ++ ":" else ""
          if letters.contains 'o' then
            match regex.search? ignoreCase 0 line.toList with
            | some (start, spot) =>
              let matched := (line.toList.drop start).take (spot.offset - start)
              putTextLine (label ++ number ++ String.ofList matched)
            | none => pure ()
          else putTextLine (label ++ number ++ line)
    return if found && (whole || quiet) then 0 else if whole then 1 else 2

end Enforcement.Shell.Utility
