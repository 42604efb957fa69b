/-! Patterns for names and texts: any one character, any characters, one of a set. -/

namespace Enforcement.Shell

inductive Mark where
  | exactly (c : Char)
  | one
  | many
  | oneOf (negated : Bool) (spans : List (Char × Char))
  deriving DecidableEq, Repr, Inhabited

def Mark.holds : Mark → Char → Bool
  | exactly held, c => held == c
  | oneOf negated spans, c => (spans.any fun span => span.1 ≤ c && c ≤ span.2) != negated
  | _, _ => true

abbrev Letter := Char × Bool

private def namedClass? (name : List Char) : Option (List (Char × Char)) :=
  if name == "digit".toList then some [('0', '9')]
  else if name == "upper".toList then some [('A', 'Z')]
  else if name == "lower".toList then some [('a', 'z')]
  else if name == "alpha".toList then some [('A', 'Z'), ('a', 'z')]
  else if name == "alnum".toList then some [('0', '9'), ('A', 'Z'), ('a', 'z')]
  else if name == "space".toList then some [(' ', ' '), ('\t', '\r')]
  else if name == "blank".toList then some [(' ', ' '), ('\t', '\t')]
  else if name == "punct".toList then some [('!', '/'), (':', '@'), ('[', '\x60'), ('\x7b', '~')]
  else if name == "xdigit".toList then some [('0', '9'), ('A', 'F'), ('a', 'f')]
  else none

/-- The inside of brackets up to the closing one, which may stand first as a member. -/
def readSet : Nat → Bool → List Char → Option (List (Char × Char) × List Char)
  | 0, _, _ => none
  | _ + 1, _, [] => none
  | fuel + 1, first, c :: rest =>
    if c = ']' && !first then some ([], rest)
    else
      match c, rest with
      | '[', ':' :: more =>
        let name := more.takeWhile Char.isAlpha
        match namedClass? name, more.dropWhile Char.isAlpha with
        | some spans, ':' :: ']' :: rest => do
          let (others, rest) ← readSet fuel false rest
          return (spans ++ others, rest)
        | _, _ => do
          let (others, rest) ← readSet fuel false rest
          return ((c, c) :: others, rest)
      | low, '-' :: high :: rest =>
        if high = ']' then some ([(low, low), ('-', '-')], rest)
        else do
          let (others, rest) ← readSet fuel false rest
          return ((low, high) :: others, rest)
      | c, rest => do
        let (others, rest) ← readSet fuel false rest
        return ((c, c) :: others, rest)

private def isNegation (c : Char) : Bool := c == '!' || c == '^'

/-- The marks of a pattern; a bracket that is never closed stands for itself. -/
def marksOf : Nat → List Letter → List Mark
  | 0, _ => []
  | _ + 1, [] => []
  | fuel + 1, (c, isQuoted) :: rest =>
    if isQuoted then .exactly c :: marksOf fuel rest
    else if c = '?' then .one :: marksOf fuel rest
    else if c = '*' then .many :: marksOf fuel rest
    else if c = '[' then
      let text := rest.map (·.1)
      let (negated, inside) := match text with
        | mark :: more => if isNegation mark then (true, more) else (false, text)
        | [] => (false, [])
      match readSet (inside.length + 1) true inside with
      | some (spans, after) =>
        .oneOf negated spans :: marksOf fuel (rest.drop (rest.length - after.length))
      | none => .exactly c :: marksOf fuel rest
    else .exactly c :: marksOf fuel rest

def patternOf (letters : List Letter) : List Mark := marksOf (letters.length + 1) letters

private def endings : List Char → List (List Char)
  | [] => [[]]
  | c :: rest => (c :: rest) :: endings rest

def fits : List Mark → List Char → Bool
  | [], text => text.isEmpty
  | .many :: marks, text => (endings text).any (fits marks)
  | mark :: marks, c :: text => mark.holds c && fits marks text
  | _ :: _, [] => false

private def lengths (size : Nat) (longest : Bool) : List Nat :=
  if longest then (List.range (size + 1)).reverse else List.range (size + 1)

def dropStart (pattern : List Mark) (longest : Bool) (text : List Char) : List Char :=
  match (lengths text.length longest).find? fun size => fits pattern (text.take size) with
  | some size => text.drop size
  | none => text

def dropEnd (pattern : List Mark) (longest : Bool) (text : List Char) : List Char :=
  let size := text.length
  match (lengths size longest).find? fun count => fits pattern (text.drop (size - count)) with
  | some count => text.take (size - count)
  | none => text

def hasMarks (letters : List Letter) : Bool :=
  letters.any fun (c, isQuoted) => !isQuoted && (c == '*' || c == '?' || c == '[')

end Enforcement.Shell
