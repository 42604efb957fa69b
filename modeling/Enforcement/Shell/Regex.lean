import Enforcement.Shell.Pattern

/-! Regular expressions, basic and extended, and the leftmost longest match. -/

namespace Enforcement.Shell

inductive Regex where
  | empty
  | exactly (c : Char)
  | any
  | oneOf (negated : Bool) (spans : List (Char × Char))
  | start
  | finish
  | sequence (first second : Regex)
  | either (first second : Regex)
  | repeated (inner : Regex) (least : Nat) (most : Option Nat)
  | group (index : Nat) (inner : Regex)
  | same (index : Nat)
  deriving DecidableEq, Repr, Inhabited

namespace Regex

private def number? (text : List Char) : Option Nat :=
  if text.isEmpty || !text.all Char.isDigit then none
  else some (text.foldl (fun value c => value * 10 + (c.toNat - 48)) 0)

private def bounds? (text : List Char) : Option (Nat × Option Nat) :=
  let low := text.takeWhile (· != ',')
  match text.dropWhile (· != ',') with
  | [] => (number? low).map fun count => (count, some count)
  | _ :: [] => (number? low).map fun count => (count, none)
  | _ :: high => do return ((number? low).getD 0, ← number? high)

private def repetition? (extended : Bool) (text : List Char) :
    Option ((Nat × Option Nat) × List Char) :=
  match extended, text with
  | _, '*' :: rest => some ((0, none), rest)
  | true, '+' :: rest => some ((1, none), rest)
  | true, '?' :: rest => some ((0, some 1), rest)
  | false, '\\' :: '+' :: rest => some ((1, none), rest)
  | false, '\\' :: '?' :: rest => some ((0, some 1), rest)
  | true, '{' :: rest => do
    let bounds ← bounds? (rest.takeWhile (· != '}'))
    return (bounds, (rest.dropWhile (· != '}')).drop 1)
  | false, '\\' :: '{' :: rest => do
    let bounds ← bounds? (rest.takeWhile (· != '\\'))
    return (bounds, (rest.dropWhile (· != '\\')).drop 2)
  | _, _ => none

private def repetitions (extended : Bool) : Nat → Regex → List Char → Regex × List Char
  | 0, inner, text => (inner, text)
  | fuel + 1, inner, text =>
    match repetition? extended text with
    | some ((least, most), rest) => repetitions extended fuel (.repeated inner least most) rest
    | none => (inner, text)

private def endsHere (extended : Bool) : List Char → Bool
  | [] => true
  | '|' :: _ => extended
  | ')' :: _ => extended
  | '\\' :: '|' :: _ => !extended
  | '\\' :: ')' :: _ => !extended
  | _ => false

mutual

private def readEither (extended : Bool) : Nat → Nat → List Char →
    Option (Regex × Nat × List Char)
  | 0, _, _ => none
  | fuel + 1, groups, text => do
    let (first, groups, rest) ← readSequence extended fuel groups true text
    match extended, rest with
    | true, '|' :: rest =>
      let (second, groups, rest) ← readEither extended fuel groups rest
      return (.either first second, groups, rest)
    | false, '\\' :: '|' :: rest =>
      let (second, groups, rest) ← readEither extended fuel groups rest
      return (.either first second, groups, rest)
    | _, rest => return (first, groups, rest)

private def readSequence (extended : Bool) : Nat → Nat → Bool → List Char →
    Option (Regex × Nat × List Char)
  | 0, _, _, _ => none
  | fuel + 1, groups, first, text =>
    if endsHere extended text then some (.empty, groups, text)
    else do
      let (atom, groups, rest) ← readAtom extended fuel groups first text
      let (atom, rest) := if first && atom == .start then (atom, rest)
        else repetitions extended (rest.length + 1) atom rest
      let (others, groups, rest) ← readSequence extended fuel groups (first && atom == .start) rest
      return (if others == .empty then atom else .sequence atom others, groups, rest)

private def readAtom (extended : Bool) : Nat → Nat → Bool → List Char →
    Option (Regex × Nat × List Char)
  | 0, _, _, _ => none
  | fuel + 1, groups, first, text =>
    match text with
    | [] => none
    | '[' :: rest => do
      let (negated, inside) := match rest with
        | '^' :: rest => (true, rest)
        | rest => (false, rest)
      let (spans, rest) ← readSet (inside.length + 1) true inside
      return (.oneOf negated spans, groups, rest)
    | '.' :: rest => some (.any, groups, rest)
    | '^' :: rest =>
      some (if extended || first then .start else .exactly '^', groups, rest)
    | '$' :: rest =>
      some (if extended || endsHere extended rest then .finish else .exactly '$', groups, rest)
    | '(' :: rest =>
      if extended then do
        let (inner, after, rest) ← readEither extended fuel (groups + 1) rest
        match rest with
        | ')' :: rest => return (.group (groups + 1) inner, after, rest)
        | _ => none
      else some (.exactly '(', groups, rest)
    | '\\' :: '(' :: rest =>
      if extended then some (.exactly '(', groups, rest)
      else do
        let (inner, after, rest) ← readEither extended fuel (groups + 1) rest
        match rest with
        | '\\' :: ')' :: rest => return (.group (groups + 1) inner, after, rest)
        | _ => none
    | '\\' :: c :: rest =>
      if c.isDigit then some (.same (c.toNat - 48), groups, rest)
      else if c = 'n' then some (.exactly '\n', groups, rest)
      else if c = 't' then some (.exactly '\t', groups, rest)
      else some (.exactly c, groups, rest)
    | c :: rest => some (.exactly c, groups, rest)

end

def ofText? (extended : Bool) (text : List Char) : Option Regex := do
  let (regex, _, rest) ← readEither extended (3 * text.length + 8) 0 text
  if rest.isEmpty then some regex else none

structure Spot where
  offset : Nat
  rest : List Char
  groups : List (Nat × List Char)
  deriving DecidableEq, Repr, Inhabited

private def advance (holds : Char → Bool) (spot : Spot) : List Spot :=
  match spot.rest with
  | c :: rest => if holds c then [⟨spot.offset + 1, rest, spot.groups⟩] else []
  | [] => []

private def sameCharacter (ignoreCase : Bool) (left right : Char) : Bool :=
  left == right || (ignoreCase && left.toLower == right.toLower)

/-- Repeats a step that moves forward, as often as it may, the longest runs first. -/
private def repeatStep (step : Spot → List Spot) : Nat → Option Nat → Nat → Spot → List Spot
  | 0, _, _, spot => [spot]
  | fuel + 1, most, least, spot =>
    let further := if most == some 0 then []
      else ((step spot).filter fun next => 0 < least || spot.offset < next.offset).flatMap
        (repeatStep step fuel (most.map (· - 1)) (least - 1))
    if least = 0 then further ++ [spot] else further

def reach (ignoreCase : Bool) : Regex → Spot → List Spot
  | empty, spot => [spot]
  | exactly held, spot => advance (sameCharacter ignoreCase held) spot
  | any, spot => advance (fun _ => true) spot
  | oneOf negated spans, spot =>
    advance (fun c =>
      if ignoreCase then
        ((Mark.oneOf false spans).holds c.toLower || (Mark.oneOf false spans).holds c.toUpper)
          != negated
      else (Mark.oneOf negated spans).holds c) spot
  | start, spot => if spot.offset = 0 then [spot] else []
  | finish, spot => if spot.rest.isEmpty then [spot] else []
  | sequence first second, spot =>
    (reach ignoreCase first spot).flatMap fun next => reach ignoreCase second next
  | either first second, spot => reach ignoreCase first spot ++ reach ignoreCase second spot
  | repeated inner least most, spot =>
    repeatStep (fun spot => reach ignoreCase inner spot) (spot.rest.length + least + 1) most least
      spot
  | group index inner, spot =>
    (reach ignoreCase inner spot).map fun next =>
      { next with groups := (index, spot.rest.take (next.offset - spot.offset)) :: next.groups }
  | same index, spot =>
    let held := ((spot.groups.find? (·.1 == index)).map (·.2)).getD []
    if held.isPrefixOf spot.rest then
      [⟨spot.offset + held.length, spot.rest.drop held.length, spot.groups⟩]
    else []

def longest? (ignoreCase : Bool) (regex : Regex) (spot : Spot) : Option Spot :=
  (regex.reach ignoreCase spot).foldl (fun best next =>
    match best with
    | none => some next
    | some held => if held.offset < next.offset then some next else some held) none

def search? (ignoreCase : Bool) (regex : Regex) : Nat → List Char → Option (Nat × Spot)
  | offset, text =>
    match regex.longest? ignoreCase ⟨offset, text, []⟩, text with
    | some found, _ => some (offset, found)
    | none, [] => none
    | none, _ :: rest => search? ignoreCase regex (offset + 1) rest

end Regex

end Enforcement.Shell
