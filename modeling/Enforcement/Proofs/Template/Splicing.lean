import Enforcement.Proofs.Template.Filling

/-!
The splices of a pass as one walk along the text. No reference with a clear name begins inside
another one, so every place of the text can be looked at by itself, and what stands for a text is
composed of what stands for its parts.
-/

namespace Enforcement.Template

open Enforcement.Json

def Ahead (cursor : Nat) (splices : List Splice) : Prop :=
  ∀ splice ∈ splices.head?, cursor ≤ splice.start ∧ cursor ≤ splice.stop

theorem applySplices_ahead {cursor : Nat} {splices : List Splice}
    (ahead : Ahead (cursor + 1) splices) (c : Char) (text : List Char) :
    applySplices cursor (c :: text) splices = c :: applySplices (cursor + 1) text splices := by
  cases splices with
  | nil => rfl
  | cons splice rest =>
      obtain ⟨start, stop⟩ := ahead splice rfl
      obtain ⟨first, shorter⟩ : ∃ n, splice.start - cursor = n + 1 ∧
          splice.start - (cursor + 1) = n := ⟨_, by omega, rfl⟩
      obtain ⟨last, longer⟩ : ∃ n, splice.stop - cursor = n + 1 ∧
          splice.stop - (cursor + 1) = n := ⟨_, by omega, rfl⟩
      simp [applySplices, shorter, longer]

theorem applySplices_here (cursor : Nat) (removed text insert : List Char) (rest : List Splice) :
    applySplices cursor (removed ++ text) (⟨cursor, cursor + removed.length, insert⟩ :: rest) =
      insert ++ applySplices (cursor + removed.length) text rest := by
  simp [applySplices]

/-- How far a text has been read; `before` runs backwards from there. -/
structure Place where
  position : Nat
  before : List Char

namespace Place

def past (place : Place) (word : List Char) : Place :=
  ⟨place.position + word.length, word.reverse ++ place.before⟩

theorem past_past (place : Place) (first second : List Char) :
    (place.past first).past second = place.past (first ++ second) := by
  simp [past, Nat.add_assoc]

def Unescaped (place : Place) : Prop := (place.before.takeWhile (· == '\\')).length % 2 = 0

def OpensString (place : Place) : Prop :=
  ∃ before, place.before = '"' :: before ∧ (before.takeWhile (· == '\\')).length % 2 = 0

end Place

def occurrenceAt (place : Place) (text after : List Char) (reference : Reference) : Occurrence :=
  ⟨place.position, place.position + (text.length - after.length), reference, place.before, after⟩

theorem isWholeString_iff {place : Place} {text after : List Char} {reference : Reference} :
    (occurrenceAt place text after reference).isWholeString = true ↔
      place.OpensString ∧ ∃ rest, after = '"' :: rest := by
  unfold Occurrence.isWholeString occurrenceAt Place.OpensString
  split
  · rename_i before rest opens closes
    simp_all
  · rename_i none
    constructor
    · intro whole
      cases whole
    · intro given
      obtain ⟨⟨before, opens, -⟩, rest, closes⟩ := given
      exact (none before rest opens closes).elim

namespace Pass

variable {pass : Pass}

def spliceOf? (pass : Pass) (occurrence : Occurrence) : Option Splice :=
  (pass.value? occurrence.reference).map occurrence.splice

def spliceAt? (pass : Pass) (place : Place) (text : List Char) : Option Splice := do
  let (reference, after) ← reference? text
  pass.spliceOf? (occurrenceAt place text after reference)

def splicesFrom (pass : Pass) : Place → List Char → List Splice
  | _, [] => []
  | place, c :: rest =>
    (pass.spliceAt? place (c :: rest)).toList ++ splicesFrom pass (place.past [c]) rest

/-- The splices of the pass, where some characters belong to the reference found last. -/
def chosen (pass : Pass) (place : Place) (covered : Nat) (text : List Char) : List Splice :=
  (occurrencesFrom place.position covered place.before text).filterMap pass.spliceOf?

def run (pass : Pass) (place : Place) (text : List Char) : List Char :=
  applySplices place.position text (pass.splicesFrom place text)

def Inside (covered : Nat) (text : List Char) : Prop :=
  ∃ outer : Spelling, outer.Valid ∧ ∃ skipped rest, skipped ≠ [] ∧
    outer.text ++ rest = skipped ++ text ∧ text.length = covered + rest.length

theorem Inside.tail {covered : Nat} {c : Char} {text : List Char}
    (inside : Inside (covered + 1) (c :: text)) : Inside covered text := by
  obtain ⟨outer, valid, skipped, rest, _, same, length⟩ := inside
  refine ⟨outer, valid, skipped ++ [c], rest, by simp, by simpa using same, ?_⟩
  rw [List.length_cons] at length
  omega

theorem spliceAt?_none {text : List Char} (none : reference? text = none) (place : Place) :
    pass.spliceAt? place text = .none := by
  simp [spliceAt?, none]

theorem spliceAt?_found {text after : List Char} {reference : Reference}
    (found : reference? text = some (reference, after)) (place : Place) :
    pass.spliceAt? place text = pass.spliceOf? (occurrenceAt place text after reference) := by
  simp [spliceAt?, found]

theorem spliceOf?_at (place : Place) (text after : List Char) (reference : Reference) :
    pass.spliceOf? (occurrenceAt place text after reference) =
      (pass.value? reference).map (occurrenceAt place text after reference).splice := rfl

theorem Inside.not_clear {covered : Nat} {text after : List Char} {reference : Reference}
    (inside : Inside (covered + 1) text) (found : reference? text = some (reference, after)) :
    ¬ Clear reference.name := by
  obtain ⟨inner, valid, rfl, rfl⟩ := reference?_iff.mp found
  obtain ⟨outer, outside, skipped, rest, some, same, length⟩ := inside
  exact Spelling.not_clear_inside outside valid some (by omega) same

theorem spliceAt?_inside (clear : pass.ResolvesClear) {covered : Nat} {text : List Char}
    (inside : Inside (covered + 1) text) (place : Place) : pass.spliceAt? place text = none := by
  cases found : reference? text with
  | none => exact spliceAt?_none found place
  | some pair =>
      obtain ⟨reference, after⟩ := pair
      cases held : pass.value? reference with
      | none => rw [spliceAt?_found found, spliceOf?_at, held, Option.map_none]
      | some value => exact absurd (clear.name held) (inside.not_clear found)

theorem splicesFrom_inside (clear : pass.ResolvesClear) {word text : List Char}
    (inside : Inside word.length (word ++ text)) (place : Place) :
    pass.splicesFrom place (word ++ text) = pass.splicesFrom (place.past word) text := by
  induction word generalizing place with
  | nil => rfl
  | cons c word ih =>
      have none := spliceAt?_inside clear inside place
      rw [List.cons_append] at none ⊢
      rw [splicesFrom, none, ih inside.tail, Place.past_past]
      rfl

theorem filterMap_cons_toList {α β : Type} (f : α → Option β) (head : α) (rest : List α) :
    (head :: rest).filterMap f = (f head).toList ++ rest.filterMap f := by
  cases found : f head with
  | none => rw [List.filterMap_cons_none found]; rfl
  | some found => rw [List.filterMap_cons_some ‹_›]; rfl

theorem inside_of_spelling {spelling : Spelling} (valid : spelling.Valid) {c : Char}
    {word : List Char} (start : spelling.text = c :: word) (text : List Char) :
    Inside word.length (word ++ text) := by
  refine ⟨spelling, valid, [c], text, by simp, ?_, ?_⟩
  · rw [start]
    rfl
  · rw [List.length_append]

theorem chosen_eq_splicesFrom (clear : pass.ResolvesClear) (text : List Char) (place : Place)
    (covered : Nat) (inside : covered ≠ 0 → Inside covered text) :
    pass.chosen place covered text = pass.splicesFrom place text := by
  induction text generalizing place covered with
  | nil => cases covered <;> rfl
  | cons c text ih =>
      cases covered with
      | succ covered =>
          have later := inside (by simp)
          rw [chosen, occurrencesFrom, splicesFrom, spliceAt?_inside clear later]
          exact ih (place.past [c]) covered fun _ => later.tail
      | zero =>
          cases found : reference? (c :: text) with
          | none =>
              rw [chosen, occurrencesFrom, splicesFrom, found, spliceAt?_none found]
              exact ih (place.past [c]) 0 (by simp)
          | some pair =>
              obtain ⟨reference, after⟩ := pair
              obtain ⟨outer, valid, rfl, same⟩ := reference?_iff.mp found
              obtain ⟨word, start⟩ : ∃ word, outer.text = '[' :: word := ⟨_, rfl⟩
              rw [start, List.cons_append] at same
              obtain ⟨rfl, rfl⟩ := List.cons.inj same
              have within := inside_of_spelling valid start after
              have length : ('[' :: (word ++ after)).length - after.length - 1 = word.length := by
                rw [List.length_cons, List.length_append]
                omega
              have rest := ih (place.past ['[']) word.length fun _ => within
              rw [chosen, occurrencesFrom, splicesFrom, found, spliceAt?_found found, ← rest]
              dsimp only
              rw [length]
              exact filterMap_cons_toList pass.spliceOf? _ _

theorem splices_eq_chosen (text : List Char) :
    splices pass.kind pass.resolve text = pass.chosen ⟨0, []⟩ 0 text := by
  unfold splices chosen
  congr 1
  funext occurrence
  unfold spliceOf? value?
  split
  · rfl
  · rfl

theorem substitute_eq_run (clear : pass.ResolvesClear) (text : List Char) :
    substitute pass.kind pass.resolve text = pass.run ⟨0, []⟩ text := by
  rw [substitute, splices_eq_chosen, chosen_eq_splicesFrom clear text ⟨0, []⟩ 0 (by simp), run]

theorem spliceOf?_start {place : Place} {text after : List Char} {reference : Reference}
    {splice : Splice}
    (found : pass.spliceOf? (occurrenceAt place text after reference) = some splice) :
    place.position ≤ splice.start + 1 ∧ place.position ≤ splice.stop ∧
      (¬ (place.OpensString ∧ ∃ rest, after = '"' :: rest) → place.position ≤ splice.start) := by
  rw [spliceOf?_at, Option.map_eq_some_iff] at found
  obtain ⟨value, -, rfl⟩ := found
  unfold Occurrence.splice
  split
  · rename_i whole
    refine ⟨?_, ?_, fun part => absurd (isWholeString_iff.mp whole) part⟩
    · simp only [occurrenceAt]
      omega
    · simp only [occurrenceAt]
      omega
  · refine ⟨?_, ?_, fun _ => ?_⟩
    · simp [occurrenceAt]
    · simp [occurrenceAt]
    · simp [occurrenceAt]

theorem splicesFrom_start {place : Place} {text : List Char} {splice : Splice}
    (member : splice ∈ pass.splicesFrom place text) :
    place.position ≤ splice.start + 1 ∧ place.position ≤ splice.stop := by
  induction text generalizing place with
  | nil => cases member
  | cons c text ih =>
      rw [splicesFrom, List.mem_append, Option.mem_toList] at member
      rcases member with here | later
      · cases found : reference? (c :: text) with
        | none =>
            rw [spliceAt?_none found] at here
            cases here
        | some pair =>
            rw [spliceAt?_found found] at here
            have start := spliceOf?_start here
            exact ⟨start.1, start.2.1⟩
      · have start := ih later
        simp only [Place.past, List.length_singleton] at start
        omega

def NotWhole (pass : Pass) (place : Place) (text : List Char) : Prop :=
  place.OpensString → ∀ value rest, pass.valueAt? reference? text ≠ some (value, '"' :: rest)

theorem splicesFrom_within {place : Place} {text : List Char} (part : pass.NotWhole place text)
    {splice : Splice} (member : splice ∈ pass.splicesFrom place text) :
    place.position ≤ splice.start ∧ place.position ≤ splice.stop := by
  cases text with
  | nil => cases member
  | cons c text =>
      rw [splicesFrom, List.mem_append, Option.mem_toList] at member
      rcases member with here | later
      · cases read : reference? (c :: text) with
        | none =>
            rw [spliceAt?_none read] at here
            cases here
        | some pair =>
            obtain ⟨reference, after⟩ := pair
            rw [spliceAt?_found read] at here
            have start := spliceOf?_start here
            refine ⟨start.2.2 ?_, start.2.1⟩
            intro given
            obtain ⟨opens, rest, rfl⟩ := given
            obtain ⟨value, held, -⟩ := Option.map_eq_some_iff.mp here
            exact part opens value rest (valueAt?_iff.mpr ⟨reference, read, held⟩)
      · have start := splicesFrom_start later
        simp only [Place.past, List.length_singleton] at start
        omega

theorem splicesFrom_ahead {place : Place} {text : List Char} (part : pass.NotWhole place text) :
    Ahead place.position (pass.splicesFrom place text) :=
  fun _ member => splicesFrom_within part (List.mem_of_mem_head? member)

theorem spliceAt?_none_of_valueAt {place : Place} {text : List Char}
    (none : pass.valueAt? reference? text = none) : pass.spliceAt? place text = .none := by
  cases found : reference? text with
  | none => exact spliceAt?_none found place
  | some pair =>
      obtain ⟨reference, after⟩ := pair
      rw [spliceAt?_found found, spliceOf?_at]
      cases held : pass.value? reference with
      | none => rfl
      | some value =>
          rw [valueAt?_iff.mpr ⟨reference, found, held⟩] at none
          cases none

theorem run_char {place : Place} {c : Char} {text : List Char}
    (none : pass.valueAt? reference? (c :: text) = none)
    (part : pass.NotWhole (place.past [c]) text) :
    pass.run place (c :: text) = c :: pass.run (place.past [c]) text := by
  have splices : pass.splicesFrom place (c :: text) = pass.splicesFrom (place.past [c]) text := by
    rw [splicesFrom, spliceAt?_none_of_valueAt none]
    rfl
  rw [run, splices, applySplices_ahead (splicesFrom_ahead part)]
  rfl

theorem splicesFrom_reference (clear : pass.ResolvesClear) {spelling : Spelling}
    (valid : spelling.Valid) {value : Value} (held : pass.value? spelling.reference = some value)
    (place : Place) (text : List Char) :
    pass.splicesFrom place (spelling.text ++ text) =
      (occurrenceAt place (spelling.text ++ text) text spelling.reference).splice value ::
        pass.splicesFrom (place.past spelling.text) text := by
  obtain ⟨word, start⟩ : ∃ word, spelling.text = '[' :: word := ⟨_, rfl⟩
  have found : reference? ('[' :: (word ++ text)) = some (spelling.reference, text) := by
    rw [← List.cons_append, ← start]
    exact reference?_iff.mpr ⟨spelling, valid, rfl, rfl⟩
  have inside := inside_of_spelling valid start text
  rw [start, List.cons_append, splicesFrom, spliceAt?_found found, spliceOf?_at, held,
    splicesFrom_inside clear inside, Place.past_past]
  rfl

theorem splice_part {spelling : Spelling} {value : Value} {place : Place} {text : List Char}
    (part : ¬ (place.OpensString ∧ ∃ rest, text = '"' :: rest)) :
    (occurrenceAt place (spelling.text ++ text) text spelling.reference).splice value =
      ⟨place.position, place.position + spelling.text.length, escape (plainText value)⟩ := by
  unfold Occurrence.splice
  rw [if_neg (fun whole => part (isWholeString_iff.mp whole))]
  simp [occurrenceAt]

theorem splice_whole {spelling : Spelling} {value : Value} {place : Place}
    (unescaped : place.Unescaped) (text : List Char) :
    (occurrenceAt (place.past ['"']) (spelling.text ++ '"' :: text) ('"' :: text)
      spelling.reference).splice value =
      ⟨place.position, place.position + ('"' :: (spelling.text ++ ['"'])).length,
        compact value⟩ := by
  have opens : (place.past ['"']).OpensString := ⟨place.before, rfl, unescaped⟩
  unfold Occurrence.splice
  rw [if_pos (isWholeString_iff.mpr ⟨opens, text, rfl⟩)]
  simp [occurrenceAt, Place.past]
  omega

theorem run_reference (clear : pass.ResolvesClear) {spelling : Spelling} (valid : spelling.Valid)
    {value : Value} (held : pass.value? spelling.reference = some value) {place : Place}
    {text : List Char} (part : ¬ (place.OpensString ∧ ∃ rest, text = '"' :: rest)) :
    pass.run place (spelling.text ++ text) =
      escape (plainText value) ++ pass.run (place.past spelling.text) text := by
  rw [run, splicesFrom_reference clear valid held, splice_part part, applySplices_here]
  rfl

theorem run_string (clear : pass.ResolvesClear) {spelling : Spelling} (valid : spelling.Valid)
    {value : Value} (held : pass.value? spelling.reference = some value) {place : Place}
    (unescaped : place.Unescaped) (text : List Char) :
    pass.run place ('"' :: (spelling.text ++ '"' :: text)) =
      compact value ++ pass.run (place.past ('"' :: (spelling.text ++ ['"']))) text := by
  have opening (following : List Char) : reference? ('"' :: following) = none :=
    reference?_none (by decide) following
  have splices : pass.splicesFrom place ('"' :: (spelling.text ++ '"' :: text)) =
      ⟨place.position, place.position + ('"' :: (spelling.text ++ ['"'])).length,
        compact value⟩ :: pass.splicesFrom (place.past ('"' :: (spelling.text ++ ['"']))) text := by
    rw [splicesFrom, spliceAt?_none (opening _), splicesFrom_reference clear valid held,
      splice_whole unescaped, splicesFrom, spliceAt?_none (opening _), Place.past_past,
      Place.past_past]
    simp
  have parts : '"' :: (spelling.text ++ '"' :: text) =
      ('"' :: (spelling.text ++ ['"'])) ++ text := by simp
  have here := applySplices_here place.position ('"' :: (spelling.text ++ ['"'])) text
    (compact value) (pass.splicesFrom (place.past ('"' :: (spelling.text ++ ['"']))) text)
  rw [← parts] at here
  rw [run, splices]
  exact here

end Pass

end Enforcement.Template
