import Enforcement.Proofs.Template.Draft

/-!
What a pass may do to a text, whatever the names of the references in it. A reference without a
value can hide another one, so not every place can be looked at by itself; but what is put in is put
in the place of a reference, and a clear reference is hidden by none.
-/

namespace Enforcement.Template

open Enforcement.Json

theorem Ahead.mono {cursor behind : Nat} {splices : List Splice} (ahead : Ahead cursor splices)
    (less : behind ≤ cursor) : Ahead behind splices := fun splice member =>
  ⟨Nat.le_trans less (ahead splice member).1, Nat.le_trans less (ahead splice member).2⟩

theorem applySplices_word {cursor : Nat} {word : List Char} {splices : List Splice}
    (ahead : Ahead (cursor + word.length) splices) (text : List Char) :
    applySplices cursor (word ++ text) splices =
      word ++ applySplices (cursor + word.length) text splices := by
  induction word generalizing cursor with
  | nil => rfl
  | cons c word ih =>
      rw [List.length_cons, Nat.add_comm word.length 1, ← Nat.add_assoc] at ahead ⊢
      rw [List.cons_append, applySplices_ahead (ahead.mono (Nat.le_add_right _ _)), ih ahead]
      rfl

namespace Pass

variable {pass : Pass}

/-- The text begins with no clear reference that has a value. -/
def Idle (pass : Pass) (text : List Char) : Prop :=
  ∀ reference rest, reference? text = some (reference, rest) → Clear reference.name →
    pass.value? reference = none

/-- How a text may be rewritten from a place on. What follows a string is never a bracket. -/
inductive Rewrites (pass : Pass) : Place → List Char → List Char → Prop
  | done (place : Place) : Rewrites pass place [] []
  | keep {place : Place} {c : Char} {text output : List Char} : pass.Idle (c :: text) →
      Rewrites pass (place.past [c]) text output → Rewrites pass place (c :: text) (c :: output)
  | part {place : Place} {spelling : Spelling} {value : Value} {text output : List Char} :
      spelling.Valid → pass.value? spelling.reference = some value →
      ¬ (place.OpensString ∧ ∃ rest, text = '"' :: rest) →
      Rewrites pass (place.past spelling.text) text output →
      Rewrites pass place (spelling.text ++ text) (escape (plainText value) ++ output)
  | whole {place : Place} {spelling : Spelling} {value : Value} {text output : List Char} :
      spelling.Valid → pass.value? spelling.reference = some value → place.Unescaped →
      (Outside text → Rewrites pass (place.past ('"' :: (spelling.text ++ ['"']))) text output) →
      Rewrites pass place ('"' :: (spelling.text ++ '"' :: text)) (compact value ++ output)

/-! What a pass makes of a text is one way to rewrite it. -/

theorem chosen_none {place : Place} {c : Char} {text : List Char}
    (none : reference? (c :: text) = none) :
    pass.chosen place 0 (c :: text) = pass.chosen (place.past [c]) 0 text := by
  rw [chosen, occurrencesFrom, none]
  rfl

theorem chosen_covered (place : Place) (word text : List Char) :
    pass.chosen place word.length (word ++ text) = pass.chosen (place.past word) 0 text := by
  induction word generalizing place with
  | nil => rfl
  | cons c word ih =>
      rw [List.length_cons, List.cons_append, chosen, occurrencesFrom]
      refine (ih (place.past [c])).trans ?_
      rw [Place.past_past]
      rfl

theorem chosen_spelling {spelling : Spelling} (valid : spelling.Valid) (place : Place)
    (text : List Char) :
    pass.chosen place 0 (spelling.text ++ text) =
      (pass.spliceOf? (occurrenceAt place (spelling.text ++ text) text
        spelling.reference)).toList ++ pass.chosen (place.past spelling.text) 0 text := by
  obtain ⟨word, start⟩ : ∃ word, spelling.text = '[' :: word := ⟨_, rfl⟩
  have found : reference? ('[' :: (word ++ text)) = some (spelling.reference, text) := by
    rw [← List.cons_append, ← start]
    exact reference?_iff.mpr ⟨spelling, valid, rfl, rfl⟩
  have length : ('[' :: (word ++ text)).length - text.length - 1 = word.length := by
    rw [List.length_cons, List.length_append]
    omega
  have covered := @chosen_covered pass (place.past ['[']) word text
  rw [Place.past_past] at covered
  rw [start, List.cons_append, chosen, occurrencesFrom, found]
  dsimp only
  rw [length]
  refine (filterMap_cons_toList pass.spliceOf? _ _).trans ?_
  exact congrArg _ covered

theorem chosen_subset {splice : Splice} (place : Place) (covered : Nat) (text : List Char)
    (member : splice ∈ pass.chosen place covered text) :
    splice ∈ pass.splicesFrom place text := by
  induction text generalizing place covered with
  | nil => cases covered <;> cases member
  | cons c text ih =>
      rw [splicesFrom, List.mem_append, Option.mem_toList]
      cases covered with
      | succ covered => exact Or.inr (ih (place.past [c]) covered member)
      | zero =>
          cases found : reference? (c :: text) with
          | none =>
              rw [chosen_none found] at member
              exact Or.inr (ih (place.past [c]) 0 member)
          | some pair =>
              obtain ⟨reference, after⟩ := pair
              rw [chosen, occurrencesFrom, found] at member
              dsimp only at member
              rw [filterMap_cons_toList, List.mem_append, Option.mem_toList] at member
              rcases member with here | later
              · rw [spliceAt?_found found]
                exact Or.inl here
              · exact Or.inr (ih (place.past [c]) _ later)

theorem chosen_ahead {place : Place} {text : List Char} (part : pass.NotWhole place text) :
    Ahead place.position (pass.chosen place 0 text) := fun _ member =>
  splicesFrom_within part (chosen_subset place 0 text (List.mem_of_mem_head? member))

def result (pass : Pass) (place : Place) (text : List Char) : List Char :=
  applySplices place.position text (pass.chosen place 0 text)

theorem notWhole_past (place : Place) (spelling : Spelling) (text : List Char) :
    pass.NotWhole (place.past spelling.text) text :=
  notWhole_of_steady (place.steady_spelling spelling) text

theorem result_char {place : Place} {c : Char} {text : List Char}
    (none : reference? (c :: text) = none) (part : pass.NotWhole (place.past [c]) text) :
    pass.result place (c :: text) = c :: pass.result (place.past [c]) text := by
  rw [result, chosen_none none, applySplices_ahead (chosen_ahead part)]
  rfl

theorem result_open {spelling : Spelling} (valid : spelling.Valid)
    (open' : pass.value? spelling.reference = none) (place : Place) (text : List Char) :
    pass.result place (spelling.text ++ text) =
      spelling.text ++ pass.result (place.past spelling.text) text := by
  rw [result, chosen_spelling valid, spliceOf?_at, open']
  exact applySplices_word (chosen_ahead (notWhole_past place spelling text)) text

theorem result_part {spelling : Spelling} (valid : spelling.Valid) {value : Value}
    (held : pass.value? spelling.reference = some value) {place : Place} {text : List Char}
    (part : ¬ (place.OpensString ∧ ∃ rest, text = '"' :: rest)) :
    pass.result place (spelling.text ++ text) =
      escape (plainText value) ++ pass.result (place.past spelling.text) text := by
  rw [result, chosen_spelling valid, spliceOf?_at, held, Option.map_some, splice_part part]
  exact applySplices_here _ _ _ _ _

theorem result_whole {spelling : Spelling} (valid : spelling.Valid) {value : Value}
    (held : pass.value? spelling.reference = some value) {place : Place}
    (unescaped : place.Unescaped) (text : List Char) :
    pass.result place ('"' :: (spelling.text ++ '"' :: text)) =
      compact value ++ pass.result (place.past ('"' :: (spelling.text ++ ['"']))) text := by
  have quote (following : List Char) : reference? ('"' :: following) = none :=
    reference?_none (by decide) following
  have splices : pass.chosen place 0 ('"' :: (spelling.text ++ '"' :: text)) =
      ⟨place.position, place.position + ('"' :: (spelling.text ++ ['"'])).length,
        compact value⟩ :: pass.chosen (place.past ('"' :: (spelling.text ++ ['"']))) 0 text := by
    rw [chosen_none (quote _), chosen_spelling valid, spliceOf?_at, held, Option.map_some,
      splice_whole unescaped, chosen_none (quote _), Place.past_past, Place.past_past]
    simp
  have parts : '"' :: (spelling.text ++ '"' :: text) =
      ('"' :: (spelling.text ++ ['"'])) ++ text := by simp
  have here := applySplices_here place.position ('"' :: (spelling.text ++ ['"'])) text
    (compact value) (pass.chosen (place.past ('"' :: (spelling.text ++ ['"']))) 0 text)
  rw [← parts] at here
  rw [result, splices]
  exact here

theorem Rewrites.word {place : Place} {word text output : List Char}
    (inside : Inside word.length (word ++ text))
    (later : pass.Rewrites (place.past word) text output) :
    pass.Rewrites place (word ++ text) (word ++ output) := by
  induction word generalizing place with
  | nil => exact later
  | cons c word ih =>
      have idle : pass.Idle (c :: (word ++ text)) := fun reference rest found clear =>
        absurd clear (inside.not_clear found)
      refine .keep idle (ih inside.tail ?_)
      rwa [Place.past_past]

theorem Rewrites.unfilled {place : Place} {spelling : Spelling} (valid : spelling.Valid)
    (none : pass.value? spelling.reference = none) {text output : List Char}
    (later : pass.Rewrites (place.past spelling.text) text output) :
    pass.Rewrites place (spelling.text ++ text) (spelling.text ++ output) := by
  obtain ⟨word, start⟩ : ∃ word, spelling.text = '[' :: word := ⟨_, rfl⟩
  have found : reference? (spelling.text ++ text) = some (spelling.reference, text) :=
    reference?_iff.mpr ⟨spelling, valid, rfl, rfl⟩
  rw [start, List.cons_append] at found
  rw [start] at later ⊢
  refine .keep ?_ (.word (inside_of_spelling valid start text) ?_)
  · intro reference rest read _
    cases found.symm.trans read
    exact none
  · rwa [Place.past_past]

theorem rewrites_result (text : List Char) {place : Place} (part : pass.NotWhole place text) :
    pass.Rewrites place text (pass.result place text) := by
  -- A reference is passed over in one step, so the induction is on the length of the text.
  induction length : text.length using Nat.strongRecOn generalizing text place with
  | ind size ih =>
      subst length
      cases text with
      | nil => exact .done place
      | cons c text =>
          cases read : reference? (c :: text) with
          | none =>
              by_cases whole : place.Unescaped ∧ c = '"' ∧
                  ∃ value rest, pass.valueAt? reference? text = some (value, '"' :: rest)
              · obtain ⟨unescaped, rfl, value, rest, found⟩ := whole
                obtain ⟨reference, start, held⟩ := valueAt?_iff.mp found
                obtain ⟨spelling, valid, rfl, rfl⟩ := reference?_iff.mp start
                rw [result_whole valid held unescaped]
                refine .whole valid held unescaped fun outside => ?_
                refine ih rest.length (by simp; omega) rest ?_ rfl
                rintro - value more found
                rw [valueAt?_none_of_head outside] at found
                cases found
              · have behind : pass.NotWhole (place.past [c]) text := by
                  rintro ⟨before, opens, even⟩ value rest found
                  obtain ⟨rfl, rfl⟩ := List.cons.inj opens
                  exact whole ⟨even, rfl, value, rest, found⟩
                rw [result_char read behind]
                refine .keep ?_ (ih text.length (by simp) text behind rfl)
                intro reference rest found _
                rw [read] at found
                cases found
          | some pair =>
              obtain ⟨reference, after⟩ := pair
              obtain ⟨spelling, valid, rfl, same⟩ := reference?_iff.mp read
              have shorter : after.length < (c :: text).length := by
                have some : 0 < spelling.text.length := by simp [Spelling.text, Spelling.lead]
                rw [same, List.length_append]
                omega
              have later := ih after.length shorter after (notWhole_past place spelling after) rfl
              cases held : pass.value? spelling.reference with
              | none =>
                  rw [same, result_open valid held]
                  exact .unfilled valid held later
              | some value =>
                  have inner : ¬ (place.OpensString ∧ ∃ rest, after = '"' :: rest) := by
                    rintro ⟨opens, rest, rfl⟩
                    exact part opens value rest (valueAt?_iff.mpr ⟨_, read, held⟩)
                  rw [same, result_part valid held inner]
                  exact .part valid held inner later

theorem rewrites_substitute (pass : Pass) (text : List Char) :
    pass.Rewrites ⟨0, []⟩ text (substitute pass.kind pass.resolve text) := by
  rw [substitute, splices_eq_chosen]
  refine rewrites_result text ?_
  rintro ⟨before, opens, -⟩
  cases opens

end Pass

end Enforcement.Template
