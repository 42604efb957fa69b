import Enforcement.Proofs.Json.Reading

/-!
Quotes of a text, told apart from the left. Every string that begins in the text of a document also
ends in it, and this is all that is known of a text whose values have been put in place of others.
-/

namespace Enforcement.Json

/-- On which side of the quotes a place of a text lies. -/
inductive Side where
  | outside
  | inside
  /-- Inside, right behind a backslash. -/
  | escaped
  deriving DecidableEq, Repr

namespace Side

/-- No backslash and no parenthesis stands outside, and a backslash only before what it escapes. -/
def next : Side → Char → Option Side
  | outside, c =>
    if c = '"' then some inside
    else if c = '\\' || c = '(' || c = ')' then none
    else some outside
  | inside, c =>
    if c = '"' then some outside
    else if c = '\\' then some escaped
    else some inside
  | escaped, c => if (plainEscape? c).isSome || c = 'u' then some inside else none

def IsPlain (c : Char) : Prop := c ≠ '"' ∧ c ≠ '\\' ∧ c ≠ '(' ∧ c ≠ ')'

theorem next_outside {c : Char} {side : Side} :
    outside.next c = some side ↔ c = '"' ∧ side = inside ∨ IsPlain c ∧ side = outside := by
  grind [next, IsPlain]

theorem next_eq_escaped {side : Side} {c : Char} :
    side.next c = some escaped ↔ side = inside ∧ c = '\\' := by
  cases side <;> grind [next]

def after (side : Side) : List Char → Option Side
  | [] => some side
  | c :: text => (side.next c).bind (after · text)

/-- Every string that begins in the text ends in it. -/
def Balanced (text : List Char) : Prop := outside.after text = some outside

theorem after_append (side : Side) (first second : List Char) :
    side.after (first ++ second) = (side.after first).bind (·.after second) := by
  induction first generalizing side with
  | nil => rfl
  | cons c first ih =>
      rw [List.cons_append, after, after, Option.bind_assoc]
      exact congrArg _ (funext fun side => ih side)

theorem after_append_of {side middle : Side} {first : List Char}
    (leads : side.after first = some middle) (second : List Char) :
    side.after (first ++ second) = middle.after second := by
  rw [after_append, leads, Option.bind_some]

theorem Balanced.append {first second : List Char} (start : Balanced first)
    (behind : Balanced second) : Balanced (first ++ second) :=
  (after_append_of start second).trans behind

theorem balanced_plain {text : List Char} (plain : ∀ c ∈ text, IsPlain c) : Balanced text := by
  induction text with
  | nil => rfl
  | cons c text ih =>
      obtain ⟨first, rest⟩ := List.forall_mem_cons.mp plain
      rw [Balanced, after, next_outside.mpr (.inr ⟨first, rfl⟩)]
      exact ih rest

/-! Strings, and documents made of them. -/

theorem inside_escapeChar (c : Char) : inside.after (escapeChar c) = some inside := by
  have digit (value : Nat) : hexDigit value ≠ '"' ∧ hexDigit value ≠ '\\' := by
    have digits : ∀ small < 16, Nat.digitChar small ≠ '"' ∧ Nat.digitChar small ≠ '\\' := by decide
    exact digits _ (Nat.mod_lt _ (by decide))
  unfold escapeChar
  split_ifs with quote slash
  · rfl
  · rfl
  · rfl
  · rfl
  · rfl
  · rfl
  · rfl
  · simp [after, next, plainEscape?, digit]
  · simp [after, next, quote, slash]

theorem inside_escape (text : List Char) : inside.after (escape text) = some inside := by
  induction text with
  | nil => rfl
  | cons c text ih =>
      change inside.after (escapeChar c ++ escape text) = some inside
      rw [after_append_of (inside_escapeChar c), ih]

theorem balanced_printString (text : String) : Balanced (printString text) := by
  change inside.after (escape text.toList ++ ['"']) = some outside
  rw [after_append_of (inside_escape text.toList)]
  rfl

theorem balanced_number (number : Number) : Balanced number.render := by
  refine balanced_plain fun c member => ?_
  have other := ne_of_isNumeric (number.numeric_render c member)
  exact ⟨other '"' rfl, other '\\' rfl, other '(' rfl, other ')' rfl⟩

theorem balanced_items {items : List Value} (each : ∀ item ∈ items, Balanced (compact item))
    (level : Nat) (first : Bool) : Balanced (spreadItems noGap [] level first items) := by
  induction items generalizing first with
  | nil =>
      have bracket : Balanced [']'] := rfl
      cases first <;> exact bracket
  | cons item rest ih =>
      obtain ⟨head, tail⟩ := List.forall_mem_cons.mp each
      rw [compact_eq_spread item (level + 1)] at head
      have comma : Balanced (if first then [] else [',']) := by
        cases first <;> rfl
      exact comma.append (head.append (ih tail false))

theorem balanced_members {members : List (String × Value)}
    (each : ∀ member ∈ members, Balanced (compact member.2)) (level : Nat) (first : Bool) :
    Balanced (spreadMembers noGap [] level first members) := by
  induction members generalizing first with
  | nil =>
      have brace : Balanced ['\x7d'] := rfl
      cases first <;> exact brace
  | cons member rest ih =>
      obtain ⟨key, value⟩ := member
      obtain ⟨head, tail⟩ := List.forall_mem_cons.mp each
      rw [compact_eq_spread value (level + 1)] at head
      have comma : Balanced (if first then [] else [',']) := by
        cases first <;> rfl
      have colon : Balanced [':'] := rfl
      exact comma.append ((balanced_printString key).append
        (colon.append (head.append (ih tail false))))

theorem balanced_compact (value : Value) : Balanced (compact value) := by
  induction value using Value.byParts with
  | null => rfl
  | bool flag => cases flag <;> rfl
  | number number => exact balanced_number number
  | string text => exact balanced_printString text
  | array items each =>
      rw [compact_eq_spread _ 0]
      have bracket : Balanced ['['] := rfl
      exact bracket.append (balanced_items each 0 true)
  | object members each =>
      rw [compact_eq_spread _ 0]
      have brace : Balanced ['\x7b'] := rfl
      exact brace.append (balanced_members each 0 true)

/-! The side of a place, as the characters before it tell. -/

theorem outside_of_quoteless {text : List Char} (quoteless : '"' ∉ text) {side : Side}
    (leads : outside.after text = some side) : side = outside ∧ ∀ c ∈ text, IsPlain c := by
  induction text with
  | nil => exact ⟨(Option.some.inj leads).symm, nofun⟩
  | cons c text ih =>
      obtain ⟨quote, rest⟩ := not_or.mp (mt List.mem_cons.mpr quoteless)
      obtain ⟨middle, step, leads⟩ := Option.bind_eq_some_iff.mp leads
      rcases next_outside.mp step with ⟨rfl, -⟩ | ⟨plain, rfl⟩
      · exact absurd rfl quote
      · obtain ⟨same, others⟩ := ih rest leads
        exact ⟨same, List.forall_mem_cons.mpr ⟨plain, others⟩⟩

theorem next_slash {side middle : Side} (step : side.next '\\' = some middle) :
    (side = inside ∧ middle = escaped) ∨ (side = escaped ∧ middle = inside) := by
  cases side with
  | outside => cases step
  | inside => exact .inl ⟨rfl, (Option.some.inj step).symm⟩
  | escaped => exact .inr ⟨rfl, (Option.some.inj step).symm⟩

/-- A place is right behind a backslash that escapes if the backslashes before it are odd. -/
theorem escaped_iff_odd {before : List Char} {side : Side}
    (leads : outside.after before.reverse = some side) :
    side = escaped ↔ (before.takeWhile (· == '\\')).length % 2 = 1 := by
  induction before generalizing side with
  | nil =>
      cases leads
      exact iff_of_false nofun (by decide)
  | cons c before ih =>
      rw [List.reverse_cons, after_append] at leads
      obtain ⟨middle, former, leads⟩ := Option.bind_eq_some_iff.mp leads
      obtain ⟨_, step, same⟩ := Option.bind_eq_some_iff.mp leads
      cases same
      have earlier := ih former
      by_cases slash : c = '\\'
      · subst slash
        rw [List.takeWhile_cons_of_pos (by rfl), List.length_cons]
        rcases next_slash step with ⟨rfl, rfl⟩ | ⟨rfl, rfl⟩
        · have even := mt earlier.mpr nofun
          exact iff_of_true rfl (by omega)
        · have odd := earlier.mp rfl
          exact iff_of_false nofun (by omega)
      · rw [List.takeWhile_cons_of_neg (by simpa using slash)]
        refine iff_of_false ?_ (by decide)
        rintro rfl
        exact slash (next_eq_escaped.mp step).2

theorem outside_of_quote {before : List Char}
    (leads : outside.after ('"' :: before).reverse = some inside)
    (even : (before.takeWhile (· == '\\')).length % 2 = 0) :
    outside.after before.reverse = some outside := by
  rw [List.reverse_cons, after_append] at leads
  obtain ⟨side, former, step⟩ := Option.bind_eq_some_iff.mp leads
  cases side with
  | outside => exact former
  | inside => cases step
  | escaped =>
      have odd := (escaped_iff_odd former).mp rfl
      omega

def at? (text : List Char) (place : Nat) : Option Side := outside.after (text.take place)

theorem at?_split {text front rest : List Char} {place : Nat} (split : text = front ++ rest)
    (length : place = front.length) : at? text place = outside.after front := by
  rw [at?, split, length, List.take_left]

theorem at?_later {text : List Char} {place later : Nat} {side : Side}
    (here : at? text place = some side) (behind : place ≤ later) :
    at? text later = side.after ((text.drop place).take (later - place)) := by
  have parts : text.take later = text.take place ++ (text.drop place).take (later - place) := by
    rw [← List.take_add, Nat.add_sub_cancel' behind]
  rw [at?, parts, after_append_of here]

end Side

end Enforcement.Json
