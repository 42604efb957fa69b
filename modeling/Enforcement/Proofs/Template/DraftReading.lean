import Enforcement.Proofs.Json.Ordered
import Enforcement.Proofs.Json.Resemblance
import Enforcement.Proofs.Template.Draft

/-!
The text of a draft read back. It is read when the draft is a document, that is when all of its keys
are strings, and when it is nested no deeper than may be read; nothing is read otherwise.
-/

namespace Enforcement.Template.Draft

open Enforcement.Json Enforcement.Text

theorem readMembers_unquoted {c : Char} (visible : isSpace c = false) (quote : c ≠ '"')
    (brace : c ≠ '\x7d') (fuel depth : Nat) (first : Bool) (members : List (String × Value))
    (text : List Char) :
    ∃ fault, readMembers fuel depth first members (comma first ++ c :: text) = .error fault := by
  cases fuel with
  | zero => exact ⟨_, rfl⟩
  | succ fuel =>
      have start : skipSpaces (c :: text) = c :: text := skipSpaces_cons visible text
      cases first with
      | true =>
          refine ⟨.malformed, ?_⟩
          change readMembers (fuel + 1) depth true members (c :: text) = _
          rw [readMembers, start]
          simp [quote, brace]
      | false =>
          refine ⟨.malformed, ?_⟩
          change readMembers (fuel + 1) depth false members (',' :: c :: text) = _
          rw [readMembers, skipSpaces_cons (by decide)]
          simp [start, quote]

def ReadOnly (draft : Draft) : Prop :=
  ∀ fuel depth rest found left, 0 < depth →
    readValue fuel depth (draft.text ++ rest) = .ok (found, left) →
      Delimited rest → Delimited left →
        left = rest ∧ ∃ value, draft = ofValue value ∧ value.Every NumberReadable ∧
          value.nesting < depth

theorem readOnly_leaf {value : Value} (single : value.parts = [value])
    (keys : value.KeysInOrder) (readable : NumberReadable value) (leaf : value.nesting = 0) :
    (ofValue value).ReadOnly := by
  intro fuel depth rest found left positive read delimited remaining
  rw [text_ofValue, compact_eq_spread value 0] at read
  have resembles := @resemblesAt_spread noGap [] (fun _ => allSpace_nil) allSpace_nil value
    (ordered_leaf single keys)
  exact ⟨(resembles _ _ _ _ _ _ read delimited remaining).1, value, rfl,
    (Value.every_leaf single).mpr readable, leaf ▸ positive⟩

theorem readOnly_number (number : Number) : (ofValue (.number number)).ReadOnly := by
  intro fuel depth rest found left positive read delimited remaining
  obtain ⟨other, result, -⟩ := readValue_render_ok read
  exact ⟨Number.readNumber_stops delimited remaining result, .number number, rfl,
    (Value.every_leaf rfl).mpr (Number.readable_of_read delimited remaining result), positive⟩

theorem delimited_items (items : List Draft) (rest : List Char) :
    Delimited (textOfItems false items ++ rest) := by
  cases items with
  | nil => exact delimited_cons rfl
  | cons item items => exact delimited_cons rfl

theorem delimited_members (members : List (Draft × Draft)) (rest : List Char) :
    Delimited (textOfMembers false members ++ rest) := by
  cases members with
  | nil => exact delimited_cons rfl
  | cons member members => exact delimited_cons rfl

theorem readItems_text {items : List Draft} (each : ∀ item ∈ items, item.ReadOnly)
    (fuel depth : Nat) (positive : 0 < depth) (first : Bool) (rest : List Char)
    {found : List Value} {left : List Char}
    (read : readItems fuel depth first (textOfItems first items ++ rest) = .ok (found, left)) :
    left = rest ∧ ∃ values : List Value, items = values.map ofValue ∧
      (∀ value ∈ values, value.Every NumberReadable) ∧ Value.nestingOfItems values < depth := by
  induction items generalizing fuel first found with
  | nil =>
      obtain ⟨rfl, -⟩ := readItems_close_ok allSpace_nil read
      exact ⟨rfl, [], rfl, nofun, positive⟩
  | cons item items ih =>
      simp only [List.mem_cons, forall_eq_or_imp] at each
      obtain ⟨c, tail, start, opens, -⟩ := item.text_start
      rw [textOfItems, List.append_assoc, List.append_assoc] at read
      obtain ⟨less, head, middle, others, headRead, tailRead, -⟩ :=
        readItems_item_ok allSpace_nil ⟨c, tail, start, opens⟩ read
      obtain ⟨rfl, value, rfl, readable, shallow⟩ := each.1 _ _ _ _ _ positive headRead
        (delimited_items items rest) (readItems_delimited tailRead)
      obtain ⟨same, values, rfl, others, deep⟩ := ih each.2 less false tailRead
      exact ⟨same, value :: values, rfl, List.forall_mem_cons.mpr ⟨readable, others⟩,
        Nat.max_lt.mpr ⟨shallow, deep⟩⟩

theorem readMembers_text {members : List (Draft × Draft)}
    (each : ∀ member ∈ members, member.2.ReadOnly) (fuel depth : Nat) (positive : 0 < depth)
    (first : Bool) (before : List (String × Value)) (rest : List Char)
    {found : List (String × Value)} {left : List Char}
    (read : readMembers fuel depth first before (textOfMembers first members ++ rest) =
      .ok (found, left)) :
    left = rest ∧ ∃ values : List (String × Value), members = values.map ofMember ∧
      (∀ member ∈ values, member.2.Every NumberReadable) ∧
        Value.nestingOfMembers values < depth := by
  induction members generalizing fuel first before found with
  | nil =>
      obtain ⟨rfl, -⟩ := readMembers_close_ok allSpace_nil read
      exact ⟨rfl, [], rfl, nofun, positive⟩
  | cons member members ih =>
      obtain ⟨key, value⟩ := member
      simp only [List.mem_cons, forall_eq_or_imp] at each
      rw [textOfMembers, List.append_assoc, List.append_assoc] at read
      -- Behind a key that is no string nothing is read, so such a member contradicts the reading.
      by_cases string : ∃ name, key = .string name
      · obtain ⟨name, rfl⟩ := string
        rw [List.append_assoc, List.append_assoc] at read
        obtain ⟨less, held, middle, headRead, later⟩ := readMembers_member_ok allSpace_nil read
        obtain ⟨rfl, document, rfl, readable, shallow⟩ := each.1 _ _ _ _ _ positive headRead
          (delimited_members members rest) (readMembers_delimited later)
        obtain ⟨same, values, rfl, others, deep⟩ := ih each.2 less false _ later
        exact ⟨same, (name, document) :: values, rfl,
          List.forall_mem_cons.mpr ⟨readable, others⟩, Nat.max_lt.mpr ⟨shallow, deep⟩⟩
      · obtain ⟨c, tail, start, ⟨visible, -⟩, -, brace, quoted⟩ := key.text_start
        have quote : c ≠ '"' := fun same => string (quoted same)
        rw [start] at read
        obtain ⟨fault, refused⟩ := readMembers_unquoted visible quote brace fuel depth first before
          (tail ++ ([':'] ++ (value.text ++ textOfMembers false members) ++ rest))
        rw [List.cons_append, refused] at read
        cases read

theorem readOnly (draft : Draft) : draft.ReadOnly := by
  induction draft using byParts with
  | null => exact @readOnly_leaf .null rfl trivial trivial rfl
  | bool flag => exact @readOnly_leaf (.bool flag) rfl trivial trivial rfl
  | number number => exact readOnly_number number
  | string text => exact @readOnly_leaf (.string text) rfl trivial trivial rfl
  | array items each =>
      intro fuel depth rest found left positive read _ _
      rw [text, List.cons_append] at read
      obtain ⟨less, others, deep, result, -⟩ := readValue_array_ok read
      obtain ⟨same, values, rfl, readable, shallow⟩ := readItems_text each less (depth - 1)
        (by omega) true rest result
      refine ⟨same, .array values, (ofValue_array values).symm,
        Value.every_array.mpr ⟨trivial, readable⟩, ?_⟩
      rw [Value.nesting]
      omega
  | object members each =>
      intro fuel depth rest found left positive read _ _
      rw [text, List.cons_append] at read
      obtain ⟨less, others, deep, result, -⟩ := readValue_object_ok read
      obtain ⟨same, values, rfl, readable, shallow⟩ := readMembers_text (fun member held =>
        (each member held).2) less (depth - 1) (by omega) true [] rest result
      refine ⟨same, .object values, (ofValue_object values).symm,
        Value.every_object.mpr ⟨trivial, readable⟩, ?_⟩
      rw [Value.nesting]
      omega

theorem readable_of_readText {draft : Draft} {found : Value}
    (read : readText draft.text = .ok found) :
    ∃ value, draft = ofValue value ∧ value.Every NumberReadable ∧ value.nesting < depthLimit := by
  unfold readText atEnd at read
  split at read
  · cases read
  · rename_i other left result
    split at read
    · rename_i ended
      rw [← List.append_nil draft.text] at result
      exact (readOnly draft _ _ _ _ _ (by decide) result delimited_nil
        (delimited_of_skipSpaces ended)).2
    · cases read

/-- A draft of which something is read is a document, and not too deep; that document is read. -/
theorem document_of_readText {draft : Draft} {found : Value}
    (read : readText draft.text = .ok found) :
    ∃ value, draft = ofValue value ∧ value.nesting < depthLimit ∧ value.reread = found := by
  obtain ⟨value, rfl, readable, shallow⟩ := readable_of_readText read
  rw [text_ofValue, readText_printed readable shallow] at read
  exact ⟨value, rfl, shallow, Except.ok.inj read⟩

end Enforcement.Template.Draft
