import Mathlib.Data.List.Forall2
import Enforcement.Proofs.Template.Nulls

/-!
Documents with their keys in other letters. The members of an object stand in the order of their
keys, so they may change places as well; what is looked up by name is found all the same.
-/

namespace Enforcement

open Enforcement.Json Enforcement.Template Enforcement.Text

namespace Json.Value

mutual

/-- A document, and the same with some letters of its keys changed between upper and lower case. -/
inductive Respelled : Value → Value → Prop
  | null : Respelled null null
  | bool (flag : Bool) : Respelled (bool flag) (bool flag)
  | number (number : Number) : Respelled (.number number) (.number number)
  | string (text : String) : Respelled (string text) (string text)
  | array {items others : List Value} (each : List.Forall₂ Respelled items others) :
      Respelled (array items) (array others)
  | object {members changed others : List (String × Value)}
      (each : List.Forall₂ RespelledMember members changed) (moved : changed.Perm others) :
      Respelled (object members) (object others)

inductive RespelledMember : String × Value → String × Value → Prop
  | intro {key key' : String} {value value' : Value} (letters : sameLetters key key' = true)
      (held : Respelled value value') : RespelledMember (key, value) (key', value')

end

theorem RespelledMember.letters {member other : String × Value}
    (same : RespelledMember member other) : sameLetters member.1 other.1 = true := by
  cases same with
  | intro letters held => exact letters

theorem RespelledMember.held {member other : String × Value}
    (same : RespelledMember member other) : Respelled member.2 other.2 := by
  cases same with
  | intro letters held => exact held

theorem respelled_refl (value : Value) : Respelled value value := by
  induction value using byParts with
  | null => exact .null
  | bool flag => exact .bool flag
  | number number => exact .number number
  | string text => exact .string text
  | array items each => exact .array (List.forall₂_same.mpr each)
  | object members each =>
      refine .object (List.forall₂_same.mpr fun member held => ?_) (.refl members)
      exact .intro (sameLetters_refl member.1) (each member held)

theorem Respelled.isNull {value other : Value} (same : Respelled value other) :
    value.isNull = other.isNull := by
  cases same <;> rfl

end Json.Value

namespace Template

open Enforcement.Json.Value

theorem sameLetters_left {key key' : String} (letters : sameLetters key key' = true)
    (name : String) : sameLetters key name = sameLetters key' name := by
  rw [sameLetters, sameLetters, sameLetters_iff.mp letters]

theorem sameLetters_right {key key' : String} (letters : sameLetters key key' = true)
    (name : String) : sameLetters name key = sameLetters name key' := by
  rw [sameLetters, sameLetters, sameLetters_iff.mp letters]

theorem find?_of_perm {α : Type} {items others : List α} (moved : items.Perm others)
    {test : α → Bool}
    (single : ∀ item ∈ items, ∀ other ∈ items, test item = true → test other = true →
      item = other) : items.find? test = others.find? test := by
  cases found : items.find? test with
  | none =>
      refine (List.find?_eq_none.mpr fun item member => ?_).symm
      exact List.find?_eq_none.mp found item (moved.mem_iff.mpr member)
  | some item =>
      have listed := List.mem_of_find?_eq_some found
      have passes := List.find?_some found
      cases found' : others.find? test with
      | none => exact absurd passes (List.find?_eq_none.mp found' item (moved.mem_iff.mp listed))
      | some other =>
          have listed' := moved.mem_iff.mpr (List.mem_of_find?_eq_some found')
          rw [single item listed other listed' passes (List.find?_some found')]

theorem apart_iff {members : List (String × Value)} :
    (members.Pairwise fun member other => sameLetters member.1 other.1 = false) ↔
      (members.map fun member => foldCase member.1).Nodup := by
  rw [List.Nodup, List.pairwise_map]
  simp [sameLetters]

section

variable {members changed others : List (String × Value)}
  (each : List.Forall₂ RespelledMember members changed)

include each

theorem foldCase_respelled :
    (members.map fun member => foldCase member.1) =
      changed.map fun member => foldCase member.1 := by
  induction each with
  | nil => rfl
  | cons head _ ih => rw [List.map_cons, List.map_cons, sameLetters_iff.mp head.letters, ih]

theorem mem_respelled {other : String × Value} (listed : other ∈ changed) :
    ∃ member ∈ members, RespelledMember member other := by
  induction each with
  | nil => cases listed
  | cons head _ ih =>
      rcases List.mem_cons.mp listed with rfl | later
      · exact ⟨_, List.mem_cons_self, head⟩
      · obtain ⟨member, held, same⟩ := ih later
        exact ⟨member, List.mem_cons_of_mem _ held, same⟩

theorem apart_respelled (apart : members.Pairwise fun member other =>
      sameLetters member.1 other.1 = false) :
    changed.Pairwise fun member other => sameLetters member.1 other.1 = false := by
  rw [apart_iff, foldCase_respelled each] at apart
  exact apart_iff.mpr apart

theorem find?_respelled (moved : changed.Perm others) (test : String × Value → Bool)
    (named : ∀ member other, RespelledMember member other → test member = test other)
    (single : ∀ item ∈ changed, ∀ other ∈ changed, test item = true → test other = true →
      item = other) :
    Option.Rel RespelledMember (members.find? test) (others.find? test) := by
  rw [← find?_of_perm moved single]
  exact find?_of_forall₂ each test test named

end

/-- What is looked up in a document is found in it whatever the letters of its keys. -/
theorem property?_respelled {document other : Value} (apart : document.KeysApart)
    (same : Respelled document other) (name : String) :
    Option.Rel Respelled (property? document name) (property? other name) := by
  cases same with
  | null | bool | number | string | array => exact .none
  | @object members changed others each moved =>
      have respelled := apart_respelled each apart
      have separate : others.Pairwise fun member other => sameLetters member.1 other.1 = false :=
        apart_iff.mpr ((moved.map _).nodup_iff.mp (apart_iff.mp respelled))
      have found := find?_respelled each moved (sameLetters ·.1 name)
        (fun member other same => sameLetters_left same.letters name)
        fun item listed other listed' => eq_of_apart respelled listed listed'
      change Option.Rel Respelled ((memberFor? name members).filter _)
        ((memberFor? name others).filter _)
      rw [memberFor?_of_apart apart, memberFor?_of_apart separate]
      generalize members.find? (sameLetters ·.1 name) = member at found
      generalize others.find? (sameLetters ·.1 name) = member' at found
      cases found with
      | none => exact .none
      | @some member member' same =>
          dsimp only [Option.map_some, Option.filter_some]
          rw [same.held.isNull]
          split
          · exact .some same.held
          · exact .none

end Template

end Enforcement
