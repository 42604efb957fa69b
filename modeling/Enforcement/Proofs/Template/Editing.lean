import Enforcement.Proofs.Template.Lookup

/-!
Documents edited in one property. What is put there is found, and every property whose name has
other letters is what it was.
-/

namespace Enforcement.Template

open Enforcement.Json Enforcement.Text

def changeProperty (name : String) (change : Value → Value) : Value → Value
  | .object members => .object <| members.map fun member =>
      if member.1 = spelling members name then onValue change member else member
  | document => document

def withoutProperty (name : String) : Value → Value
  | .object members => .object (members.filter (!sameLetters ·.1 name))
  | document => document

def withMember (key : String) (value : Value) : Value → Value
  | .object members => .object (insertMember key value members)
  | document => document

theorem property?_object (members : List (String × Value)) (name : String) :
    property? (.object members) name = ((entryFor? name members).map (·.2)).filter (!·.isNull) := by
  rw [← memberFor?_eq]
  rfl

theorem entryFor?_changed (name : String) (change : Value → Value) (key : String)
    (members : List (String × Value)) :
    entryFor? key (members.map fun member =>
        if member.1 = spelling members name then onValue change member else member) =
      (entryFor? key members).map fun member =>
        if member.1 = spelling members name then onValue change member else member := by
  apply entryFor?_map
  intro member
  split
  · rfl
  · rfl

theorem property?_change {change : Value → Value}
    (kept : ∀ value, (change value).isNull = value.isNull) (document : Value) (name : String) :
    property? (changeProperty name change document) name =
      (property? document name).map change := by
  cases document with
  | object members =>
      rw [changeProperty, property?_object, property?_object, entryFor?_changed]
      cases found : entryFor? name members with
      | none => rfl
      | some member =>
          have here : member.1 = spelling members name := by
            rw [spelling_eq, found]
            rfl
          simp only [Option.map_some, if_pos here, onValue, Option.filter_some, kept]
          split
          · rfl
          · rfl
  | null | bool | number | string | array => rfl

theorem sameLetters_spelling (members : List (String × Value)) (name : String) :
    sameLetters (spelling members name) name = true := by
  rw [spelling_eq]
  cases found : entryFor? name members with
  | none => exact sameLetters_refl name
  | some member => exact (entryFor?_mem found).2

theorem property?_change_other {key name : String} (other : sameLetters key name = false)
    (change : Value → Value) (document : Value) :
    property? (changeProperty name change document) key = property? document key := by
  cases document with
  | object members =>
      rw [changeProperty, property?_object, property?_object, entryFor?_changed]
      cases found : entryFor? key members with
      | none => rfl
      | some member =>
          have elsewhere : member.1 ≠ spelling members name := by
            intro here
            have own := sameLetters_iff.mp (entryFor?_mem found).2
            have spelled := sameLetters_iff.mp (sameLetters_spelling members name)
            rw [← here, own, ← sameLetters_iff, other] at spelled
            cases spelled
          simp only [Option.map_some, if_neg elsewhere]
  | null | bool | number | string | array => rfl

theorem find?_filter_kept {α : Type} {keep test : α → Bool}
    (kept : ∀ item, test item = true → keep item = true) (items : List α) :
    (items.filter keep).find? test = items.find? test := by
  rw [List.find?_filter]
  congr 1
  funext item
  cases passes : test item with
  | false => simp
  | true => simp [kept item passes]

theorem property?_without_other {key name : String} (other : sameLetters key name = false)
    (document : Value) :
    property? (withoutProperty name document) key = property? document key := by
  have kept (member : String × Value) (letters : sameLetters member.1 key = true) :
      (!sameLetters member.1 name) = true := by
    unfold sameLetters at other ⊢
    rw [sameLetters_iff.mp letters, other]
    rfl
  have exact (member : String × Value) (same : (member.1 == key) = true) :
      (!sameLetters member.1 name) = true :=
    kept member (beq_iff_eq.mp same ▸ sameLetters_refl key)
  cases document with
  | object members =>
      rw [withoutProperty, property?_object, property?_object, entryFor?, entryFor?,
        find?_filter_kept exact, find?_filter_kept kept]
  | null | bool | number | string | array => rfl

theorem find?_insertMember {key : String} {test : String × Value → Bool}
    (refused : ∀ value, test (key, value) = false) (value : Value)
    (members : List (String × Value)) :
    (insertMember key value members).find? test = members.find? test := by
  induction members with
  | nil => simp [insertMember, refused]
  | cons member rest ih =>
      rw [insertMember]
      split
      · rw [List.find?_cons, refused]
      · split
        · rename_i same
          rw [List.find?_cons, List.find?_cons, refused]
          subst same
          rw [refused]
        · rw [List.find?_cons, List.find?_cons, ih]

theorem property?_with_other {key name : String} (other : sameLetters key name = false)
    (value document : Value) : property? (withMember name value document) key =
      property? document key := by
  cases document with
  | object members =>
      have direct : (name == key) = false := by
        rw [beq_eq_false_iff_ne]
        rintro rfl
        rw [sameLetters_refl] at other
        cases other
      have close : sameLetters name key = false := (sameLetters_comm name key).trans other
      rw [withMember, property?_object, property?_object, entryFor?, entryFor?,
        find?_insertMember fun _ => direct, find?_insertMember fun _ => close]
  | null | bool | number | string | array => rfl

theorem property?_with {value : Value} (given : value.isNull = false) (name : String)
    (members : List (String × Value)) :
    property? (withMember name value (.object members)) name = some value := by
  have found : memberFor? name (insertMember name value members) = some value := by
    rw [memberFor?, memberAt?_insertMember, if_pos rfl]
  change (memberFor? name (insertMember name value members)).filter (!·.isNull) = some value
  rw [found, Option.filter_some, given]
  rfl

theorem entryFor?_single {name : String} {members : List (String × Value)}
    (single : (members.filter (sameLetters ·.1 name)).length ≤ 1) :
    entryFor? name members = (members.filter (sameLetters ·.1 name)).head? := by
  rw [entryFor?, List.head?_filter]
  cases direct : members.find? (·.1 == name) with
  | none => rfl
  | some member =>
      have same := List.find?_some direct
      have inside : member ∈ members.filter (sameLetters ·.1 name) := by
        rw [List.mem_filter, beq_iff_eq.mp same]
        exact ⟨List.mem_of_find?_eq_some direct, sameLetters_refl name⟩
      obtain ⟨other, only⟩ := List.length_eq_one_iff.mp
        (Nat.le_antisymm single (List.length_pos_of_mem inside))
      rw [only, List.mem_singleton] at inside
      rw [← List.head?_filter, only, inside]
      rfl

theorem property?_single {document : Value} {name name' : String}
    (letters : foldCase name = foldCase name')
    (single : ((document.members?.getD []).filter (sameLetters ·.1 name)).length ≤ 1) :
    property? document name = property? document name' := by
  have same : (fun member : String × Value => sameLetters member.1 name) =
      fun member => sameLetters member.1 name' := by
    simp only [sameLetters, letters]
  cases document with
  | object members =>
      have single : (members.filter (sameLetters ·.1 name)).length ≤ 1 := single
      have single' : (members.filter (sameLetters ·.1 name')).length ≤ 1 := by rwa [← same]
      rw [property?_object, property?_object, entryFor?_single single, entryFor?_single single',
        same]
  | null | bool | number | string | array => rfl

end Enforcement.Template
