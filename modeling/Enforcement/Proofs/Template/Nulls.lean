import Mathlib.Data.List.Pairwise
import Enforcement.Proofs.Template.Lookup

/-! Documents without their null members, which are found in nothing that is looked up by name. -/

namespace Enforcement

open Enforcement.Json Enforcement.Template Enforcement.Text

namespace Json.Value

mutual

/-- A document without the members that are null, at any depth; the items of a list all stay. -/
def withoutNulls : Value → Value
  | array items => array (withoutNullsItems items)
  | object members => object (withoutNullsMembers members)
  | leaf => leaf

def withoutNullsItems : List Value → List Value
  | [] => []
  | item :: rest => withoutNulls item :: withoutNullsItems rest

def withoutNullsMembers : List (String × Value) → List (String × Value)
  | [] => []
  | (key, value) :: rest =>
    if value.isNull then withoutNullsMembers rest
    else (key, withoutNulls value) :: withoutNullsMembers rest

end

theorem withoutNulls_array (items : List Value) :
    (array items).withoutNulls = array (items.map withoutNulls) := by
  have each : withoutNullsItems items = items.map withoutNulls := by
    induction items with
    | nil => rfl
    | cons item rest ih => rw [withoutNullsItems, ih, List.map_cons]
  rw [withoutNulls, each]

theorem withoutNulls_object (members : List (String × Value)) :
    (object members).withoutNulls =
      object ((members.filter (!·.2.isNull)).map (onValue withoutNulls)) := by
  have each : withoutNullsMembers members =
      (members.filter (!·.2.isNull)).map (onValue withoutNulls) := by
    induction members with
    | nil => rfl
    | cons member rest ih =>
        obtain ⟨key, value⟩ := member
        rw [withoutNullsMembers, ih, List.filter_cons]
        cases value.isNull <;> rfl
  rw [withoutNulls, each]

theorem isNull_withoutNulls (value : Value) : value.withoutNulls.isNull = value.isNull := by
  cases value <;> simp [withoutNulls, isNull]

/-- No two keys of an object are equal up to the case of their letters. -/
def KeysApart : Value → Prop
  | object members => members.Pairwise fun member other => sameLetters member.1 other.1 = false
  | _ => True

instance : DecidablePred KeysApart
  | object members => inferInstanceAs (Decidable (members.Pairwise fun member other =>
      sameLetters member.1 other.1 = false))
  | null | bool _ | number _ | string _ | array _ => isTrue trivial

end Json.Value

namespace Template

section Apart

variable {members : List (String × Value)}
  (apart : members.Pairwise fun member other => sameLetters member.1 other.1 = false)

include apart

theorem eq_of_apart {member other : String × Value} {name : String} (listed : member ∈ members)
    (listed' : other ∈ members) (named : sameLetters member.1 name = true)
    (named' : sameLetters other.1 name = true) : member = other := by
  by_contra different
  have : Std.Symm fun member other : String × Value => sameLetters member.1 other.1 = false :=
    ⟨fun _ _ held => by rwa [sameLetters_comm]⟩
  have separate := apart.forall listed listed' different
  have same : sameLetters member.1 other.1 = true := by
    rw [sameLetters_iff] at named named' ⊢
    exact named.trans named'.symm
  rw [same] at separate
  cases separate

theorem find?_of_apart {member : String × Value} {name : String} (listed : member ∈ members)
    (named : sameLetters member.1 name = true) :
    members.find? (sameLetters ·.1 name) = some member := by
  cases found : members.find? (sameLetters ·.1 name) with
  | none => exact absurd named (by simpa using List.find?_eq_none.mp found member listed)
  | some other =>
      have named' : sameLetters other.1 name = true := by simpa using List.find?_some found
      rw [eq_of_apart apart (List.mem_of_find?_eq_some found) listed named' named]

theorem memberFor?_of_apart (name : String) :
    memberFor? name members = (members.find? (sameLetters ·.1 name)).map (·.2) := by
  rw [memberFor?_eq, entryFor?]
  cases direct : members.find? (·.1 == name) with
  | none => rfl
  | some member =>
      have same : member.1 = name := by simpa using List.find?_some direct
      have named : sameLetters member.1 name = true := by rw [same, sameLetters_refl]
      rw [find?_of_apart apart (List.mem_of_find?_eq_some direct) named]
      rfl

theorem find?_filter_of_apart (name : String) (kept : String × Value → Bool) :
    (members.filter kept).find? (sameLetters ·.1 name) =
      (members.find? (sameLetters ·.1 name)).filter kept := by
  have left : (members.filter kept).Pairwise fun member other =>
      sameLetters member.1 other.1 = false := apart.filter kept
  apply Option.ext
  intro member
  rw [Option.filter_eq_some_iff]
  constructor
  · intro found
    have listed := List.mem_filter.mp (List.mem_of_find?_eq_some found)
    have named : sameLetters member.1 name = true := by simpa using List.find?_some found
    exact ⟨find?_of_apart apart listed.1 named, listed.2⟩
  · intro found
    have listed := List.mem_of_find?_eq_some found.1
    have named : sameLetters member.1 name = true := by simpa using List.find?_some found.1
    exact find?_of_apart left (List.mem_filter.mpr ⟨listed, found.2⟩) named

end Apart

theorem property?_withoutNulls {document : Value} (apart : document.KeysApart) (name : String) :
    property? document.withoutNulls name = (property? document name).map Value.withoutNulls := by
  cases document with
  | object members =>
      have kept : (members.filter (!·.2.isNull)).Pairwise fun member other =>
          sameLetters member.1 other.1 = false := apart.filter _
      rw [Value.withoutNulls_object]
      change (memberFor? name ((members.filter _).map _)).filter _ =
        ((memberFor? name members).filter _).map _
      rw [memberFor?_map, memberFor?_of_apart kept, memberFor?_of_apart apart,
        find?_filter_of_apart apart]
      cases members.find? (sameLetters ·.1 name) with
      | none => rfl
      | some member =>
          cases null : member.2.isNull with
          | true => simp [Option.filter, null]
          | false => simp [Option.filter, null, Value.isNull_withoutNulls]
  | array items =>
      rw [Value.withoutNulls_array]
      rfl
  | null | bool | number | string => rfl

end Template

end Enforcement
