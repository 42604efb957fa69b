import Mathlib.Data.List.Forall2
import Enforcement.Proofs.Json.Ordered
import Enforcement.Proofs.Template.Reference
import Enforcement.Template.Property

/-! What is found under a name: a part of the document whose key has the same letters. -/

namespace Enforcement.Template

open Enforcement.Json Enforcement.Text

theorem toLower_eq_iff {mark : Char} (other : mark.isAlphanum = false) (c : Char) :
    c.toLower = mark ↔ c = mark := by
  unfold Char.toLower
  split
  · rename_i letter
    obtain ⟨low, high⟩ := letter
    have first : 65 ≤ c.toNat := low
    have last : c.toNat ≤ 90 := high
    have shift : (c.val + ('a'.val - 'A'.val)).toNat = c.val.toNat + 32 := by
      rw [UInt32.toNat_add]
      change (c.toNat + 32) % 4294967296 = c.toNat + 32
      omega
    constructor
    · rintro rfl
      have letter := mt isAlphanum_iff.mpr (by rw [other]; exact Bool.false_ne_true)
      rw [not_or, not_or] at letter
      refine absurd (isLower_iff.mpr ?_) letter.1.2
      change 97 ≤ (c.val + ('a'.val - 'A'.val)).toNat ∧ (c.val + ('a'.val - 'A'.val)).toNat ≤ 122
      rw [shift]
      change 97 ≤ c.toNat + 32 ∧ c.toNat + 32 ≤ 122
      omega
    · rintro rfl
      rw [isAlphanum_iff.mpr (.inl (.inl (isUpper_iff.mpr ⟨first, last⟩)))] at other
      cases other
  · rfl

theorem notMem_of_sameLetters {mark : Char} (other : mark.isAlphanum = false)
    {left right : String} (same : sameLetters left right = true) (free : mark ∉ left.toList) :
    mark ∉ right.toList := by
  have folded (text : String) : mark ∈ foldCase text ↔ mark ∈ text.toList := by
    simp [foldCase, toLower_eq_iff other]
  rwa [← folded, ← sameLetters_iff.mp same, folded]

theorem clear_of_sameLetters {left right : String} (same : sameLetters left right = true)
    (clear : Clear left.toList) : Clear right.toList :=
  ⟨notMem_of_sameLetters (by decide) same clear.quote,
    notMem_of_sameLetters (by decide) same clear.slash,
    notMem_of_sameLetters (by decide) same clear.close⟩

def entryFor? (name : String) (members : List (String × Value)) : Option (String × Value) :=
  (members.find? (·.1 == name)).or (members.find? (sameLetters ·.1 name))

theorem memberFor?_eq (name : String) (members : List (String × Value)) :
    memberFor? name members = (entryFor? name members).map (·.2) := by
  unfold memberFor? entryFor? memberAt?
  cases members.find? (·.1 == name) with
  | some member => rfl
  | none => rfl

theorem spelling_eq (members : List (String × Value)) (name : String) :
    spelling members name = ((entryFor? name members).map (·.1)).getD name := by
  unfold spelling entryFor? memberAt?
  cases direct : members.find? (·.1 == name) with
  | some member =>
      have same := List.find?_some direct
      simpa using (beq_iff_eq.mp same).symm
  | none => rfl

theorem entryFor?_mem {name : String} {members : List (String × Value)}
    {member : String × Value} (found : entryFor? name members = some member) :
    member ∈ members ∧ sameLetters member.1 name = true := by
  rcases Option.or_eq_some_iff.mp found with direct | ⟨-, close⟩
  · have same := List.find?_some direct
    rw [beq_iff_eq.mp same]
    exact ⟨List.mem_of_find?_eq_some direct, sameLetters_refl name⟩
  · have same := List.find?_some close
    exact ⟨List.mem_of_find?_eq_some close, same⟩

theorem entryFor?_map {change : String × Value → String × Value}
    (keys : ∀ member, (change member).1 = member.1) (name : String)
    (members : List (String × Value)) :
    entryFor? name (members.map change) = (entryFor? name members).map change := by
  simp only [entryFor?, List.find?_map, Function.comp_def, keys, Option.map_or]

theorem memberFor?_mem {name : String} {members : List (String × Value)} {value : Value}
    (found : memberFor? name members = some value) :
    ∃ key, (key, value) ∈ members ∧ sameLetters key name = true := by
  rw [memberFor?_eq] at found
  obtain ⟨⟨key, value⟩, entry, rfl⟩ := Option.map_eq_some_iff.mp found
  exact ⟨key, entryFor?_mem entry⟩

theorem member?_mem {name : String} {members : List (String × Value)} {value : Value}
    (found : member? name members = some value) :
    ∃ key, (key, value) ∈ members ∧ sameLetters key name = true :=
  memberFor?_mem (Option.filter_eq_some_iff.mp found).1

theorem Every.member {good : Value → Prop} {members : List (String × Value)}
    (every : (Value.object members).Every good) {name : String} {value : Value}
    (found : member? name members = some value) : value.Every good := by
  obtain ⟨key, held, -⟩ := member?_mem found
  exact (Value.every_object.mp every).2 _ held

theorem Every.property {good : Value → Prop} {document : Value} (every : document.Every good)
    {name : String} {value : Value} (found : property? document name = some value) :
    value.Every good := by
  cases document with
  | object members => exact Every.member every found
  | null | bool | number | string | array => cases found

def onValue (change : Value → Value) (member : String × Value) : String × Value :=
  (member.1, change member.2)

theorem memberFor?_map (change : Value → Value) (name : String) (members : List (String × Value)) :
    memberFor? name (members.map (onValue change)) = (memberFor? name members).map change := by
  have entry := @entryFor?_map (onValue change) (fun _ => rfl) name members
  rw [memberFor?_eq, memberFor?_eq, entry, Option.map_map, Option.map_map]
  rfl

theorem find?_of_forall₂ {α β : Type} {related : α → β → Prop} {items : List α}
    {others : List β} (each : List.Forall₂ related items others) (test : α → Bool)
    (test' : β → Bool) (same : ∀ item other, related item other → test item = test' other) :
    Option.Rel related (items.find? test) (others.find? test') := by
  induction each with
  | nil => exact .none
  | @cons item other rest rest' head _ ih =>
      rw [List.find?_cons, List.find?_cons, same item other head]
      split
      · exact .some head
      · exact ih

theorem find?_of_weaker {weak strong : String × Value → Bool} {members : List (String × Value)}
    {member : String × Value} (found : members.find? weak = some member)
    (passes : strong member = true) (weaker : ∀ other, strong other = true → weak other = true) :
    members.find? strong = some member := by
  obtain ⟨-, before, after, split, earlier⟩ := List.find?_eq_some_iff_append.mp found
  refine List.find?_eq_some_iff_append.mpr ⟨passes, before, after, split, ?_⟩
  intro other listed
  cases held : strong other with
  | false => rfl
  | true =>
      have refused := earlier other listed
      rw [weaker other held] at refused
      cases refused

theorem memberAt?_entry {name : String} {members : List (String × Value)}
    {member : String × Value} (found : entryFor? name members = some member) :
    memberAt? member.1 members = some member.2 := by
  have first : members.find? (·.1 == member.1) = some member := by
    rcases Option.or_eq_some_iff.mp found with direct | ⟨-, close⟩
    · have same := List.find?_some direct
      rw [beq_iff_eq.mp same]
      exact direct
    · have same := List.find?_some close
      apply find?_of_weaker close (by simp)
      intro other key
      rw [beq_iff_eq.mp key]
      exact same
  rw [memberAt?, first]
  rfl

theorem memberAt?_spelling (members : List (String × Value)) (name : String) :
    memberAt? (spelling members name) members = memberFor? name members := by
  rw [spelling_eq, memberFor?_eq]
  cases found : entryFor? name members with
  | some member => exact memberAt?_entry found
  | none =>
      obtain ⟨direct, -⟩ := Option.or_eq_none_iff.mp found
      simp [memberAt?, direct]

theorem insertMember_present {key : String} {held : Value} {members : List (String × Value)}
    (ordered : members.Pairwise (·.1 < ·.1)) (present : (key, held) ∈ members) (value : Value) :
    insertMember key value members =
      members.map fun member => if member.1 = key then (key, value) else member := by
  induction members with
  | nil => cases present
  | cons head rest ih =>
      obtain ⟨other, former⟩ := head
      obtain ⟨first, later⟩ := List.pairwise_cons.mp ordered
      rw [insertMember, List.map_cons]
      rcases List.mem_cons.mp present with same | inside
      · cases same
        have others : rest.map (fun member => if member.1 = key then (key, value) else member) =
            rest := by
          apply (List.map_congr_left ?_).trans (List.map_id rest)
          intro member inside
          have above : key < member.1 := first member inside
          have different : member.1 ≠ key := fun same => String.lt_irrefl key (same ▸ above)
          rw [if_neg different]
          rfl
        rw [if_neg (String.lt_irrefl key), if_pos rfl, if_pos rfl, others]
      · have above : other < key := first _ inside
        have different : other ≠ key := fun same => String.lt_irrefl key (same ▸ above)
        rw [if_neg (String.lt_asymm above), if_neg (Ne.symm different), if_neg different,
          ih later inside]

theorem memberFor?_insertMember {name : String} {members : List (String × Value)} {held : Value}
    (ordered : members.Pairwise (·.1 < ·.1)) (found : memberFor? name members = some held)
    (value : Value) :
    memberFor? name (insertMember (spelling members name) value members) = some value := by
  rw [memberFor?_eq] at found
  obtain ⟨member, entry, rfl⟩ := Option.map_eq_some_iff.mp found
  have key : spelling members name = member.1 := by
    rw [spelling_eq, entry]
    rfl
  rw [key, insertMember_present ordered (entryFor?_mem entry).1, memberFor?_eq,
    entryFor?_map, entry]
  · simp
  · intro other
    split
    · rename_i same
      exact same.symm
    · rfl

theorem memberAt?_insertMember (key other : String) (value : Value)
    (members : List (String × Value)) :
    memberAt? other (insertMember key value members) =
      if key = other then some value else memberAt? other members := by
  induction members with
  | nil => exact memberAt?_cons other (key, value) []
  | cons head rest ih =>
      obtain ⟨former, held⟩ := head
      unfold insertMember
      split
      · exact memberAt?_cons other (key, value) _
      · split
        · rename_i same
          subst same
          rw [memberAt?_cons, memberAt?_cons]
          split
          · rfl
          · rfl
        · rename_i different
          rw [memberAt?_cons, memberAt?_cons, ih]
          by_cases here : former = other
          · rw [if_pos here, if_pos here, if_neg fun same => different (same.trans here.symm)]
          · rw [if_neg here, if_neg here]

theorem insertMember_same {key : String} {value : Value} {members : List (String × Value)}
    (ordered : members.Pairwise (·.1 < ·.1)) (found : memberAt? key members = some value) :
    insertMember key value members = members := by
  induction members with
  | nil => cases found
  | cons head rest ih =>
      obtain ⟨former, held⟩ := head
      obtain ⟨first, later⟩ := List.pairwise_cons.mp ordered
      rw [memberAt?_cons] at found
      split at found
      · rename_i same
        dsimp only at same
        subst same
        cases found
        rw [insertMember, if_neg (String.lt_irrefl former), if_pos rfl]
      · rename_i different
        have above : former < key := by
          obtain ⟨member, inside, rfl⟩ := Option.map_eq_some_iff.mp found
          have same := List.find?_some inside
          rw [← beq_iff_eq.mp same]
          exact first member (List.mem_of_find?_eq_some inside)
        rw [insertMember, if_neg (String.lt_asymm above), if_neg (Ne.symm different),
          ih later found]

/-- A value put under a name: it is found there, and everything else is as it was. -/
structure Puts (name : String) (value : Value) (before after : List (String × Value)) : Prop where
  found : memberFor? name after = some value
  here : memberAt? (spelling before name) after = some value
  others : ∀ key, key ≠ spelling before name → memberAt? key after = memberAt? key before
  ordered : after.Pairwise (·.1 < ·.1)

theorem puts_insertMember (name : String) (value : Value) {members : List (String × Value)}
    (ordered : members.Pairwise (·.1 < ·.1)) :
    Puts name value members (insertMember (spelling members name) value members) where
  found := by
    cases held : memberFor? name members with
    | some former => exact memberFor?_insertMember ordered held value
    | none =>
        have key : spelling members name = name := by
          rw [memberFor?_eq, Option.map_eq_none_iff] at held
          rw [spelling_eq, held]
          rfl
        rw [key, memberFor?, memberAt?_insertMember, if_pos rfl]
  here := by rw [memberAt?_insertMember, if_pos rfl]
  others key other := by rw [memberAt?_insertMember, if_neg (Ne.symm other)]
  ordered := insertMember_ordered ordered _ _

end Enforcement.Template
