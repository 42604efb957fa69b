import Enforcement.Json.Reader
import Enforcement.Proofs.Json.Number
import Enforcement.Proofs.Json.Structure

/-!
The keys of every object that was read stand in their order, each once, and a document that was read
nests less than the reader allows.
-/

namespace Enforcement.Json

theorem mem_insertMember {key : String} {value : Value} {members : List (String × Value)}
    {member : String × Value} (held : member ∈ insertMember key value members) :
    member = (key, value) ∨ member ∈ members := by
  induction members with
  | nil => exact Or.inl (List.mem_singleton.mp held)
  | cons head rest ih =>
      unfold insertMember at held
      split at held
      · exact List.mem_cons.mp held
      · split at held
        · rcases List.mem_cons.mp held with same | later
          · exact Or.inl same
          · exact Or.inr (List.mem_cons_of_mem head later)
        · rcases List.mem_cons.mp held with rfl | later
          · exact Or.inr List.mem_cons_self
          · rcases ih later with same | former
            · exact Or.inl same
            · exact Or.inr (List.mem_cons_of_mem head former)

theorem insertMember_ordered {members : List (String × Value)}
    (ordered : members.Pairwise (·.1 < ·.1)) (key : String) (value : Value) :
    (insertMember key value members).Pairwise (·.1 < ·.1) := by
  induction members with
  | nil => exact List.pairwise_singleton _ _
  | cons head rest ih =>
      obtain ⟨other, held⟩ := head
      obtain ⟨first, later⟩ := List.pairwise_cons.mp ordered
      unfold insertMember
      split
      · rename_i below
        refine List.pairwise_cons.mpr ⟨?_, ordered⟩
        intro member inside
        rcases List.mem_cons.mp inside with rfl | inside
        · exact below
        · exact String.lt_trans below (first member inside)
      · rename_i above
        split
        · rename_i same
          subst same
          exact List.pairwise_cons.mpr ⟨first, later⟩
        · rename_i different
          refine List.pairwise_cons.mpr ⟨?_, ih later⟩
          intro member inside
          rcases mem_insertMember inside with rfl | inside
          · exact String.not_le.mp fun le =>
              different (String.le_antisymm le (String.not_lt.mp above))
          · exact first member inside

def GivesOnly {α : Type} (good : α → Prop) (result : Except Fault (α × List Char)) : Prop :=
  ∀ found rest, result = .ok (found, rest) → good found

theorem givesOnly_error {α : Type} {good : α → Prop} (fault : Fault) :
    GivesOnly good (.error fault) := nofun

theorem GivesOnly.bind {α β : Type} {good : α → Prop} {better : β → Prop}
    {result : Except Fault (α × List Char)} {next : α × List Char → Except Fault (β × List Char)}
    (start : GivesOnly good result)
    (step : ∀ found rest, good found → GivesOnly better (next (found, rest))) :
    GivesOnly better (result >>= next) := by
  intro value rest read
  obtain ⟨⟨found, middle⟩, first, later⟩ := bind_ok.mp read
  exact step found middle (start found middle first) value rest later

theorem givesOnly_any {α : Type} (result : Except Fault (α × List Char)) :
    GivesOnly (fun _ => True) result := fun _ _ _ => trivial

theorem givesOnly_ok {α : Type} {good : α → Prop} {found : α} (held : good found)
    (rest : List Char) : GivesOnly good (.ok (found, rest)) := by
  intro value left read
  cases read
  exact held

/-- A value that may stand where fewer than `depth` levels are allowed. -/
structure Value.Fits (depth : Nat) (value : Value) : Prop where
  ordered : value.Ordered
  shallow : value.nesting ≤ depth - 1

def ItemsFit (depth : Nat) (items : List Value) : Prop := ∀ item ∈ items, item.Fits depth

def MembersFit (depth : Nat) (members : List (String × Value)) : Prop :=
  members.Pairwise (·.1 < ·.1) ∧ ∀ member ∈ members, member.2.Fits depth

theorem ordered_leaf {value : Value} (single : value.parts = [value]) (keys : value.KeysInOrder) :
    value.Ordered := (Value.every_leaf single).mpr keys

theorem fits_leaf {value : Value} (single : value.parts = [value]) (keys : value.KeysInOrder)
    (flat : value.nesting = 0) (depth : Nat) : value.Fits depth where
  ordered := ordered_leaf single keys
  shallow := by rw [flat]; exact Nat.zero_le _

theorem fits_array {depth : Nat} (deep : ¬depth ≤ 1) {items : List Value}
    (fit : ItemsFit (depth - 1) items) : (Value.array items).Fits depth := by
  refine ⟨Value.every_array.mpr ⟨trivial, fun item member => (fit item member).ordered⟩, ?_⟩
  have inner := Value.nestingOfItems_le.mpr fun item member => (fit item member).shallow
  rw [Value.nesting]
  omega

theorem fits_object {depth : Nat} (deep : ¬depth ≤ 1) {members : List (String × Value)}
    (fit : MembersFit (depth - 1) members) : (Value.object members).Fits depth := by
  refine ⟨Value.every_object.mpr ⟨fit.1, fun member held => (fit.2 member held).ordered⟩, ?_⟩
  have inner := Value.nestingOfMembers_le.mpr fun member held => (fit.2 member held).shallow
  rw [Value.nesting]
  omega

theorem Value.Fits.members {depth : Nat} {members : List (String × Value)}
    (fits : (Value.object members).Fits depth) : MembersFit (depth - 1) members := by
  obtain ⟨keys, ordered⟩ := Value.every_object.mp fits.ordered
  have shallow := fits.shallow
  rw [Value.nesting] at shallow
  have inner := Value.nestingOfMembers_le.mp (Nat.le_sub_of_add_le shallow)
  exact ⟨keys, fun member held => ⟨ordered member held, inner member held⟩⟩

theorem readLiteral_fits {value : Value} {depth : Nat} (fits : value.Fits depth)
    (letters text : List Char) : GivesOnly (Value.Fits depth) (readLiteral value letters text) := by
  induction letters generalizing text with
  | nil => exact givesOnly_ok fits text
  | cons letter letters ih =>
      cases text with
      | nil => exact givesOnly_error _
      | cons c text =>
          rw [readLiteral]
          split
          · exact ih text
          · exact givesOnly_error _

structure ReadFits (fuel : Nat) : Prop where
  value : ∀ depth text, GivesOnly (Value.Fits depth) (readValue fuel depth text)
  items : ∀ depth first text, GivesOnly (ItemsFit depth) (readItems fuel depth first text)
  members : ∀ depth first before text, MembersFit depth before →
    GivesOnly (MembersFit depth) (readMembers fuel depth first before text)

section Step

variable {fuel : Nat}

theorem readValue_step (ih : ReadFits fuel) (depth : Nat) (text : List Char) :
    GivesOnly (Value.Fits depth) (readValue (fuel + 1) depth text) := by
  rw [readValue]
  split
  · exact givesOnly_error _
  · rename_i c rest _
    split_ifs
    · exact readLiteral_fits (@fits_leaf .null rfl trivial rfl depth) _ _
    · exact readLiteral_fits (@fits_leaf (.bool true) rfl trivial rfl depth) _ _
    · exact readLiteral_fits (@fits_leaf (.bool false) rfl trivial rfl depth) _ _
    · refine (givesOnly_any _).bind fun text rest _ => ?_
      exact givesOnly_ok (@fits_leaf (.string _) rfl trivial rfl depth) rest
    · refine (givesOnly_any _).bind fun number rest _ => ?_
      exact givesOnly_ok (@fits_leaf (.number _) rfl trivial rfl depth) rest
    · exact givesOnly_error _
    · rename_i deep
      refine (ih.items (depth - 1) true rest).bind fun found rest held => ?_
      exact givesOnly_ok (fits_array deep held) rest
    · exact givesOnly_error _
    · rename_i deep
      refine (ih.members (depth - 1) true [] rest ⟨List.Pairwise.nil, nofun⟩).bind
        fun found rest held => ?_
      exact givesOnly_ok (fits_object deep held) rest
    · exact givesOnly_error _

theorem readItems_step (ih : ReadFits fuel) (depth : Nat) (first : Bool) (text : List Char) :
    GivesOnly (ItemsFit depth) (readItems (fuel + 1) depth first text) := by
  rw [readItems]
  split
  · exact givesOnly_error _
  · rename_i c rest _
    by_cases closing : c = ']'
    · rw [if_pos closing]
      exact givesOnly_ok nofun _
    · rw [if_neg closing]
      by_cases more : (first || decide (c = ',')) = true
      · rw [if_pos more]
        dsimp only
        generalize (if first = true then c :: rest else skipSpaces rest) = start
        split
        · exact givesOnly_error _
        · refine (ih.value depth _).bind fun item rest head => ?_
          refine (ih.items depth false rest).bind fun others rest tail => ?_
          refine givesOnly_ok ?_ rest
          intro part member
          rcases List.mem_cons.mp member with rfl | member
          · exact head
          · exact tail part member
      · rw [if_neg more]
        exact givesOnly_error _

theorem readMembers_step (ih : ReadFits fuel) (depth : Nat) (first : Bool)
    (before : List (String × Value)) (text : List Char) (fit : MembersFit depth before) :
    GivesOnly (MembersFit depth) (readMembers (fuel + 1) depth first before text) := by
  rw [readMembers]
  split
  · exact givesOnly_error _
  · rename_i c rest _
    by_cases closing : c = '\x7d'
    · rw [if_pos closing]
      exact givesOnly_ok fit _
    · rw [if_neg closing]
      by_cases more : (first || decide (c = ',')) = true
      · rw [if_pos more]
        generalize (if first = true then c :: rest else skipSpaces rest) = start
        split
        · exact givesOnly_error _
        · split
          · refine (givesOnly_any _).bind fun key rest _ => ?_
            dsimp only
            split
            · exact givesOnly_error _
            · split
              · refine (ih.value depth _).bind fun held rest fine => ?_
                refine ih.members depth false _ rest ⟨insertMember_ordered fit.1 _ held, ?_⟩
                intro entry inside
                rcases mem_insertMember inside with rfl | inside
                · exact fine
                · exact fit.2 entry inside
              · exact givesOnly_error _
          · exact givesOnly_error _
      · rw [if_neg more]
        exact givesOnly_error _

end Step

/-- The three readers call one another with less fuel, so they are treated together. -/
theorem read_fits (fuel : Nat) : ReadFits fuel := by
  induction fuel with
  | zero => exact ⟨fun _ _ => nofun, fun _ _ _ => nofun, fun _ _ _ _ _ => nofun⟩
  | succ fuel ih => exact ⟨readValue_step ih, readItems_step ih, readMembers_step ih⟩

theorem readText_fits {text : List Char} {value : Value} (read : readText text = .ok value) :
    value.Fits depthLimit := by
  unfold readText atEnd at read
  split at read
  · cases read
  · rename_i found rest result
    split at read
    · cases read
      exact (read_fits _).value _ _ _ _ result
    · cases read

theorem readText_ordered {text : List Char} {value : Value} (read : readText text = .ok value) :
    value.Ordered := (readText_fits read).ordered

end Enforcement.Json
