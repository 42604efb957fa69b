import Enforcement.Error
import Enforcement.Proofs.Files.Directory

/-!
What making and removing directories changes. Directories are only made where a path crosses a place
that is free; what is removed is the directory itself with all that is in it, but for what stays.
-/

namespace Enforcement.Files

/-- A place holds what it held, or it was free and allowed and has a directory now. -/
def SameOrMade (allowed : Place → Prop) (before after : Store) (place : Place) : Prop :=
  after.entry? place = before.entry? place ∨
    before.entry? place = none ∧ after.entry? place = some .directory ∧ allowed place

namespace SameOrMade

variable {allowed wider : Place → Prop} {first second third : Store} {place : Place}

theorem mono (kept : SameOrMade allowed first second place) (more : allowed place → wider place) :
    SameOrMade wider first second place := by
  rcases kept with same | ⟨free, held, here⟩
  · exact .inl same
  · exact .inr ⟨free, held, more here⟩

theorem trans (kept : SameOrMade allowed first second place)
    (later : SameOrMade allowed second third place) : SameOrMade allowed first third place := by
  rcases later with same' | ⟨free', held', here'⟩
  · rcases kept with same | ⟨free, held, here⟩
    · exact .inl (same'.trans same)
    · exact .inr ⟨free, same'.trans held, here⟩
  · rcases kept with same | ⟨free, held, here⟩
    · exact .inr ⟨same.symm.trans free', held', here'⟩
    · rw [held] at free'
      cases free'

end SameOrMade

structure Made (allowed : Place → Prop) (before after : Store) : Prop where
  ground : after.toGround = before.toGround
  entries : ∀ place, SameOrMade allowed before after place

namespace Made

variable {allowed wider : Place → Prop} {first second third : Store}

theorem home (made : Made allowed first second) : second.home = first.home :=
  congrArg Ground.home made.ground

theorem refl (store : Store) : Made allowed store store := ⟨rfl, fun _ => .inl rfl⟩

theorem mono (made : Made allowed first second) (more : ∀ place, allowed place → wider place) :
    Made wider first second := ⟨made.ground, fun place => (made.entries place).mono (more place)⟩

theorem trans (made : Made allowed first second) (later : Made allowed second third) :
    Made allowed first third :=
  ⟨later.ground.trans made.ground, fun place => (made.entries place).trans (later.entries place)⟩

theorem put {place : Place} (free : first.entry? place = none) (here : allowed place) :
    Made allowed first (first.put place .directory) := by
  refine ⟨Store.put_ground _ _, fun other => ?_⟩
  unfold SameOrMade
  rw [Store.entry?_put (Store.ne_root_of_free free)]
  split
  · rename_i same
    exact .inr ⟨same ▸ free, rfl, same ▸ here⟩
  · exact .inl rfl

end Made

namespace Store

variable {store : Store}

theorem crosses_trimmed (home : Place) {path trimmed : String} (some : trimmed ≠ "")
    (same : trimmed = if endsInSlash path then (parent? (path ++ "x")).getD path else path) :
    Crosses home path (destination home trimmed) := by
  cases slash : endsInSlash path with
  | false =>
      rw [slash] at same
      subst same
      exact crosses_destination home trimmed
  | true =>
      rw [slash, if_pos rfl] at same
      cases upper : parent? (path ++ "x") with
      | none =>
          rw [upper] at same
          subst same
          exact crosses_destination home trimmed
      | some parent =>
          rw [upper] at same
          subst same
          obtain ⟨front, ends⟩ := List.getLast?_eq_some_iff.mp (beq_iff_eq.mp slash)
          have filled : path ≠ "" := by
            rintro rfl
            simp at ends
          have whole : names path.toList = names front ++ [""] := by rw [ends, names_append]; rfl
          have longer : names (path ++ "x").toList = names front ++ ["x"] := by
            rw [String.toList_append, ends, List.append_assoc]
            exact names_append front ['x']
          obtain ⟨passed, name, left, split, leads⟩ :=
            crossesAbove_of_parent upper some (crosses_destination home trimmed)
          rw [start_append filled home String.toList_append] at leads
          rw [longer] at split
          obtain ⟨more, behind⟩ := prefix_of_concat split
          exact ⟨passed, more ++ [""], by rw [whole, behind, List.append_assoc], leads⟩

theorem made_makeDirectory {path : String} {after : Store}
    (done : store.makeDirectory path = .ok after) : Made (Crosses store.home path) store after := by
  unfold makeDirectory at done
  dsimp only at done
  generalize trim : (if endsInSlash path then (parent? (path ++ "x")).getD path else path) =
    trimmed at done
  obtain ⟨place, leads, done⟩ := bind_ok.mp done
  obtain ⟨filled, rfl⟩ := resolve_ok leads
  cases held : store.entry? (destination store.home trimmed) with
  | some entry =>
      rw [held] at done
      cases done
  | none =>
      rw [held] at done
      cases done
      exact .put held (crosses_trimmed store.home filled trim.symm)

/-- Directories are made where the path crosses free places; without success its end is not made. -/
theorem made_makeDirectories (levels : Nat) (path : String) (store : Store) :
    Made (Crosses store.home path) store (makeDirectories levels path store).2 ∧
      ∀ fault, (makeDirectories levels path store).1 = .error fault →
        Made (CrossesAbove store.home path) store (makeDirectories levels path store).2 := by
  -- Each call makes the parent directory first, with one level less.
  induction levels generalizing path store with
  | zero => exact ⟨.refl store, nofun⟩
  | succ levels ih =>
      have unchanged (result : Except Fault Unit) :
          Made (Crosses store.home path) store (result, store).2 ∧
            ∀ fault, (result, store).1 = .error fault →
              Made (CrossesAbove store.home path) store (result, store).2 :=
        ⟨.refl store, fun _ _ => .refl store⟩
      rw [makeDirectories]
      split
      · exact unchanged _
      · split
        · rename_i after first
          exact ⟨made_makeDirectory first, fun _ failed => by cases failed⟩
        · split
          · exact unchanged _
          · rename_i parent upper
            have above : Made (CrossesAbove store.home path) store
                (makeDirectories levels parent store).2 := by
              by_cases none : parent = ""
              · subst none
                cases levels with
                | zero => exact .refl store
                | succ levels => exact .refl store
              · exact (ih parent store).1.mono fun _ => crossesAbove_of_parent upper none
            split
            · rename_i fault middle failed
              rw [failed] at above
              exact ⟨above.mono fun _ crosses => crosses.crosses, fun _ _ => above⟩
            · rename_i middle settled
              rw [settled] at above
              have wide := above.mono fun _ crosses => crosses.crosses
              split
              · rename_i after second
                have end' := made_makeDirectory second
                rw [above.home] at end'
                exact ⟨wide.trans end', fun _ failed => by cases failed⟩
              · exact ⟨wide, fun _ _ => above⟩
        · exact unchanged _

theorem made_createDirectories (path : String) (store : Store) :
    Made (Crosses store.home path) store (store.createDirectories path).2 :=
  (made_makeDirectories _ path store).1

theorem outlasts_iff {place : Place} (inner : place ≠ []) :
    store.outlasts place = true ↔
      ∃ stays ∈ store.lasting, place <+: stays ∧ store.entry? stays ≠ none := by
  have held (stays : Place) (below : place <+: stays) :
      store.entry? stays ≠ none ↔ ∃ entry, (stays, entry) ∈ store.entries := by
    rw [entry?_of_ne_root (below.ne_nil inner), Option.ne_none_iff_isSome, Option.isSome_map,
      List.find?_isSome]
    constructor
    · intro found
      obtain ⟨⟨at', entry⟩, member, same⟩ := found
      cases beq_iff_eq.mp same
      exact ⟨entry, member⟩
    · intro found
      obtain ⟨entry, member⟩ := found
      exact ⟨(stays, entry), member, beq_self_eq_true stays⟩
  unfold outlasts
  rw [List.any_eq_true]
  constructor
  · intro found
    obtain ⟨⟨stays, entry⟩, member, both⟩ := found
    obtain ⟨below, listed⟩ := Bool.and_eq_true_iff.mp both
    have below := List.isPrefixOf_iff_prefix.mp below
    exact ⟨stays, List.contains_iff_mem.mp listed, below, (held stays below).mpr ⟨entry, member⟩⟩
  · intro found
    obtain ⟨stays, listed, below, there⟩ := found
    obtain ⟨entry, member⟩ := (held stays below).mp there
    exact ⟨(stays, entry), member, Bool.and_eq_true_iff.mpr
      ⟨List.isPrefixOf_iff_prefix.mpr below, List.contains_iff_mem.mpr listed⟩⟩

theorem entry?_cut {place : Place} (inner : place ≠ []) (other : Place) :
    Store.entry? (store.cut place) other =
      if place <+: other ∧ store.outlasts other = false then none else store.entry? other := by
  by_cases root : other = []
  · subst root
    rw [if_neg (fun both => inner (List.prefix_nil.mp both.1))]
    rfl
  rw [entry?_of_ne_root root, entry?_of_ne_root root, cut, List.find?_filter]
  split
  · rename_i gone
    obtain ⟨below, loose⟩ := gone
    have none : (store.entries.find? fun held =>
        decide ((!place.isPrefixOf held.1 || store.outlasts held.1) = true ∧
          (held.1 == other) = true)) = none := by
      refine List.find?_eq_none.mpr fun held _ both => ?_
      obtain ⟨kept, same⟩ := of_decide_eq_true both
      rw [beq_iff_eq.mp same, List.isPrefixOf_iff_prefix.mpr below, loose] at kept
      cases kept
    rw [none]
    rfl
  · rename_i stays
    have kept : (!place.isPrefixOf other || store.outlasts other) = true := by
      by_cases below : place <+: other
      · rw [eq_true_of_ne_false fun loose => stays ⟨below, loose⟩, Bool.or_true]
      · rw [Bool.eq_false_iff.mpr fun above => below (List.isPrefixOf_iff_prefix.mp above)]
        rfl
    have same (held : Place × Entry) :
        decide ((!place.isPrefixOf held.1 || store.outlasts held.1) = true ∧
          (held.1 == other) = true) = (held.1 == other) := by
      cases equal : held.1 == other with
      | false => simp
      | true =>
          rw [beq_iff_eq.mp equal, kept]
          rfl
    rw [funext same]

theorem outlasts_cut (place : Place) {other : Place} (stays : store.outlasts other = true) :
    Store.outlasts (store.cut place) other = true := by
  obtain ⟨held, member, both⟩ := List.any_eq_true.mp stays
  refine List.any_eq_true.mpr ⟨held, List.mem_filter.mpr ⟨member, ?_⟩, both⟩
  have itself : store.outlasts held.1 = true :=
    List.any_eq_true.mpr ⟨held, member, Bool.and_eq_true_iff.mpr
      ⟨List.isPrefixOf_iff_prefix.mpr List.prefix_rfl, (Bool.and_eq_true_iff.mp both).2⟩⟩
  rw [itself, Bool.or_true]

variable {path : String}

theorem removeDirectory_cases (store : Store) (path : String) :
    (∃ fault, store.removeDirectory path = (.error fault, store)) ∨
      store.resolve path = .ok (destination store.home path) ∧
        store.entry? (destination store.home path) = some .directory ∧
        store.removeDirectory path =
          (if store.outlasts (destination store.home path) then .error .permission else .ok (),
            store.cut (destination store.home path)) := by
  unfold removeDirectory
  split
  · exact .inl ⟨_, rfl⟩
  · rename_i place leads
    obtain ⟨-, rfl⟩ := resolve_ok leads
    split
    · exact .inl ⟨_, rfl⟩
    · exact .inl ⟨_, rfl⟩
    · rename_i held
      exact .inr ⟨leads, held, rfl⟩

theorem removeDirectory_ground : (store.removeDirectory path).2.toGround = store.toGround := by
  rcases removeDirectory_cases store path with ⟨fault, same⟩ | ⟨-, -, same⟩
  · rw [same]
  · rw [same]
    rfl

theorem removeDirectory_home : (store.removeDirectory path).2.home = store.home :=
  congrArg Ground.home removeDirectory_ground

theorem removeDirectory_outside (inner : destination store.home path ≠ []) {place : Place}
    (outside : ¬ destination store.home path <+: place) :
    Store.entry? (store.removeDirectory path).2 place = store.entry? place := by
  rcases removeDirectory_cases store path with ⟨fault, same⟩ | ⟨-, -, same⟩
  · rw [same]
  · rw [same, entry?_cut inner, if_neg fun both => outside both.1]

/-- All that is left of a directory after its removal leads to something that stays. -/
theorem removeDirectory_inside (inner : destination store.home path ≠ [])
    (there : store.isDirectory path = true) {place : Place}
    (inside : destination store.home path <+: place) :
    Store.entry? (store.removeDirectory path).2 place = none ∨
      Store.outlasts (store.removeDirectory path).2 place = true := by
  obtain ⟨found, leads, held⟩ := isDirectory_iff.mp there
  obtain ⟨-, rfl⟩ := resolve_ok leads
  have same : (store.removeDirectory path).2 = store.cut (destination store.home path) := by
    unfold removeDirectory
    rw [leads]
    dsimp only
    rw [held]
  rw [same, entry?_cut inner]
  by_cases loose : store.outlasts place = false
  · exact .inl (if_pos ⟨inside, loose⟩)
  · exact .inr (outlasts_cut _ (eq_true_of_ne_false loose))

end Store

end Enforcement.Files
