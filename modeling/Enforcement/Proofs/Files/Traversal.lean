import Enforcement.Files.Store
import Enforcement.Proofs.Files.Path

/-!
Where a path leads, told from its names alone. A path that can be followed crosses these places and
no others, each of them a directory, and it leads there as long as they stay directories.
-/

namespace Enforcement.Files

def stepTo (place : Place) (name : String) : Place :=
  if name = "" || name = "." then place
  else if name = ".." then place.dropLast
  else place ++ [name]

def walk (place : Place) (names : List String) : Place := names.foldl stepTo place

theorem walk_append (place : Place) (first second : List String) :
    walk place (first ++ second) = walk (walk place first) second := List.foldl_append

theorem walk_idle {place : Place} {names : List String} (idle : ∀ name ∈ names, name = "") :
    walk place names = place := by
  induction names with
  | nil => rfl
  | cons name rest ih =>
      have first : name = "" := idle name List.mem_cons_self
      subst first
      exact ih fun name member => idle name (List.mem_cons_of_mem _ member)

/-- A name that stands for nothing but itself. -/
structure PlainName (name : String) : Prop where
  some : name ≠ ""
  idle : name ≠ "."
  up : name ≠ ".."
  whole : '/' ∉ name.toList

theorem stepTo_plain (place : Place) {name : String} (plain : PlainName name) :
    stepTo place name = place ++ [name] := by
  simp [stepTo, plain.some, plain.idle, plain.up]

def start (home : Place) (path : String) : Place := if isAbsolute path then [] else home

def destination (home : Place) (path : String) : Place := walk (start home path) (names path.toList)

/-- The first names of a path, or all of them, lead to a place. -/
def Crosses (home : Place) (path : String) (place : Place) : Prop :=
  ∃ passed left, names path.toList = passed ++ left ∧ walk (start home path) passed = place

/-- A place is crossed before the last name of a path. -/
def CrossesAbove (home : Place) (path : String) (place : Place) : Prop :=
  ∃ passed name left, names path.toList = passed ++ name :: left ∧
    walk (start home path) passed = place

theorem crosses_destination (home : Place) (path : String) :
    Crosses home path (destination home path) := ⟨_, [], (List.append_nil _).symm, rfl⟩

theorem CrossesAbove.crosses {home : Place} {path : String} {place : Place}
    (above : CrossesAbove home path place) : Crosses home path place := by
  obtain ⟨passed, name, left, split, same⟩ := above
  exact ⟨passed, name :: left, split, same⟩

theorem Crosses.above_or_end {home : Place} {path : String} {place : Place}
    (crosses : Crosses home path place) :
    CrossesAbove home path place ∨ place = destination home path := by
  obtain ⟨passed, left, split, same⟩ := crosses
  cases left with
  | nil =>
      rw [List.append_nil] at split
      exact .inr (by rw [destination, split, same])
  | cons name left => exact .inl ⟨passed, name, left, split, same⟩

namespace Store

variable {store other : Store}

theorem follow_cons_ok_iff {place found : Place} {name : String} {rest : List String} :
    store.follow place (name :: rest) = .ok found ↔
      store.entry? place = some .directory ∧ name.utf8ByteSize ≤ 255 ∧
        store.follow (stepTo place name) rest = .ok found := by
  have onward : (if name = "" || name = "." then store.follow place rest
      else if name = ".." then store.follow place.dropLast rest
      else store.follow (place ++ [name]) rest) = store.follow (stepTo place name) rest := by
    unfold stepTo
    split
    · rfl
    · split
      · rfl
      · rfl
  rw [follow]
  cases held : store.entry? place with
  | none => exact ⟨nofun, fun both => nomatch both.1⟩
  | some entry =>
      cases entry with
      | file bytes executable => exact ⟨nofun, fun both => nomatch both.1⟩
      | directory =>
          dsimp only
          rw [onward]
          split
          · rename_i long
            exact ⟨nofun, fun both => absurd long (Nat.not_lt.mpr both.2.1)⟩
          · rename_i short
            exact ⟨fun leads => ⟨rfl, Nat.not_lt.mp short, leads⟩, fun both => both.2.2⟩

theorem follow_mono {names : List String} {place found : Place}
    (kept : ∀ passed name left, names = passed ++ name :: left →
      store.entry? (walk place passed) = some .directory →
        other.entry? (walk place passed) = some .directory)
    (leads : store.follow place names = .ok found) : other.follow place names = .ok found := by
  induction names generalizing place with
  | nil => exact leads
  | cons name rest ih =>
      obtain ⟨held, short, leads⟩ := follow_cons_ok_iff.mp leads
      refine follow_cons_ok_iff.mpr ⟨kept [] name rest rfl held, short, ?_⟩
      exact ih (fun passed later left split =>
        kept (name :: passed) later left (by rw [split]; rfl)) leads

theorem follow_ok {names : List String} {place found : Place}
    (leads : store.follow place names = .ok found) : found = walk place names := by
  induction names generalizing place with
  | nil =>
      cases leads
      rfl
  | cons name rest ih => exact ih (follow_cons_ok_iff.mp leads).2.2

theorem resolve_mono {path : String} {place : Place} (home : other.home = store.home)
    (kept : ∀ passed, CrossesAbove store.home path passed →
      store.entry? passed = some .directory → other.entry? passed = some .directory)
    (leads : store.resolve path = .ok place) : other.resolve path = .ok place := by
  unfold resolve at leads ⊢
  split at leads
  · cases leads
  · rename_i some
    rw [if_neg some]
    split at leads
    · cases leads
    · rename_i clean
      rw [if_neg clean]
      split at leads
      · cases leads
      · rename_i short
        rw [if_neg short, home]
        exact follow_mono (fun passed name left split => kept _ ⟨passed, name, left, split, rfl⟩)
          leads

theorem resolve_ok {path : String} {place : Place} (leads : store.resolve path = .ok place) :
    path ≠ "" ∧ place = destination store.home path := by
  unfold resolve at leads
  split at leads
  · cases leads
  · rename_i filled
    split at leads
    · cases leads
    · split at leads
      · cases leads
      · exact ⟨by simpa using filled, follow_ok leads⟩

end Store

/-! Paths that are made of others. -/

theorem start_append {base : String} (some : base ≠ "") (home : Place) {path : String}
    {rest : List Char} (split : path.toList = base.toList ++ rest) :
    start home path = start home base := by
  rw [start, start, isAbsolute_append some split]

theorem walk_join (home : Place) (base : String) {name : String} (plain : PlainName name) :
    ∃ front left, names base.toList = front ++ left ∧
      names (join base name).toList = front ++ [name] ∧
      start home (join base name) = start home base ∧
      walk (start home base) front = destination home base := by
  have relative := isAbsolute_plain plain.whole
  unfold join
  rw [relative, Bool.false_or]
  split
  · rename_i empty
    have empty : base = "" := by simpa using empty
    subst empty
    refine ⟨[], [""], rfl, by rw [names_plain plain.whole]; rfl, ?_, rfl⟩
    unfold start
    rw [relative]
    rfl
  · rename_i filled
    have filled : base ≠ "" := by simpa using filled
    split
    · rename_i slash
      obtain ⟨front, ends⟩ := List.getLast?_eq_some_iff.mp (beq_iff_eq.mp slash)
      have whole : names base.toList = names front ++ [""] := by rw [ends, names_append]; rfl
      refine ⟨names front, [""], whole, ?_, start_append filled home String.toList_append, ?_⟩
      · rw [String.toList_append, ends, List.append_assoc, List.singleton_append, names_append,
          names_plain plain.whole]
      · rw [destination, whole, walk_append]
        rfl
    · refine ⟨names base.toList, [], (List.append_nil _).symm, ?_,
        start_append filled home (toList_slashed base name), rfl⟩
      rw [toList_slashed, names_append, names_plain plain.whole]

theorem destination_join (home : Place) (base : String) {name : String} (plain : PlainName name) :
    destination home (join base name) = destination home base ++ [name] := by
  obtain ⟨front, left, -, whole, starts, leads⟩ := walk_join home base plain
  rw [destination, whole, starts, walk_append, leads]
  exact stepTo_plain _ plain

theorem prefix_of_concat {front passed left : List String} {last name : String}
    (split : front ++ [last] = passed ++ name :: left) : ∃ more, front = passed ++ more := by
  rcases List.append_eq_append_iff.mp split with ⟨more, same, rest⟩ | ⟨more, same, -⟩
  · rcases List.append_eq_singleton_iff.mp rest.symm with ⟨rfl, -⟩ | ⟨-, last⟩
    · exact ⟨[], by rw [same]; simp⟩
    · cases last
  · exact ⟨more, same⟩

theorem crosses_of_join {home : Place} {base name : String} (plain : PlainName name)
    {place : Place} (above : CrossesAbove home (join base name) place) :
    Crosses home base place := by
  obtain ⟨front, left, split, whole, starts, -⟩ := walk_join home base plain
  obtain ⟨passed, next, behind, names, leads⟩ := above
  rw [whole] at names
  rw [starts] at leads
  obtain ⟨more, same⟩ := prefix_of_concat names
  exact ⟨passed, more ++ left, by rw [split, same, List.append_assoc], leads⟩

theorem crossesAbove_of_parent {home : Place} {path parent : String}
    (upper : parent? path = some parent) (some : parent ≠ "") {place : Place}
    (crosses : Crosses home parent place) : CrossesAbove home path place := by
  obtain ⟨passed, left, split, leads⟩ := crosses
  rcases parent?_cases upper with none | ⟨root, absolute⟩ | ⟨rest, whole⟩
  · exact absurd none some
  · subst root
    have top : place = [] := by
      have idle : ∀ name ∈ passed, name = "" := by
        have all : names "/".toList = ["", ""] := by decide +kernel
        intro name member
        have listed := List.mem_append_left left member
        rw [← split, all] at listed
        simpa using listed
      rw [← leads, walk_idle idle]
      rfl
    obtain ⟨name, behind, all⟩ := List.exists_cons_of_ne_nil (names_ne_nil path.toList)
    refine ⟨[], name, behind, all, ?_⟩
    rw [top, start, absolute]
    rfl
  · obtain ⟨name, behind, later⟩ := List.exists_cons_of_ne_nil (names_ne_nil rest)
    have starts := start_append some home whole
    have all : names path.toList = passed ++ (left ++ name :: behind) := by
      rw [whole, names_append, split, later, List.append_assoc]
    obtain ⟨next, others, onward⟩ : ∃ next others, left ++ name :: behind = next :: others := by
      cases left with
      | nil => exact ⟨name, behind, rfl⟩
      | cons next others => exact ⟨next, others ++ name :: behind, rfl⟩
    exact ⟨passed, next, others, by rw [all, onward], by rw [starts, leads]⟩

/-! Leaving a directory again. -/

theorem eq_or_prefix_dropLast {inner place : Place} (below : inner <+: place) :
    inner = place ∨ inner <+: place.dropLast := by
  obtain ⟨rest, rfl⟩ := below
  rcases List.eq_nil_or_concat rest with rfl | ⟨front, last, rfl⟩
  · exact .inl (List.append_nil _).symm
  · refine .inr ?_
    rw [List.concat_eq_append, ← List.append_assoc, List.dropLast_concat]
    exact List.prefix_append _ _

theorem walk_leaves {inner place : Place} {names : List String} (below : inner <+: place)
    (outside : ¬ inner <+: walk place names) :
    ∃ passed left, names = passed ++ left ∧ walk place passed = inner := by
  induction names generalizing place with
  | nil => exact absurd below outside
  | cons name rest ih =>
      have onward (still : inner <+: stepTo place name) :
          ∃ passed left, name :: rest = passed ++ left ∧ walk place passed = inner := by
        obtain ⟨passed, left, split, leads⟩ := ih still outside
        exact ⟨name :: passed, left, by rw [split, List.cons_append], leads⟩
      by_cases idle : (name = "" || name = ".") = true
      · exact onward (by rwa [stepTo, if_pos idle])
      · by_cases up : name = ".."
        · rcases eq_or_prefix_dropLast below with same | further
          · exact ⟨[], name :: rest, rfl, same.symm⟩
          · exact onward (by rwa [stepTo, if_neg idle, if_pos up])
        · refine onward ?_
          rw [stepTo, if_neg idle, if_neg up]
          exact below.trans (List.prefix_append _ _)

/-- A path that does not cross a directory and does not end in it stays out of it. -/
theorem not_below_of_crosses {home inner place : Place} {path : String}
    (apart : ¬ Crosses home path inner) (outside : ¬ inner <+: destination home path)
    (crosses : Crosses home path place) : ¬ inner <+: place := by
  intro below
  obtain ⟨passed, left, split, rfl⟩ := crosses
  rw [destination, split, walk_append] at outside
  obtain ⟨further, rest, behind, leads⟩ := walk_leaves below outside
  refine apart ⟨passed ++ further, rest, by rw [split, behind, List.append_assoc], ?_⟩
  rw [walk_append, leads]

theorem prefix_walk {place : Place} {names : List String} (down : ".." ∉ names) :
    place <+: walk place names := by
  induction names generalizing place with
  | nil => exact List.prefix_rfl
  | cons name rest ih =>
      have further : stepTo place name <+: walk (stepTo place name) rest :=
        ih fun member => down (List.mem_cons_of_mem _ member)
      refine List.IsPrefix.trans ?_ further
      have other : name ≠ ".." := fun up => down (up ▸ List.mem_cons_self)
      unfold stepTo
      split
      · exact List.prefix_rfl
      · exact List.prefix_append _ _

theorem prefix_of_crosses {home place : Place} {path : String} (down : ".." ∉ names path.toList)
    (crosses : Crosses home path place) : place <+: destination home path := by
  obtain ⟨passed, left, split, rfl⟩ := crosses
  rw [destination, split, walk_append]
  rw [split, List.mem_append, not_or] at down
  exact prefix_walk down.2

end Enforcement.Files
