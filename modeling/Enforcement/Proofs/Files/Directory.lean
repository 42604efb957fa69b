import Enforcement.Proofs.Files.Traversal

/-! Directories that are made: what is there then, and that making them again changes nothing. -/

namespace Enforcement.Files

/-- A path that ends in a name, so that making a directory there looks at the path itself. -/
def Named (path : String) : Prop := path ≠ "" ∧ Store.endsInSlash path = false

theorem named_iff {path : String} :
    Named path ↔ ∃ last, path.toList.getLast? = some last ∧ last ≠ '/' := by
  have empty : path = "" ↔ path.toList = [] := by simp
  unfold Named Store.endsInSlash
  rw [ne_eq, empty]
  cases last : path.toList.getLast? with
  | none => simp [List.getLast?_eq_none_iff.mp last]
  | some c =>
      have some : path.toList ≠ [] := by
        intro none
        rw [none] at last
        cases last
      simp [some]

theorem named_join (base : String) {name : String} (named : Named name) :
    Named (join base name) := by
  obtain ⟨last, ends, inner⟩ := named_iff.mp named
  unfold join
  split
  · exact named
  · apply named_iff.mpr
    refine ⟨last, ?_, inner⟩
    split
    · rw [String.toList_append, List.getLast?_append, ends]
      rfl
    · rw [String.toList_append, List.getLast?_append, ends]
      rfl

namespace Store

variable {store : Store}

theorem entry?_of_ne_root {place : Place} (inner : place ≠ []) :
    store.entry? place = (store.entries.find? (·.1 == place)).map (·.2) := if_neg inner

theorem entry?_put {place : Place} (inner : place ≠ []) (entry : Entry) (other : Place) :
    Store.entry? (store.put place entry) other =
      if other = place then some entry else store.entry? other := by
  by_cases root : other = []
  · subst root
    rw [if_neg inner.symm]
    rfl
  rw [entry?_of_ne_root root, entry?_of_ne_root root]
  unfold put
  split
  · rename_i there
    -- What is held there is replaced in its place, so the keys of the list stay as they are.
    rw [List.find?_map]
    have keys : ((fun held : Place × Entry => held.1 == other) ∘ fun held =>
        if held.1 == place then (place, entry) else held) = fun held => held.1 == other := by
      funext held
      dsimp only [Function.comp_apply]
      split
      · rename_i same
        rw [beq_iff_eq.mp same]
      · rfl
    rw [keys, Option.map_map]
    by_cases same : other = place
    · subst same
      rw [if_pos rfl]
      obtain ⟨held, member, key⟩ := List.any_eq_true.mp there
      cases found : store.entries.find? (·.1 == other) with
      | none => exact absurd key (List.find?_eq_none.mp found held member)
      | some first =>
          have own := List.find?_some found
          simp only [beq_iff_eq] at own
          simp [own]
    · rw [if_neg same]
      cases found : store.entries.find? (·.1 == other) with
      | none => rfl
      | some first =>
          have own := List.find?_some found
          simp only [beq_iff_eq] at own
          have differs : first.1 ≠ place := fun alike => same (own.symm.trans alike)
          simp [differs]
  · rename_i absent
    rw [List.find?_append]
    by_cases same : other = place
    · subst same
      have none : store.entries.find? (·.1 == other) = none := by
        rw [List.find?_eq_none]
        intro held member key
        exact absent (List.any_eq_true.mpr ⟨held, member, key⟩)
      rw [none, if_pos rfl]
      simp
    · rw [if_neg same]
      have other' : ((place, entry).1 == other) = false := by
        simpa using Ne.symm same
      rw [List.find?_cons_of_neg (by simp [other'])]
      simp

theorem ne_root_of_free {place : Place} (free : store.entry? place = none) : place ≠ [] := by
  rintro rfl
  cases free

theorem put_ground (place : Place) (entry : Entry) :
    (store.put place entry).toGround = store.toGround := by
  unfold put
  split
  · rfl
  · rfl

theorem put_home (place : Place) (entry : Entry) : (store.put place entry).home = store.home :=
  congrArg Ground.home (put_ground place entry)

theorem resolve_put {target found : Place} (leaf : store.entry? target ≠ some .directory)
    (entry : Entry) {path : String} (leads : store.resolve path = .ok found) :
    (store.put target entry).resolve path = .ok found := by
  have inner : target ≠ [] := by
    rintro rfl
    exact leaf rfl
  refine resolve_mono (put_home _ _) (fun passed _ held => ?_) leads
  have elsewhere : passed ≠ target := by
    rintro rfl
    exact leaf held
  rw [entry?_put inner, if_neg elsewhere, held]

theorem makeDirectory_eq {path : String} (named : Named path) :
    store.makeDirectory path =
      match store.resolve path with
      | .error fault => .error fault
      | .ok place =>
        match store.entry? place with
        | some _ => .error .alreadyExists
        | none => .ok (store.put place .directory) := by
  unfold makeDirectory
  rw [named.2]
  simp only [Bool.false_eq_true, if_false]
  cases store.resolve path with
  | error fault => rfl
  | ok place =>
      cases held : store.entry? place with
      | none => simp [held, bind, Except.bind]; rfl
      | some entry => simp [held, bind, Except.bind]; rfl

theorem isDirectory_iff {path : String} : store.isDirectory path = true ↔
    ∃ place, store.resolve path = .ok place ∧ store.entry? place = some .directory := by
  unfold isDirectory find?
  cases store.resolve path with
  | error fault => simp
  | ok place => simp

theorem isDirectory_of_makeDirectory {path : String} (named : Named path) {after : Store}
    (made : store.makeDirectory path = .ok after) : after.isDirectory path = true := by
  rw [makeDirectory_eq named] at made
  cases leads : store.resolve path with
  | error fault =>
      rw [leads] at made
      cases made
  | ok place =>
      rw [leads] at made
      cases free : store.entry? place with
      | some entry =>
          simp only [free] at made
          cases made
      | none =>
          simp only [free] at made
          cases made
          refine isDirectory_iff.mpr ⟨place, resolve_put (by rw [free]; nofun) _ leads, ?_⟩
          rw [entry?_put (ne_root_of_free free), if_pos rfl]

theorem makeDirectory_of_isDirectory {path : String} (named : Named path)
    (there : store.isDirectory path = true) :
    store.makeDirectory path = .error .alreadyExists := by
  obtain ⟨place, leads, held⟩ := isDirectory_iff.mp there
  rw [makeDirectory_eq named, leads]
  simp only [held]

theorem createDirectories_of_isDirectory {path : String} (named : Named path)
    (there : store.isDirectory path = true) : store.createDirectories path = (.ok (), store) := by
  unfold createDirectories makeDirectories
  rw [makeDirectory_of_isDirectory named there]
  simp [there]

theorem isDirectory_of_createDirectories {path : String} (named : Named path) {after : Store}
    (made : store.createDirectories path = (.ok (), after)) : after.isDirectory path = true := by
  have kept {before : Store} {fault : Fault} (settled :
      ((if before.isDirectory path then .ok () else .error fault : Except Fault Unit), before) =
        (.ok (), after)) : after.isDirectory path = true := by
    cases there : before.isDirectory path with
    | true =>
        rw [there] at settled
        cases settled
        exact there
    | false =>
        rw [there] at settled
        cases settled
  unfold createDirectories makeDirectories at made
  rw [if_neg (by simpa using named.1)] at made
  split at made
  · rename_i next first
    cases made
    exact isDirectory_of_makeDirectory named first
  · split at made
    · cases made
    · split at made
      · cases made
      · split at made
        · rename_i next second
          cases made
          exact isDirectory_of_makeDirectory named second
        · exact kept made
  · exact kept made

theorem createDirectories_again {path : String} (named : Named path) {after : Store}
    (made : store.createDirectories path = (.ok (), after)) :
    after.createDirectories path = (.ok (), after) :=
  createDirectories_of_isDirectory named (isDirectory_of_createDirectories named made)

end Store

end Enforcement.Files
