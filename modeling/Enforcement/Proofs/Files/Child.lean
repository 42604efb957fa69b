import Enforcement.Proofs.Files.Traversal

/-!
What lies directly in a directory, told from the components of two paths. Such a path leads to the
place of the directory and from there to one name, whatever the directory's own path looks like.
-/

namespace Enforcement.Files

theorem stepTo_idle (place : Place) {name : String} (idle : leadsOn name = false) :
    stepTo place name = place := by
  refine if_pos ?_
  rw [leadsOn] at idle
  by_cases empty : name = ""
  · simp [empty]
  · simpa [empty] using idle

theorem walk_filter (place : Place) (names : List String) :
    walk place (names.filter leadsOn) = walk place names := by
  have step (place : Place) (name : String) :
      (if leadsOn name = true then stepTo place name else place) = stepTo place name := by
    split
    · rfl
    · rename_i idle
      exact (stepTo_idle place (Bool.eq_false_iff.mpr idle)).symm
  rw [walk, List.foldl_filter, funext fun place => funext (step place)]
  rfl

theorem destination_eq (home : Place) (path : String) :
    destination home path = walk (start home path) (components path) := (walk_filter _ _).symm

/-- A path leads on from a directory by one ordinary name. -/
structure ChildPath (directory name path : String) : Prop where
  onward : components path = components directory ++ [name]
  ordinary : name ≠ ".."
  start : isAbsolute path = isAbsolute directory

variable {directory name path : String}

theorem ChildPath.plain (child : ChildPath directory name path) : PlainName name := by
  have member : name ∈ components path := by
    rw [child.onward]
    exact List.mem_append_right _ List.mem_cons_self
  have leads := mem_components_leadsOn member
  simp only [leadsOn, Bool.and_eq_true, bne_iff_ne] at leads
  exact ⟨leads.1, leads.2, child.ordinary, slash_notMem_components member⟩

theorem ChildPath.destination_eq (child : ChildPath directory name path) (home : Place) :
    destination home path = destination home directory ++ [name] := by
  have begins : Files.start home path = Files.start home directory := by
    rw [Files.start, Files.start, child.start]
  rw [Files.destination_eq, begins, child.onward, walk_append, ← Files.destination_eq]
  exact stepTo_plain _ child.plain

theorem ChildPath.longer (child : ChildPath directory name path) :
    (components path).length = (components directory).length + 1 := by
  rw [child.onward, List.length_append, List.length_singleton]

theorem PlainName.components_eq (plain : PlainName name) : components name = [name] :=
  components_name plain.whole (by simp [leadsOn, plain.some, plain.idle])

/-- Which texts name something directly in a directory when they are put below it. -/
theorem childPath_join_iff {text : String} : ChildPath directory name (join directory text) ↔
    isAbsolute text = false ∧ components text = [name] ∧ name ≠ ".." ∨
      isAbsolute text = true ∧ ChildPath directory name text := by
  cases absolute : isAbsolute text with
  | true =>
      have same : join directory text = text := by rw [join, absolute, Bool.true_or, if_pos rfl]
      simp [same]
  | false =>
      constructor
      · intro child
        have onward := child.onward
        rw [components_join, absolute, if_neg Bool.false_ne_true] at onward
        exact .inl ⟨rfl, List.append_cancel_left onward, child.ordinary⟩
      · intro single
        rcases single with ⟨-, onward, ordinary⟩ | ⟨none, -⟩
        · refine ⟨?_, ordinary, ?_⟩
          · rw [components_join, absolute, if_neg Bool.false_ne_true, onward]
          · rw [isAbsolute_join, absolute, Bool.false_or]
        · cases none

theorem childPath_join_self : ChildPath directory name (join directory name) ↔ PlainName name := by
  constructor
  · exact ChildPath.plain
  · intro plain
    have relative := isAbsolute_plain plain.whole
    exact childPath_join_iff.mpr (.inl ⟨relative, plain.components_eq, plain.up⟩)

theorem plainName_extended_iff {stem extension : String} (long : 2 < extension.length)
    (whole : '/' ∉ extension.toList) :
    PlainName (stem ++ extension) ↔ '/' ∉ stem.toList := by
  have longer : 2 < (stem ++ extension).length := by
    rw [String.length_append]
    omega
  constructor
  · intro plain slash
    refine plain.whole ?_
    rw [String.toList_append]
    exact List.mem_append_left _ slash
  · intro clean
    refine ⟨?_, ?_, ?_, ?_⟩
    · intro empty
      rw [empty] at longer
      exact absurd longer (by decide)
    · intro idle
      rw [idle] at longer
      exact absurd longer (by decide)
    · intro up
      rw [up] at longer
      exact absurd longer (by decide)
    · rw [String.toList_append, List.mem_append, not_or]
      exact ⟨clean, whole⟩

theorem childPath_of_fileName? {parent : String} (last : fileName? path = some name)
    (upper : parent? path = some parent) : ChildPath parent name path := by
  obtain ⟨onward, ordinary, begins⟩ := components_of_fileName? last upper
  exact ⟨onward, ordinary, begins⟩

end Enforcement.Files
