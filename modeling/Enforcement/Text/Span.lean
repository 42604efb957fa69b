/-! Sets of characters written as code point spans. -/

namespace Enforcement.Text

/-- The code points from `first` to `last`, both included. -/
structure Span where
  first : Nat
  last : Nat
  deriving DecidableEq, Repr

def Span.holds (span : Span) (c : Char) : Bool :=
  span.first ≤ c.toNat && c.toNat ≤ span.last

def covers (spans : List Span) (c : Char) : Bool := spans.any (·.holds c)

theorem covers_iff (spans : List Span) (c : Char) :
    covers spans c = true ↔ ∃ span ∈ spans, span.first ≤ c.toNat ∧ c.toNat ≤ span.last := by
  simp [covers, Span.holds]

def Span.isApart (span other : Span) : Bool :=
  Nat.blt span.last other.first || Nat.blt other.last span.first

theorem covers_of_apart {spans others : List Span} {c : Char}
    (apart : (spans.all fun span => others.all span.isApart) = true)
    (covered : covers spans c = true) : covers others c = false := by
  rw [Bool.eq_false_iff]
  intro covered'
  obtain ⟨span, member, low, high⟩ := (covers_iff spans c).mp covered
  obtain ⟨other, member', low', high'⟩ := (covers_iff others c).mp covered'
  have separate := List.all_eq_true.mp (List.all_eq_true.mp apart span member) other member'
  simp only [Span.isApart, Nat.blt_eq, Bool.or_eq_true] at separate
  omega

theorem takeWhile_run {kind : Char → Bool} {run rest : List Char}
    (all : ∀ c ∈ run, kind c = true) (stop : ∀ c ∈ rest.head?, kind c = false) :
    (run ++ rest).takeWhile kind = run ∧ (run ++ rest).dropWhile kind = rest := by
  rw [List.takeWhile_append_of_pos all, List.dropWhile_append_of_pos all]
  cases rest with
  | nil => simp
  | cons c rest =>
      have other : kind c = false := stop c rfl
      simp [other]

theorem run_inj {kind : Char → Bool} {run run' rest rest' : List Char}
    (all : ∀ c ∈ run, kind c = true) (all' : ∀ c ∈ run', kind c = true)
    (stop : ∀ c ∈ rest.head?, kind c = false) (stop' : ∀ c ∈ rest'.head?, kind c = false)
    (same : run ++ rest = run' ++ rest') : run = run' ∧ rest = rest' := by
  obtain ⟨taken, left⟩ := takeWhile_run all stop
  obtain ⟨taken', left'⟩ := takeWhile_run all' stop'
  rw [same] at taken left
  exact ⟨taken.symm.trans taken', left.symm.trans left'⟩

end Enforcement.Text
