import Enforcement.Policy.Basic

/-! Lists without repetition: the first of several equal items stays where it is. -/

namespace Enforcement

variable {α : Type} [DecidableEq α]

theorem distinct_filter (keep : α → Bool) (items : List α) :
    distinct (items.filter keep) = (distinct items).filter keep := by
  induction items with
  | nil => rfl
  | cons item rest ih =>
      cases kept : keep item with
      | true =>
          rw [List.filter_cons_of_pos kept, distinct, distinct, List.filter_cons_of_pos kept, ih,
            List.filter_filter, List.filter_filter]
          simp only [Bool.and_comm]
      | false =>
          rw [List.filter_cons_of_neg (by simp [kept]), distinct,
            List.filter_cons_of_neg (by simp [kept]), ih, List.filter_filter]
          apply List.filter_congr
          intro other _
          have apart : keep other = true → other ≠ item := by
            rintro keeps rfl
            rw [kept] at keeps
            cases keeps
          cases keeps : keep other with
          | true => simp [apart keeps]
          | false => rfl

theorem distinct_eq_eraseDups (items : List α) :
    distinct items = items.eraseDups := by
  induction length : items.length using Nat.strongRecOn generalizing items with
  | ind size ih =>
      cases items with
      | nil => rfl
      | cons item rest =>
          have shorter : (rest.filter (· ≠ item)).length < size := by
            have bound := List.length_filter_le (· ≠ item) rest
            rw [List.length_cons] at length
            omega
          rw [distinct, ← distinct_filter, ih _ shorter _ rfl, List.eraseDups_cons]
          congr 3
          funext other
          rw [Bool.eq_iff_iff]
          simp

theorem mem_distinct {item : α} {items : List α} :
    item ∈ distinct items ↔ item ∈ items := by
  rw [distinct_eq_eraseDups, List.mem_eraseDups]

theorem nodup_distinct (items : List α) : (distinct items).Nodup := by
  induction items with
  | nil => exact List.nodup_nil
  | cons item rest ih => exact List.nodup_cons.mpr ⟨by simp, ih.filter _⟩

theorem distinct_append (first second : List α) :
    distinct (first ++ second) = distinct first ++ (distinct second).filter (· ∉ first) := by
  induction first with
  | nil => exact (List.filter_eq_self.mpr (by simp)).symm
  | cons item rest ih =>
      rw [List.cons_append, distinct, distinct, ih, List.filter_append, List.filter_filter,
        List.cons_append]
      congr 3
      funext other
      simp

theorem distinct_of_nodup {items : List α} (once : items.Nodup) :
    distinct items = items := by
  induction items with
  | nil => rfl
  | cons item rest ih =>
      obtain ⟨fresh, once⟩ := List.nodup_cons.mp once
      rw [distinct, ih once, List.filter_eq_self.mpr]
      intro other member
      exact decide_eq_true (ne_of_mem_of_not_mem member fresh)

theorem distinct_distinct_append (first second : List α) :
    distinct (distinct first ++ second) = distinct (first ++ second) := by
  rw [distinct_append, distinct_append, distinct_of_nodup (nodup_distinct first)]
  simp only [mem_distinct]

end Enforcement
