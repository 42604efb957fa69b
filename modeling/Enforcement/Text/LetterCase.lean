/-! Comparison of names without regard to the case of ASCII letters. -/

namespace Enforcement.Text

def foldCase (text : String) : List Char := text.toList.map Char.toLower

/-- Equal up to the case of ASCII letters. -/
def sameLetters (left right : String) : Bool := foldCase left == foldCase right

theorem sameLetters_iff {left right : String} :
    sameLetters left right = true ↔ foldCase left = foldCase right := by
  simp [sameLetters]

theorem sameLetters_refl (text : String) : sameLetters text text = true := by
  simp [sameLetters]

theorem sameLetters_comm (left right : String) :
    sameLetters left right = sameLetters right left := by
  simp only [sameLetters, Bool.beq_comm]

theorem isUpper_iff {c : Char} : c.isUpper = true ↔ 65 ≤ c.toNat ∧ c.toNat ≤ 90 :=
  decide_eq_true_iff

theorem isLower_iff {c : Char} : c.isLower = true ↔ 97 ≤ c.toNat ∧ c.toNat ≤ 122 :=
  Bool.and_eq_true_iff.trans (and_congr decide_eq_true_iff decide_eq_true_iff)

theorem isDigit_iff {c : Char} : c.isDigit = true ↔ 48 ≤ c.toNat ∧ c.toNat ≤ 57 :=
  Bool.and_eq_true_iff.trans (and_congr decide_eq_true_iff decide_eq_true_iff)

theorem isAlphanum_iff {c : Char} :
    c.isAlphanum = true ↔ (c.isUpper = true ∨ c.isLower = true) ∨ c.isDigit = true :=
  Bool.or_eq_true_iff.trans (or_congr_left Bool.or_eq_true_iff)

end Enforcement.Text
