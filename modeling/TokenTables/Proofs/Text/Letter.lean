import Mathlib
/-!
# Letters of ASCII

The letters and digits that names are made of as ranges of code points, and what a change of case
does to them.
-/

namespace TokenTables.Text

variable {c : Char}

theorem isUpper_iff : c.isUpper = true ↔ 65 ≤ c.toNat ∧ c.toNat ≤ 90 := by
  simp only [Char.isUpper, decide_eq_true_eq, ge_iff_le, UInt32.le_iff_toNat_le]
  rfl

theorem isLower_iff : c.isLower = true ↔ 97 ≤ c.toNat ∧ c.toNat ≤ 122 := by
  simp only [Char.isLower, Bool.and_eq_true, decide_eq_true_eq, ge_iff_le, UInt32.le_iff_toNat_le]
  rfl

theorem isDigit_iff : c.isDigit = true ↔ 48 ≤ c.toNat ∧ c.toNat ≤ 57 :=
  Char.isDigit_iff_toNat

theorem isAlphanum_of_isAlpha (h : c.isAlpha = true) : c.isAlphanum = true := by
  simp [Char.isAlphanum, h]

theorem isAlpha_of_isUpper (h : c.isUpper = true) : c.isAlpha = true := by
  simp [Char.isAlpha, h]

theorem isAlphanum_ascii (h : c.isAlphanum = true) : c.toNat < 128 := by
  simp only [Char.isAlphanum, Char.isAlpha, Bool.or_eq_true, isUpper_iff, isLower_iff,
    isDigit_iff] at h
  omega

theorem isDigit_of_isUpper (h : c.isUpper = true) : c.isDigit = false := by
  by_contra hdigit
  rw [Bool.not_eq_false, isDigit_iff] at hdigit
  rw [isUpper_iff] at h
  omega

theorem isDigit_of_isLower (h : c.isLower = true) : c.isDigit = false := by
  by_contra hdigit
  rw [Bool.not_eq_false, isDigit_iff] at hdigit
  rw [isLower_iff] at h
  omega

theorem isAlpha_of_isDigit (h : c.isDigit = true) : c.isAlpha = false := by
  rw [Char.isAlpha, Bool.or_eq_false_iff]
  constructor
  · by_contra hupper
    rw [Bool.not_eq_false] at hupper
    rw [isDigit_of_isUpper hupper] at h
    contradiction
  · by_contra hlower
    rw [Bool.not_eq_false] at hlower
    rw [isDigit_of_isLower hlower] at h
    contradiction

theorem isAlphanum_toUpper (h : c.isAlphanum = true) : c.toUpper.isAlphanum = true := by
  by_cases hlower : c.isLower = true
  · apply isAlphanum_of_isAlpha
    simp [Char.isAlpha, hlower]
  · rwa [Char.toUpper_eq_of_not_isLower hlower]

theorem isAlphanum_toLower (h : c.isAlphanum = true) : c.toLower.isAlphanum = true := by
  by_cases hupper : c.isUpper = true
  · apply isAlphanum_of_isAlpha
    simp [Char.isAlpha, hupper]
  · rwa [Char.toLower_eq_of_not_isUpper hupper]

/-- What holds of all characters of ASCII is seen by looking at each. -/
theorem imp_of_ascii {p q : Char → Bool}
    (hall : ∀ n < 128, p (Char.ofNat n) = true → q (Char.ofNat n) = true)
    (hc : c.toNat < 128) (h : p c = true) : q c = true := by
  rw [← Char.ofNat_toNat c] at h ⊢
  exact hall c.toNat hc h

end TokenTables.Text
