import Mathlib
import Reminders.Text.Decimal

/-!
# Written numbers

The digits of a number start with a zero for zero alone (`head?_digits_ne`).  Zeros in front
do not change the value (`valueOf_padded`), and a number below `10 ^ width` fills the width
exactly (`length_padded`).  So a reader that takes `width` digits takes all of them.
-/

namespace Reminders.Text

theorem digits_of_lt {n : Nat} (h : n < 10) : digits n = [digit n] := by
  rw [digits, if_pos h]

theorem isDigit_of_mem_digits {n : Nat} {c : Char} (h : c ∈ digits n) : c.isDigit = true :=
  List.all_eq_true.1 (digits_isDigit n) c h

/-- Only zero is written with a leading zero. -/
theorem head?_digits_ne {n : Nat} (h : n ≠ 0) : (digits n).head? ≠ some '0' := by
  induction n using Nat.strongRecOn with
  | ind n ih =>
    rw [digits]
    split
    case isTrue hlt =>
      intro hzero
      have hchar : digit n = '0' := by simpa using hzero
      have hvalue := digit_toNat hlt
      rw [hchar] at hvalue
      have hzero' : '0'.toNat = 48 := rfl
      omega
    case isFalse hge =>
      rw [List.head?_append_of_ne_nil _ (digits_ne_nil _)]
      exact ih (n / 10) (by omega) (by omega)

/-! ## Signed numbers -/

theorem decimalChars_ne_nil (n : Int) : decimalChars n ≠ [] := by
  rw [decimalChars]
  split
  · exact List.cons_ne_nil _ _
  · exact digits_ne_nil _

/-- A decimal text is made of digits and a minus sign. -/
theorem eq_or_isDigit_of_mem_decimalChars {n : Int} {c : Char} (h : c ∈ decimalChars n) :
    c = '-' ∨ c.isDigit = true := by
  rw [decimalChars] at h
  split at h
  case isTrue =>
    rcases List.mem_cons.1 h with rfl | h
    · exact .inl rfl
    · exact .inr (isDigit_of_mem_digits h)
  case isFalse => exact .inr (isDigit_of_mem_digits h)

/-- An integer is read back from its text. -/
theorem integer?_decimal (n : Int) : integer? (decimal n) = some n := by
  rw [integer?, decimal, String.toList_ofList, decimalChars]
  by_cases hneg : n < 0
  · rw [if_pos hneg]
    simp only [digits?_digits, Option.map_some, Option.some.injEq, Int.ofNat_eq_natCast]
    omega
  · rw [if_neg hneg]
    -- A digit is no sign, so the number is read from its first digit on.
    have hdigit : ∀ c ∈ digits n.natAbs, c.isDigit = true := fun _ => isDigit_of_mem_digits
    split
    case h_1 rest hdigits => exact absurd (hdigit '+' (by simp [hdigits])) (by decide)
    case h_2 rest hdigits => exact absurd (hdigit '-' (by simp [hdigits])) (by decide)
    case h_3 =>
      simp only [digits?_digits, Option.map_some, Option.some.injEq, Int.ofNat_eq_natCast]
      omega

/-! ## Numbers with zeros in front -/

/-- A number below a power of ten has no more digits than the power. -/
theorem length_digits_le {n width : Nat} (hpos : 0 < width) (h : n < 10 ^ width) :
    (digits n).length ≤ width := by
  induction width generalizing n with
  | zero => exact absurd hpos (Nat.lt_irrefl 0)
  | succ width ih =>
    rw [digits]
    split
    case isTrue => exact Nat.le_add_left 1 width
    case isFalse hge =>
      rw [Nat.pow_succ] at h
      have hwidth : 0 < width := by
        rw [Nat.pos_iff_ne_zero]
        rintro rfl
        omega
      have hlength := ih hwidth (show n / 10 < 10 ^ width by omega)
      rw [List.length_append, List.length_singleton]
      omega

/-- A number that fits is padded to the width exactly. -/
theorem length_padded {n width : Nat} (hpos : 0 < width) (h : n < 10 ^ width) :
    (padded width n).length = width := by
  have hlength := length_digits_le hpos h
  rw [padded, List.length_append, List.length_replicate]
  omega

theorem isDigit_of_mem_padded {n width : Nat} {c : Char} (h : c ∈ padded width n) :
    c.isDigit = true := by
  rcases List.mem_append.1 h with h | h
  · rw [List.eq_of_mem_replicate h]
    decide
  · exact isDigit_of_mem_digits h

theorem padded_ne_nil (width n : Nat) : padded width n ≠ [] :=
  List.append_ne_nil_of_right_ne_nil _ (digits_ne_nil n)

/-- Leading zeros do not change the value. -/
theorem valueOf_padded (width n : Nat) : valueOf (padded width n) = n := by
  have hzeros : ∀ count, valueOf (List.replicate count '0' ++ digits n) = valueOf (digits n) := by
    intro count
    induction count with
    | zero => rfl
    | succ count ih =>
      rw [← ih, List.replicate_succ, List.cons_append]
      rfl
  rw [padded, hzeros, valueOf_digits]

/-! ## Where a run of characters ends -/

/-- A run ends where the predicate first fails. -/
theorem span_append {p : Char → Bool} (run rest : List Char) (hrun : ∀ c ∈ run, p c = true)
    (hrest : ∀ c ∈ rest.head?, p c = false) :
    (run ++ rest).takeWhile p = run ∧ (run ++ rest).dropWhile p = rest := by
  rw [List.takeWhile_append_of_pos hrun, List.dropWhile_append_of_pos hrun]
  cases rest with
  | nil => exact ⟨List.append_nil _, rfl⟩
  | cons c rest =>
    have hc : ¬ p c = true := by simp [hrest c rfl]
    rw [List.takeWhile_cons_of_neg hc, List.dropWhile_cons_of_neg hc, List.append_nil]
    exact ⟨rfl, rfl⟩

end Reminders.Text
