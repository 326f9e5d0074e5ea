/-!
# Integers of a fixed width

Ids, counters and masks are integers of a fixed width.  Each function below
takes an integer to its word when it fits, and refuses it otherwise.
-/

namespace Reminders

/-- The signed 32-bit word of an integer. -/
def int32? (n : Int) : Option Int32 :=
  if Int32.minValue.toInt ≤ n ∧ n ≤ Int32.maxValue.toInt then some (Int32.ofInt n) else none

/-- The signed 64-bit word of an integer. -/
def int64? (n : Int) : Option Int64 :=
  if Int64.minValue.toInt ≤ n ∧ n ≤ Int64.maxValue.toInt then some (Int64.ofInt n) else none

/-- The 8-bit word of an integer. -/
def uint8? (n : Int) : Option UInt8 :=
  if 0 ≤ n ∧ n < UInt8.size then some (UInt8.ofNat n.toNat) else none

/-- The 32-bit word of an integer. -/
def uint32? (n : Int) : Option UInt32 :=
  if 0 ≤ n ∧ n < UInt32.size then some (UInt32.ofNat n.toNat) else none

/-- The 64-bit word of an integer. -/
def uint64? (n : Int) : Option UInt64 :=
  if 0 ≤ n ∧ n < UInt64.size then some (UInt64.ofNat n.toNat) else none

/-! ## A word is the word of its own value -/

theorem int32?_toInt (n : Int32) : int32? n.toInt = some n := by
  rw [int32?, if_pos ⟨n.minValue_le_toInt, n.toInt_le⟩, Int32.ofInt_toInt]

theorem int64?_toInt (n : Int64) : int64? n.toInt = some n := by
  rw [int64?, if_pos ⟨n.minValue_le_toInt, n.toInt_le⟩, Int64.ofInt_toInt]

theorem uint8?_toNat (n : UInt8) : uint8? n.toNat = some n := by
  have high := n.toNat_lt_size
  simp only [uint8?]
  rw [if_pos ⟨by omega, by omega⟩]
  simp

theorem uint32?_toNat (n : UInt32) : uint32? n.toNat = some n := by
  have high := n.toNat_lt_size
  simp only [uint32?]
  rw [if_pos ⟨by omega, by omega⟩]
  simp

theorem uint64?_toNat (n : UInt64) : uint64? n.toNat = some n := by
  have high := n.toNat_lt_size
  simp only [uint64?]
  rw [if_pos ⟨by omega, by omega⟩]
  simp

end Reminders
