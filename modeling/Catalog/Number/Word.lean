/-! Integers in machine words.
A word of `n` bits holds the integers from `0` up to below `2 ^ n`, or, if it is signed, those
from `-2 ^ (n - 1)` up to below `2 ^ (n - 1)`.
-/

namespace Catalog.Number

/-- Whether an integer fits a signed or an unsigned word of 64 bits. -/
abbrev FitsWord (value : Int) : Prop :=
  -9223372036854775808 ≤ value ∧ value < 18446744073709551616

/-- Whether an integer fits a signed or an unsigned word of 128 bits. -/
abbrev FitsWidestWord (value : Int) : Prop :=
  -170141183460469231731687303715884105728 ≤ value
    ∧ value < 340282366920938463463374607431768211456

/-- The signed word of 64 bits that holds an integer. -/
def int64? (value : Int) : Option Int64 :=
  if -9223372036854775808 ≤ value ∧ value < 9223372036854775808 then some (Int64.ofInt value)
  else none

/-- The unsigned word of 64 bits that holds an integer. -/
def uint64? (value : Int) : Option UInt64 :=
  if 0 ≤ value ∧ value < 18446744073709551616 then some (UInt64.ofNat value.toNat) else none

/-- The unsigned word of 32 bits that holds an integer. -/
def uint32? (value : Int) : Option UInt32 :=
  if 0 ≤ value ∧ value < 4294967296 then some (UInt32.ofNat value.toNat) else none

/-- An integer is held by the signed word that stands for it, and by no other. -/
theorem int64?_eq_some_iff {value : Int} {word : Int64}
    : int64? value = some word ↔ word.toInt = value := by
  have low := word.le_toInt
  have high := word.toInt_lt
  unfold int64?
  split
  case isTrue fits =>
    rw [Option.some_inj, ← Int64.toInt_inj, Int64.toInt_ofInt_of_le (by omega) (by omega), eq_comm]
  case isFalse fits =>
    simp only [reduceCtorEq, false_iff]
    omega

/-- No signed word holds an integer that is below the least or above the greatest one. -/
theorem int64?_eq_none_iff {value : Int}
    : int64? value = none
      ↔ value < -9223372036854775808 ∨ 9223372036854775808 ≤ value := by
  unfold int64?
  split
  case isTrue fits =>
    simp only [reduceCtorEq, false_iff]
    omega
  case isFalse fits =>
    simp only [true_iff]
    omega

/-- An integer is held by the unsigned word that stands for it, and by no other. -/
theorem uint64?_eq_some_iff {value : Int} {word : UInt64}
    : uint64? value = some word ↔ word.toNat = value := by
  have high := word.toNat_lt
  unfold uint64?
  split
  case isTrue fits =>
    have small : value.toNat < UInt64.size := by rw [UInt64.size]; omega
    rw [Option.some_inj, ← UInt64.toNat_inj, UInt64.toNat_ofNat_of_lt' small]
    omega
  case isFalse fits =>
    simp only [reduceCtorEq, false_iff]
    omega

/-- An integer is held by the word of 32 bits that stands for it, and by no other. -/
theorem uint32?_eq_some_iff {value : Int} {word : UInt32}
    : uint32? value = some word ↔ word.toNat = value := by
  have high := word.toNat_lt
  unfold uint32?
  split
  case isTrue fits =>
    have small : value.toNat < UInt32.size := by rw [UInt32.size]; omega
    rw [Option.some_inj, ← UInt32.toNat_inj, UInt32.toNat_ofNat_of_lt' small]
    omega
  case isFalse fits =>
    simp only [reduceCtorEq, false_iff]
    omega

end Catalog.Number
