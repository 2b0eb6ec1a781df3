import Mathlib.Algebra.Order.Group.Nat
import Mathlib.Logic.Function.Iterate

/-!
# Little-endian byte counters

A counter held in a fixed number of bytes, least significant first, and counted up by one at a
time, carrying into the next byte when a byte wraps to zero. After `count` steps from zero a
counter of `width` bytes stands for `count` modulo `256 ^ width` (`value_iterate_increment`), so
its first `256 ^ width` values are all different (`iterate_increment_injective`).
-/

namespace LittleEndian

/-- The number that bytes stand for, least significant first. -/
def value : List UInt8 → Nat
  | [] => 0
  | byte :: bytes => byte.toNat + 256 * value bytes

/-- The counter one up: each byte in turn is incremented, wrapping, until one does not wrap to
zero. -/
def increment : List UInt8 → List UInt8
  | [] => []
  | byte :: bytes => if 0 < byte + 1 then (byte + 1) :: bytes else (byte + 1) :: increment bytes

@[simp] theorem length_increment (bytes : List UInt8) : (increment bytes).length = bytes.length := by
  induction bytes with
  | nil => rfl
  | cons byte bytes ih =>
    unfold increment
    split <;> simp [ih]

theorem value_lt (bytes : List UInt8) : value bytes < 256 ^ bytes.length := by
  induction bytes with
  | nil => simp [value]
  | cons byte bytes ih =>
    have small : byte.toNat < 256 := byte.toNat_lt
    simp only [value, List.length_cons, Nat.pow_succ]
    omega

theorem toNat_add_one (byte : UInt8) : (byte + 1).toNat = (byte.toNat + 1) % 256 := by
  simp [UInt8.toNat_add]

theorem value_increment (bytes : List UInt8) :
    value (increment bytes) = (value bytes + 1) % 256 ^ bytes.length := by
  induction bytes with
  | nil => simp [increment, value]
  | cons byte bytes ih =>
    have rest := value_lt bytes
    have low := byte.toNat_lt
    have bumped := toNat_add_one byte
    by_cases top : byte.toNat = 255
    · -- the byte wraps to zero and the one carries into the rest
      have wraps : ¬0 < byte + 1 := by
        rw [UInt8.lt_iff_toNat_lt, bumped, top]
        simp
      have carried : 255 + 256 * value bytes + 1 = 256 * (value bytes + 1) := by omega
      simp only [increment, if_neg wraps, value, bumped, top, ih, List.length_cons, Nat.pow_succ]
      rw [carried, Nat.mul_comm (256 ^ bytes.length) 256, Nat.mul_mod_mul_left]
      simp
    · -- the byte takes the one and nothing carries
      have noWrap : 0 < byte + 1 := by
        rw [UInt8.lt_iff_toNat_lt, bumped, Nat.mod_eq_of_lt (by omega)]
        simp
      simp only [increment, if_pos noWrap, value, bumped, List.length_cons, Nat.pow_succ]
      rw [Nat.mod_eq_of_lt (show byte.toNat + 1 < 256 by omega),
        Nat.mod_eq_of_lt (show byte.toNat + 256 * value bytes + 1 < 256 ^ bytes.length * 256 by omega)]
      omega

@[simp] theorem value_replicate_zero (width : Nat) : value (List.replicate width 0) = 0 := by
  induction width with
  | zero => rfl
  | succ width ih => simp [List.replicate_succ, value, ih]

theorem value_iterate_increment (width count : Nat) :
    value (increment^[count] (List.replicate width 0)) = count % 256 ^ width := by
  induction count with
  | zero => simp
  | succ count ih =>
    have sameWidth : (increment^[count] (List.replicate width 0)).length = width := by
      clear ih
      induction count with
      | zero => simp
      | succ count inner => rw [Function.iterate_succ_apply', length_increment, inner]
    rw [Function.iterate_succ_apply', value_increment, ih, sameWidth, Nat.mod_add_mod]

theorem iterate_increment_injective {width first second : Nat} (firstBelow : first < 256 ^ width)
    (secondBelow : second < 256 ^ width)
    (same : increment^[first] (List.replicate width 0) = increment^[second] (List.replicate width 0)) :
    first = second := by
  have values := congrArg value same
  rwa [value_iterate_increment, value_iterate_increment, Nat.mod_eq_of_lt firstBelow,
    Nat.mod_eq_of_lt secondBelow] at values

end LittleEndian
