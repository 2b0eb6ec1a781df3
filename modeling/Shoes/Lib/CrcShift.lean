import Mathlib.Logic.Function.Iterate

/-!
# Reflected CRC shift registers

A reflected CRC keeps a `w`-bit register. Each step shifts it right by one bit and, when the bit
shifted out was set, xors in the polynomial (`shift`); each byte of the message is xored into
the low end of the register before eight steps (`reflectedCrc`).

Table-driven CRCs rest on two facts proved here. A step distributes over xor (`shift_xor`), so
any number of steps does (`iterate_xor`). And eight steps of a register whose low byte is clear
only shift it right by a byte (`iterate_eight_split`): the eight steps of a whole register are
the eight steps of its low byte, looked up in a table, xored with the register shifted right by
a byte. Iterating this split (`iterate_succ_split`) gives the tables of slice-by-N CRCs.
-/

namespace CrcShift

section Xor

variable {α : Type*} [XorOp α]

theorem iterate_xor {f : α → α} (linear : ∀ x y, f (x ^^^ y) = f x ^^^ f y) (count : Nat)
    (x y : α) : f^[count] (x ^^^ y) = f^[count] x ^^^ f^[count] y := by
  induction count generalizing x y with
  | zero => rfl
  | succ count ih => simp only [Function.iterate_succ_apply, linear, ih]

theorem iterate_succ_split {f low high : α → α} (linear : ∀ x y, f (x ^^^ y) = f x ^^^ f y)
    (split : ∀ x, f x = f (low x) ^^^ high x) (count : Nat) (x : α) :
    f^[count + 1] x = f^[count + 1] (low x) ^^^ f^[count] (high x) := by
  rw [Function.iterate_succ_apply, split, iterate_xor linear, ← Function.iterate_succ_apply]

end Xor

variable {w : Nat} (poly : BitVec w)

/-- One step of the register: shift right, and xor in the polynomial if the bit shifted out was
set. -/
def shift (crc : BitVec w) : BitVec w :=
  if crc.getLsbD 0 then (crc >>> 1) ^^^ poly else crc >>> 1

/-- The bit-at-a-time reflected CRC of a message: the register starts and ends inverted. -/
def reflectedCrc (bytes : List (BitVec 8)) : BitVec w :=
  ~~~(bytes.foldl (fun crc byte => (shift poly)^[8] (crc ^^^ byte.setWidth w)) (~~~0))

theorem shift_xor (x y : BitVec w) : shift poly (x ^^^ y) = shift poly x ^^^ shift poly y := by
  simp only [shift, BitVec.getLsbD_xor, BitVec.ushiftRight_xor_distrib]
  -- the low bit of the sum is the sum of the low bits; the polynomial cancels when both are set
  cases x.getLsbD 0 <;> cases y.getLsbD 0 <;>
    simp only [Bool.xor_self, Bool.xor_false, Bool.xor_true, Bool.not_false, Bool.false_eq_true,
      if_false, if_true]
  case false.true | true.false => ac_rfl
  case true.true =>
    ac_nf
    rw [← BitVec.xor_assoc, BitVec.xor_self, BitVec.zero_xor]

theorem iterate_shift_of_low (x : BitVec w) (count : Nat)
    (low : ∀ i < count, x.getLsbD i = false) : (shift poly)^[count] x = x >>> count := by
  induction count with
  | zero => simp
  | succ count ih =>
    have bit : (x >>> count).getLsbD 0 = false := by
      simpa [BitVec.getLsbD_ushiftRight] using low count (by omega)
    rw [Function.iterate_succ_apply', ih (fun i below => low i (by omega)), shift,
      if_neg (by simp [bit]), BitVec.shiftRight_add]

theorem getLsbD_255 (i : Nat) : (255#w).getLsbD i = (decide (i < w) && decide (i < 8)) := by
  rw [BitVec.getLsbD_ofNat, show (255 : Nat) = 2 ^ 8 - 1 from rfl, Nat.testBit_two_pow_sub_one]

theorem iterate_eight_split (x : BitVec w) :
    (shift poly)^[8] x = (shift poly)^[8] (x &&& 255#w) ^^^ (x >>> 8) := by
  have parts : x = (x &&& 255#w) ^^^ (x &&& ~~~255#w) := by
    ext i within
    simp only [BitVec.getElem_xor, BitVec.getElem_and, BitVec.getElem_not]
    cases x[i] <;> cases (255#w)[i] <;> rfl
  have high : (shift poly)^[8] (x &&& ~~~255#w) = x >>> 8 := by
    rw [iterate_shift_of_low]
    · ext i within
      simp [BitVec.getElem_ushiftRight, getLsbD_255]
      exact BitVec.lt_of_getLsbD
    · intro i below
      simp [getLsbD_255, below]
  conv => lhs; rw [parts]
  rw [iterate_xor (shift_xor poly), high]

end CrcShift
