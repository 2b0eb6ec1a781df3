import Mathlib

/-!
# Prefix masks on fixed-width words

A network mask keeps the top bits of a `width`-bit word: it is the word of all ones shifted right
by the bits it clears and back left (`prefixMask`). Masking a word leaves it with its low bits
cleared (`and_prefixMask`), so two words agree under a mask exactly when their top bits agree
(`and_prefixMask_eq_iff`); and the trailing zeros of a mask that keeps some bits count the bits
it clears (`trailingZeros_prefixMask`), which is how a mask is printed back as a bit count.
-/

namespace PrefixMask

/-- The mask of the top `kept` bits of a `width`-bit word. -/
def prefixMask (width kept : Nat) : Nat :=
  (2 ^ width - 1) >>> (width - kept) <<< (width - kept)

/-- `trailing_zeros` of a `width`-bit word: the zero bits below its lowest one, `width` for zero. -/
def trailingZeros : Nat → Nat → Nat
  | 0, _ => 0
  | width + 1, word => if word % 2 = 1 then 0 else trailingZeros width (word / 2) + 1

theorem testBit_prefixMask (width kept index : Nat) :
    (prefixMask width kept).testBit index = decide (width - kept ≤ index ∧ index < width) := by
  unfold prefixMask
  rw [Nat.testBit_shiftLeft, Nat.testBit_shiftRight, Nat.testBit_two_pow_sub_one]
  by_cases low : width - kept ≤ index
  · simp only [ge_iff_le, low, decide_true, Bool.true_and, true_and]
    congr 1
    apply propext
    omega
  · simp [low]

theorem and_prefixMask {width : Nat} {word : Nat} (fits : word < 2 ^ width) (kept : Nat) :
    word &&& prefixMask width kept = word >>> (width - kept) <<< (width - kept) := by
  apply Nat.eq_of_testBit_eq
  intro index
  rw [Nat.testBit_and, testBit_prefixMask, Nat.testBit_shiftLeft, Nat.testBit_shiftRight]
  by_cases low : width - kept ≤ index
  · have shifted : width - kept + (index - (width - kept)) = index := by omega
    by_cases within : index < width
    · simp [low, within, shifted]
    · have above : word.testBit index = false :=
        Nat.testBit_lt_two_pow (lt_of_lt_of_le fits (Nat.pow_le_pow_right (by decide) (by omega)))
      simp [low, within, shifted, above]
  · simp [low]

theorem and_prefixMask_eq_iff {width : Nat} {first second : Nat} (firstFits : first < 2 ^ width)
    (secondFits : second < 2 ^ width) (kept : Nat) :
    first &&& prefixMask width kept = second &&& prefixMask width kept ↔
      first >>> (width - kept) = second >>> (width - kept) := by
  rw [and_prefixMask firstFits, and_prefixMask secondFits, Nat.shiftLeft_eq, Nat.shiftLeft_eq]
  exact Nat.mul_left_inj (Nat.two_pow_pos _).ne'

theorem trailingZeros_mul_two_pow {odd : Nat} (isOdd : odd % 2 = 1) :
    ∀ shift width, shift < width → trailingZeros width (odd * 2 ^ shift) = shift := by
  intro shift
  induction shift with
  | zero =>
    intro width positive
    obtain ⟨width, rfl⟩ : ∃ smaller, width = smaller + 1 := ⟨width - 1, by omega⟩
    simp [trailingZeros, isOdd]
  | succ shift ih =>
    intro width within
    obtain ⟨width, rfl⟩ : ∃ smaller, width = smaller + 1 := ⟨width - 1, by omega⟩
    have even : odd * 2 ^ (shift + 1) % 2 = 0 := by
      rw [pow_succ, ← Nat.mul_assoc, Nat.mul_mod_left]
    have halved : odd * 2 ^ (shift + 1) / 2 = odd * 2 ^ shift := by
      rw [pow_succ, ← Nat.mul_assoc, Nat.mul_div_cancel _ (by decide)]
    simp [trailingZeros, even, halved, ih width (by omega)]

theorem trailingZeros_prefixMask {width kept : Nat} (positive : 0 < kept) (within : kept ≤ width) :
    trailingZeros width (prefixMask width kept) = width - kept := by
  have ones : (2 ^ width - 1) >>> (width - kept) = 2 ^ kept - 1 := by
    apply Nat.eq_of_testBit_eq
    intro index
    rw [Nat.testBit_shiftRight, Nat.testBit_two_pow_sub_one, Nat.testBit_two_pow_sub_one]
    congr 1
    apply propext
    omega
  have isOdd : (2 ^ kept - 1) % 2 = 1 := by
    obtain ⟨smaller, rfl⟩ : ∃ smaller, kept = smaller + 1 := ⟨kept - 1, by omega⟩
    have positivePow := Nat.one_le_two_pow (n := smaller)
    rw [pow_succ]
    omega
  rw [prefixMask, ones, Nat.shiftLeft_eq]
  exact trailingZeros_mul_two_pow isOdd _ _ (by omega)

theorem prefixMask_ne_zero {width kept : Nat} (positive : 0 < kept) (within : kept ≤ width) :
    prefixMask width kept ≠ 0 := by
  intro zero
  have top := testBit_prefixMask width kept (width - 1)
  rw [zero, Nat.zero_testBit] at top
  simp only [false_eq_decide_iff, not_and, not_lt] at top
  omega

@[simp] theorem prefixMask_zero (width : Nat) : prefixMask width 0 = 0 := by
  apply Nat.eq_of_testBit_eq
  intro index
  rw [testBit_prefixMask, Nat.zero_testBit]
  simp only [Nat.sub_zero, decide_eq_false_iff_not, not_and, not_lt]
  intro low
  exact low

end PrefixMask
