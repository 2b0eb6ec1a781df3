import Shoes.Lib.CrcShift
import Shoes.VmessHeader

/-!
# The slice-by-8 CRC of the VMess auth ID

The auth ID of a VMess AEAD header ends with a CRC-32 of its first twelve bytes, which
`crc32c_slice8` computes eight bytes at a time from eight tables, and the rest one byte at a time
from the byte table `make_table` builds. The tables are built from the bit step of the loop
(`tableBit`), which is the shift register of a reflected CRC (`tableBit_toBitVec`).

Entry `i` of the byte table is eight bit steps of `i`, and entry `i` of slice table `j` is `j + 1`
such byte steps of `i` (`sliceTable_getD`). Since the steps distribute over xor, one step of
eight bytes through the eight tables equals eight steps of the byte loop (`slice8Block_eq`), so
`crc32c_slice8` equals the byte-at-a-time loop from every initial register, and `crc32c` is the
bit-at-a-time CRC-32 with the polynomial `0xEDB88320` (`crc32c_eq_reflectedCrc`).
-/

namespace Shoes.Vmess

open Wire CrcShift

/-- The byte loop at the end of `crc32c_slice8`, run over a whole buffer: the byte-at-a-time
table CRC. -/
def crc32cBytewise (table : List UInt32) (buf : List UInt8) (crc : UInt32) : UInt32 :=
  buf.foldl (fun crc byte => table.getD (crc.toUInt8 ^^^ byte).toNat 0 ^^^ (crc >>> 8)) crc

theorem toNat_and_255 (x : UInt32) : (x &&& 255).toNat = x.toNat % 256 := by
  rw [UInt32.toNat_and, show (255 : UInt32).toNat = 2 ^ 8 - 1 from rfl,
    Nat.and_two_pow_sub_one_eq_mod]

theorem mod_256 (x : UInt32) : x % 256 = x &&& 255 := by
  apply UInt32.toNat_inj.mp
  rw [toNat_and_255, UInt32.toNat_mod]
  rfl

theorem ofNat_toUInt8 (x : UInt32) : UInt32.ofNat x.toUInt8.toNat = x &&& 255 := by
  rw [UInt32.ofNat_uInt8ToNat, UInt32.toUInt32_toUInt8, mod_256]

theorem u32FromLe_bytes (b0 b1 b2 b3 : UInt8) :
    u32FromLe [b0, b1, b2, b3] &&& 255 = b0.toUInt32 ∧
      (u32FromLe [b0, b1, b2, b3] >>> 8) &&& 255 = b1.toUInt32 ∧
      (u32FromLe [b0, b1, b2, b3] >>> 16) &&& 255 = b2.toUInt32 ∧
      (u32FromLe [b0, b1, b2, b3] >>> 24) &&& 255 = b3.toUInt32 := by
  have bounds := And.intro b0.toNat_lt (And.intro b1.toNat_lt (And.intro b2.toNat_lt b3.toNat_lt))
  have value : (u32FromLe [b0, b1, b2, b3]).toNat =
      b0.toNat + 256 * b1.toNat + 65536 * b2.toNat + 16777216 * b3.toNat := by
    simp [u32FromLe, beValue]
    omega
  refine ⟨?_, ?_, ?_, ?_⟩ <;> apply UInt32.toNat_inj.mp <;>
    rw [toNat_and_255] <;> simp [value, Nat.shiftRight_eq_div_pow] <;> omega


section Table

variable (p : UInt32)

theorem tableBit_toBitVec (crc : UInt32) :
    (tableBit p crc).toBitVec = shift p.toBitVec crc.toBitVec := by
  have lowBit : crc &&& 1 = 1 ↔ crc.toBitVec.getLsbD 0 = true := by
    rw [← UInt32.toBitVec_inj, UInt32.toBitVec_and, show (1 : UInt32).toBitVec = 1#32 from rfl,
      BitVec.and_one_eq_setWidth_ofBool_getLsbD]
    cases crc.toBitVec.getLsbD 0 <;> decide
  by_cases odd : crc &&& 1 = 1
  · rw [tableBit, if_pos odd, shift, if_pos (lowBit.mp odd)]
    simp
  · rw [tableBit, if_neg odd, shift, if_neg (mt lowBit.mpr odd)]
    simp

theorem iterate_tableBit_toBitVec (count : Nat) (crc : UInt32) :
    ((tableBit p)^[count] crc).toBitVec = (shift p.toBitVec)^[count] crc.toBitVec := by
  induction count generalizing crc with
  | zero => rfl
  | succ count ih => rw [Function.iterate_succ_apply, Function.iterate_succ_apply, ih, tableBit_toBitVec]

theorem tableBit_xor (x y : UInt32) : tableBit p (x ^^^ y) = tableBit p x ^^^ tableBit p y := by
  apply UInt32.toBitVec_inj.mp
  simp only [UInt32.toBitVec_xor, tableBit_toBitVec, shift_xor]

theorem eight_split (x : UInt32) :
    (tableBit p)^[8] x = (tableBit p)^[8] (x &&& 255) ^^^ (x >>> 8) := by
  apply UInt32.toBitVec_inj.mp
  simp only [UInt32.toBitVec_xor, iterate_tableBit_toBitVec, UInt32.toBitVec_and]
  simpa using iterate_eight_split p.toBitVec x.toBitVec

theorem iterate_tableBit_zero (count : Nat) : (tableBit p)^[count] 0 = 0 :=
  Function.iterate_fixed (by rw [tableBit, if_neg (by decide)]; rfl) count

theorem eight_xor (x y : UInt32) :
    (tableBit p)^[8] (x ^^^ y) = (tableBit p)^[8] x ^^^ (tableBit p)^[8] y :=
  iterate_xor (tableBit_xor p) 8 x y


theorem getElem?_makeTable (index : Nat) (inRange : index < 256) :
    (makeTable p)[index]? = some ((tableBit p)^[8] (UInt32.ofNat index)) := by
  simp [makeTable, inRange]

theorem makeTable_getD (index : Nat) (inRange : index < 256) :
    (makeTable p).getD index 0 = (tableBit p)^[8] (UInt32.ofNat index) := by
  rw [List.getD_eq_getElem?_getD, getElem?_makeTable p index inRange, Option.getD_some]

theorem zeroByte (crc : UInt32) :
    (crc >>> 8) ^^^ (makeTable p).getD crc.toUInt8.toNat 0 = (tableBit p)^[8] crc := by
  rw [makeTable_getD p _ crc.toUInt8.toNat_lt, ofNat_toUInt8, eight_split p crc, UInt32.xor_comm]

theorem tableByte (crc : UInt32) (byte : UInt8) :
    (makeTable p).getD (crc.toUInt8 ^^^ byte).toNat 0 ^^^ (crc >>> 8) =
      (tableBit p)^[8] (crc ^^^ byte.toUInt32) := by
  have low : (crc ^^^ byte.toUInt32).toUInt8 = crc.toUInt8 ^^^ byte := by simp
  have high : (crc ^^^ byte.toUInt32) >>> 8 = crc >>> 8 := by
    apply UInt32.toBitVec_inj.mp
    ext i within
    simp
  rw [← zeroByte, low, high, UInt32.xor_comm]

theorem sliceTable_getD (j index : Nat) (inRange : index < 256) :
    (sliceTable (makeTable p) j).getD index 0 =
      ((tableBit p)^[8])^[j + 1] (UInt32.ofNat index) := by
  have step : (fun crc : UInt32 => (crc >>> 8) ^^^ (makeTable p).getD crc.toUInt8.toNat 0) =
      (tableBit p)^[8] := funext (zeroByte p)
  rw [sliceTable, step, List.getD_eq_getElem?_getD, List.getElem?_map,
    getElem?_makeTable p index inRange, Option.map_some, Option.getD_some,
    Function.iterate_succ_apply ((tableBit p)^[8])]

theorem word_split (x : UInt32) :
    ((tableBit p)^[8])^[8] x =
      ((tableBit p)^[8])^[8] (x &&& 255) ^^^ ((tableBit p)^[8])^[7] ((x >>> 8) &&& 255) ^^^
        ((tableBit p)^[8])^[6] ((x >>> 16) &&& 255) ^^^
        ((tableBit p)^[8])^[5] ((x >>> 24) &&& 255) := by
  have split := iterate_succ_split (eight_xor p) (eight_split p)
  have second : x >>> 8 >>> 8 = x >>> 16 := by
    apply UInt32.toNat_inj.mp
    simp [← Nat.shiftRight_add]
  have third : x >>> 16 >>> 8 = x >>> 24 := by
    apply UInt32.toNat_inj.mp
    simp [← Nat.shiftRight_add]
  have top : x >>> 24 >>> 8 = 0 := by
    apply UInt32.toNat_inj.mp
    have bound := x.toNat_lt
    simp [Nat.shiftRight_eq_div_pow]
    omega
  rw [split 7 x, split 6 (x >>> 8), second, split 5 (x >>> 16), third, split 4 (x >>> 24), top,
    Function.iterate_fixed (iterate_tableBit_zero p 8) 4, UInt32.xor_zero]
  ac_rfl

theorem slice8Block_eq (crc : UInt32) (b0 b1 b2 b3 b4 b5 b6 b7 : UInt8) :
    (let crc := crc ^^^ u32FromLe [b0, b1, b2, b3]
      let lookup (j : Nat) (index : UInt8) : UInt32 := (sliceTable (makeTable p) j).getD index.toNat 0
      lookup 0 b7 ^^^ lookup 1 b6 ^^^ lookup 2 b5 ^^^ lookup 3 b4 ^^^
        lookup 4 (crc >>> 24).toUInt8 ^^^ lookup 5 (crc >>> 16).toUInt8 ^^^
        lookup 6 (crc >>> 8).toUInt8 ^^^ lookup 7 crc.toUInt8) =
      [b0, b1, b2, b3, b4, b5, b6, b7].foldl
        (fun crc byte => (tableBit p)^[8] (crc ^^^ byte.toUInt32)) crc := by
  have lookup : ∀ (j : Nat) (index : UInt8), (sliceTable (makeTable p) j).getD index.toNat 0 =
      ((tableBit p)^[8])^[j + 1] (UInt32.ofNat index.toNat) :=
    fun j index => sliceTable_getD p j index.toNat index.toNat_lt
  obtain ⟨word0, word1, word2, word3⟩ := u32FromLe_bytes b0 b1 b2 b3
  have wordSplit := word_split p
  have linear : ∀ x y, (tableBit p)^[8] (x ^^^ y) = (tableBit p)^[8] x ^^^ (tableBit p)^[8] y :=
    eight_xor p
  have iterateLinear := iterate_xor linear 8
  simp only [lookup, UInt32.ofNat_uInt8ToNat, UInt32.toUInt32_toUInt8, mod_256, Nat.reduceAdd]
  set zero := (tableBit p)^[8]
  set word := u32FromLe [b0, b1, b2, b3]
  calc _ = zero^[8] (crc ^^^ word) ^^^ (zero^[4] b4.toUInt32 ^^^ zero^[3] b5.toUInt32 ^^^
        zero^[2] b6.toUInt32 ^^^ zero^[1] b7.toUInt32) := by
        rw [wordSplit (crc ^^^ word)]
        ac_rfl
    _ = zero^[8] crc ^^^ (zero^[8] b0.toUInt32 ^^^ zero^[7] b1.toUInt32 ^^^ zero^[6] b2.toUInt32 ^^^
        zero^[5] b3.toUInt32) ^^^ (zero^[4] b4.toUInt32 ^^^ zero^[3] b5.toUInt32 ^^^
        zero^[2] b6.toUInt32 ^^^ zero^[1] b7.toUInt32) := by
        rw [iterateLinear, wordSplit word, word0, word1, word2, word3]
    _ = _ := by
        simp only [List.foldl_cons, List.foldl_nil, linear, Function.iterate_succ_apply',
          Function.iterate_zero_apply]
        ac_rfl


theorem crc32cBytewise_eq (buf : List UInt8) (crc : UInt32) :
    crc32cBytewise (makeTable p) buf crc =
      buf.foldl (fun crc byte => (tableBit p)^[8] (crc ^^^ byte.toUInt32)) crc := by
  simp only [crc32cBytewise, tableByte]

theorem crc32cSlice8_eq_bytewise (buf : List UInt8) (crc : UInt32) :
    crc32cSlice8 (makeTable p) buf crc = crc32cBytewise (makeTable p) buf crc := by
  fun_induction crc32cSlice8 (makeTable p) buf crc with
  | case1 b0 b1 b2 b3 b4 b5 b6 b7 rest crc word lookup block restRun =>
    have blockFold : block = [b0, b1, b2, b3, b4, b5, b6, b7].foldl
        (fun crc byte => (tableBit p)^[8] (crc ^^^ byte.toUInt32)) crc :=
      slice8Block_eq p crc b0 b1 b2 b3 b4 b5 b6 b7
    rw [restRun, blockFold, crc32cBytewise_eq, crc32cBytewise_eq]
    rfl
  | case2 rest crc _ => rfl

theorem foldl_tableBit_toBitVec (buf : List UInt8) (crc : UInt32) :
    (buf.foldl (fun crc byte => (tableBit p)^[8] (crc ^^^ byte.toUInt32)) crc).toBitVec =
      (buf.map UInt8.toBitVec).foldl
        (fun crc byte => (shift p.toBitVec)^[8] (crc ^^^ byte.setWidth 32)) crc.toBitVec := by
  induction buf generalizing crc with
  | nil => rfl
  | cons byte rest ih =>
    simp only [List.foldl_cons, List.map_cons, ih, iterate_tableBit_toBitVec, UInt32.toBitVec_xor,
      UInt8.toBitVec_toUInt32]

end Table

/-- `crc32c` is the bit-at-a-time CRC-32 with the reflected polynomial `0xEDB88320`, and its
eight-byte loop agrees with the byte-at-a-time table loop from every initial register. -/
theorem crc32c_eq_reflectedCrc (buf : List UInt8) :
    (crc32c buf).toBitVec = reflectedCrc 0xEDB88320#32 (buf.map UInt8.toBitVec) ∧
      ∀ crc, crc32cSlice8 (makeTable poly) buf crc = crc32cBytewise (makeTable poly) buf crc := by
  refine ⟨?_, crc32cSlice8_eq_bytewise poly buf⟩
  rw [crc32c, crc32cSlice8_eq_bytewise, crc32cBytewise_eq, UInt32.toBitVec_not,
    foldl_tableBit_toBitVec]
  rfl

set_option maxRecDepth 20000 in
example : reflectedCrc 0xEDB88320#32 ((strBytes "123456789").map UInt8.toBitVec) = 0xCBF43926#32 := by
  decide

end Shoes.Vmess
