import Mathlib

/-!
# Ciphers as their callers rely on them

A protocol takes its ciphers from a library and relies on one law of each: decrypting a block
that was encrypted under the same key gives it back, and opening what was sealed under the same
key, nonce and associated data gives the plaintext back. The structures here carry these laws
as fields, so that a protocol is proved correct for every cipher that keeps them; nothing here
says how a cipher computes.

An AEAD cipher seals in place with a separate tag: the buffer holds the ciphertext where the
plaintext was, and the tag is appended after it. Opening in place leaves the plaintext at the
front of the buffer and the tag bytes after it.
-/

namespace Cipher

/-- A block cipher on blocks of `blockLength` bytes. -/
structure BlockCipher where
  blockLength : Nat
  encrypt : List UInt8 → List UInt8 → List UInt8
  decrypt : List UInt8 → List UInt8 → List UInt8
  encrypt_length : ∀ key block, block.length = blockLength → (encrypt key block).length = blockLength
  decrypt_encrypt : ∀ key block, block.length = blockLength →
    decrypt key (encrypt key block) = block

/-- An AEAD cipher: sealing gives the ciphertext and a tag of `tagLength` bytes; opening a
buffer checks and strips the tag. -/
structure Aead where
  tagLength : Nat
  sealWithTag : (key nonce aad plaintext : List UInt8) → List UInt8 × List UInt8
  openSealed : (key nonce aad buffer : List UInt8) → Option (List UInt8)
  seal_length : ∀ key nonce aad plaintext,
    (sealWithTag key nonce aad plaintext).1.length = plaintext.length
  tag_length : ∀ key nonce aad plaintext,
    (sealWithTag key nonce aad plaintext).2.length = tagLength
  open_seal : ∀ key nonce aad plaintext,
    openSealed key nonce aad
      ((sealWithTag key nonce aad plaintext).1 ++ (sealWithTag key nonce aad plaintext).2) =
      some plaintext

/-- The bytes of `data` XORed with `pad` repeated. -/
def xorPad (pad data : List UInt8) : List UInt8 :=
  data.mapIdx fun index byte => byte ^^^ pad.getD (index % pad.length) 0

@[simp] theorem length_xorPad (pad data : List UInt8) : (xorPad pad data).length = data.length := by
  simp [xorPad]

theorem xorPad_xorPad (pad data : List UInt8) : xorPad pad (xorPad pad data) = data := by
  apply List.ext_getElem (by simp)
  intro index inner outer
  simp [xorPad]

/-- A keyed stand-in for a block cipher, for running a model on concrete inputs: the block XORed
with the key repeated, which is its own inverse. -/
def BlockCipher.keyedXor (blockLength : Nat) : BlockCipher where
  blockLength := blockLength
  encrypt key block := xorPad key block
  decrypt key block := xorPad key block
  encrypt_length _ _ fits := (length_xorPad _ _).trans fits
  decrypt_encrypt _ _ _ := xorPad_xorPad _ _

/-- The sum of the bytes, wrapping: the tag byte of `Aead.keyedXor`. -/
def byteSum (bytes : List UInt8) : UInt8 :=
  bytes.foldl (· + ·) 0

namespace Aead

variable (aead : Aead) (key nonce aad : List UInt8)

/-- `seal_in_place_separate_tag` with the tag written after the ciphertext. -/
def sealed (plaintext : List UInt8) : List UInt8 :=
  (aead.sealWithTag key nonce aad plaintext).1 ++ (aead.sealWithTag key nonce aad plaintext).2

/-- `open_in_place` on a buffer: the buffer afterwards, with the plaintext at its front. -/
def openInPlace (buffer : List UInt8) : Option (List UInt8) :=
  (aead.openSealed key nonce aad buffer).map fun plaintext =>
    plaintext ++ buffer.drop plaintext.length

@[simp] theorem sealed_length (plaintext : List UInt8) :
    (aead.sealed key nonce aad plaintext).length = plaintext.length + aead.tagLength := by
  simp [sealed, aead.seal_length, aead.tag_length]

theorem openInPlace_sealed (plaintext : List UInt8) :
    aead.openInPlace key nonce aad (aead.sealed key nonce aad plaintext) =
      some (plaintext ++ (aead.sealWithTag key nonce aad plaintext).2) := by
  have front : (aead.sealWithTag key nonce aad plaintext).1.length = plaintext.length :=
    aead.seal_length key nonce aad plaintext
  simp only [openInPlace, sealed, aead.open_seal, Option.map_some]
  rw [← front, List.drop_left]

/-- The AEAD that leaves the plaintext as it is and writes a zero tag of sixteen bytes, a
stand-in for running a model on concrete inputs. -/
def transparent : Aead where
  tagLength := 16
  sealWithTag := fun _ _ _ plaintext => (plaintext, List.replicate 16 0)
  openSealed := fun _ _ _ buffer => some (buffer.take (buffer.length - 16))
  seal_length := fun _ _ _ _ => rfl
  tag_length := fun _ _ _ _ => List.length_replicate
  open_seal := fun _ _ _ plaintext => by simp

/-- A keyed stand-in for an AEAD, for running a model on concrete inputs: the plaintext XORed
with the key and nonce repeated, and as tag sixteen copies of the sum of the key, nonce,
associated data and plaintext bytes; opening undoes the XOR and checks the tag. -/
def keyedXor : Aead where
  tagLength := 16
  sealWithTag key nonce aad plaintext :=
    (xorPad (key ++ nonce) plaintext, List.replicate 16 (byteSum (key ++ nonce ++ aad ++ plaintext)))
  openSealed key nonce aad buffer :=
    let plaintext := xorPad (key ++ nonce) (buffer.take (buffer.length - 16))
    if 16 ≤ buffer.length ∧
        buffer.drop (buffer.length - 16) = List.replicate 16 (byteSum (key ++ nonce ++ aad ++ plaintext)) then
      some plaintext
    else none
  seal_length _ _ _ _ := length_xorPad _ _
  tag_length _ _ _ _ := List.length_replicate
  open_seal key nonce aad plaintext := by
    simp [xorPad_xorPad]

end Aead

end Cipher
