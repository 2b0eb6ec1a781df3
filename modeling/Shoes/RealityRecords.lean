import Shoes.RealityHandshake
import Shoes.Lib.Cipher

/-!
# The Reality record layer

`RecordEncryptor` frames plaintext into TLS 1.3 records: the content type is appended to each
fragment of at most `MAX_TLS_PLAINTEXT_LEN` bytes, the result is sealed with the AEAD under the
nonce `iv XOR seq` and the record header as associated data, and the header (outer type
application data, version 3.3, the ciphertext's length) is written before it; each record takes
the next sequence number. `encrypt_handshake_with_padding` pads the last record's inner plaintext
with zeros towards a target record size. `RecordDecryptor::decrypt_record_in_place` opens a
record under the same sequence number and strips the content type, and
`decrypt_handshake_message` opens one and strips its zero padding and content type.

The AEAD is the ideal one of `Cipher.Aead`: opening what was sealed under the same key, nonce and
associated data gives the plaintext back. Records decrypted in order from the encryptor's
starting sequence number give back the data and the content types (`encryptAppData_round_trip`,
`encryptHandshakeWithPadding_round_trip`), as long as the sequence numbers stay below `u64::MAX`:
the encryptor refuses to use the last one (`last_sequence_number_refused`).
-/

namespace Shoes.Reality

open Wire Cipher

def maxTlsPlaintextLen : Nat := 16384

def maxTlsCiphertextLen : Nat := 16384 + 256

/-- `make_record_header`: the outer record header for a ciphertext of the given length. -/
def makeRecordHeader (ciphertextLen : Nat) : List UInt8 :=
  [contentTypeApplicationData, 0x03, 0x03, UInt8.ofNat (ciphertextLen / 256), UInt8.ofNat ciphertextLen]

/-- `AeadKey::make_nonce`: the IV with the sequence number, big-endian, XORed into its last eight
bytes. -/
def makeNonce (iv : List UInt8) (seq : UInt64) : Result (List UInt8) :=
  if iv.length ≠ 12 then
    let ivLen := iv.length
    fail .invalidInput s!"Invalid IV length: {ivLen} (expected 12)"
  else .ok (iv.take 4 ++ List.zipWith (· ^^^ ·) (iv.drop 4) (u64ToBe seq))

/-- `AeadKey`: an AEAD cipher with its key. -/
structure AeadKey where
  aead : Aead
  key : List UInt8

namespace AeadKey

/-- `AeadKey::seal_in_place`: the ciphertext followed by the tag. -/
def sealInPlace (aeadKey : AeadKey) (buf iv : List UInt8) (seq : UInt64) (aad : List UInt8) :
    Result (List UInt8) := do
  let nonce ← makeNonce iv seq
  .ok (aeadKey.aead.sealed aeadKey.key nonce aad buf)

/-- `AeadKey::open_in_place_slice`, and `AeadKey::open`: the plaintext. -/
def openInPlaceSlice (aeadKey : AeadKey) (buf iv : List UInt8) (seq : UInt64) (aad : List UInt8) :
    Result (List UInt8) := do
  let nonce ← makeNonce iv seq
  match aeadKey.aead.openSealed aeadKey.key nonce aad buf with
  | some plaintext => .ok plaintext
  | none => fail .invalidData "Decryption failed: Unspecified"

end AeadKey

/-- `seq.checked_add(1)`, refused at `u64::MAX`. -/
def nextSeq (seq : UInt64) : Result UInt64 :=
  if seq.toNat + 1 < UInt64.size then .ok (seq + 1)
  else fail .other "TLS sequence number exhausted"

/-- `strip_content_type_slice`: the content type, the last byte, and the content's length; no
padding is expected. -/
def stripContentTypeSlice (plaintext : List UInt8) : Result (UInt8 × Nat) :=
  match plaintext.getLast? with
  | none => fail .invalidData "Empty plaintext"
  | some contentType =>
    if contentType ≠ contentTypeHandshake ∧ contentType ≠ contentTypeApplicationData ∧
        contentType ≠ contentTypeAlert then
      fail .invalidData ("Invalid content type: 0x" ++ hexByte contentType)
    else .ok (contentType, plaintext.length - 1)

/-- `RecordEncryptor`: the write key, the IV and the next sequence number. -/
structure RecordEncryptor where
  key : AeadKey
  iv : List UInt8
  seq : UInt64

namespace RecordEncryptor

/-- `encrypt_record_in_place`: the record for one fragment, and the encryptor after it. -/
def encryptRecordInPlace (enc : RecordEncryptor) (buf : List UInt8) (contentType : UInt8) :
    Result (List UInt8 × RecordEncryptor) := do
  let buf := buf ++ [contentType]
  let ciphertextLen := buf.length + 16
  let header := makeRecordHeader ciphertextLen
  let sealed ← enc.key.sealInPlace buf enc.iv enc.seq header
  let seq ← nextSeq enc.seq
  .ok (header ++ sealed, { enc with seq })

/-- `encrypt_record_with_padding`: as `encrypt_record_in_place`, with the inner plaintext padded
with zeros to `target_record_size - 21` bytes when that is longer and at most
`MAX_TLS_PLAINTEXT_LEN + 1`. -/
def encryptRecordWithPadding (enc : RecordEncryptor) (buf : List UInt8) (contentType : UInt8)
    (targetRecordSize : Nat) : Result (List UInt8 × RecordEncryptor) := do
  let buf := buf ++ [contentType]
  let currentInnerLen := buf.length
  -- `saturating_sub`: natural-number subtraction
  let targetInnerLen := targetRecordSize - (tlsRecordHeaderSize + 16)
  let buf :=
    if currentInnerLen < targetInnerLen ∧ targetInnerLen ≤ maxTlsPlaintextLen + 1 then
      buf ++ List.replicate (targetInnerLen - currentInnerLen) 0
    else buf
  let ciphertextLen := buf.length + 16
  let header := makeRecordHeader ciphertextLen
  let sealed ← enc.key.sealInPlace buf enc.iv enc.seq header
  let seq ← nextSeq enc.seq
  .ok (header ++ sealed, { enc with seq })

/-- `encrypt_fragmented`: one record for each chunk of `data.chunks(MAX_TLS_PLAINTEXT_LEN)`. The
loop of `encrypt_handshake` over the chunks of a long message is the same. -/
def encryptFragmented (enc : RecordEncryptor) (data : List UInt8) (contentType : UInt8) :
    Result (List UInt8 × RecordEncryptor) :=
  if data = [] then .ok ([], enc)
  else do
    let (first, enc) ← enc.encryptRecordInPlace (data.take maxTlsPlaintextLen) contentType
    let (rest, enc) ← enc.encryptFragmented (data.drop maxTlsPlaintextLen) contentType
    .ok (first ++ rest, enc)
termination_by data.length
decreasing_by
  have nonempty : 0 < data.length := List.length_pos_iff.mpr (by assumption)
  simp only [List.length_drop, maxTlsPlaintextLen]
  omega

/-- The loop of `encrypt_handshake_with_padding` over the chunks of a long message: the last
chunk is padded when there is a target size. -/
def encryptChunksPaddingLast (enc : RecordEncryptor) (data : List UInt8)
    (targetRecordSize : Nat) : Result (List UInt8 × RecordEncryptor) :=
  if data.length ≤ maxTlsPlaintextLen then
    if 0 < targetRecordSize then
      enc.encryptRecordWithPadding data contentTypeHandshake targetRecordSize
    else enc.encryptRecordInPlace data contentTypeHandshake
  else do
    let (first, enc) ← enc.encryptRecordInPlace (data.take maxTlsPlaintextLen) contentTypeHandshake
    let (rest, enc) ← enc.encryptChunksPaddingLast (data.drop maxTlsPlaintextLen) targetRecordSize
    .ok (first ++ rest, enc)
termination_by data.length
decreasing_by
  simp only [List.length_drop, maxTlsPlaintextLen] at *
  omega

/-- `encrypt_app_data`: nothing for no data, one record for data that fits one, and fragments
otherwise. -/
def encryptAppData (enc : RecordEncryptor) (plaintext : List UInt8) :
    Result (List UInt8 × RecordEncryptor) :=
  if plaintext.isEmpty then .ok ([], enc)
  else if plaintext.length ≤ maxTlsPlaintextLen then
    enc.encryptRecordInPlace plaintext contentTypeApplicationData
  else enc.encryptFragmented plaintext contentTypeApplicationData

def encryptHandshake (enc : RecordEncryptor) (data : List UInt8) :
    Result (List UInt8 × RecordEncryptor) :=
  if data.isEmpty then .ok ([], enc)
  else if data.length ≤ maxTlsPlaintextLen then enc.encryptRecordInPlace data contentTypeHandshake
  else enc.encryptFragmented data contentTypeHandshake

def encryptHandshakeWithPadding (enc : RecordEncryptor) (data : List UInt8)
    (targetRecordSize : Nat) : Result (List UInt8 × RecordEncryptor) :=
  if data.isEmpty then .ok ([], enc)
  else if maxTlsPlaintextLen < data.length then
    enc.encryptChunksPaddingLast data targetRecordSize
  else if 0 < targetRecordSize then
    enc.encryptRecordWithPadding data contentTypeHandshake targetRecordSize
  else enc.encryptRecordInPlace data contentTypeHandshake

/-- `encrypt_close_notify`: a warning-level close_notify alert in one record. -/
def encryptCloseNotify (enc : RecordEncryptor) : Result (List UInt8 × RecordEncryptor) :=
  enc.encryptRecordInPlace [0x01, 0x00] contentTypeAlert

end RecordEncryptor

/-- `RecordDecryptor`: the read key, the IV and the next sequence number. -/
structure RecordDecryptor where
  key : AeadKey
  iv : List UInt8
  seq : UInt64

/-- `decrypt_record_in_place`: the content type and content of a record whose header gives
`record_len`, and the decryptor after it. -/
def RecordDecryptor.decryptRecordInPlace (dec : RecordDecryptor) (ciphertext : List UInt8)
    (recordLen : UInt16) : Result ((UInt8 × List UInt8) × RecordDecryptor) := do
  let aad := makeRecordHeader recordLen.toNat
  let plaintext ← dec.key.openInPlaceSlice ciphertext dec.iv dec.seq aad
  let seq ← nextSeq dec.seq
  let (contentType, validLen) ← stripContentTypeSlice plaintext
  .ok ((contentType, plaintext.take validLen), { dec with seq })

/-- `decrypt_handshake_message` with the record layer's key: the record is opened under the
header for `record_len`, and its zero padding and content type are stripped. -/
def decryptHandshakeRecord (key : AeadKey) (iv : List UInt8) (seq : UInt64)
    (ciphertext : List UInt8) (recordLen : UInt16) : Result (List UInt8) := do
  let plaintext ← key.openInPlaceSlice ciphertext iv seq (makeRecordHeader recordLen.toNat)
  match stripContentTypeWithPadding plaintext with
  | .ok content => .ok content
  | .error err => .error (.error err)

/-- A record on the wire: its header, then the sealed inner plaintext. -/
def recordBytes (sealed : List UInt8) : List UInt8 :=
  makeRecordHeader sealed.length ++ sealed

/-- The records decrypted in order by `decrypt_record_in_place`, each with the length its header
gives. -/
def RecordDecryptor.decryptAll (dec : RecordDecryptor) :
    List (List UInt8) → Result (List (UInt8 × List UInt8) × RecordDecryptor)
  | [] => .ok ([], dec)
  | sealed :: records => do
    let (record, dec) ← dec.decryptRecordInPlace sealed (UInt16.ofNat sealed.length)
    let (rest, dec) ← dec.decryptAll records
    .ok (record :: rest, dec)

/-- The handshake records decrypted in order by `decrypt_handshake_message`, from a sequence
number, each with the length its header gives. -/
def decryptHandshakeAll (key : AeadKey) (iv : List UInt8) :
    UInt64 → List (List UInt8) → Result (List (List UInt8))
  | _, [] => .ok []
  | seq, sealed :: records => do
    let content ← decryptHandshakeRecord key iv seq sealed (UInt16.ofNat sealed.length)
    let rest ← decryptHandshakeAll key iv (seq + 1) records
    .ok (content :: rest)

/-- The content types `strip_content_type_slice` accepts. -/
def ValidContentType (contentType : UInt8) : Prop :=
  contentType = contentTypeHandshake ∨ contentType = contentTypeApplicationData ∨
    contentType = contentTypeAlert

/-- How many chunks `data.chunks(MAX_TLS_PLAINTEXT_LEN)` makes. -/
def recordCount (data : List UInt8) : Nat :=
  (data.length + maxTlsPlaintextLen - 1) / maxTlsPlaintextLen

/-- The records a writer emits for `data` and the contents they carry: one record for each chunk
of `data.chunks(MAX_TLS_PLAINTEXT_LEN)`, each sealed record within `MAX_TLS_CIPHERTEXT_LEN`, and
contents of at most `MAX_TLS_PLAINTEXT_LEN` bytes that concatenate to the data. -/
structure Chunked (data : List UInt8) (records contents : List (List UInt8)) : Prop where
  count : records.length = recordCount data
  sealed_le : ∀ sealed ∈ records, sealed.length ≤ maxTlsCiphertextLen
  content_le : ∀ content ∈ contents, content.length ≤ maxTlsPlaintextLen
  flatten : contents.flatten = data

theorem recordCount_of_ne_nil {data : List UInt8} (nonempty : data ≠ []) :
    recordCount data = recordCount (data.drop maxTlsPlaintextLen) + 1 := by
  have long : 0 < data.length := List.length_pos_iff.mpr nonempty
  simp only [recordCount, List.length_drop, maxTlsPlaintextLen]
  omega

theorem Chunked.nil : Chunked [] [] [] :=
  ⟨rfl, by simp, by simp, rfl⟩

theorem Chunked.cons {data sealed : List UInt8} {records contents : List (List UInt8)}
    (nonempty : data ≠ []) (sealedFits : sealed.length ≤ maxTlsCiphertextLen)
    (rest : Chunked (data.drop maxTlsPlaintextLen) records contents) :
    Chunked data (sealed :: records) (data.take maxTlsPlaintextLen :: contents) where
  count := by rw [List.length_cons, rest.count, recordCount_of_ne_nil nonempty]
  sealed_le := by
    intro record member
    rcases List.mem_cons.mp member with rfl | later
    · exact sealedFits
    · exact rest.sealed_le record later
  content_le := by
    intro content member
    rcases List.mem_cons.mp member with rfl | later
    · exact List.length_take_le _ _
    · exact rest.content_le content later
  flatten := by rw [List.flatten_cons, rest.flatten, List.take_append_drop]

theorem Chunked.single {data sealed : List UInt8} (nonempty : data ≠ [])
    (fits : data.length ≤ maxTlsPlaintextLen) (sealedFits : sealed.length ≤ maxTlsCiphertextLen) :
    Chunked data [sealed] [data] := by
  have rest : Chunked (data.drop maxTlsPlaintextLen) [] [] := by
    rw [List.drop_eq_nil_of_le fits]
    exact Chunked.nil
  have chunked := Chunked.cons nonempty sealedFits rest
  rwa [List.take_of_length_le fits] at chunked

theorem makeRecordHeader_length {ciphertextLen : Nat} (fits : ciphertextLen < 65536) :
    makeRecordHeader (UInt16.ofNat ciphertextLen).toNat = makeRecordHeader ciphertextLen := by
  rw [UInt16.toNat_ofNat_of_lt' fits]

theorem seq_add_succ (seq : UInt64) (count : Nat) :
    seq + 1 + UInt64.ofNat count = seq + UInt64.ofNat (count + 1) := by
  rw [add_assoc, UInt64.ofNat_add, add_comm (UInt64.ofNat count)]
  rfl

theorem seq_succ_room {seq : UInt64} {count : Nat} (room : seq.toNat + (count + 1) < UInt64.size) :
    (seq + 1).toNat + count < UInt64.size := by
  rw [UInt64.toNat_add, UInt64.toNat_one,
    Nat.mod_eq_of_lt (by simp only [UInt64.size] at room ⊢; omega)]
  omega

theorem ValidContentType.ne_zero {contentType : UInt8} (valid : ValidContentType contentType) :
    contentType ≠ 0 := by
  unfold ValidContentType at valid
  rcases valid with rfl | rfl | rfl <;> decide

theorem stripContentTypeSlice_append {contentType : UInt8} (valid : ValidContentType contentType)
    (content : List UInt8) :
    stripContentTypeSlice (content ++ [contentType]) = .ok (contentType, content.length) := by
  have accepted : ¬(contentType ≠ contentTypeHandshake ∧ contentType ≠ contentTypeApplicationData ∧
      contentType ≠ contentTypeAlert) := by
    unfold ValidContentType at valid
    tauto
  simp [stripContentTypeSlice, accepted]

theorem stripContentTypeSlice_eq_ok {plaintext : List UInt8} {contentType : UInt8} {validLen : Nat}
    (stripped : stripContentTypeSlice plaintext = .ok (contentType, validLen)) :
    ValidContentType contentType ∧ plaintext = plaintext.take validLen ++ [contentType] := by
  unfold stripContentTypeSlice at stripped
  cases last : plaintext.getLast? with
  | none => simp [last, fail] at stripped
  | some final =>
    rw [last] at stripped
    dsimp only at stripped
    split_ifs at stripped with rejected
    · simp [fail] at stripped
    · simp only [Except.ok.injEq, Prod.mk.injEq] at stripped
      obtain ⟨rfl, rfl⟩ := stripped
      refine ⟨by unfold ValidContentType; tauto, ?_⟩
      rw [← List.dropLast_eq_take, List.dropLast_append_getLast? _ last]

theorem stripContentTypeWithPadding_padded {contentType : UInt8} (valid : ValidContentType contentType)
    (content : List UInt8) (padding : Nat) :
    stripContentTypeWithPadding (content ++ [contentType] ++ List.replicate padding 0) =
      .ok content := by
  have reversed : (content ++ [contentType] ++ List.replicate padding 0).reverse.dropWhile (· == 0) =
      contentType :: content.reverse := by
    rw [List.reverse_append, List.reverse_replicate, List.reverse_append, List.reverse_singleton,
      List.dropWhile_append_of_pos (by simp), List.singleton_append, List.dropWhile_cons_of_neg]
    simpa using valid.ne_zero
  have accepted : ¬(contentType ≠ contentTypeHandshake ∧ contentType ≠ contentTypeApplicationData ∧
      contentType ≠ contentTypeAlert) := by
    unfold ValidContentType at valid
    tauto
  unfold stripContentTypeWithPadding
  rw [if_neg (by simp), reversed]
  dsimp only
  rw [if_neg accepted, List.reverse_reverse]

section RoundTrip

variable {key : AeadKey} {iv : List UInt8}

theorem makeNonce_ok (ivLength : iv.length = 12) (seq : UInt64) :
    ∃ nonce, makeNonce iv seq = .ok nonce :=
  ⟨iv.take 4 ++ List.zipWith (· ^^^ ·) (iv.drop 4) (u64ToBe seq), by simp [makeNonce, ivLength]⟩

theorem openInPlaceSlice_sealInPlace (ivLength : iv.length = 12) (buf : List UInt8) (seq : UInt64)
    (aad : List UInt8) :
    ∃ sealed, key.sealInPlace buf iv seq aad = .ok sealed ∧
      sealed.length = buf.length + key.aead.tagLength ∧
      key.openInPlaceSlice sealed iv seq aad = .ok buf := by
  obtain ⟨nonce, made⟩ := makeNonce_ok ivLength seq
  refine ⟨key.aead.sealed key.key nonce aad buf, ?_, ?_, ?_⟩
  · simp [AeadKey.sealInPlace, made]
  · simp
  · simp [AeadKey.openInPlaceSlice, made, Aead.sealed, key.aead.open_seal]

theorem nextSeq_of_lt {seq : UInt64} (room : seq.toNat + 1 < UInt64.size) :
    nextSeq seq = .ok (seq + 1) := by
  simp [nextSeq, room]

theorem sealRecord_eq (enc : RecordEncryptor) (inner : List UInt8) (ivLength : enc.iv.length = 12)
    (tag : enc.key.aead.tagLength = 16) (room : enc.seq.toNat + 1 < UInt64.size) :
    ∃ sealed,
      (do
        let sealed ← enc.key.sealInPlace inner enc.iv enc.seq (makeRecordHeader (inner.length + 16))
        let seq ← nextSeq enc.seq
        .ok (makeRecordHeader (inner.length + 16) ++ sealed, { enc with seq })) =
        (.ok (recordBytes sealed, { enc with seq := enc.seq + 1 }) :
          Result (List UInt8 × RecordEncryptor)) ∧
      sealed.length = inner.length + 16 ∧
      enc.key.openInPlaceSlice sealed enc.iv enc.seq (makeRecordHeader sealed.length) = .ok inner := by
  obtain ⟨sealed, sealedOk, sealedLength, opened⟩ :=
    @openInPlaceSlice_sealInPlace enc.key enc.iv ivLength inner enc.seq
      (makeRecordHeader (inner.length + 16))
  rw [tag] at sealedLength
  refine ⟨sealed, ?_, sealedLength, by rw [sealedLength]; exact opened⟩
  simp only [sealedOk, ok_bind, nextSeq_of_lt room, recordBytes, sealedLength]

theorem encryptRecordInPlace_round_trip (enc : RecordEncryptor) (buf : List UInt8)
    {contentType : UInt8} (valid : ValidContentType contentType) (ivLength : enc.iv.length = 12)
    (tag : enc.key.aead.tagLength = 16) (room : enc.seq.toNat + 1 < UInt64.size)
    (fits : buf.length ≤ maxTlsPlaintextLen) :
    ∃ sealed, enc.encryptRecordInPlace buf contentType =
        .ok (recordBytes sealed, { enc with seq := enc.seq + 1 }) ∧
      sealed.length = buf.length + 17 ∧
      (RecordDecryptor.mk enc.key enc.iv enc.seq).decryptRecordInPlace sealed
          (UInt16.ofNat sealed.length) =
        .ok ((contentType, buf), ⟨enc.key, enc.iv, enc.seq + 1⟩) := by
  obtain ⟨sealed, written, sealedLength, opened⟩ :=
    sealRecord_eq enc (buf ++ [contentType]) ivLength tag room
  have length : sealed.length = buf.length + 17 := by
    rw [sealedLength, List.length_append, List.length_singleton]
  have small : sealed.length < 65536 := by
    unfold maxTlsPlaintextLen at fits
    omega
  refine ⟨sealed, written, length, ?_⟩
  simp only [RecordDecryptor.decryptRecordInPlace, makeRecordHeader_length small, opened, ok_bind,
    nextSeq_of_lt room, stripContentTypeSlice_append valid, List.take_left]

theorem decryptHandshakeRecord_of_decryptRecordInPlace {dec : RecordDecryptor}
    {ciphertext : List UInt8} {recordLen : UInt16} {contentType : UInt8} {content : List UInt8}
    {next : RecordDecryptor}
    (decrypted : dec.decryptRecordInPlace ciphertext recordLen = .ok ((contentType, content), next)) :
    decryptHandshakeRecord dec.key dec.iv dec.seq ciphertext recordLen = .ok content ∧
      next = ⟨dec.key, dec.iv, dec.seq + 1⟩ := by
  unfold RecordDecryptor.decryptRecordInPlace at decrypted
  obtain ⟨plaintext, opened, afterOpen⟩ := bind_eq_ok decrypted
  obtain ⟨seq, advanced, afterSeq⟩ := bind_eq_ok afterOpen
  obtain ⟨⟨stripType, validLen⟩, stripped, final⟩ := bind_eq_ok afterSeq
  simp only [Except.ok.injEq, Prod.mk.injEq] at final
  obtain ⟨⟨rfl, rfl⟩, rfl⟩ := final
  obtain ⟨valid, split⟩ := stripContentTypeSlice_eq_ok stripped
  -- the unpadded plaintext is the padded one with no zeros
  have padded := stripContentTypeWithPadding_padded valid (plaintext.take validLen) 0
  rw [List.replicate_zero, List.append_nil, ← split] at padded
  have nextSeq : seq = dec.seq + 1 := by
    unfold nextSeq at advanced
    split_ifs at advanced
    · exact (Except.ok.inj advanced).symm
    · simp [fail] at advanced
  refine ⟨?_, by rw [nextSeq]⟩
  simp only [decryptHandshakeRecord, opened, ok_bind, padded]

theorem decryptHandshakeAll_of_decryptAll {dec : RecordDecryptor} {records : List (List UInt8)}
    {results : List (UInt8 × List UInt8)} {next : RecordDecryptor}
    (decrypted : dec.decryptAll records = .ok (results, next)) :
    decryptHandshakeAll dec.key dec.iv dec.seq records = .ok (results.map Prod.snd) := by
  induction records generalizing dec results with
  | nil =>
    simp only [RecordDecryptor.decryptAll, Except.ok.injEq, Prod.mk.injEq] at decrypted
    rw [← decrypted.1]
    rfl
  | cons sealed records induction =>
    simp only [RecordDecryptor.decryptAll] at decrypted
    obtain ⟨⟨⟨contentType, content⟩, after⟩, first, rest⟩ := bind_eq_ok decrypted
    obtain ⟨⟨others, last⟩, others_ok, final⟩ := bind_eq_ok rest
    simp only [Except.ok.injEq, Prod.mk.injEq] at final
    obtain ⟨rfl, rfl⟩ := final
    obtain ⟨handshake, rfl⟩ := decryptHandshakeRecord_of_decryptRecordInPlace first
    simp only [decryptHandshakeAll, handshake, ok_bind, induction others_ok, List.map_cons]

theorem encryptRecordInPlace_handshake (enc : RecordEncryptor) (buf : List UInt8)
    (ivLength : enc.iv.length = 12) (tag : enc.key.aead.tagLength = 16)
    (room : enc.seq.toNat + 1 < UInt64.size) (fits : buf.length ≤ maxTlsPlaintextLen) :
    ∃ sealed, enc.encryptRecordInPlace buf contentTypeHandshake =
        .ok (recordBytes sealed, { enc with seq := enc.seq + 1 }) ∧
      sealed.length ≤ maxTlsCiphertextLen ∧
      decryptHandshakeRecord enc.key enc.iv enc.seq sealed (UInt16.ofNat sealed.length) = .ok buf := by
  obtain ⟨sealed, encrypted, sealedLength, decrypted⟩ :=
    encryptRecordInPlace_round_trip enc buf (Or.inl rfl) ivLength tag room fits
  refine ⟨sealed, encrypted, ?_, (decryptHandshakeRecord_of_decryptRecordInPlace decrypted).1⟩
  unfold maxTlsCiphertextLen
  unfold maxTlsPlaintextLen at fits
  omega

theorem encryptRecordWithPadding_round_trip (enc : RecordEncryptor) (buf : List UInt8)
    (targetRecordSize : Nat) (ivLength : enc.iv.length = 12) (tag : enc.key.aead.tagLength = 16)
    (room : enc.seq.toNat + 1 < UInt64.size) (fits : buf.length ≤ maxTlsPlaintextLen) :
    ∃ sealed, enc.encryptRecordWithPadding buf contentTypeHandshake targetRecordSize =
        .ok (recordBytes sealed, { enc with seq := enc.seq + 1 }) ∧
      sealed.length ≤ maxTlsCiphertextLen ∧
      decryptHandshakeRecord enc.key enc.iv enc.seq sealed (UInt16.ofNat sealed.length) = .ok buf := by
  unfold RecordEncryptor.encryptRecordWithPadding
  dsimp only
  -- the inner plaintext is the fragment, the content type and some zeros, at most
  -- `MAX_TLS_PLAINTEXT_LEN + 1` bytes
  have padded : ∀ padding, buf.length + 1 + padding ≤ maxTlsPlaintextLen + 1 →
      ∃ sealed, (do
          let sealed ← enc.key.sealInPlace (buf ++ [contentTypeHandshake] ++ List.replicate padding 0)
            enc.iv enc.seq (makeRecordHeader
              ((buf ++ [contentTypeHandshake] ++ List.replicate padding 0).length + 16))
          let seq ← nextSeq enc.seq
          .ok (makeRecordHeader
              ((buf ++ [contentTypeHandshake] ++ List.replicate padding 0).length + 16) ++ sealed,
            { enc with seq })) =
          (.ok (recordBytes sealed, { enc with seq := enc.seq + 1 }) :
            Result (List UInt8 × RecordEncryptor)) ∧
        sealed.length ≤ maxTlsCiphertextLen ∧
        decryptHandshakeRecord enc.key enc.iv enc.seq sealed (UInt16.ofNat sealed.length) = .ok buf := by
    intro padding bounded
    obtain ⟨sealed, written, sealedLength, opened⟩ :=
      sealRecord_eq enc (buf ++ [contentTypeHandshake] ++ List.replicate padding 0) ivLength tag room
    have lengths : sealed.length = buf.length + 1 + padding + 16 := by
      rw [sealedLength]
      simp only [List.length_append, List.length_singleton, List.length_replicate]
    have small : sealed.length < 65536 := by
      unfold maxTlsPlaintextLen at bounded
      omega
    refine ⟨sealed, written, by unfold maxTlsCiphertextLen maxTlsPlaintextLen at *; omega, ?_⟩
    simp only [decryptHandshakeRecord, makeRecordHeader_length small, opened, ok_bind,
      stripContentTypeWithPadding_padded (Or.inl rfl)]
  split_ifs with longer
  · exact padded _ (by simp only [List.length_append, List.length_singleton] at longer ⊢; omega)
  · simpa using padded 0 (by omega)

/-- Every chunk of the data goes into a record of its own, each under the next sequence number,
and decrypting the records in order from the same sequence number gives the chunks back with
their content type. -/
theorem encryptFragmented_round_trip (enc : RecordEncryptor) (data : List UInt8)
    {contentType : UInt8} (valid : ValidContentType contentType) (ivLength : enc.iv.length = 12)
    (tag : enc.key.aead.tagLength = 16) (room : enc.seq.toNat + recordCount data < UInt64.size) :
    ∃ records contents : List (List UInt8),
      enc.encryptFragmented data contentType =
        .ok (records.flatMap recordBytes, { enc with seq := enc.seq + UInt64.ofNat records.length }) ∧
      Chunked data records contents ∧
      (RecordDecryptor.mk enc.key enc.iv enc.seq).decryptAll records =
        .ok (contents.map (contentType, ·), ⟨enc.key, enc.iv, enc.seq + UInt64.ofNat records.length⟩) := by
  -- strong induction on the length: the recursion drops a whole chunk
  obtain ⟨size, sized⟩ : ∃ size, data.length = size := ⟨_, rfl⟩
  induction size using Nat.strong_induction_on generalizing data enc with
  | _ size induction =>
    by_cases empty : data = []
    · subst empty
      refine ⟨[], [], ?_, Chunked.nil, ?_⟩
      · rw [RecordEncryptor.encryptFragmented]
        simp
      · simp [RecordDecryptor.decryptAll]
    · -- the first chunk, then the rest from the next sequence number
      have counted := recordCount_of_ne_nil empty
      have firstFits : (data.take maxTlsPlaintextLen).length ≤ maxTlsPlaintextLen :=
        List.length_take_le _ _
      obtain ⟨sealed, encrypted, sealedLength, decrypted⟩ :=
        encryptRecordInPlace_round_trip enc (data.take maxTlsPlaintextLen) valid ivLength tag
          (by omega) firstFits
      have sealedFits : sealed.length ≤ maxTlsCiphertextLen := by
        have bounded : (data.take maxTlsPlaintextLen).length ≤ 16384 := firstFits
        rw [sealedLength]
        unfold maxTlsCiphertextLen
        omega
      have shorter : (data.drop maxTlsPlaintextLen).length < data.length := by
        have long : 0 < data.length := List.length_pos_iff.mpr empty
        simp only [List.length_drop, maxTlsPlaintextLen]
        omega
      obtain ⟨records, contents, restEncrypted, restChunked, restDecrypted⟩ :=
        induction _ (sized ▸ shorter) { enc with seq := enc.seq + 1 } (data.drop maxTlsPlaintextLen)
          ivLength tag (seq_succ_room (counted ▸ room)) rfl
      refine ⟨sealed :: records, data.take maxTlsPlaintextLen :: contents, ?_,
        restChunked.cons empty sealedFits, ?_⟩
      · rw [RecordEncryptor.encryptFragmented, if_neg empty]
        simp only [encrypted, ok_bind, restEncrypted, List.flatMap_cons, List.length_cons,
          seq_add_succ]
      · simp only [RecordDecryptor.decryptAll, decrypted, ok_bind, restDecrypted, List.map_cons,
          List.length_cons, seq_add_succ]

theorem encryptChunksPaddingLast_round_trip (enc : RecordEncryptor) (data : List UInt8)
    (targetRecordSize : Nat) (ivLength : enc.iv.length = 12) (tag : enc.key.aead.tagLength = 16)
    (nonempty : data ≠ []) (room : enc.seq.toNat + recordCount data < UInt64.size) :
    ∃ records contents : List (List UInt8),
      enc.encryptChunksPaddingLast data targetRecordSize =
        .ok (records.flatMap recordBytes, { enc with seq := enc.seq + UInt64.ofNat records.length }) ∧
      Chunked data records contents ∧
      decryptHandshakeAll enc.key enc.iv enc.seq records = .ok contents := by
  obtain ⟨size, sized⟩ : ∃ size, data.length = size := ⟨_, rfl⟩
  induction size using Nat.strong_induction_on generalizing data enc with
  | _ size induction =>
    have counted := recordCount_of_ne_nil nonempty
    by_cases last : data.length ≤ maxTlsPlaintextLen
    · -- the last chunk: padded when there is a target size
      obtain ⟨sealed, encrypted, sealedFits, decrypted⟩ :
          ∃ sealed, enc.encryptChunksPaddingLast data targetRecordSize =
              .ok (recordBytes sealed, { enc with seq := enc.seq + 1 }) ∧
            sealed.length ≤ maxTlsCiphertextLen ∧
            decryptHandshakeRecord enc.key enc.iv enc.seq sealed (UInt16.ofNat sealed.length) =
              .ok data := by
        rw [RecordEncryptor.encryptChunksPaddingLast, if_pos last]
        split_ifs
        · exact encryptRecordWithPadding_round_trip enc data targetRecordSize ivLength tag
            (by omega) last
        · exact encryptRecordInPlace_handshake enc data ivLength tag (by omega) last
      refine ⟨[sealed], [data], by simpa using encrypted, Chunked.single nonempty last sealedFits, ?_⟩
      simp [decryptHandshakeAll, decrypted]
    · -- a full chunk in place, then the rest from the next sequence number
      obtain ⟨sealed, encrypted, sealedFits, decrypted⟩ :=
        encryptRecordInPlace_handshake enc (data.take maxTlsPlaintextLen) ivLength tag (by omega)
          (List.length_take_le _ _)
      have restNonempty : data.drop maxTlsPlaintextLen ≠ [] := by
        simp only [ne_eq, List.drop_eq_nil_iff]
        omega
      have shorter : (data.drop maxTlsPlaintextLen).length < data.length := by
        simp only [List.length_drop, maxTlsPlaintextLen] at last ⊢
        omega
      obtain ⟨records, contents, restEncrypted, restChunked, restDecrypted⟩ :=
        induction _ (sized ▸ shorter) { enc with seq := enc.seq + 1 } (data.drop maxTlsPlaintextLen)
          ivLength tag restNonempty (seq_succ_room (counted ▸ room)) rfl
      refine ⟨sealed :: records, data.take maxTlsPlaintextLen :: contents, ?_,
        restChunked.cons nonempty sealedFits, ?_⟩
      · rw [RecordEncryptor.encryptChunksPaddingLast, if_neg last]
        simp only [encrypted, ok_bind, restEncrypted, List.flatMap_cons, List.length_cons,
          seq_add_succ]
      · simp only [decryptHandshakeAll, decrypted, ok_bind, restDecrypted]

theorem encryptFragmented_nil (enc : RecordEncryptor) (contentType : UInt8) :
    enc.encryptFragmented [] contentType = .ok ([], enc) := by
  rw [RecordEncryptor.encryptFragmented]
  simp

theorem encryptFragmented_of_le (enc : RecordEncryptor) {data : List UInt8} (contentType : UInt8)
    (nonempty : data ≠ []) (fits : data.length ≤ maxTlsPlaintextLen) :
    enc.encryptFragmented data contentType = enc.encryptRecordInPlace data contentType := by
  rw [RecordEncryptor.encryptFragmented, if_neg nonempty, List.take_of_length_le fits,
    List.drop_eq_nil_of_le fits]
  rcases enc.encryptRecordInPlace data contentType with fault | ⟨first, next⟩
  · rfl
  · simp [encryptFragmented_nil]

theorem encryptFragmented_of_branches (enc : RecordEncryptor) (data : List UInt8)
    (contentType : UInt8) :
    (if data.isEmpty then .ok ([], enc)
      else if data.length ≤ maxTlsPlaintextLen then enc.encryptRecordInPlace data contentType
      else enc.encryptFragmented data contentType) = enc.encryptFragmented data contentType := by
  by_cases empty : data = []
  · subst empty
    simp [encryptFragmented_nil]
  · have notEmpty : data.isEmpty = false := by simpa using empty
    rw [if_neg (by simp [notEmpty])]
    split_ifs with fits
    · rw [encryptFragmented_of_le enc _ empty fits]
    · rfl

theorem encryptAppData_eq (enc : RecordEncryptor) (plaintext : List UInt8) :
    enc.encryptAppData plaintext = enc.encryptFragmented plaintext contentTypeApplicationData :=
  encryptFragmented_of_branches enc plaintext contentTypeApplicationData

theorem encryptHandshake_eq (enc : RecordEncryptor) (data : List UInt8) :
    enc.encryptHandshake data = enc.encryptFragmented data contentTypeHandshake :=
  encryptFragmented_of_branches enc data contentTypeHandshake

theorem encryptHandshakeWithPadding_eq (enc : RecordEncryptor) {data : List UInt8}
    (nonempty : data ≠ []) (targetRecordSize : Nat) :
    enc.encryptHandshakeWithPadding data targetRecordSize =
      enc.encryptChunksPaddingLast data targetRecordSize := by
  have notEmpty : data.isEmpty = false := by simpa using nonempty
  unfold RecordEncryptor.encryptHandshakeWithPadding
  rw [if_neg (by simp [notEmpty])]
  split_ifs with long
  · rfl
  all_goals
    rw [RecordEncryptor.encryptChunksPaddingLast, if_pos (by omega)]
    simp [*]

section Writers

variable (enc : RecordEncryptor) (ivLength : enc.iv.length = 12) (tag : enc.key.aead.tagLength = 16)

include ivLength tag

theorem encryptAppData_round_trip (plaintext : List UInt8)
    (room : enc.seq.toNat + recordCount plaintext < UInt64.size) :
    ∃ records contents : List (List UInt8),
      enc.encryptAppData plaintext =
        .ok (records.flatMap recordBytes, { enc with seq := enc.seq + UInt64.ofNat records.length }) ∧
      Chunked plaintext records contents ∧
      (RecordDecryptor.mk enc.key enc.iv enc.seq).decryptAll records =
        .ok (contents.map (contentTypeApplicationData, ·),
          ⟨enc.key, enc.iv, enc.seq + UInt64.ofNat records.length⟩) := by
  rw [encryptAppData_eq]
  exact encryptFragmented_round_trip enc plaintext (Or.inr (Or.inl rfl)) ivLength tag room

theorem encryptHandshake_round_trip (data : List UInt8)
    (room : enc.seq.toNat + recordCount data < UInt64.size) :
    ∃ records contents : List (List UInt8),
      enc.encryptHandshake data =
        .ok (records.flatMap recordBytes, { enc with seq := enc.seq + UInt64.ofNat records.length }) ∧
      Chunked data records contents ∧
      (RecordDecryptor.mk enc.key enc.iv enc.seq).decryptAll records =
        .ok (contents.map (contentTypeHandshake, ·),
          ⟨enc.key, enc.iv, enc.seq + UInt64.ofNat records.length⟩) ∧
      decryptHandshakeAll enc.key enc.iv enc.seq records = .ok contents := by
  obtain ⟨records, contents, encrypted, chunked, decrypted⟩ :=
    encryptFragmented_round_trip enc data (Or.inl rfl) ivLength tag room
  refine ⟨records, contents, by rw [encryptHandshake_eq, encrypted], chunked, decrypted, ?_⟩
  have handshake := decryptHandshakeAll_of_decryptAll decrypted
  rwa [List.map_map, Function.comp_def, List.map_id'] at handshake

theorem encryptHandshakeWithPadding_round_trip (data : List UInt8) (targetRecordSize : Nat)
    (room : enc.seq.toNat + recordCount data < UInt64.size) :
    ∃ records contents : List (List UInt8),
      enc.encryptHandshakeWithPadding data targetRecordSize =
        .ok (records.flatMap recordBytes, { enc with seq := enc.seq + UInt64.ofNat records.length }) ∧
      Chunked data records contents ∧
      decryptHandshakeAll enc.key enc.iv enc.seq records = .ok contents := by
  by_cases empty : data = []
  · subst empty
    refine ⟨[], [], ?_, Chunked.nil, rfl⟩
    simp [RecordEncryptor.encryptHandshakeWithPadding]
  · rw [encryptHandshakeWithPadding_eq enc empty]
    exact encryptChunksPaddingLast_round_trip enc data targetRecordSize ivLength tag empty room

theorem encryptCloseNotify_round_trip (room : enc.seq.toNat + 1 < UInt64.size) :
    ∃ sealed, enc.encryptCloseNotify = .ok (recordBytes sealed, { enc with seq := enc.seq + 1 }) ∧
      (RecordDecryptor.mk enc.key enc.iv enc.seq).decryptRecordInPlace sealed
          (UInt16.ofNat sealed.length) =
        .ok ((contentTypeAlert, [0x01, 0x00]), ⟨enc.key, enc.iv, enc.seq + 1⟩) := by
  obtain ⟨sealed, encrypted, -, decrypted⟩ :=
    encryptRecordInPlace_round_trip enc [0x01, 0x00] (Or.inr (Or.inr rfl)) ivLength tag room
      (by decide)
  exact ⟨sealed, encrypted, decrypted⟩

end Writers

end RoundTrip

/-- The record layer from any starting sequence number that leaves room for every record: each
writer emits one record per chunk of the data, each with the header for its own length and
within `MAX_TLS_CIPHERTEXT_LEN`, under consecutive sequence numbers, and the readers opening the
records in order from the same sequence number give back the content types and chunks of at most
`MAX_TLS_PLAINTEXT_LEN` bytes that concatenate to the data, with no padding. -/
theorem record_layer_round_trip (enc : RecordEncryptor) (data : List UInt8)
    (targetRecordSize : Nat) (ivLength : enc.iv.length = 12) (tag : enc.key.aead.tagLength = 16)
    (room : enc.seq.toNat + recordCount data < UInt64.size) :
    (∃ records contents : List (List UInt8),
      enc.encryptAppData data =
        .ok (records.flatMap recordBytes, { enc with seq := enc.seq + UInt64.ofNat records.length }) ∧
      Chunked data records contents ∧
      (RecordDecryptor.mk enc.key enc.iv enc.seq).decryptAll records =
        .ok (contents.map (contentTypeApplicationData, ·),
          ⟨enc.key, enc.iv, enc.seq + UInt64.ofNat records.length⟩)) ∧
    (∃ records contents : List (List UInt8),
      enc.encryptHandshake data =
        .ok (records.flatMap recordBytes, { enc with seq := enc.seq + UInt64.ofNat records.length }) ∧
      Chunked data records contents ∧
      (RecordDecryptor.mk enc.key enc.iv enc.seq).decryptAll records =
        .ok (contents.map (contentTypeHandshake, ·),
          ⟨enc.key, enc.iv, enc.seq + UInt64.ofNat records.length⟩) ∧
      decryptHandshakeAll enc.key enc.iv enc.seq records = .ok contents) ∧
    (∃ records contents : List (List UInt8),
      enc.encryptHandshakeWithPadding data targetRecordSize =
        .ok (records.flatMap recordBytes, { enc with seq := enc.seq + UInt64.ofNat records.length }) ∧
      Chunked data records contents ∧
      decryptHandshakeAll enc.key enc.iv enc.seq records = .ok contents) :=
  ⟨encryptAppData_round_trip enc ivLength tag data room,
    encryptHandshake_round_trip enc ivLength tag data room,
    encryptHandshakeWithPadding_round_trip enc ivLength tag data targetRecordSize room⟩

/-- An AEAD that leaves the plaintext as it is and appends sixteen zero bytes as its tag. -/
def transparentAead : Aead :=
  Aead.transparent

/-- An encryptor over `transparentAead` with a zero IV, from sequence number `seq`. -/
def transparentEncryptor (seq : UInt64) : RecordEncryptor :=
  ⟨⟨transparentAead, []⟩, List.replicate 12 0, seq⟩

/-- An encryptor over `Aead.keyedXor` with a non-zero key and IV, from sequence number `seq`. -/
def keyedEncryptor (seq : UInt64) : RecordEncryptor :=
  ⟨⟨Aead.keyedXor, [0x2b, 0x7e, 0x15, 0x16]⟩, [1, 2, 3, 4, 5, 6, 7, 8, 9, 10, 11, 12], seq⟩

theorem encryptCloseNotify_round_trip_sample :
    ((keyedEncryptor 0).iv.length = 12 ∧ (keyedEncryptor 0).key.aead.tagLength = 16 ∧
      (keyedEncryptor 0).seq.toNat + 1 < UInt64.size) ∧
    ∃ sealed, (keyedEncryptor 0).encryptCloseNotify =
        .ok (recordBytes sealed, { keyedEncryptor 0 with seq := (keyedEncryptor 0).seq + 1 }) ∧
      (RecordDecryptor.mk (keyedEncryptor 0).key (keyedEncryptor 0).iv
          (keyedEncryptor 0).seq).decryptRecordInPlace sealed (UInt16.ofNat sealed.length) =
        .ok ((contentTypeAlert, [0x01, 0x00]),
          ⟨(keyedEncryptor 0).key, (keyedEncryptor 0).iv, (keyedEncryptor 0).seq + 1⟩) :=
  ⟨⟨rfl, rfl, by decide⟩, encryptCloseNotify_round_trip (keyedEncryptor 0) rfl rfl (by decide)⟩

/-- Twenty thousand bytes: two records, the first of `MAX_TLS_PLAINTEXT_LEN` bytes. -/
theorem record_layer_round_trip_sample :
    ((keyedEncryptor 0).iv.length = 12 ∧ (keyedEncryptor 0).key.aead.tagLength = 16 ∧
      (keyedEncryptor 0).seq.toNat + recordCount (List.replicate 20000 0x61) < UInt64.size) ∧
    (∃ records contents : List (List UInt8),
      (keyedEncryptor 0).encryptAppData (List.replicate 20000 0x61) =
        .ok (records.flatMap recordBytes,
          { keyedEncryptor 0 with seq := 0 + UInt64.ofNat records.length }) ∧
      Chunked (List.replicate 20000 0x61) records contents ∧
      (RecordDecryptor.mk (keyedEncryptor 0).key (keyedEncryptor 0).iv 0).decryptAll
          records =
        .ok (contents.map (contentTypeApplicationData, ·),
          ⟨(keyedEncryptor 0).key, (keyedEncryptor 0).iv,
            0 + UInt64.ofNat records.length⟩)) ∧
    (∃ records contents : List (List UInt8),
      (keyedEncryptor 0).encryptHandshake (List.replicate 20000 0x61) =
        .ok (records.flatMap recordBytes,
          { keyedEncryptor 0 with seq := 0 + UInt64.ofNat records.length }) ∧
      Chunked (List.replicate 20000 0x61) records contents ∧
      (RecordDecryptor.mk (keyedEncryptor 0).key (keyedEncryptor 0).iv 0).decryptAll
          records =
        .ok (contents.map (contentTypeHandshake, ·),
          ⟨(keyedEncryptor 0).key, (keyedEncryptor 0).iv,
            0 + UInt64.ofNat records.length⟩) ∧
      decryptHandshakeAll (keyedEncryptor 0).key (keyedEncryptor 0).iv 0 records =
        .ok contents) ∧
    (∃ records contents : List (List UInt8),
      (keyedEncryptor 0).encryptHandshakeWithPadding (List.replicate 20000 0x61) 64 =
        .ok (records.flatMap recordBytes,
          { keyedEncryptor 0 with seq := 0 + UInt64.ofNat records.length }) ∧
      Chunked (List.replicate 20000 0x61) records contents ∧
      decryptHandshakeAll (keyedEncryptor 0).key (keyedEncryptor 0).iv 0 records =
        .ok contents) := by
  have roomy : (keyedEncryptor 0).seq.toNat + recordCount (List.replicate 20000 0x61) < UInt64.size := by
    rw [recordCount, List.length_replicate]
    decide
  exact ⟨⟨rfl, rfl, roomy⟩,
    record_layer_round_trip (keyedEncryptor 0) (List.replicate 20000 0x61) 64 rfl rfl roomy⟩

/-- At `u64::MAX` the encryptor refuses to seal: `checked_add` has no next sequence number. -/
theorem last_sequence_number_refused :
    (transparentEncryptor 0xFFFFFFFFFFFFFFFF).encryptAppData [0x61] =
      fail .other "TLS sequence number exhausted" := by
  rfl

end Shoes.Reality
