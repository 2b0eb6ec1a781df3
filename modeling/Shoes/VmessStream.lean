import Shoes.VmessHeader

/-!
# The VMess chunk stream: reading

After the header, a `VmessStream` carries the data in chunks: a two-byte length, masked with the
next two bytes of a SHAKE128 reader when length masking is on, and that many bytes, the data sealed
with its tag followed by random padding whose length the same reader gives when global padding is
on. `try_decrypt` takes one chunk from the unprocessed bytes into the processed buffer, and
`poll_read` reads the inner stream and decrypts until there is data to return.

`try_decrypt` subtracts the padding length from the chunk length before anything checks that the
chunk is that long. The chunk length comes off the wire, and when it is below the padding length
the subtraction goes below zero (`tryDecrypt_padding_over_length_panics`).

The processed buffer holds 65535 bytes less the tag, as much data as the longest chunk carries,
but `try_decrypt` reports the buffer full when a chunk's data would fill it exactly, also when it
is empty. After a full buffer `poll_read` asserts that there is processed data, so a chunk whose
data is as long as the buffer makes the reader panic, however it is split into reads
(`pollRead_filling_chunk_panics`).
-/

namespace Shoes.Vmess

open Wire Cipher

def encryptionTagLen : Nat := 16

def maxPaddingLen : Nat := 64

/-- `MAX_ENCRYPTED_READ_DATA_SIZE`: `u16::MAX`. -/
def maxEncryptedReadDataSize : Nat := 65535

/-- `MAX_READ_PACKET_SIZE`, the length of the unprocessed buffer: a longest chunk and its length. -/
def maxReadPacketSize : Nat := maxEncryptedReadDataSize + 2

/-- `LengthMask`: the SHAKE128 reader as the bytes it gives from `offset` on, and whether it draws
padding lengths too. -/
structure LengthMask where
  shake : Nat → UInt8
  offset : Nat
  enablePadding : Bool

/-- `LengthMask::next_u16`: the next two bytes of the reader, big-endian. -/
def LengthMask.nextU16 (mask : LengthMask) : UInt16 × LengthMask :=
  (u16FromBe [mask.shake mask.offset, mask.shake (mask.offset + 1)],
    { mask with offset := mask.offset + 2 })

/-- `LengthMask::next_values`: the padding length, below `MAX_PADDING_LEN`, when padding is on,
and then the length mask. -/
def LengthMask.nextValues (mask : LengthMask) : (Nat × UInt16) × LengthMask :=
  if mask.enablePadding then
    let (word, mask) := mask.nextU16
    let (lengthMask, mask) := mask.nextU16
    (((word % UInt16.ofNat maxPaddingLen).toNat, lengthMask), mask)
  else
    let (lengthMask, mask) := mask.nextU16
    ((0, lengthMask), mask)

/-- `VmessNonceSequence`: a big-endian count in the first two bytes of the nonce. -/
structure VmessNonceSequence where
  count : UInt16
  nonce : List UInt8

/-- `VmessNonceSequence::advance`: the nonce, and the sequence with the count one up. -/
def VmessNonceSequence.advance (sequence : VmessNonceSequence) :
    List UInt8 × VmessNonceSequence :=
  let count := sequence.count + 1
  (sequence.nonce,
    ⟨count, (count >>> 8).toUInt8 :: (count &&& 0xff).toUInt8 :: sequence.nonce.drop 2⟩)

/-- An `OpeningKey<VmessNonceSequence>`. -/
structure OpeningKey where
  key : List UInt8
  nonces : VmessNonceSequence

/-- `open_in_place` with empty associated data: the buffer opened in place, and the key with the
nonce used up whether the tag checks or not. -/
def OpeningKey.openInPlace (aead : Aead) (openingKey : OpeningKey) (buffer : List UInt8) :
    Option (List UInt8) × OpeningKey :=
  let (nonce, nonces) := openingKey.nonces.advance
  (aead.openInPlace openingKey.key nonce [] buffer, { openingKey with nonces })

/-- The reading half of a `VmessStream` once the response header is read. `unprocessed` is
`unprocessed_buf[unprocessed_start_offset..unprocessed_end_offset]`, `processedBuf` is
`processed_buf[..processed_end_offset]`, of which the bytes from `processedStartOffset` on are
still to be read, and `processedBufLen` is `processed_buf.len()`. -/
structure VmessStream where
  openingKey : Option OpeningKey
  tagLen : Nat
  readLengthMask : Option LengthMask
  unprocessedStartOffset : Nat
  unprocessed : List UInt8
  unprocessedPendingLen : Option (Nat × Nat)
  processedBufLen : Nat
  processedBuf : List UInt8
  processedStartOffset : Nat
  isEof : Bool

inductive DecryptState
  | needData
  | bufferFull
  | success
  | receivedEof
  deriving DecidableEq, Repr

namespace VmessStream

/-- `VmessStream::new`, reading half: a tag when there are keys, and a processed buffer for the
data of a longest chunk. -/
def new (openingKey : Option OpeningKey) (readLengthShakeReader : Option (Nat → UInt8))
    (enableGlobalPadding : Bool) : VmessStream :=
  let tagLen := if openingKey.isSome then encryptionTagLen else 0
  { openingKey
    tagLen
    readLengthMask := readLengthShakeReader.map fun shake => ⟨shake, 0, enableGlobalPadding⟩
    unprocessedStartOffset := 0
    unprocessed := []
    unprocessedPendingLen := none
    processedBufLen := maxEncryptedReadDataSize - tagLen
    processedBuf := []
    processedStartOffset := 0
    isEof := false }

def unprocessedEndOffset (stream : VmessStream) : Nat :=
  stream.unprocessedStartOffset + stream.unprocessed.length

/-- Both unprocessed offsets back to the front once everything has been consumed. -/
def resetIfDrained (stream : VmessStream) : VmessStream :=
  if stream.unprocessed.length = 0 then { stream with unprocessedStartOffset := 0 } else stream

theorem resetIfDrained_eq (stream : VmessStream) :
    stream.resetIfDrained = { stream with
      unprocessedStartOffset :=
        if stream.unprocessed.length = 0 then 0 else stream.unprocessedStartOffset } := by
  unfold resetIfDrained
  split_ifs <;> rfl

/-- What `try_decrypt` has once it knows the chunk's length: an early return, or the padding and
data lengths of a chunk that is all there and whose data fits. -/
inductive ChunkLength
  | stop (state : DecryptState) (stream : VmessStream)
  | chunk (paddingLen dataLen : Nat) (stream : VmessStream)

/-- The padding length and the unmasked length word, with the read mask after them. -/
def unmaskLength (readLengthMask : Option LengthMask) (word : UInt16) :
    Nat × UInt16 × Option LengthMask :=
  match readLengthMask with
  | some mask => (mask.nextValues.1.1, word ^^^ mask.nextValues.1.2, some mask.nextValues.2)
  | none => (0, word, none)

/-- `self.tag_len > 0 && (data_len - padding_len) < self.tag_len`: the subtraction is evaluated
only when there is a tag. -/
def shorterThanTag (tagLen paddingLen dataLen : Nat) : Result Bool :=
  if 0 < tagLen then (fun unpadded => decide (unpadded < tagLen)) <$> usizeSub dataLen paddingLen
  else .ok false

/-- `data_len - padding_len - self.tag_len`: the length of the chunk's data. -/
def processedDataLen (stream : VmessStream) (paddingLen dataLen : Nat) : Result Nat :=
  usizeSub dataLen paddingLen >>= fun unpadded => usizeSub unpadded stream.tagLen

/-- The chunk's length recorded as pending, when its data cannot be taken yet. -/
def withPending (stream : VmessStream) (paddingLen dataLen : Nat) : VmessStream :=
  resetIfDrained { stream with unprocessedPendingLen := some (paddingLen, dataLen) }

/-- The `None` arm of `try_decrypt`: a new chunk's length, read off the front of the unprocessed
bytes, unmasked and checked. Once the length is taken, a chunk that is not all there, or whose
data does not fit, is left pending. -/
def readChunkLength (stream : VmessStream) : Result ChunkLength :=
  if stream.unprocessed.length < 2 then .ok (.stop .needData stream)
  else do
    let lengthBytes ← slice stream.unprocessed 0 2
    let (paddingLen, maskedLen, readLengthMask) :=
      unmaskLength stream.readLengthMask (u16FromBe lengthBytes)
    let stream := { stream with readLengthMask }
    let dataLen := maskedLen.toNat
    if maxEncryptedReadDataSize < dataLen then
      fail .invalidData s!"encrypted data length larger than {maxEncryptedReadDataSize}"
    else do
      let tooShort ← shorterThanTag stream.tagLen paddingLen dataLen
      if tooShort then
        fail .invalidData s!"data length ({dataLen}) is smaller than tag length ({stream.tagLen})"
      else do
        let unpadded ← usizeSub dataLen paddingLen
        if unpadded = stream.tagLen then .ok (.stop .receivedEof stream)
        else
          let stream := { stream with
            unprocessedStartOffset := stream.unprocessedStartOffset + 2
            unprocessed := stream.unprocessed.drop 2 }
          if stream.unprocessed.length < dataLen then
            .ok (.stop .needData (stream.withPending paddingLen dataLen))
          else do
            let processedDataLen ← stream.processedDataLen paddingLen dataLen
            if stream.processedBufLen ≤ stream.processedBuf.length + processedDataLen then
              .ok (.stop .bufferFull (stream.withPending paddingLen dataLen))
            else .ok (.chunk paddingLen dataLen stream)

/-- The `Some` arm of `try_decrypt`: a chunk whose length was taken before. -/
def pendingChunkLength (stream : VmessStream) (paddingLen dataLen : Nat) : Result ChunkLength :=
  if stream.unprocessed.length < dataLen then .ok (.stop .needData stream)
  else do
    let processedDataLen ← stream.processedDataLen paddingLen dataLen
    if stream.processedBufLen ≤ stream.processedBuf.length + processedDataLen then
      .ok (.stop .bufferFull stream)
    else .ok (.chunk paddingLen dataLen { stream with unprocessedPendingLen := none })

/-- The match of `try_decrypt` on `unprocessed_pending_len`. -/
def chunkLength (stream : VmessStream) : Result ChunkLength :=
  match stream.unprocessedPendingLen with
  | none => stream.readChunkLength
  | some (paddingLen, dataLen) => stream.pendingChunkLength paddingLen dataLen

/-- The sealed chunk at the front of the unprocessed bytes, opened in place under the next nonce
when there are keys, as it is otherwise; `open failed for data` when its tag does not check. -/
def openChunk (aead : Aead) (stream : VmessStream) (sealedLen : Nat) : Result VmessStream :=
  match stream.openingKey with
  | none => .ok stream
  | some openingKey =>
    slice stream.unprocessed 0 sealedLen >>= fun sealedChunk =>
      match openingKey.openInPlace aead sealedChunk with
      | (some opened, openingKey) =>
        .ok { stream with
          openingKey := some openingKey
          unprocessed := opened ++ stream.unprocessed.drop sealedLen }
      | (none, _) => fail .invalidData "open failed for data"

/-- The end of `try_decrypt`: the chunk opened, its data copied to the processed buffer, and the
chunk with its padding consumed. -/
def decryptChunk (aead : Aead) (stream : VmessStream) (paddingLen dataLen : Nat) :
    Result (DecryptState × VmessStream) := do
  -- `start + data_len - padding_len`, from the start of the unprocessed bytes
  let sealedLen ← usizeSub dataLen paddingLen
  let stream ← stream.openChunk aead sealedLen
  let processedDataLen ← stream.processedDataLen paddingLen dataLen
  let plaintext ← slice stream.unprocessed 0 processedDataLen
  -- the slice of the processed buffer it is copied to
  if stream.processedBufLen < stream.processedBuf.length + processedDataLen then abort
  else
    .ok (.success, resetIfDrained { stream with
      processedBuf := stream.processedBuf ++ plaintext
      unprocessedStartOffset := stream.unprocessedStartOffset + dataLen
      unprocessed := stream.unprocessed.drop dataLen })

def tryDecrypt (aead : Aead) (stream : VmessStream) : Result (DecryptState × VmessStream) :=
  stream.chunkLength >>= fun
    | .stop state stream => .ok (state, stream)
    | .chunk paddingLen dataLen stream => stream.decryptChunk aead paddingLen dataLen

/-- `read_processed`: as much of the processed data as the `ReadBuf` has room for. Both
assertions panic: the one that there is processed data, and the one that something is written. -/
def readProcessed (stream : VmessStream) (unfilledLen : Nat) :
    Result (List UInt8 × VmessStream) :=
  if stream.processedBuf.length = 0 then abort
  else
    let availableLen := stream.processedBuf.length - stream.processedStartOffset
    let writeAmount := min unfilledLen availableLen
    if writeAmount = 0 then abort
    else
      let filled := (stream.processedBuf.drop stream.processedStartOffset).take writeAmount
      let newProcessedStartOffset := stream.processedStartOffset + writeAmount
      if newProcessedStartOffset = stream.processedBuf.length then
        .ok (filled, { stream with processedBuf := [], processedStartOffset := 0 })
      else .ok (filled, { stream with processedStartOffset := newProcessedStartOffset })

/-- How a `poll_read` ends. -/
inductive PollRead
  | ready (filled : List UInt8)
  | failed (fault : Fault)
  | pending
  deriving DecidableEq, Repr

/-- `read_processed` as `poll_read` returns it. -/
def returnProcessed (stream : VmessStream) (unfilledLen : Nat) (incoming : Incoming) :
    PollRead × VmessStream × Incoming :=
  match stream.readProcessed unfilledLen with
  | .ok (filled, stream) => (.ready filled, stream, incoming)
  | .error fault => (.failed fault, stream, incoming)

/-- How the decrypting loop of `poll_read` ends: data read into the `ReadBuf` after a full
buffer, or a stop, for more bytes or at the end chunk. -/
inductive Decrypted
  | delivered (filled : List UInt8)
  | stopped

/-- The decrypting loop of `poll_read`, for at most `fuel` chunks. After a full buffer it asserts
that there is processed data, and reads it into the `ReadBuf`. -/
def decryptLoop (aead : Aead) (unfilledLen : Nat) :
    Nat → VmessStream → Option (Result (Decrypted × VmessStream))
  | 0, _ => none
  | fuel + 1, stream =>
    match stream.tryDecrypt aead with
    | .error fault => some (.error fault)
    | .ok (.needData, stream) => some (.ok (.stopped, stream))
    | .ok (.receivedEof, stream) => some (.ok (.stopped, { stream with isEof := true }))
    | .ok (.bufferFull, stream) =>
      if stream.processedBuf.length = 0 then some abort
      else
        some ((stream.readProcessed unfilledLen).map fun (filled, stream) => (.delivered filled, stream))
    | .ok (.success, stream) => decryptLoop aead unfilledLen fuel stream

/-- What `poll_read` does once the decrypting loop has ended: the data it read, the processed
data, or nothing at the end of the stream; otherwise `more` reads again. -/
def afterDecrypt (stream : VmessStream) (unfilledLen : Nat) (incoming : Incoming)
    (more : VmessStream → Option (PollRead × VmessStream × Incoming)) :
    Option (Result (Decrypted × VmessStream)) → Option (PollRead × VmessStream × Incoming)
  | none => none
  | some (.error fault) => some (.failed fault, stream, incoming)
  | some (.ok (.delivered filled, stream)) => some (.ready filled, stream, incoming)
  | some (.ok (.stopped, stream)) =>
    if 0 < stream.processedBuf.length then some (stream.returnProcessed unfilledLen incoming)
    else if stream.isEof then some (.ready [], stream, incoming)
    else more stream

/-- Room for the next read. When the unprocessed bytes reach the end of the buffer they are moved
to its front (`reset_unprocessed_buf_offset`, which asserts that some were consumed and some are
left), and then it asserts that there is room. -/
def makeRoom (stream : VmessStream) : Result VmessStream :=
  if stream.unprocessedEndOffset = maxReadPacketSize then
    if 0 < stream.unprocessedStartOffset ∧ 0 < stream.unprocessed.length then
      if stream.unprocessed.length < maxReadPacketSize then
        .ok { stream with unprocessedStartOffset := 0 }
      else abort
    else abort
  else .ok stream

/-- The reading loop of `poll_read`, for at most `fuel` reads of the inner stream: each read goes
after the unprocessed bytes and is decrypted; an empty read is the end of the stream. -/
def pollReadLoop (aead : Aead) (unfilledLen : Nat) :
    Nat → VmessStream → Incoming → Option (PollRead × VmessStream × Incoming)
  | 0, _, _ => none
  | fuel + 1, stream, incoming =>
    match stream.makeRoom with
    | .error fault => some (.failed fault, stream, incoming)
    | .ok stream =>
      match readIncoming (maxReadPacketSize - stream.unprocessedEndOffset) incoming with
      | none => some (.pending, stream, incoming)
      | some (bytes, incoming) =>
        if bytes.isEmpty then
          let stream := { stream with isEof := true }
          if 0 < stream.processedBuf.length then some (stream.returnProcessed unfilledLen incoming)
          else some (.ready [], stream, incoming)
        else
          let stream := { stream with unprocessed := stream.unprocessed ++ bytes }
          afterDecrypt stream unfilledLen incoming
            (fun stream => pollReadLoop aead unfilledLen fuel stream incoming)
            (stream.decryptLoop aead unfilledLen (stream.unprocessed.length + 1))

/-- Enough reads for every inner stream: each read but the last takes a byte at least. -/
def readFuel (incoming : Incoming) : Nat :=
  (incoming.map List.length).sum + 1

/-- `poll_read` once the response header is read, into a `ReadBuf` with `unfilledLen` bytes of
room: the processed data first, then reads of the inner stream. -/
def pollRead (aead : Aead) (unfilledLen : Nat) (stream : VmessStream) (incoming : Incoming) :
    Option (PollRead × VmessStream × Incoming) :=
  if 0 < stream.processedBuf.length then some (stream.returnProcessed unfilledLen incoming)
  else if stream.isEof then some (.ready [], stream, incoming)
  else stream.pollReadLoop aead unfilledLen (readFuel incoming) incoming

theorem shorterThanTag_underflow {β : Type} {tagLen paddingLen dataLen : Nat}
    (short : dataLen < paddingLen) (tooShortError : Result β) (next : Nat → Result β) :
    (shorterThanTag tagLen paddingLen dataLen >>= fun tooShort =>
      if tooShort = true then tooShortError else usizeSub dataLen paddingLen >>= next) = abort := by
  unfold shorterThanTag
  by_cases tagged : 0 < tagLen
  · simp [tagged, usizeSub_of_lt short, abort, Functor.map, Except.map]
  · simp [tagged, usizeSub_of_lt short]

theorem tryDecrypt_padding_over_length_panics (aead : Aead) (stream : VmessStream)
    (mask : LengthMask) (high low : UInt8) (rest : List UInt8)
    (fresh : stream.unprocessedPendingLen = none) (masked : stream.readLengthMask = some mask)
    (received : stream.unprocessed = high :: low :: rest)
    (short : (u16FromBe [high, low] ^^^ mask.nextValues.1.2).toNat < mask.nextValues.1.1) :
    stream.tryDecrypt aead = abort := by
  have fits : ¬ maxEncryptedReadDataSize < (u16FromBe [high, low] ^^^ mask.nextValues.1.2).toNat := by
    have bounded := (u16FromBe [high, low] ^^^ mask.nextValues.1.2).toNat_lt
    unfold maxEncryptedReadDataSize
    omega
  have lengthBytes : slice (high :: low :: rest) 0 2 = .ok [high, low] := by
    simp [slice]
  unfold tryDecrypt chunkLength readChunkLength
  simp only [fresh, received, List.length_cons, show ¬rest.length + 1 + 1 < 2 by omega, if_false,
    lengthBytes, ok_bind, masked, unmaskLength, fits]
  rw [shorterThanTag_underflow short]
  rfl

/-- The reader of the sample: a SHAKE128 stand-in giving all ones, so that the padding length is
63 and the length mask is all ones. -/
def onesMask : LengthMask :=
  ⟨fun _ => 0xff, 0, true⟩

theorem tryDecrypt_padding_over_length_panics_sample :
    { new none (some fun _ => 0xff) true with unprocessed := [0xff, 0xff] }.tryDecrypt
        identityPrimitives.aes128Gcm = abort :=
  tryDecrypt_padding_over_length_panics identityPrimitives.aes128Gcm _ onesMask 0xff 0xff [] rfl rfl
    rfl (by decide)

theorem shorterThanTag_of_le {tagLen paddingLen dataLen : Nat} (long : paddingLen + tagLen ≤ dataLen) :
    shorterThanTag tagLen paddingLen dataLen = .ok false := by
  unfold shorterThanTag
  by_cases tagged : 0 < tagLen
  · simp [tagged, usizeSub_of_le (show paddingLen ≤ dataLen by omega), Functor.map, Except.map]
    omega
  · simp [tagged]

theorem processedDataLen_of_le (stream : VmessStream) {paddingLen dataLen : Nat}
    (long : paddingLen + stream.tagLen ≤ dataLen) :
    stream.processedDataLen paddingLen dataLen = .ok (dataLen - paddingLen - stream.tagLen) := by
  simp [processedDataLen, usizeSub_of_le (show paddingLen ≤ dataLen by omega),
    usizeSub_of_le (show stream.tagLen ≤ dataLen - paddingLen by omega)]

theorem readChunkLength_taken (stream : VmessStream) {high low : UInt8} {rest : List UInt8}
    {paddingLen : Nat} {dataWord : UInt16} {mask : Option LengthMask}
    (received : stream.unprocessed = high :: low :: rest)
    (unmasked : unmaskLength stream.readLengthMask (u16FromBe [high, low]) =
      (paddingLen, dataWord, mask))
    (long : paddingLen + stream.tagLen < dataWord.toNat) :
    stream.readChunkLength =
      let taken := { stream with
        readLengthMask := mask
        unprocessedStartOffset := stream.unprocessedStartOffset + 2
        unprocessed := rest }
      if rest.length < dataWord.toNat then .ok (.stop .needData (taken.withPending paddingLen dataWord.toNat))
      else if stream.processedBufLen ≤
          stream.processedBuf.length + (dataWord.toNat - paddingLen - stream.tagLen) then
        .ok (.stop .bufferFull (taken.withPending paddingLen dataWord.toNat))
      else .ok (.chunk paddingLen dataWord.toNat taken) := by
  have fits : ¬ maxEncryptedReadDataSize < dataWord.toNat := by
    have bounded := dataWord.toNat_lt
    unfold maxEncryptedReadDataSize
    omega
  have lengthBytes : slice (high :: low :: rest) 0 2 = .ok [high, low] := by
    simp [slice]
  unfold readChunkLength
  simp only [received, List.length_cons, show ¬rest.length + 1 + 1 < 2 by omega, if_false,
    lengthBytes, ok_bind, unmasked, fits, shorterThanTag_of_le long.le, Bool.false_eq_true,
    usizeSub_of_le (show paddingLen ≤ dataWord.toNat by omega),
    show dataWord.toNat - paddingLen ≠ stream.tagLen by omega, List.drop_succ_cons, List.drop_zero,
    processedDataLen, usizeSub_of_le (show stream.tagLen ≤ dataWord.toNat - paddingLen by omega)]

/-- What stays true while a reader waits for a chunk whose data would fill the processed buffer:
the chunk is longer than its padding and tag, its data at least as long as the buffer, and the
reader has nothing processed and has not reached the end. -/
structure Filling (paddingLen dataLen : Nat) (stream : VmessStream) : Prop where
  long : paddingLen + stream.tagLen < dataLen
  fills : stream.processedBufLen ≤ dataLen - paddingLen - stream.tagLen
  empty : stream.processedBuf = []
  running : stream.isEof = false

theorem Filling.of_eq {paddingLen dataLen : Nat} {stream other : VmessStream}
    (filling : Filling paddingLen dataLen stream) (tagLen : other.tagLen = stream.tagLen)
    (processedBufLen : other.processedBufLen = stream.processedBufLen)
    (processedBuf : other.processedBuf = stream.processedBuf) (isEof : other.isEof = stream.isEof) :
    Filling paddingLen dataLen other := by
  obtain ⟨long, fills, empty, running⟩ := filling
  constructor
  · rw [tagLen]
    exact long
  · rw [tagLen, processedBufLen]
    exact fills
  · rw [processedBuf]
    exact empty
  · rw [isEof]
    exact running

section FillingChunk

variable (aead : Aead) (unfilledLen : Nat)

theorem tryDecrypt_short (stream : VmessStream) (fresh : stream.unprocessedPendingLen = none)
    (short : stream.unprocessed.length < 2) :
    stream.tryDecrypt aead = .ok (.needData, stream) := by
  simp [tryDecrypt, chunkLength, fresh, readChunkLength, short]

theorem tryDecrypt_taken (stream : VmessStream) {high low : UInt8} {rest : List UInt8}
    {paddingLen : Nat} {dataWord : UInt16} {mask : Option LengthMask}
    (fresh : stream.unprocessedPendingLen = none) (received : stream.unprocessed = high :: low :: rest)
    (unmasked : unmaskLength stream.readLengthMask (u16FromBe [high, low]) =
      (paddingLen, dataWord, mask))
    (filling : Filling paddingLen dataWord.toNat stream) :
    let taken := { stream with
      readLengthMask := mask
      unprocessedStartOffset := stream.unprocessedStartOffset + 2
      unprocessed := rest }
    stream.tryDecrypt aead =
      .ok (if rest.length < dataWord.toNat then .needData else .bufferFull,
        taken.withPending paddingLen dataWord.toNat) := by
  intro taken
  have full : stream.processedBufLen ≤
      stream.processedBuf.length + (dataWord.toNat - paddingLen - stream.tagLen) := by
    rw [filling.empty, List.length_nil, Nat.zero_add]
    exact filling.fills
  unfold tryDecrypt chunkLength
  rw [fresh]
  dsimp only
  rw [readChunkLength_taken stream received unmasked filling.long]
  by_cases waiting : rest.length < dataWord.toNat
  · simp [waiting, taken]
  · simp [waiting, full, taken]

theorem tryDecrypt_pending (stream : VmessStream) {paddingLen dataLen : Nat}
    (pending : stream.unprocessedPendingLen = some (paddingLen, dataLen))
    (filling : Filling paddingLen dataLen stream) :
    stream.tryDecrypt aead =
      .ok (if stream.unprocessed.length < dataLen then .needData else .bufferFull, stream) := by
  have full : stream.processedBufLen ≤
      stream.processedBuf.length + (dataLen - paddingLen - stream.tagLen) := by
    rw [filling.empty, List.length_nil, Nat.zero_add]
    exact filling.fills
  unfold tryDecrypt chunkLength pendingChunkLength
  rw [pending]
  dsimp only
  by_cases waiting : stream.unprocessed.length < dataLen
  · simp [waiting]
  · simp [waiting, processedDataLen_of_le stream filling.long.le, full]

theorem decryptLoop_needData (fuel : Nat) {stream next : VmessStream}
    (waiting : stream.tryDecrypt aead = .ok (.needData, next)) :
    stream.decryptLoop aead unfilledLen (fuel + 1) = some (.ok (.stopped, next)) := by
  simp [decryptLoop, waiting]

theorem decryptLoop_bufferFull_empty (fuel : Nat) {stream next : VmessStream}
    (full : stream.tryDecrypt aead = .ok (.bufferFull, next)) (empty : next.processedBuf = []) :
    stream.decryptLoop aead unfilledLen (fuel + 1) = some abort := by
  simp [decryptLoop, full, empty]

theorem makeRoom_of_lt {stream : VmessStream} (roomy : stream.unprocessedEndOffset < maxReadPacketSize) :
    stream.makeRoom = .ok stream := by
  simp [makeRoom, roomy.ne]

theorem pollReadLoop_read (fuel : Nat) {stream : VmessStream} {incoming next : Incoming}
    {bytes : List UInt8} (roomy : stream.unprocessedEndOffset < maxReadPacketSize)
    (read : readIncoming (maxReadPacketSize - stream.unprocessedEndOffset) incoming =
      some (bytes, next))
    (nonempty : bytes ≠ []) :
    stream.pollReadLoop aead unfilledLen (fuel + 1) incoming =
      afterDecrypt { stream with unprocessed := stream.unprocessed ++ bytes } unfilledLen next
        (fun stream => pollReadLoop aead unfilledLen fuel stream next)
        (decryptLoop aead unfilledLen ((stream.unprocessed ++ bytes).length + 1)
          { stream with unprocessed := stream.unprocessed ++ bytes }) := by
  simp [pollReadLoop, makeRoom_of_lt roomy, read, nonempty]

theorem afterDecrypt_stopped {stream next : VmessStream} {incoming : Incoming}
    {more : VmessStream → Option (PollRead × VmessStream × Incoming)}
    (empty : next.processedBuf = []) (running : next.isEof = false) :
    afterDecrypt stream unfilledLen incoming more (some (.ok (.stopped, next))) = more next := by
  simp [afterDecrypt, empty, running]

/-- While a pending chunk whose data would fill the buffer arrives, however it is split into
reads, the reader reads until the chunk is all there and then panics. The induction is on the fuel,
and each read takes a byte at least, so the fuel outlasts the bytes still to come. -/
theorem pollReadLoop_pendingChunk {paddingLen dataLen : Nat} (fuel : Nat) :
    ∀ (stream : VmessStream) (incoming : Incoming),
      Filling paddingLen dataLen stream → stream.unprocessedPendingLen = some (paddingLen, dataLen) →
      stream.unprocessedStartOffset ≤ 2 → dataLen ≤ maxEncryptedReadDataSize →
      (∀ read ∈ incoming, read ≠ []) → stream.unprocessed.length < dataLen →
      dataLen ≤ stream.unprocessed.length + (incoming.map List.length).sum →
      (incoming.map List.length).sum < fuel →
      (stream.pollReadLoop aead unfilledLen fuel incoming).map Prod.fst = some (.failed .panic) := by
  induction fuel with
  | zero =>
    intro stream incoming _ _ _ _ _ _ _ enough
    omega
  | succ fuel ih =>
    intro stream incoming filling pending atFront bounded live waiting arriving enough
    cases incoming with
    | nil =>
      simp only [List.map_nil, List.sum_nil, Nat.add_zero] at arriving
      omega
    | cons chunk rest =>
      have roomy : stream.unprocessedEndOffset < maxReadPacketSize := by
        unfold unprocessedEndOffset maxReadPacketSize
        omega
      obtain ⟨bytes, next, read, nonempty, -, -, counted, nextLive⟩ :=
        readIncoming_live (Nat.sub_pos_of_lt roomy) live
      have bytesPos : 0 < bytes.length := List.length_pos_iff.mpr nonempty
      have grownLength : (stream.unprocessed ++ bytes).length =
          stream.unprocessed.length + bytes.length := List.length_append
      have grownFilling : Filling paddingLen dataLen
          { stream with unprocessed := stream.unprocessed ++ bytes } :=
        filling.of_eq rfl rfl rfl rfl
      have decrypted := tryDecrypt_pending aead
        { stream with unprocessed := stream.unprocessed ++ bytes } pending grownFilling
      rw [pollReadLoop_read aead unfilledLen fuel roomy read nonempty]
      simp only [List.map_cons, List.sum_cons] at counted arriving enough
      by_cases complete : dataLen ≤ (stream.unprocessed ++ bytes).length
      · -- the chunk is all there: the buffer is reported full with nothing processed
        rw [if_neg (Nat.not_lt.mpr complete)] at decrypted
        rw [decryptLoop_bufferFull_empty aead unfilledLen _ decrypted filling.empty]
        rfl
      · -- a strict front of the chunk: the reader waits and reads again
        rw [if_pos (Nat.lt_of_not_le complete)] at decrypted
        rw [decryptLoop_needData aead unfilledLen _ decrypted,
          afterDecrypt_stopped unfilledLen grownFilling.empty grownFilling.running]
        exact ih _ next grownFilling pending atFront bounded nextLive (Nat.lt_of_not_le complete)
          (by dsimp only; omega) (by omega)

/-- Before the length of a chunk whose data would fill the buffer is taken, however the chunk is
split into reads, the reader reads until the length is there, takes it, and goes on as for a
pending chunk. The induction is on the fuel, as for a pending chunk. -/
theorem pollReadLoop_newChunk {high low : UInt8} {paddingLen : Nat} {dataWord : UInt16}
    {mask : Option LengthMask} {rest : List UInt8} (fuel : Nat) :
    ∀ (stream : VmessStream) (incoming : Incoming),
      Filling paddingLen dataWord.toNat stream → stream.unprocessedPendingLen = none →
      stream.unprocessedStartOffset = 0 →
      unmaskLength stream.readLengthMask (u16FromBe [high, low]) = (paddingLen, dataWord, mask) →
      (∀ read ∈ incoming, read ≠ []) → stream.unprocessed.length < 2 →
      stream.unprocessed ++ incoming.flatten = high :: low :: rest → dataWord.toNat ≤ rest.length →
      (incoming.map List.length).sum < fuel →
      (stream.pollReadLoop aead unfilledLen fuel incoming).map Prod.fst = some (.failed .panic) := by
  induction fuel with
  | zero =>
    intro stream incoming _ _ _ _ _ short arrives _ enough
    have lengths := congrArg List.length arrives
    simp only [List.length_append, List.length_flatten, List.length_cons] at lengths
    omega
  | succ fuel ih =>
    intro stream incoming filling fresh atFront unmasked live short arrives whole enough
    cases incoming with
    | nil =>
      simp only [List.flatten_nil, List.append_nil] at arrives
      rw [arrives, List.length_cons, List.length_cons] at short
      omega
    | cons chunk more =>
      have roomy : stream.unprocessedEndOffset < maxReadPacketSize := by
        unfold unprocessedEndOffset maxReadPacketSize maxEncryptedReadDataSize
        omega
      obtain ⟨bytes, next, read, nonempty, -, flat, counted, nextLive⟩ :=
        readIncoming_live (Nat.sub_pos_of_lt roomy) live
      have bytesPos : 0 < bytes.length := List.length_pos_iff.mpr nonempty
      have grownFilling : Filling paddingLen dataWord.toNat
          { stream with unprocessed := stream.unprocessed ++ bytes } :=
        filling.of_eq rfl rfl rfl rfl
      have grownArrives : (stream.unprocessed ++ bytes) ++ next.flatten = high :: low :: rest := by
        rw [List.append_assoc, flat, arrives]
      have nextCount : (next.map List.length).sum < fuel := by
        simp only [List.map_cons, List.sum_cons] at counted enough
        omega
      rw [pollReadLoop_read aead unfilledLen fuel roomy read nonempty]
      by_cases taken : 2 ≤ (stream.unprocessed ++ bytes).length
      · -- the length bytes are there: the chunk's length is taken
        have lengthBytes : (stream.unprocessed ++ bytes).take 2 = [high, low] := by
          have fronts := congrArg (List.take 2) grownArrives
          rwa [List.take_append_of_le_length taken] at fronts
        have received : stream.unprocessed ++ bytes =
            high :: low :: (stream.unprocessed ++ bytes).drop 2 := by
          calc stream.unprocessed ++ bytes
              = (stream.unprocessed ++ bytes).take 2 ++ (stream.unprocessed ++ bytes).drop 2 :=
                (List.take_append_drop 2 _).symm
            _ = high :: low :: (stream.unprocessed ++ bytes).drop 2 := by rw [lengthBytes]; rfl
        have decrypted := tryDecrypt_taken aead
          { stream with unprocessed := stream.unprocessed ++ bytes } fresh received unmasked
          grownFilling
        dsimp only at decrypted
        -- the stream once the length is taken, with the chunk pending
        set pendingStream := VmessStream.withPending
          { stream with
            readLengthMask := mask
            unprocessedStartOffset := stream.unprocessedStartOffset + 2
            unprocessed := (stream.unprocessed ++ bytes).drop 2 }
          paddingLen dataWord.toNat with pendingEq
        have pendingFilling : Filling paddingLen dataWord.toNat pendingStream :=
          filling.of_eq (by simp [pendingEq, withPending, resetIfDrained_eq])
            (by simp [pendingEq, withPending, resetIfDrained_eq])
            (by simp [pendingEq, withPending, resetIfDrained_eq])
            (by simp [pendingEq, withPending, resetIfDrained_eq])
        have lengths := congrArg List.length grownArrives
        simp only [List.length_append, List.length_flatten, List.length_cons] at lengths
        by_cases complete : dataWord.toNat ≤ ((stream.unprocessed ++ bytes).drop 2).length
        · -- the chunk is all there: the buffer is reported full with nothing processed
          rw [if_neg (Nat.not_lt.mpr complete)] at decrypted
          rw [decryptLoop_bufferFull_empty aead unfilledLen _ decrypted pendingFilling.empty]
          rfl
        · -- a strict front of the chunk: the reader goes on with the chunk pending
          rw [if_pos (Nat.lt_of_not_le complete)] at decrypted
          rw [decryptLoop_needData aead unfilledLen _ decrypted,
            afterDecrypt_stopped unfilledLen pendingFilling.empty pendingFilling.running]
          have bounded : dataWord.toNat ≤ maxEncryptedReadDataSize := by
            have below := dataWord.toNat_lt
            unfold maxEncryptedReadDataSize
            omega
          refine pollReadLoop_pendingChunk aead unfilledLen fuel pendingStream next pendingFilling
            ?pending ?atFront bounded nextLive ?waiting ?arriving nextCount
          case pending => simp [pendingEq, withPending, resetIfDrained_eq]
          case atFront =>
            simp only [pendingEq, withPending, resetIfDrained_eq, atFront, Nat.zero_add]
            split_ifs <;> omega
          case waiting =>
            simp only [pendingEq, withPending, resetIfDrained_eq]
            exact Nat.lt_of_not_le complete
          case arriving =>
            simp only [pendingEq, withPending, resetIfDrained_eq, List.length_drop,
              List.length_append] at complete ⊢
            omega
      · -- still a strict front of the length: the reader waits and reads again
        have decrypted := tryDecrypt_short aead { stream with unprocessed := stream.unprocessed ++ bytes }
          fresh (Nat.lt_of_not_le taken)
        rw [decryptLoop_needData aead unfilledLen _ decrypted,
          afterDecrypt_stopped unfilledLen grownFilling.empty grownFilling.running]
        exact ih _ next grownFilling fresh atFront unmasked nextLive (Nat.lt_of_not_le taken)
          grownArrives whole nextCount

end FillingChunk

/-- A reader with nothing buffered or processed panics on a chunk whose data is at least as long
as its processed buffer, however the chunk and what follows it are split into reads. -/
theorem pollRead_filling_chunk_panics (aead : Aead) (stream : VmessStream) (unfilledLen : Nat)
    (high low : UInt8) (paddingLen : Nat) (dataWord : UInt16) (mask : Option LengthMask)
    (body more : List UInt8) (incoming : Incoming) (drained : stream.unprocessed = [])
    (atFront : stream.unprocessedStartOffset = 0) (fresh : stream.unprocessedPendingLen = none)
    (empty : stream.processedBuf = []) (running : stream.isEof = false)
    (unmasked : unmaskLength stream.readLengthMask (u16FromBe [high, low]) =
      (paddingLen, dataWord, mask))
    (long : paddingLen + stream.tagLen < dataWord.toNat)
    (fills : stream.processedBufLen ≤ dataWord.toNat - paddingLen - stream.tagLen)
    (whole : body.length = dataWord.toNat) (live : ∀ read ∈ incoming, read ≠ [])
    (delivered : incoming.flatten = high :: low :: body ++ more) :
    (stream.pollRead aead unfilledLen incoming).map Prod.fst = some (.failed .panic) := by
  have toLoop : stream.pollRead aead unfilledLen incoming =
      stream.pollReadLoop aead unfilledLen (readFuel incoming) incoming := by
    simp [pollRead, empty, running]
  rw [toLoop]
  exact pollReadLoop_newChunk aead unfilledLen _ stream incoming ⟨long, fills, empty, running⟩ fresh
    atFront unmasked live (by simp [drained]) (by rw [drained, List.nil_append, delivered]; rfl)
    (by simp [whole]) (Nat.lt_succ_self _)

/-- The longest chunk, 65535 bytes of sealed data with no padding, in one read by a new stream
with keys and no length masking. -/
theorem pollRead_filling_chunk_panics_sample :
    ((new (some ⟨[], ⟨0, List.replicate 12 0⟩⟩) none false).pollRead identityPrimitives.aes128Gcm 1
        [0xff :: 0xff :: List.replicate 65535 0]).map Prod.fst = some (.failed .panic) :=
  pollRead_filling_chunk_panics identityPrimitives.aes128Gcm _ 1 0xff 0xff 0 0xffff none
    (List.replicate 65535 0) [] _ rfl rfl rfl rfl rfl rfl (by decide) (by decide)
    List.length_replicate
    (fun read listed => by
      rw [List.mem_singleton] at listed
      rw [listed]
      exact List.cons_ne_nil _ _)
    (by simp only [List.flatten_cons, List.flatten_nil, List.append_nil])

end VmessStream

end Shoes.Vmess
