import Shoes.SaltChecker
import Shoes.CopyBidirectional
import Shoes.Lib.Cipher
import Shoes.Lib.LittleEndian

/-!
# Shadowsocks AEAD streams

`ShadowsocksStream` of `shadowsocks_stream.rs` carries a TCP stream in AEAD chunks. Each side
starts what it sends with its random salt, from which the session key is derived; each chunk is
the payload's two-byte big-endian length sealed, then the payload sealed, both with empty
associated data under nonces counted up from zero, little-endian (`IncreasingSequence`). In the
2022 edition the salt is followed by a sealed fixed header (a type byte, a timestamp, in a
response the request's salt, and the length of the first payload), and then that first payload
sealed without a length of its own.

The reader keeps the bytes it has read but not decrypted in `unprocessed_buf`, between
`unprocessed_start_offset` and `unprocessed_end_offset`, with the length of a chunk whose length
it has opened but whose payload has not all come, and the decrypted payloads in `processed_buf`,
which holds one longest payload. The writer seals a chunk into `write_cache` per `poll_write` and
writes the cache to the inner stream.

The inner streams are scripted as elsewhere (`Incoming` and `Writer`); the random salt, the key
derivation and the clocks are parameters, and the AEAD is any cipher that keeps the law of
`Cipher.Aead`.
-/

namespace Shoes.Shadowsocks

open Wire Cipher CopyBidirectional

def tagLen : Nat := 16

/-- `METADATA_SIZE`: the sealed length and the two tags of a chunk. -/
def metadataSize : Nat := 2 + 2 * tagLen

def nonceLen : Nat := 12

inductive ShadowsocksStreamType
  | aead
  | aead2022Server
  | aead2022Client
  deriving DecidableEq, Repr

namespace ShadowsocksStreamType

def maxPayloadLen : ShadowsocksStreamType → Nat
  | .aead => 0x3fff
  | .aead2022Server | .aead2022Client => 0xffff

/-- `max_packet_len` of `ShadowsocksStream::new`, the length of `unprocessed_buf` and of
`write_cache`: a longest payload with the metadata of its chunk. -/
def maxPacketLen (streamType : ShadowsocksStreamType) : Nat :=
  streamType.maxPayloadLen + metadataSize

end ShadowsocksStreamType

/-- A `SealingKey` or an `OpeningKey` bound to an `IncreasingSequence`: the session key, and the
sequence's bytes, which are the next nonce. -/
structure AeadKey where
  key : List UInt8
  nonce : List UInt8

namespace AeadKey

/-- The key bound to `IncreasingSequence::new`: the nonces start from zero. -/
def new (key : List UInt8) : AeadKey :=
  ⟨key, List.replicate nonceLen 0⟩

/-- `IncreasingSequence::advance` after it hands out the nonce: the loop over the bytes is
`LittleEndian.increment`. -/
def advance (aeadKey : AeadKey) : AeadKey :=
  { aeadKey with nonce := LittleEndian.increment aeadKey.nonce }

/-- `seal_in_place_separate_tag` with empty associated data and the tag copied after the sealed
bytes, and the key with its nonce used. -/
def sealInPlace (aead : Aead) (aeadKey : AeadKey) (plaintext : List UInt8) : List UInt8 × AeadKey :=
  (aead.sealed aeadKey.key aeadKey.nonce [] plaintext, aeadKey.advance)

/-- `open_in_place` with empty associated data: the buffer opened in place, `none` when the tag
does not check, and the key with its nonce used either way. -/
def openInPlace (aead : Aead) (aeadKey : AeadKey) (buffer : List UInt8) :
    Option (List UInt8) × AeadKey :=
  (aead.openInPlace aeadKey.key aeadKey.nonce [] buffer, aeadKey.advance)

end AeadKey

/-- The clocks a call reads: `Instant::now()` in nanoseconds, which the salt checker keeps, and
`current_time_secs()`, the seconds since the Unix epoch. -/
structure Clock where
  instant : Nat
  unixSecs : Nat

/-- A `ShadowsocksStream` without its inner stream. `unprocessed` is
`unprocessed_buf[unprocessed_start_offset..unprocessed_end_offset]`; `processedBuf` is
`processed_buf[..processed_end_offset]`, of which the bytes from `processedStartOffset` on are
still to be read; `writeCache` is `write_cache[write_cache_start_offset..write_cache_end_offset]`.
`createSessionKey` is the key's `create_session_key`, and the salt checker is the server's
`TimedSaltChecker`. -/
structure ShadowsocksStream where
  streamType : ShadowsocksStreamType
  createSessionKey : List UInt8 → List UInt8
  saltChecker : Option TimedSaltChecker
  encryptIv : List UInt8
  decryptIv : Option (List UInt8)
  sealingKey : AeadKey
  openingKey : Option AeadKey
  unprocessedStartOffset : Nat
  unprocessed : List UInt8
  unprocessedPendingLen : Option Nat
  processedBuf : List UInt8
  processedStartOffset : Nat
  writeCacheStartOffset : Nat
  writeCache : List UInt8
  isInitialRead : Bool
  isInitialWrite : Bool
  isEof : Bool

inductive DecryptState
  | needData
  | bufferFull
  | success
  deriving DecidableEq, Repr

/-- How a `poll_read` that does not fail ends: ready with the bytes put in the `ReadBuf`, or
pending. -/
inductive ReadPoll
  | ready (filled : List UInt8)
  | pending
  deriving DecidableEq, Repr

/-- The big-endian length before a payload: `(len >> 8) as u8` and `(len & 0xff) as u8`. -/
def lengthHeader (len : Nat) : List UInt8 :=
  [UInt8.ofNat (len >>> 8), UInt8.ofNat (len &&& 0xff)]

/-- The timestamp check of the 2022 headers: at most 30 seconds old and at most 2 seconds ahead. -/
def checkTimestamp (timestampSecs currentTimeSecs : Nat) : Result Unit :=
  if timestampSecs ≤ currentTimeSecs then
    if 30 < currentTimeSecs - timestampSecs then fail .other "timestamp is greater than 30 seconds"
    else .ok ()
  else
    let ahead := timestampSecs - currentTimeSecs
    if 2 < ahead then fail .other s!"timestamp is {ahead} seconds in the future"
    else .ok ()

namespace ShadowsocksStream

/-- `ShadowsocksStream::new`, with the salt that `generate_iv` draws. -/
def new (streamType : ShadowsocksStreamType) (encryptIv : List UInt8)
    (createSessionKey : List UInt8 → List UInt8) (saltChecker : Option TimedSaltChecker) :
    ShadowsocksStream where
  streamType
  createSessionKey
  saltChecker
  encryptIv
  decryptIv := none
  sealingKey := AeadKey.new (createSessionKey encryptIv)
  openingKey := none
  unprocessedStartOffset := 0
  unprocessed := []
  unprocessedPendingLen := none
  processedBuf := []
  processedStartOffset := 0
  writeCacheStartOffset := 0
  writeCache := []
  isInitialRead := true
  isInitialWrite := true
  isEof := false

/-- `salt_len`: the salt `generate_iv` draws has that many bytes. -/
def saltLen (stream : ShadowsocksStream) : Nat :=
  stream.encryptIv.length

/-- `stream_type.max_payload_len()`, also the length of `processed_buf`. -/
def maxPayloadLen (stream : ShadowsocksStream) : Nat :=
  stream.streamType.maxPayloadLen

/-- The length of `unprocessed_buf` and of `write_cache`. -/
def maxPacketLen (stream : ShadowsocksStream) : Nat :=
  stream.streamType.maxPacketLen

def unprocessedEndOffset (stream : ShadowsocksStream) : Nat :=
  stream.unprocessedStartOffset + stream.unprocessed.length

def writeCacheEndOffset (stream : ShadowsocksStream) : Nat :=
  stream.writeCacheStartOffset + stream.writeCache.length

/-- `count` bytes consumed from the front of the unprocessed bytes. -/
def consume (stream : ShadowsocksStream) (count : Nat) : ShadowsocksStream :=
  { stream with
    unprocessedStartOffset := stream.unprocessedStartOffset + count
    unprocessed := stream.unprocessed.drop count }

/-- Both unprocessed offsets back to zero once everything between them is consumed. -/
def resetIfDrained (stream : ShadowsocksStream) : ShadowsocksStream :=
  if stream.unprocessed = [] then { stream with unprocessedStartOffset := 0 } else stream

/-- `read_header_len`: the bytes the first read waits for, the salt and the sealed fixed header. -/
def readHeaderLen (stream : ShadowsocksStream) : Nat :=
  match stream.streamType with
  | .aead => stream.saltLen
  | .aead2022Server => stream.saltLen + 11 + tagLen
  | .aead2022Client => stream.saltLen + 11 + stream.saltLen + tagLen

/-- The opening key `process_opening_key` derives from the salt at the front of `unprocessed_buf`
(the header is read while `unprocessed_start_offset` is zero). -/
def openingKeyOf (stream : ShadowsocksStream) : AeadKey :=
  AeadKey.new (stream.createSessionKey (stream.unprocessed.take stream.saltLen))

/-- The salt check of `process_read_header`: with a salt checker, `insert_and_check` of the
salt at the instant `now`. -/
def checkSalt (stream : ShadowsocksStream) (now : Nat) : Result ShadowsocksStream :=
  match stream.saltChecker with
  | none => .ok stream
  | some checker =>
    let (fresh, checker) := checker.insertAndCheck now (stream.unprocessed.take stream.saltLen)
    if fresh then .ok { stream with saltChecker := some checker }
    else fail .other "got duplicate salt"

/-- The `Aead` arm of `process_read_header`: the salt checked, the opening key derived, and the
salt consumed. -/
def processAeadHeader (stream : ShadowsocksStream) (clock : Clock) : Result ShadowsocksStream := do
  let stream ← stream.checkSalt clock.instant
  .ok ({ stream with openingKey := some stream.openingKeyOf }.consume stream.saltLen)

/-- The `AEAD2022Server` arm of `process_read_header`: the client's fixed header opened under the
first nonce; its type must be 0 and its timestamp recent; the salt is checked and kept for the
response, and the variable-length header that follows becomes the pending payload. -/
def processServerHeader (aead : Aead) (stream : ShadowsocksStream) (clock : Clock) :
    Result ShadowsocksStream :=
  let fixedLen := 11 + tagLen
  match stream.openingKeyOf.openInPlace aead ((stream.unprocessed.drop stream.saltLen).take fixedLen) with
  | (none, _) => fail .invalidData "open failed for fixed length request header"
  | (some header, openingKey) =>
    let headerType := header.getD 0 0
    if headerType ≠ 0 then fail .invalidData s!"invalid client header type, got {headerType}"
    else do
      checkTimestamp (beValue ((header.drop 1).take 8)) clock.unixSecs
      let stream ← stream.checkSalt clock.instant
      .ok ({ stream with
          openingKey := some openingKey
          decryptIv := some (stream.unprocessed.take stream.saltLen)
          unprocessedPendingLen := some (beValue ((header.drop 9).take 2)) }.consume
        (stream.saltLen + fixedLen))

/-- The `AEAD2022Client` arm of `process_read_header`: the server's fixed header opened under the
first nonce; its type must be 1, its timestamp recent and the request salt in it this stream's
own; the first payload becomes the pending one. -/
def processClientHeader (aead : Aead) (stream : ShadowsocksStream) (clock : Clock) :
    Result ShadowsocksStream :=
  let fixedLen := 11 + stream.saltLen + tagLen
  match stream.openingKeyOf.openInPlace aead ((stream.unprocessed.drop stream.saltLen).take fixedLen) with
  | (none, _) => fail .invalidData "open failed for fixed length request header"
  | (some header, openingKey) =>
    let headerType := header.getD 0 0
    if headerType ≠ 1 then fail .invalidData s!"invalid server header type, got {headerType}"
    else do
      checkTimestamp (beValue ((header.drop 1).take 8)) clock.unixSecs
      let stream ← stream.checkSalt clock.instant
      if (header.drop 9).take stream.saltLen ≠ stream.encryptIv then
        fail .invalidData "server returned request salt does not match"
      else
        .ok ({ stream with
            openingKey := some openingKey
            unprocessedPendingLen := some (beValue ((header.drop (9 + stream.saltLen)).take 2)) }.consume
          (stream.saltLen + fixedLen))

/-- `process_read_header`, and both offsets back to zero when the header was all there was. -/
def processReadHeader (aead : Aead) (stream : ShadowsocksStream) (clock : Clock) :
    Result ShadowsocksStream :=
  let processed :=
    match stream.streamType with
    | .aead => stream.processAeadHeader clock
    | .aead2022Server => stream.processServerHeader aead clock
    | .aead2022Client => stream.processClientHeader aead clock
  processed.map resetIfDrained

/-- The end of `try_decrypt`: the payload of `pendingLen` bytes and its tag at the front opened in
place, the payload copied after the processed bytes, and the sealed payload consumed. -/
def decryptPayload (aead : Aead) (stream : ShadowsocksStream) (pendingLen : Nat) :
    Result (DecryptState × ShadowsocksStream) := do
  let openingKey ← expect stream.openingKey
  match openingKey.openInPlace aead (stream.unprocessed.take (pendingLen + tagLen)) with
  | (none, _) => fail .invalidData "open failed for data"
  | (some opened, openingKey) =>
    .ok (.success, resetIfDrained ({ stream with
      openingKey := some openingKey
      processedBuf := stream.processedBuf ++ opened.take pendingLen }.consume (pendingLen + tagLen)))

/-- `try_decrypt`: a chunk whose length is pending, or a new one whose sealed length is opened
first, decrypted into the processed buffer when it is all there and its payload fits. -/
def tryDecrypt (aead : Aead) (stream : ShadowsocksStream) :
    Result (DecryptState × ShadowsocksStream) :=
  let availableLen := stream.unprocessed.length
  match stream.unprocessedPendingLen with
  | some len =>
    if availableLen < len + tagLen then .ok (.needData, stream)
    else if stream.maxPayloadLen < stream.processedBuf.length + len then .ok (.bufferFull, stream)
    else { stream with unprocessedPendingLen := none }.decryptPayload aead len
  | none =>
    let dataLengthLen := 2 + tagLen
    if availableLen < dataLengthLen then .ok (.needData, stream)
    else do
      let openingKey ← expect stream.openingKey
      match openingKey.openInPlace aead (stream.unprocessed.take dataLengthLen) with
      | (none, _) => fail .invalidData "open failed for length"
      | (some opened, openingKey) =>
        let dataLenNoTag := beValue (opened.take 2)
        if stream.maxPayloadLen < dataLenNoTag then
          fail .invalidData "data length larger than max allowed size"
        else
          let stream := { stream with openingKey := some openingKey }.consume dataLengthLen
          if stream.unprocessed.length < dataLenNoTag + tagLen then
            .ok (.needData, resetIfDrained { stream with unprocessedPendingLen := some dataLenNoTag })
          else if stream.maxPayloadLen < stream.processedBuf.length + dataLenNoTag then
            .ok (.bufferFull, stream)
          else stream.decryptPayload aead dataLenNoTag

/-- `read_processed`: as much of the processed bytes as the `ReadBuf` has room for. Both
assertions panic: the one that there are processed bytes, and the one that something is
written. -/
def readProcessed (stream : ShadowsocksStream) (unfilledLen : Nat) :
    Result (List UInt8 × ShadowsocksStream) :=
  if stream.processedBuf.length = 0 then abort
  else
    let availableLen := stream.processedBuf.length - stream.processedStartOffset
    let writeAmount := min unfilledLen availableLen
    if writeAmount = 0 then abort
    else
      let filled := (stream.processedBuf.drop stream.processedStartOffset).take writeAmount
      let newProcessedStartOffset := stream.processedStartOffset + writeAmount
      if newProcessedStartOffset = stream.processedBuf.length then
        .ok (filled, { stream with processedBuf := [], processedStartOffset := 0 })
      else .ok (filled, { stream with processedStartOffset := newProcessedStartOffset })

/-- `reset_unprocessed_buf_offset`: the unprocessed bytes moved to the front of the buffer, after
the assertion that some were consumed and some are left. -/
def resetUnprocessedBufOffset (stream : ShadowsocksStream) : Result ShadowsocksStream :=
  if 0 < stream.unprocessedStartOffset ∧ stream.unprocessedStartOffset < stream.unprocessedEndOffset then
    .ok { stream with unprocessedStartOffset := 0 }
  else abort

/-- Room for the next read: unprocessed bytes that reach the end of `unprocessed_buf` are moved to
its front, and then it asserts that there is room. -/
def makeRoom (stream : ShadowsocksStream) : Result ShadowsocksStream :=
  if stream.unprocessedEndOffset = stream.maxPacketLen then do
    let stream ← stream.resetUnprocessedBufOffset
    if stream.unprocessedEndOffset < stream.maxPacketLen then .ok stream else abort
  else .ok stream

/-- The `try_decrypt` loop of `poll_read_inner`, for at most `fuel` calls: on until a call needs
data or finds the processed buffer full (after which it asserts that there are processed bytes),
or, when not filling the buffer, until a chunk has given bytes. -/
def decryptLoop (aead : Aead) (fillBuffer : Bool) :
    Nat → ShadowsocksStream → Option (Result ShadowsocksStream)
  | 0, _ => none
  | fuel + 1, stream =>
    match stream.tryDecrypt aead with
    | .error fault => some (.error fault)
    | .ok (.needData, stream) => some (.ok stream)
    | .ok (.bufferFull, stream) =>
      if stream.processedBuf.length = 0 then some abort else some (.ok stream)
    | .ok (.success, stream) =>
      if !fillBuffer && 0 < stream.processedBuf.length then some (.ok stream)
      else decryptLoop aead fillBuffer fuel stream

/-- The main loop of `poll_read_inner`, for at most `fuel` passes: decrypt what is buffered, make
room, return processed bytes, or nothing at the end of the stream, and otherwise read the inner
stream after the unprocessed bytes; an empty read is the end of the stream. -/
def readLoop (aead : Aead) (unfilledLen : Nat) (fillBuffer : Bool) :
    Nat → ShadowsocksStream → Incoming → Option (Result (ReadPoll × ShadowsocksStream × Incoming))
  | 0, _, _ => none
  | fuel + 1, stream, incoming =>
    let decrypted :=
      if 0 < stream.unprocessedEndOffset then
        stream.decryptLoop aead fillBuffer (stream.unprocessed.length + 1)
      else some (.ok stream)
    match decrypted with
    | none => none
    | some (.error fault) => some (.error fault)
    | some (.ok stream) =>
      match stream.makeRoom with
      | .error fault => some (.error fault)
      | .ok stream =>
        if 0 < stream.processedBuf.length then
          some ((stream.readProcessed unfilledLen).map fun (filled, stream) =>
            (.ready filled, stream, incoming))
        else if stream.isEof then some (.ok (.ready [], stream, incoming))
        else
          match readIncoming (stream.maxPacketLen - stream.unprocessedEndOffset) incoming with
          | none => some (.ok (.pending, stream, incoming))
          | some (bytes, incoming) =>
            if bytes.isEmpty then readLoop aead unfilledLen fillBuffer fuel { stream with isEof := true } incoming
            else
              readLoop aead unfilledLen fillBuffer fuel
                { stream with unprocessed := stream.unprocessed ++ bytes } incoming

/-- How the first read loop of `poll_read_inner` ends: pending, at the end of the stream, or with
the whole header buffered. -/
inductive HeaderRead
  | pending (stream : ShadowsocksStream) (incoming : Incoming)
  | ended (stream : ShadowsocksStream) (incoming : Incoming)
  | complete (stream : ShadowsocksStream) (incoming : Incoming)

/-- The first read loop of `poll_read_inner`, for at most `fuel` reads: the inner stream read
after the bytes so far until `read_header_len` bytes are there. -/
def headerLoop : Nat → ShadowsocksStream → Incoming → Option HeaderRead
  | 0, _, _ => none
  | fuel + 1, stream, incoming =>
    match readIncoming (stream.maxPacketLen - stream.unprocessedEndOffset) incoming with
    | none => some (.pending stream incoming)
    | some (bytes, incoming) =>
      if bytes.isEmpty then some (.ended { stream with isEof := true } incoming)
      else
        let stream := { stream with unprocessed := stream.unprocessed ++ bytes }
        if stream.readHeaderLen ≤ stream.unprocessedEndOffset then some (.complete stream incoming)
        else headerLoop fuel stream incoming

/-- Enough passes for every inner stream: each read but the last two takes a byte at least. -/
def readFuel (incoming : Incoming) : Nat :=
  (incoming.map List.length).sum + 2

/-- `poll_read_inner` into a `ReadBuf` with `unfilledLen` bytes of room: on the first read, the
header read and processed, then the main loop. -/
def pollReadInner (aead : Aead) (clock : Clock) (unfilledLen : Nat) (fillBuffer : Bool)
    (stream : ShadowsocksStream) (incoming : Incoming) :
    Option (Result (ReadPoll × ShadowsocksStream × Incoming)) :=
  if stream.isInitialRead && !stream.isEof then
    match headerLoop (readFuel incoming) stream incoming with
    | none => none
    | some (.pending stream incoming) => some (.ok (.pending, stream, incoming))
    | some (.ended stream incoming) => some (.ok (.ready [], stream, incoming))
    | some (.complete stream incoming) =>
      match stream.processReadHeader aead clock with
      | .error fault => some (.error fault)
      | .ok stream =>
        readLoop aead unfilledLen fillBuffer (readFuel incoming) { stream with isInitialRead := false }
          incoming
  else readLoop aead unfilledLen fillBuffer (readFuel incoming) stream incoming

/-- `AsyncRead::poll_read`: the buffer filled. -/
def pollRead (aead : Aead) (clock : Clock) (unfilledLen : Nat) (stream : ShadowsocksStream)
    (incoming : Incoming) : Option (Result (ReadPoll × ShadowsocksStream × Incoming)) :=
  stream.pollReadInner aead clock unfilledLen true incoming

/-- `AsyncReadMessage::poll_read_message`: the loop stops at the first chunk that gives bytes. -/
def pollReadMessage (aead : Aead) (clock : Clock) (unfilledLen : Nat) (stream : ShadowsocksStream)
    (incoming : Incoming) : Option (Result (ReadPoll × ShadowsocksStream × Incoming)) :=
  stream.pollReadInner aead clock unfilledLen false incoming

/-- `encrypt_single`: `input` sealed after the cached bytes, behind its sealed length when
`writeLengthHeader` is set. The slices of `write_cache` past its end that it writes panic when the
cache has no room for them. -/
def encryptSingle (aead : Aead) (stream : ShadowsocksStream) (input : List UInt8)
    (writeLengthHeader : Bool) : Result ShadowsocksStream :=
  let written := (if writeLengthHeader then 2 + tagLen else 0) + input.length + tagLen
  if stream.maxPacketLen < stream.writeCacheEndOffset + written then abort
  else if writeLengthHeader then
    let (sealedLength, sealingKey) := stream.sealingKey.sealInPlace aead (lengthHeader input.length)
    let (sealedInput, sealingKey) := sealingKey.sealInPlace aead input
    .ok { stream with sealingKey, writeCache := stream.writeCache ++ sealedLength ++ sealedInput }
  else
    let (sealedInput, sealingKey) := stream.sealingKey.sealInPlace aead input
    .ok { stream with sealingKey, writeCache := stream.writeCache ++ sealedInput }

/-- `do_write_cache`: the cached bytes offered to the inner stream until it has taken them all
(then both offsets go back to zero), is pending, fails, or takes none. Whether all were written. -/
def doWriteCache (stream : ShadowsocksStream) (writer : Writer) :
    Except IoError Bool × ShadowsocksStream × Writer :=
  match _written : writer.pollWrite stream.writeCache with
  | (.ready (.ok written), writer) =>
    if written = 0 then
      (.error ⟨.unexpectedEof, "EOF while writing cached encrypted data"⟩, stream, writer)
    else
      let stream := { stream with
        writeCacheStartOffset := stream.writeCacheStartOffset + written
        writeCache := stream.writeCache.drop written }
      if stream.writeCache = [] then (.ok true, { stream with writeCacheStartOffset := 0 }, writer)
      else doWriteCache stream writer
  | (.ready (.error err), writer) => (.error err, stream, writer)
  | (.pending, writer) => (.ok false, stream, writer)
termination_by writer.writeReplies.length
decreasing_by exact pollWrite_shorter _written

/-- `process_write_header`: the salt and the first chunk in the cache. In the `Aead` edition the
first chunk carries as much of `buf` as fits and must carry a byte; in the 2022 edition the fixed
header comes first (a response echoes the request's salt, which the reader kept, and must come
after it), then the first payload sealed without a length of its own; a request must hold all of
`buf`. -/
def processWriteHeader (aead : Aead) (stream : ShadowsocksStream) (buf : List UInt8)
    (currentTimeSecs : Nat) : Result (Nat × ShadowsocksStream) :=
  match stream.streamType with
  | .aead => do
    let stream := { stream with writeCache := stream.encryptIv }
    let space ← usizeSub stream.maxPacketLen stream.writeCacheEndOffset
    let room ← usizeSub space metadataSize
    let handledLen := min buf.length room
    if handledLen = 0 then abort
    else do
      let stream ← stream.encryptSingle aead (buf.take handledLen) true
      .ok (handledLen, stream)
  | .aead2022Server =>
    if stream.isInitialRead then abort
    else do
      let decryptIv ← expect stream.decryptIv
      let stream := { stream with decryptIv := none, writeCache := stream.encryptIv }
      let responseHeaderLen := 1 + 8 + stream.saltLen + 2
      let space ← usizeSub stream.maxPacketLen stream.saltLen
      let space ← usizeSub space (responseHeaderLen + tagLen)
      let room ← usizeSub space tagLen
      let handledLen := min buf.length room
      let responseHeader :=
        [1] ++ u64ToBe (UInt64.ofNat currentTimeSecs) ++ decryptIv ++ lengthHeader handledLen
      let stream ← stream.encryptSingle aead responseHeader false
      let stream ← stream.encryptSingle aead (buf.take handledLen) false
      .ok (handledLen, stream)
  | .aead2022Client => do
    let stream := { stream with writeCache := stream.encryptIv }
    let space ← usizeSub stream.maxPacketLen stream.saltLen
    let space ← usizeSub space (11 + tagLen)
    let room ← usizeSub space tagLen
    if room < buf.length then abort
    else do
      let requestHeader := [0] ++ u64ToBe (UInt64.ofNat currentTimeSecs) ++ lengthHeader buf.length
      let stream ← stream.encryptSingle aead requestHeader false
      let stream ← stream.encryptSingle aead buf false
      .ok (buf.length, stream)

/-- The end of `poll_write`: a chunk of as much of `buf` as the cache's space, less a chunk's
metadata, and a longest payload allow, sealed into the cache, and the cache written. -/
def writeChunk (aead : Aead) (stream : ShadowsocksStream) (writer : Writer) (buf : List UInt8)
    (writeCacheSpace : Nat) : Result (Poll Nat × ShadowsocksStream × Writer) := do
  let maxWriteCacheDataSize ← usizeSub writeCacheSpace metadataSize
  let packetDataSize := min (min buf.length maxWriteCacheDataSize) stream.maxPayloadLen
  let stream ← stream.encryptSingle aead (buf.take packetDataSize) true
  match stream.doWriteCache writer with
  | (.error err, stream, writer) => .ok (.ready (.error err), stream, writer)
  | (.ok _, stream, writer) => .ok (.ready (.ok packetDataSize), stream, writer)

/-- `AsyncWrite::poll_write`: the header with the first chunk on the first write; later, a chunk
per call, after writing out a cache that has no room for one. The sealed chunk counts as written
whether or not the inner stream has taken it. -/
def pollWrite (aead : Aead) (stream : ShadowsocksStream) (writer : Writer) (buf : List UInt8)
    (currentTimeSecs : Nat) : Result (Poll Nat × ShadowsocksStream × Writer) :=
  if stream.isInitialWrite then do
    let (handledLen, stream) ← stream.processWriteHeader aead buf currentTimeSecs
    if handledLen = 0 ∨ stream.writeCacheEndOffset = 0 then abort
    else
      match { stream with isInitialWrite := false }.doWriteCache writer with
      | (.error err, stream, writer) => .ok (.ready (.error err), stream, writer)
      | (.ok _, stream, writer) => .ok (.ready (.ok handledLen), stream, writer)
  else do
    let writeCacheSpace ← usizeSub stream.maxPacketLen stream.writeCacheEndOffset
    if writeCacheSpace ≤ metadataSize then
      match stream.doWriteCache writer with
      | (.error err, stream, writer) => .ok (.ready (.error err), stream, writer)
      | (.ok false, stream, writer) => .ok (.pending, stream, writer)
      | (.ok true, stream, writer) =>
        if stream.writeCacheStartOffset = 0 ∧ stream.writeCacheEndOffset = 0 then
          stream.writeChunk aead writer buf stream.maxPacketLen
        else abort
    else stream.writeChunk aead writer buf writeCacheSpace

/-- `AsyncWrite::poll_flush`: the cache written out, then the inner stream flushed. Once written
the cache is empty, so the `while` loop makes one pass. -/
def pollFlush (stream : ShadowsocksStream) (writer : Writer) : Poll Unit × ShadowsocksStream × Writer :=
  if stream.writeCacheEndOffset = 0 then
    let (reply, writer) := writer.pollFlush
    (reply, stream, writer)
  else
    match stream.doWriteCache writer with
    | (.error err, stream, writer) => (.ready (.error err), stream, writer)
    | (.ok false, stream, writer) => (.pending, stream, writer)
    | (.ok true, stream, writer) =>
      let (reply, writer) := writer.pollFlush
      (reply, stream, writer)

/-- `AsyncWriteMessage::poll_write_message`: the message sealed as one chunk into the cache,
pending while the cache has no room for it; the first message must go whole into the header. -/
def pollWriteMessage (aead : Aead) (stream : ShadowsocksStream) (buf : List UInt8)
    (currentTimeSecs : Nat) : Result (Poll Unit × ShadowsocksStream) :=
  if stream.isInitialWrite then do
    let (handledLen, stream) ← stream.processWriteHeader aead buf currentTimeSecs
    if handledLen ≠ buf.length then abort
    else .ok (.ready (.ok ()), { stream with isInitialWrite := false })
  else do
    let writeCacheSpace ← usizeSub stream.maxPacketLen stream.writeCacheEndOffset
    let packetSize := buf.length + metadataSize
    if stream.maxPacketLen < packetSize then abort
    else if writeCacheSpace < packetSize then .ok (.pending, stream)
    else do
      let stream ← stream.encryptSingle aead buf true
      .ok (.ready (.ok ()), stream)

end ShadowsocksStream

end Shoes.Shadowsocks
