import Shoes.CopyBidirectional

/-!
# NaiveProxy padding

`NaivePaddingStream` of `naive_padding_stream.rs` wraps a stream and, with the padding type
`Variant1`, carries the first `NUM_FIRST_PADDINGS` (eight) frames each way in padded frames: a
two-byte big-endian payload length, a padding length byte, the payload and that many zeros. Each
side counts its own frames (the writer when a frame has been written out, the reader when its
padding has been skipped) and passes bytes through as they are after the eighth.

This module models the stream's reading and writing and states what a padded stream stands for:
the payloads of its first frames and then the bytes after them (`unpadFrames`), of which a
padded frame (`paddedFrame`) gives back its payload. `NaivePaddingRead` and `NaivePaddingWrite`
prove what each side does.

The random draws of `generate_padding_size` and `compute_fragment_limit` are parameters of the
calls that make them.
-/

namespace Shoes.NaiveProxy

open Wire CopyBidirectional

def numFirstPaddings : Nat := 8

def maxPaddingSize : UInt8 := 255

def paddingHeaderSize : Nat := 3

def maxPayloadSize : Nat := 65535

/-- `MAX_FRAME_SIZE`: the size of the read and the write buffer. -/
def maxFrameSize : Nat := paddingHeaderSize + maxPayloadSize + maxPaddingSize.toNat

def maxPayloadPerFrame : Nat := 64 * 1024 - paddingHeaderSize - maxPaddingSize.toNat

def mediumPayloadLow : Nat := 400

def mediumPayloadHigh : Nat := 1024

inductive PaddingType
  | none
  | variant1
  deriving DecidableEq, Repr

inductive PaddingDirection
  | client
  | server
  deriving DecidableEq, Repr

/-- The state of a `NaivePaddingStream`. `readBuffered` is `read_buffer[read_buffer_start..
read_buffer_end]`, the bytes read from the inner stream and not yet decoded, and
`currentFrame` is `current_frame`: the payload length, the padding length and the payload bytes
delivered of the frame being decoded. `pendingWrite` is `write_buffer[write_start..write_end]`,
the part of the encoded frame not yet written to the inner stream. -/
structure NaivePaddingStream where
  paddingType : PaddingType
  direction : PaddingDirection
  numReadFrames : Nat
  numWrittenFrames : Nat
  readBufferStart : Nat
  readBuffered : List UInt8
  currentFrame : Option (Nat × Nat × Nat)
  pendingWrite : List UInt8
  writePayloadLen : Nat

namespace NaivePaddingStream

def new (direction : PaddingDirection) (paddingType : PaddingType) : NaivePaddingStream :=
  ⟨paddingType, direction, 0, 0, 0, [], none, [], 0⟩

def readBufferEnd (stream : NaivePaddingStream) : Nat :=
  stream.readBufferStart + stream.readBuffered.length

/-- `drain_read_buffer` into a `ReadBuf` with `remaining` bytes of room: the bytes copied, and
the stream, whose offsets go back to zero once the buffer is empty. -/
def drainReadBuffer (stream : NaivePaddingStream) (remaining : Nat) :
    List UInt8 × NaivePaddingStream :=
  let toCopy := min stream.readBuffered.length remaining
  (stream.readBuffered.take toCopy,
    if stream.readBufferEnd ≤ stream.readBufferStart + toCopy then
      { stream with readBufferStart := 0, readBuffered := [] }
    else
      { stream with readBufferStart := stream.readBufferStart + toCopy,
                    readBuffered := stream.readBuffered.drop toCopy })

def maybeResetReadBuffer (stream : NaivePaddingStream) : NaivePaddingStream :=
  if stream.readBuffered.isEmpty then { stream with readBufferStart := 0 } else stream

def shouldPadReads (stream : NaivePaddingStream) : Bool :=
  stream.paddingType != .none && decide (stream.numReadFrames < numFirstPaddings)

def shouldPadWrites (stream : NaivePaddingStream) : Bool :=
  stream.paddingType != .none && decide (stream.numWrittenFrames < numFirstPaddings)

/-- `reset_read_buffer_offset`: the undecoded bytes moved to the front of the buffer. -/
def resetReadBufferOffset (stream : NaivePaddingStream) : NaivePaddingStream :=
  if 0 < stream.readBufferStart ∧ stream.readBufferStart < stream.readBufferEnd then
    { stream with readBufferStart := 0 }
  else if stream.readBufferStart = stream.readBufferEnd then
    { stream with readBufferStart := 0, readBuffered := [] }
  else stream

/-- The end of a frame in `try_decode_to_buf`: its padding skipped and the frame counted. -/
def skipPadding (stream : NaivePaddingStream) (paddingLen : Nat) : NaivePaddingStream :=
  maybeResetReadBuffer
    { stream with readBufferStart := stream.readBufferStart + paddingLen,
                  readBuffered := stream.readBuffered.drop paddingLen,
                  currentFrame := none,
                  numReadFrames := stream.numReadFrames + 1 }

/-- The part of `try_decode_to_buf` after the frame's header is known: as much of the payload as
the buffer has and the `ReadBuf` takes, then the padding once the payload is complete. -/
def continueFrame (stream : NaivePaddingStream) (remaining payloadLen paddingLen
    payloadDelivered : Nat) : Option (List UInt8) × NaivePaddingStream :=
  let payloadRemaining := payloadLen - payloadDelivered
  let available := stream.readBuffered.length
  if 0 < payloadRemaining then
    if available = 0 then (none, stream)
    else
      let canDeliver := min (min payloadRemaining available) remaining
      let delivered := stream.readBuffered.take canDeliver
      let stream := { stream with readBufferStart := stream.readBufferStart + canDeliver,
                                  readBuffered := stream.readBuffered.drop canDeliver }
      let newDelivered := payloadDelivered + canDeliver
      if newDelivered < payloadLen then
        (some delivered, { stream with currentFrame := some (payloadLen, paddingLen, newDelivered) })
      else if stream.readBuffered.length < paddingLen then
        (some delivered, { stream with currentFrame := some (payloadLen, paddingLen, newDelivered) })
      else (some delivered, stream.skipPadding paddingLen)
  else if available < paddingLen then (none, stream)
  else (some [], stream.skipPadding paddingLen)

/-- `try_decode_to_buf` into a `ReadBuf` with `remaining` bytes of room: the bytes put there, or
`none` when more data is needed, and the stream after, which changes in both cases. -/
def tryDecodeToBuf (stream : NaivePaddingStream) (remaining : Nat) :
    Option (List UInt8) × NaivePaddingStream :=
  match stream.currentFrame with
  | some (payloadLen, paddingLen, payloadDelivered) =>
    stream.continueFrame remaining payloadLen paddingLen payloadDelivered
  | none =>
    match stream.readBuffered with
    | high :: low :: padding :: rest =>
      let payloadLen := (u16FromBe [high, low]).toNat
      let paddingLen := padding.toNat
      continueFrame
        { stream with readBufferStart := stream.readBufferStart + paddingHeaderSize,
                      readBuffered := rest,
                      currentFrame := some (payloadLen, paddingLen, 0) }
        remaining payloadLen paddingLen 0
    | _ => (none, stream)

/-- `poll_read` once reads are no longer padded: what is left in the read buffer, then the
inner stream's bytes as they come. -/
def passThrough (stream : NaivePaddingStream) (remaining : Nat) (incoming : Incoming) :
    Poll (List UInt8) × NaivePaddingStream × Incoming :=
  if 0 < stream.readBuffered.length then
    let (filled, stream) := stream.drainReadBuffer remaining
    (.ready (.ok filled), stream, incoming)
  else
    match readIncoming remaining incoming with
    | none => (.pending, stream, incoming)
    | some (filled, incoming) => (.ready (.ok filled), stream, incoming)

/-- The decoding loop of `poll_read`, for at most `fuel` passes: a pass decodes what it can, and
reads the inner stream into the free end of the read buffer when more data is needed, first
moving the undecoded bytes to the front if the buffer is full to its end. -/
def decodeLoop (remaining : Nat) :
    Nat → NaivePaddingStream → Incoming → Option (Poll (List UInt8) × NaivePaddingStream × Incoming)
  | 0, _, _ => none
  | fuel + 1, stream, incoming =>
    match stream.tryDecodeToBuf remaining with
    | (some filled, stream) =>
      if 0 < filled.length then some (.ready (.ok filled), stream, incoming)
      -- a frame of padding only was skipped; the eighth frame ends the padded reads
      else if !stream.shouldPadReads then some (stream.passThrough remaining incoming)
      else decodeLoop remaining fuel stream incoming
    | (none, stream) =>
      let stream :=
        if maxFrameSize ≤ stream.readBufferEnd then stream.resetReadBufferOffset else stream
      match readIncoming (maxFrameSize - stream.readBufferEnd) incoming with
      | none => some (.pending, stream, incoming)
      | some (bytes, incoming) =>
        if bytes.length = 0 then some (.ready (.ok []), stream, incoming)
        else decodeLoop remaining fuel { stream with readBuffered := stream.readBuffered ++ bytes }
          incoming

/-- Enough passes for every inner stream: each pass that goes on reads a byte at least or ends a
frame, and at most eight frames are decoded. -/
def decodeFuel (incoming : Incoming) : Nat :=
  (incoming.map List.length).sum + numFirstPaddings + 1

/-- `poll_read` into a `ReadBuf` with `remaining` bytes of room. -/
def pollRead (stream : NaivePaddingStream) (remaining : Nat) (incoming : Incoming) :
    Option (Poll (List UInt8) × NaivePaddingStream × Incoming) :=
  if remaining = 0 then some (.ready (.ok []), stream, incoming)
  else if !stream.shouldPadReads then some (stream.passThrough remaining incoming)
  else decodeLoop remaining (decodeFuel incoming) stream incoming

/-- `compute_fragment_limit`, with `limit` the size `rng` drew from `200..=300`: a server writing
a medium payload hands the inner stream at most that much of the frame at a time. -/
def computeFragmentLimit (direction : PaddingDirection) (payloadLen remaining limit : Nat) : Nat :=
  if direction = .server ∧ mediumPayloadLow < payloadLen ∧ payloadLen < mediumPayloadHigh then
    min remaining limit
  else remaining

/-- `encode_frame`, with `paddingSize` the size `generate_padding_size` drew: the frame becomes
the pending write. -/
def encodeFrame (stream : NaivePaddingStream) (payload : List UInt8) (paddingSize : UInt8) :
    Except IoError NaivePaddingStream :=
  if maxPayloadSize < payload.length then
    let payloadLength := payload.length
    .error ⟨.invalidInput, s!"Payload too large: {payloadLength} > {maxPayloadSize}"⟩
  else
    let payloadLen : UInt16 := UInt16.ofNat payload.length
    .ok { stream with
      pendingWrite := [(payloadLen >>> 8).toUInt8, (payloadLen &&& 0xff).toUInt8, paddingSize] ++
        payload ++ List.replicate paddingSize.toNat 0
      writePayloadLen := payload.length }

/-- `poll_write_buffered`: one write of the pending frame, cut to the fragment limit; the
payload's length once the frame is all written, `none` while part of it is left. -/
def pollWriteBuffered (stream : NaivePaddingStream) (limit : Nat) (writer : Writer) :
    Poll (Option Nat) × NaivePaddingStream × Writer :=
  let remaining := stream.pendingWrite.length
  if remaining = 0 then (.ready (.ok (some stream.writePayloadLen)), stream, writer)
  else
    let fragmentLimit :=
      computeFragmentLimit stream.direction stream.writePayloadLen remaining limit
    match writer.pollWrite (stream.pendingWrite.take fragmentLimit) with
    | (.ready (.ok written), writer) =>
      let stream := { stream with pendingWrite := stream.pendingWrite.drop written }
      if stream.pendingWrite.isEmpty then
        (.ready (.ok (some stream.writePayloadLen)),
          { stream with numWrittenFrames := stream.numWrittenFrames + 1 }, writer)
      else (.ready (.ok none), stream, writer)
    | (.ready (.error err), writer) => (.ready (.error err), stream, writer)
    | (.pending, writer) => (.pending, stream, writer)

/-- What `poll_write` returns after `poll_write_buffered`: the payload's length once the frame is
written, and `Pending` (with the task woken) while part of it is left. -/
def finishWrite : Poll (Option Nat) × NaivePaddingStream × Writer → Poll Nat × NaivePaddingStream × Writer
  | (.ready (.ok (some payloadLen)), stream, writer) => (.ready (.ok payloadLen), stream, writer)
  | (.ready (.ok none), stream, writer) => (.pending, stream, writer)
  | (.ready (.error err), stream, writer) => (.ready (.error err), stream, writer)
  | (.pending, stream, writer) => (.pending, stream, writer)

/-- `poll_write` of `buf`: through to the inner stream once writes are no longer padded;
otherwise the pending frame is finished first, or else the front of `buf` is encoded in a frame
of `paddingSize` zeros and written. -/
def pollWrite (stream : NaivePaddingStream) (paddingSize : UInt8) (limit : Nat) (writer : Writer)
    (buf : List UInt8) : Poll Nat × NaivePaddingStream × Writer :=
  if !stream.shouldPadWrites then
    let (reply, writer) := writer.pollWrite buf
    (reply, stream, writer)
  else if 0 < stream.pendingWrite.length then finishWrite (stream.pollWriteBuffered limit writer)
  else
    let payload := if maxPayloadPerFrame < buf.length then buf.take maxPayloadPerFrame else buf
    match stream.encodeFrame payload paddingSize with
    | .error err => (.ready (.error err), stream, writer)
    | .ok stream => finishWrite (stream.pollWriteBuffered limit writer)

/-- The loop of `poll_flush`, for at most `fuel` passes: the pending frame written out, then the
inner stream flushed. -/
def flushLoop (limit : Nat) :
    Nat → NaivePaddingStream → Writer → Option (Poll Unit × NaivePaddingStream × Writer)
  | 0, _, _ => none
  | fuel + 1, stream, writer =>
    if 0 < stream.pendingWrite.length then
      match stream.pollWriteBuffered limit writer with
      | (.ready (.ok _), stream, writer) => flushLoop limit fuel stream writer
      | (.ready (.error err), stream, writer) => some (.ready (.error err), stream, writer)
      | (.pending, stream, writer) => some (.pending, stream, writer)
    else
      let (reply, writer) := writer.pollFlush
      some (reply, stream, writer)

/-- `poll_flush`; each pass of its loop takes a reply of the inner stream. -/
def pollFlush (stream : NaivePaddingStream) (limit : Nat) (writer : Writer) :
    Option (Poll Unit × NaivePaddingStream × Writer) :=
  flushLoop limit (writer.writeReplies.length + 1) stream writer

end NaivePaddingStream

theorem maxFrameSize_eq : maxFrameSize = 65793 :=
  rfl

/-- The bytes a reader delivers from `bytes` with `frames` padded frames to come: each frame's
payload, as much of it as is there, then the bytes after the last of them as they are. -/
def unpadFrames : Nat → List UInt8 → List UInt8
  | 0, bytes => bytes
  | frames + 1, high :: low :: padding :: rest =>
    rest.take (u16FromBe [high, low]).toNat ++
      unpadFrames frames (rest.drop ((u16FromBe [high, low]).toNat + padding.toNat))
  | _ + 1, _ => []

/-- What is left of a frame whose header has been read, with `payloadLeft` payload bytes and
then `paddingLen` padding bytes to come in `bytes`, followed by `frames` more frames. -/
def resumeFrame (frames payloadLeft paddingLen : Nat) (bytes : List UInt8) : List UInt8 :=
  bytes.take payloadLeft ++ unpadFrames frames (bytes.drop (payloadLeft + paddingLen))

@[simp] theorem unpadFrames_zero (bytes : List UInt8) : unpadFrames 0 bytes = bytes := by
  rw [unpadFrames]

@[simp] theorem unpadFrames_nil (frames : Nat) : unpadFrames frames [] = [] := by
  cases frames <;> rfl

theorem unpadFrames_succ_cons (frames : Nat) (high low padding : UInt8) (rest : List UInt8) :
    unpadFrames (frames + 1) (high :: low :: padding :: rest) =
      resumeFrame frames (u16FromBe [high, low]).toNat padding.toNat rest :=
  rfl

theorem unpadFrames_short {frames : Nat} (padded : 0 < frames) {bytes : List UInt8}
    (short : bytes.length < paddingHeaderSize) : unpadFrames frames bytes = [] := by
  obtain ⟨frames, rfl⟩ := Nat.exists_eq_add_of_lt padded
  match bytes, short with
  | [], _ => rfl
  | [_], _ => rfl
  | [_, _], _ => rfl

theorem resumeFrame_drop (frames payloadLeft paddingLen : Nat) (bytes : List UInt8) {count : Nat}
    (within : count ≤ payloadLeft) :
    bytes.take count ++ resumeFrame frames (payloadLeft - count) paddingLen (bytes.drop count) =
      resumeFrame frames payloadLeft paddingLen bytes := by
  have payload : count + (payloadLeft - count) = payloadLeft := by omega
  have frameEnd : count + (payloadLeft - count + paddingLen) = payloadLeft + paddingLen := by omega
  rw [resumeFrame, resumeFrame, ← List.append_assoc, ← List.take_add, payload, List.drop_drop,
    frameEnd]

@[simp] theorem resumeFrame_nil (frames payloadLeft paddingLen : Nat) :
    resumeFrame frames payloadLeft paddingLen [] = [] := by
  simp [resumeFrame]

theorem resumeFrame_zero (frames paddingLen : Nat) (bytes : List UInt8) :
    resumeFrame frames 0 paddingLen bytes = unpadFrames frames (bytes.drop paddingLen) := by
  simp [resumeFrame]

/-- A padded frame: the payload's length in two big-endian bytes, the padding's length, the
payload, and that many zero bytes. -/
def paddedFrame (payload : List UInt8) (padding : UInt8) : List UInt8 :=
  u16ToBe (UInt16.ofNat payload.length) ++ padding :: payload ++ List.replicate padding.toNat 0

theorem unpadFrames_paddedFrame (frames : Nat) {payload : List UInt8}
    (short : payload.length < 2 ^ 16) (padding : UInt8) (rest : List UInt8) :
    unpadFrames (frames + 1) (paddedFrame payload padding ++ rest) =
      payload ++ unpadFrames frames rest := by
  obtain ⟨high, low, header, word⟩ := u16ToBe_pair (UInt16.ofNat payload.length)
  have length : (u16FromBe [high, low]).toNat = payload.length := by
    rw [word, UInt16.toNat_ofNat']
    exact Nat.mod_eq_of_lt short
  simp only [paddedFrame, header, List.cons_append, List.nil_append, List.append_assoc]
  rw [unpadFrames_succ_cons, resumeFrame, length, List.take_left, ← List.drop_drop,
    List.drop_left, List.drop_left' (by simp)]

theorem unpadFrames_frames (frames : List (List UInt8 × UInt8))
    (short : ∀ frame ∈ frames, frame.1.length < 2 ^ 16) {count : Nat}
    (room : frames.length ≤ count) (rest : List UInt8) :
    unpadFrames count ((frames.map fun frame => paddedFrame frame.1 frame.2).flatten ++ rest) =
      (frames.map Prod.fst).flatten ++ unpadFrames (count - frames.length) rest := by
  induction frames generalizing count with
  | nil => simp
  | cons frame frames ih =>
    obtain ⟨left, rfl⟩ := Nat.exists_eq_add_of_lt (Nat.lt_of_lt_of_le (Nat.zero_lt_succ _) room)
    have later : frames.length ≤ left := by simp at room; omega
    simp only [List.map_cons, List.flatten_cons, List.append_assoc, Nat.zero_add]
    rw [unpadFrames_paddedFrame _ (short frame List.mem_cons_self),
      ih (fun other member => short other (List.mem_cons_of_mem _ member)) later]
    simp only [List.length_cons, Nat.add_sub_add_right]

end Shoes.NaiveProxy
