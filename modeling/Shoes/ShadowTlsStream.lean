import Shoes.ShadowTlsHandshake

/-!
# The ShadowTLS data phase

After the handshake, `ShadowTlsStream` carries the data in TLS application-data frames: the
header `17 03 03` with the frame length, a four-byte digest, and the payload. The writer keeps one
HMAC chain and the reader another; each frame feeds its payload to the chain, takes the digest,
and feeds the digest too, so that a reader whose chain starts where the writer's does checks every
frame against the digest it expects next and takes its payload out as it was written
(`tryDeframe_dataFrame`).

`poll_write` puts at most 16380 bytes of the caller's buffer in a frame, and an empty buffer in a
frame with an empty payload. The reader takes that frame as a success with no data, and
`poll_read` hands it to `read_processed`, whose first assertion is that there is processed data:
however the frame is split into reads, the reader panics on it
(`pollRead_after_empty_write_panics`).
-/

namespace Shoes.ShadowTls

open Wire

/-- `MAX_WRITE_PAYLOAD_LEN`: 2^14 less the digest. -/
def maxWritePayloadLen : Nat := 16380

def contentTypeAlert : UInt8 := 0x15

/-- The state of a `ShadowTlsStream`. `unprocessed` is `unprocessed_buf[..unprocessed_end_offset]`,
`processedBuf` is `processed_buf[..processed_end_offset]`, of which the bytes from
`processedStartOffset` on are still to be read, and `pendingWrite` is
`write_buf[write_buf_pos..write_buf_end]`, the frame still to be written to the inner stream. -/
structure ShadowTlsStream where
  readHmac : ShadowTlsHmac
  writeHmac : ShadowTlsHmac
  handshakeHmac : Option ShadowTlsHmac
  isEof : Bool
  unprocessed : List UInt8
  processedBuf : List UInt8
  processedStartOffset : Nat
  pendingWrite : List UInt8

namespace ShadowTlsStream

/-- `ShadowTlsStream::new`: the initial data is processed data, which must fit the buffer. -/
def new (initialProcessedData : List UInt8) (readHmac writeHmac : ShadowTlsHmac)
    (handshakeHmac : Option ShadowTlsHmac) : Result ShadowTlsStream :=
  if tlsFrameMaxLen < initialProcessedData.length then
    fail .invalidInput "initial processed data too large for read buffer"
  else .ok ⟨readHmac, writeHmac, handshakeHmac, false, [], initialProcessedData, 0, []⟩

/-- `feed_initial_read_data`: bytes read before the stream existed, as its unprocessed data. -/
def feedInitialReadData (stream : ShadowTlsStream) (data : List UInt8) : Result ShadowTlsStream :=
  if stream.unprocessed.length ≠ 0 then abort
  else if tlsFrameMaxLen < data.length then
    fail .other "feed_initial_read_data called with too much data"
  else .ok { stream with unprocessed := data }

/-- `read_processed`: as much of the processed data as the `ReadBuf` has room for. Both
assertions panic: the one that there is processed data, and the one that something is written. -/
def readProcessed (stream : ShadowTlsStream) (unfilledLen : Nat) :
    Result (List UInt8 × ShadowTlsStream) :=
  if stream.processedBuf.length = 0 then abort
  else
    let availableLen := stream.processedBuf.length - stream.processedStartOffset
    let writeAmount := min unfilledLen availableLen
    if writeAmount = 0 then abort
    else
      let filled := (stream.processedBuf.drop stream.processedStartOffset).take writeAmount
      let newProcessedStartOffset := stream.processedStartOffset + writeAmount
      if newProcessedStartOffset = stream.processedBuf.length then
        .ok (filled, { stream with processedBuf := [], processedStartOffset := 0 })
      else .ok (filled, { stream with processedStartOffset := newProcessedStartOffset })

inductive DeframeState
  | needData
  | success
  | receivedAlert
  | handshakeFrame
  deriving DecidableEq, Repr

/-- The buffer once a frame of `totalLen` bytes is taken off its front: what follows it, moved to
the front by `copy_within`, or nothing. -/
def remainingAfter (stream : ShadowTlsStream) (totalLen : Nat) : List UInt8 :=
  if totalLen < stream.unprocessed.length then stream.unprocessed.drop totalLen else []

/-- A frame passed over while the handshake goes on: `HandshakeFrame` when bytes follow it,
`NeedData` when not. -/
def skipFrame (stream : ShadowTlsStream) (totalLen : Nat) : DeframeState × ShadowTlsStream :=
  if totalLen < stream.unprocessed.length then
    (.handshakeFrame, { stream with unprocessed := stream.unprocessed.drop totalLen })
  else (.needData, { stream with unprocessed := [] })

/-- The check of a data frame against the read chain, whose payload then becomes the processed
data. -/
def acceptFrame (prims : Primitives) (stream : ShadowTlsStream) (totalLen : Nat)
    (receivedDigest payload : List UInt8) : Result (DeframeState × ShadowTlsStream) :=
  let readHmac := stream.readHmac.update payload
  let expectedDigest := readHmac.digest prims
  if receivedDigest ≠ expectedDigest then fail .invalidData "HMAC verification failed"
  else
    .ok (.success,
      { stream with
        readHmac := readHmac.update expectedDigest
        processedBuf := payload
        unprocessed := stream.remainingAfter totalLen })

/-- The digest of a data frame: while the client still has the `ServerRandom` chain, a frame
signed under it is a handshake frame; the first that is not ends the handshake chain, and it and
every frame after must carry the next digest of the read chain. -/
def checkFrame (prims : Primitives) (stream : ShadowTlsStream) (totalLen : Nat)
    (receivedDigest payload : List UInt8) : Result (DeframeState × ShadowTlsStream) :=
  match stream.handshakeHmac with
  | some handshakeHmac =>
    let handshakeHmac := handshakeHmac.update payload
    if receivedDigest = handshakeHmac.digest prims then
      .ok ({ stream with handshakeHmac := some handshakeHmac }.skipFrame totalLen)
    else { stream with handshakeHmac := none }.acceptFrame prims totalLen receivedDigest payload
  | none => stream.acceptFrame prims totalLen receivedDigest payload

/-- `try_deframe`: the frame at the front of the unprocessed data. -/
def tryDeframe (prims : Primitives) (stream : ShadowTlsStream) :
    Result (DeframeState × ShadowTlsStream) :=
  -- `assert!(self.processed_end_offset == 0)`
  if stream.processedBuf.length ≠ 0 then abort
  else if stream.unprocessed.length < tlsHeaderLen then .ok (.needData, stream)
  else do
    let header := stream.unprocessed.take tlsHeaderLen
    let contentType ← byteAt header 0
    if contentType = contentTypeAlert then .ok (.receivedAlert, { stream with isEof := true })
    else
      let frameLen := (u16FromBe [← byteAt header 3, ← byteAt header 4]).toNat
      if frameLen < 4 then fail .invalidData "Frame length too short"
      else
        let totalLen := tlsHeaderLen + frameLen
        if stream.unprocessed.length < totalLen then .ok (.needData, stream)
        else if contentType ≠ contentTypeApplicationData then
          if stream.handshakeHmac.isSome then .ok (stream.skipFrame totalLen)
          else fail .invalidData "Invalid record type"
        else
          -- the processed buffer has `TLS_FRAME_MAX_LEN` bytes
          if tlsFrameMaxLen < frameLen - 4 then
            fail .other "Payload too large for processed buffer"
          else
            let frameBody := (stream.unprocessed.take totalLen).drop tlsHeaderLen
            stream.checkFrame prims totalLen (frameBody.take 4) (frameBody.drop 4)

/-- How the deframing loop of `poll_read` ends: a frame's data read into the `ReadBuf`, more
bytes needed, or an alert. -/
inductive Deframed
  | delivered (filled : List UInt8)
  | needData
  | alert

/-- The deframing loop of `poll_read`, for at most `fuel` frames: frames are deframed until one
has data, which `read_processed` then reads, or until more bytes are needed. -/
def deframeLoop (prims : Primitives) (unfilledLen : Nat) :
    Nat → ShadowTlsStream → Option (Result (Deframed × ShadowTlsStream))
  | 0, _ => none
  | fuel + 1, stream =>
    match stream.tryDeframe prims with
    | .error fault => some (.error fault)
    | .ok (.success, stream) =>
      some ((stream.readProcessed unfilledLen).map fun (filled, stream) => (.delivered filled, stream))
    | .ok (.needData, stream) => some (.ok (.needData, stream))
    | .ok (.receivedAlert, stream) => some (.ok (.alert, stream))
    | .ok (.handshakeFrame, stream) => deframeLoop prims unfilledLen fuel stream

/-- How a `poll_read` ends. -/
inductive PollRead
  | ready (filled : List UInt8)
  | failed (fault : Fault)
  | pending
  deriving DecidableEq, Repr

/-- What `poll_read` returns once the deframing loop has ended: the data, nothing for an alert,
the fault; when more bytes are needed, `more` goes on. -/
def afterDeframe (stream : ShadowTlsStream) (incoming : Incoming)
    (more : ShadowTlsStream → Option (PollRead × ShadowTlsStream × Incoming)) :
    Option (Result (Deframed × ShadowTlsStream)) → Option (PollRead × ShadowTlsStream × Incoming)
  | none => none
  | some (.error fault) => some (.failed fault, stream, incoming)
  | some (.ok (.delivered filled, stream)) => some (.ready filled, stream, incoming)
  | some (.ok (.alert, stream)) => some (.ready [], stream, incoming)
  | some (.ok (.needData, stream)) => more stream

/-- The reading loop of `poll_read`, for at most `fuel` reads of the inner stream: each read
appends to the unprocessed data and deframes it; an empty read is the end of the stream. -/
def pollReadLoop (prims : Primitives) (unfilledLen : Nat) :
    Nat → ShadowTlsStream → Incoming → Option (PollRead × ShadowTlsStream × Incoming)
  | 0, _, _ => none
  | fuel + 1, stream, incoming =>
    match readIncoming (tlsFrameMaxLen - stream.unprocessed.length) incoming with
    | none => some (.pending, stream, incoming)
    | some (bytes, incoming) =>
      if bytes.isEmpty then some (.ready [], { stream with isEof := true }, incoming)
      else
        let stream := { stream with unprocessed := stream.unprocessed ++ bytes }
        afterDeframe stream incoming (fun stream => pollReadLoop prims unfilledLen fuel stream incoming)
          (stream.deframeLoop prims unfilledLen (stream.unprocessed.length + 1))

/-- Enough reads for every inner stream: each read but the last takes a byte at least. -/
def readFuel (incoming : Incoming) : Nat :=
  (incoming.map List.length).sum + 1

/-- `poll_read` into a `ReadBuf` with `unfilledLen` bytes of room: processed data first, then the
frames already buffered, then reads of the inner stream. -/
def pollRead (prims : Primitives) (unfilledLen : Nat) (stream : ShadowTlsStream)
    (incoming : Incoming) : Option (PollRead × ShadowTlsStream × Incoming) :=
  if 0 < stream.processedBuf.length then
    match stream.readProcessed unfilledLen with
    | .ok (filled, stream) => some (.ready filled, stream, incoming)
    | .error fault => some (.failed fault, stream, incoming)
  else if stream.isEof then some (.ready [], stream, incoming)
  else if 0 < stream.unprocessed.length then
    afterDeframe stream incoming
      (fun stream =>
        if stream.unprocessed.length = tlsFrameMaxLen then
          some (.failed (.error ⟨.other, "Unprocessed buffer full"⟩), stream, incoming)
        else stream.pollReadLoop prims unfilledLen (readFuel incoming) incoming)
      (stream.deframeLoop prims unfilledLen (stream.unprocessed.length + 1))
  else stream.pollReadLoop prims unfilledLen (readFuel incoming) incoming

/-- `poll_write`, on an inner stream that takes every byte it is given: the pending frame is
written out, and up to `MAX_WRITE_PAYLOAD_LEN` bytes of the caller's buffer go into the next
frame, under the write chain. The bytes written to the inner stream, the count accepted, and the
stream after. -/
def pollWrite (prims : Primitives) (stream : ShadowTlsStream) (buf : List UInt8) :
    List UInt8 × Nat × ShadowTlsStream :=
  let consumedBufLen := min buf.length maxWritePayloadLen
  let consumedBuf := buf.take consumedBufLen
  let frameLen := consumedBufLen + 4
  let writeHmac := stream.writeHmac.update consumedBuf
  let digest := writeHmac.digest prims
  (stream.pendingWrite, consumedBufLen,
    { stream with
      writeHmac := writeHmac.update digest
      pendingWrite :=
        [contentTypeApplicationData, 0x03, 0x03] ++ u16ToBe (UInt16.ofNat frameLen) ++ digest ++
          consumedBuf })

/-- `poll_flush`: the pending frame written out. -/
def pollFlush (stream : ShadowTlsStream) : List UInt8 × ShadowTlsStream :=
  (stream.pendingWrite, { stream with pendingWrite := [] })

section Frames

variable (prims : Primitives)

theorem pollWrite_frame (stream : ShadowTlsStream) (buf : List UInt8) :
    let consumedBuf := buf.take maxWritePayloadLen
    (stream.pollWrite prims buf).2.2.pendingWrite =
        tlsRecord contentTypeApplicationData 3 3
          ((stream.writeHmac.update consumedBuf).digest prims ++ consumedBuf) ∧
      (stream.pollWrite prims buf).2.2.writeHmac = chainAfter prims stream.writeHmac consumedBuf := by
  have taken : buf.take (min buf.length maxWritePayloadLen) = buf.take maxWritePayloadLen := by
    rw [List.take_eq_take_iff]
    omega
  have frameLen : min buf.length maxWritePayloadLen + 4 =
      ((stream.writeHmac.update (buf.take maxWritePayloadLen)).digest prims ++
        buf.take maxWritePayloadLen).length := by
    simp only [List.length_append, ShadowTlsHmac.digest_length, List.length_take]
    omega
  simp only [pollWrite, tlsRecord, chainAfter, taken, frameLen, List.append_assoc, and_self]

theorem remainingAfter_frame {stream : ShadowTlsStream} {frame rest : List UInt8}
    (buffered : stream.unprocessed = frame ++ rest) : stream.remainingAfter frame.length = rest := by
  unfold remainingAfter
  split_ifs with more
  · simp [buffered]
  · simp only [buffered, List.length_append] at more
    exact (List.length_eq_zero_iff.mp (by omega)).symm

/-- A data frame at the front of the buffer of a reader with no processed data and no handshake
chain: when its digest is the next one of the read chain, its payload becomes the processed data
and the chain moves past it; when not, the HMAC check fails. -/
theorem tryDeframe_dataFrame (stream : ShadowTlsStream) (digest payload rest : List UInt8)
    (signed : digest.length = 4) (fits : payload.length + 4 < 65536)
    (processed : stream.processedBuf = []) (noHandshake : stream.handshakeHmac = none)
    (buffered : stream.unprocessed =
      tlsRecord contentTypeApplicationData 3 3 (digest ++ payload) ++ rest) :
    stream.tryDeframe prims =
      if digest = (stream.readHmac.update payload).digest prims then
        .ok (.success,
          { stream with
            readHmac := chainAfter prims stream.readHmac payload
            processedBuf := payload
            unprocessed := rest })
      else fail .invalidData "HMAC verification failed" := by
  obtain ⟨high, low, written, -⟩ := u16ToBe_pair (UInt16.ofNat (digest ++ payload).length)
  have frameLen : (u16FromBe [high, low]).toNat = (digest ++ payload).length :=
    lengthField_of_lt (by simp only [List.length_append]; omega) written
  have record : stream.unprocessed = [0x17, 3, 3, high, low] ++ (digest ++ payload) ++ rest := by
    rw [buffered, tlsRecord, written]
    rfl
  have header : stream.unprocessed.take tlsHeaderLen = [0x17, 3, 3, high, low] := by
    rw [record, List.append_assoc]
    exact List.take_left' rfl
  have body : (stream.unprocessed.take (tlsHeaderLen + (digest ++ payload).length)).drop
      tlsHeaderLen = digest ++ payload := by
    rw [record, List.append_assoc, List.take_append]
    simp [tlsHeaderLen, List.take_length_add_append]
  have remaining : stream.remainingAfter (tlsHeaderLen + (digest ++ payload).length) = rest := by
    have := remainingAfter_frame record
    rw [List.length_append] at this
    exact this
  have total : tlsHeaderLen + (digest ++ payload).length ≤ stream.unprocessed.length := by
    simp only [record, tlsHeaderLen, List.length_append, List.length_cons, List.length_nil]
    omega
  have long : ¬(digest ++ payload).length < 4 := by
    simp only [List.length_append]
    omega
  have within : ¬tlsFrameMaxLen < (digest ++ payload).length - 4 := by
    rw [show tlsFrameMaxLen = 65540 from rfl, List.length_append]
    omega
  unfold tryDeframe
  simp only [processed, List.length_nil, ne_eq, not_true_eq_false, if_false, header]
  rw [if_neg (by simp only [record, tlsHeaderLen, List.length_append, List.length_cons]; omega)]
  simp only [byteAt, List.getElem?_cons_zero, List.getElem?_cons_succ, ok_bind, frameLen,
    show (23 : UInt8) = contentTypeApplicationData from rfl,
    show ¬contentTypeApplicationData = contentTypeAlert by decide,
    long, within, not_lt.mpr total, body, if_false, not_true_eq_false, checkFrame, noHandshake,
    List.take_left' signed, List.drop_left' signed, acceptFrame, remaining, chainAfter]
  by_cases valid : digest = (stream.readHmac.update payload).digest prims <;> simp [valid]

theorem tryDeframe_partial (stream : ShadowTlsStream) (body : List UInt8) (long : 4 ≤ body.length)
    (fits : body.length < 65536) (processed : stream.processedBuf = [])
    (front : stream.unprocessed <+: tlsRecord contentTypeApplicationData 3 3 body)
    (short : stream.unprocessed.length < (tlsRecord contentTypeApplicationData 3 3 body).length) :
    stream.tryDeframe prims = .ok (.needData, stream) := by
  obtain ⟨high, low, written, -⟩ := u16ToBe_pair (UInt16.ofNat body.length)
  have frameLen : (u16FromBe [high, low]).toNat = body.length := lengthField_of_lt fits written
  have record : tlsRecord contentTypeApplicationData 3 3 body = [0x17, 3, 3, high, low] ++ body := by
    rw [tlsRecord, written]
    rfl
  unfold tryDeframe
  by_cases headerShort : stream.unprocessed.length < tlsHeaderLen
  · simp [processed, headerShort]
  · have header : stream.unprocessed.take tlsHeaderLen = [0x17, 3, 3, high, low] := by
      rw [List.prefix_iff_eq_take.mp front, List.take_take, record,
        Nat.min_eq_left (by omega)]
      exact List.take_left' rfl
    have waiting : stream.unprocessed.length < tlsHeaderLen + body.length := by
      rw [record, List.length_append] at short
      exact short
    simp only [processed, List.length_nil, ne_eq, not_true_eq_false, if_false, headerShort, header,
      byteAt, List.getElem?_cons_zero, List.getElem?_cons_succ, ok_bind, frameLen,
      show ¬body.length < 4 by omega, waiting, if_true,
      show (23 : UInt8) = contentTypeApplicationData from rfl,
      show ¬contentTypeApplicationData = contentTypeAlert by decide]

end Frames

section EmptyWrite

variable (prims : Primitives) (unfilledLen : Nat)

theorem deframeLoop_emptyFrame (fuel : Nat) (stream : ShadowTlsStream) (rest : List UInt8)
    (processed : stream.processedBuf = []) (noHandshake : stream.handshakeHmac = none)
    (buffered : stream.unprocessed = tlsRecord contentTypeApplicationData 3 3
      ((stream.readHmac.update []).digest prims) ++ rest) :
    stream.deframeLoop prims unfilledLen (fuel + 1) = some abort := by
  have deframed := tryDeframe_dataFrame prims stream ((stream.readHmac.update []).digest prims) []
    rest (ShadowTlsHmac.digest_length _ _) (by decide) processed noHandshake
    (by simpa using buffered)
  rw [if_pos rfl] at deframed
  simp [deframeLoop, deframed, readProcessed, abort, Except.map]

/-- However the frame of an empty write is split into reads, the reader keeps reading until the
frame is complete and then panics. The induction is on the fuel, and each read takes a byte at
least, so the fuel outlasts the bytes still to come. -/
theorem pollReadLoop_emptyFrame (more : List UInt8) (fuel : Nat) :
    ∀ (stream : ShadowTlsStream) (incoming : Incoming),
      stream.processedBuf = [] → stream.handshakeHmac = none → (∀ read ∈ incoming, read ≠ []) →
      let frame := tlsRecord contentTypeApplicationData 3 3 ((stream.readHmac.update []).digest prims)
      stream.unprocessed ++ incoming.flatten = frame ++ more →
      stream.unprocessed.length < frame.length → (incoming.map List.length).sum < fuel →
      (stream.pollReadLoop prims unfilledLen fuel incoming).map Prod.fst = some (.failed .panic) := by
  induction fuel with
  | zero =>
    intro stream incoming _ _ _ frame _ _ enough
    omega
  | succ fuel ih =>
    intro stream incoming processed noHandshake live frame arrives short enough
    have frameLength : frame.length = 9 := by
      simp [frame, tlsRecord, u16ToBe_length]
    cases incoming with
    | nil =>
      have whole : stream.unprocessed = frame ++ more := by simpa using arrives
      rw [whole, List.length_append] at short
      omega
    | cons chunk rest =>
      have roomy : 0 < tlsFrameMaxLen - stream.unprocessed.length := by
        unfold tlsFrameMaxLen tlsHeaderLen
        omega
      obtain ⟨bytes, incoming, read, nonempty, -, flat, counted, live⟩ := readIncoming_live roomy live
      let next : ShadowTlsStream := { stream with unprocessed := stream.unprocessed ++ bytes }
      have nextArrives : next.unprocessed ++ incoming.flatten = frame ++ more := by
        rw [← arrives, ← flat]
        simp [next]
      have front : next.unprocessed <+: frame ++ more := ⟨_, nextArrives⟩
      have step : stream.pollReadLoop prims unfilledLen (fuel + 1) (chunk :: rest) =
          afterDeframe next incoming (fun stream => pollReadLoop prims unfilledLen fuel stream incoming)
            (next.deframeLoop prims unfilledLen (next.unprocessed.length + 1)) := by
        simp [pollReadLoop, read, nonempty, next]
      rw [step]
      by_cases complete : frame.length ≤ next.unprocessed.length
      · -- the frame is all there: deframing it panics
        obtain ⟨after, framed⟩ :=
          List.prefix_of_prefix_length_le (List.prefix_append frame more) front complete
        rw [deframeLoop_emptyFrame prims unfilledLen _ next after processed noHandshake framed.symm]
        rfl
      · -- a front of the frame: the reader waits and reads again
        have shorter : next.unprocessed.length < frame.length := by omega
        have partialFrame : next.unprocessed <+: frame :=
          List.prefix_of_prefix_length_le front (List.prefix_append frame more) shorter.le
        have waiting := tryDeframe_partial prims next _ (by simp) (by simp) processed partialFrame
          shorter
        have deframed : next.deframeLoop prims unfilledLen (next.unprocessed.length + 1) =
            some (.ok (.needData, next)) := by
          simp [deframeLoop, waiting]
        rw [deframed]
        exact ih next incoming processed noHandshake live nextArrives shorter (by
          simp only [List.map_cons, List.sum_cons] at counted enough
          have : 0 < bytes.length := List.length_pos_iff.mpr nonempty
          omega)

end EmptyWrite

/-- A reader whose chain is the writer's, with nothing buffered and the handshake over, panics
on the frame of an empty `poll_write`, however the frame and what follows it are split into
reads. -/
theorem pollRead_after_empty_write_panics (prims : Primitives) (writer reader : ShadowTlsStream)
    (unfilledLen : Nat) (incoming : Incoming) (more : List UInt8)
    (chains : reader.readHmac = writer.writeHmac) (processed : reader.processedBuf = [])
    (running : reader.isEof = false) (noHandshake : reader.handshakeHmac = none)
    (drained : reader.unprocessed = []) (live : ∀ read ∈ incoming, read ≠ [])
    (delivered : incoming.flatten = (writer.pollWrite prims []).2.2.pollFlush.1 ++ more) :
    (reader.pollRead prims unfilledLen incoming).map Prod.fst = some (.failed .panic) := by
  have written := (pollWrite_frame prims writer []).1
  simp only [List.take_nil, List.append_nil] at written
  have arrives : reader.unprocessed ++ incoming.flatten = tlsRecord contentTypeApplicationData 3 3
      ((reader.readHmac.update []).digest prims) ++ more := by
    rw [drained, List.nil_append, delivered, chains, pollFlush, written]
  have short : reader.unprocessed.length < (tlsRecord contentTypeApplicationData 3 3
      ((reader.readHmac.update []).digest prims)).length := by
    simp [drained, tlsRecord]
  have toLoop : reader.pollRead prims unfilledLen incoming =
      reader.pollReadLoop prims unfilledLen (readFuel incoming) incoming := by
    simp [pollRead, processed, running, drained]
  rw [toLoop]
  exact pollReadLoop_emptyFrame prims unfilledLen more _ reader incoming processed noHandshake live
    arrives short (Nat.lt_succ_self _)

/-- A stream with both chains empty, nothing buffered and the handshake over. -/
def idleStream : ShadowTlsStream :=
  ⟨⟨[], []⟩, ⟨[], []⟩, none, false, [], [], 0, []⟩

/-- An HMAC whose tag is the message followed by four zero bytes. -/
def appendingPrims : Primitives :=
  ⟨fun _ message => message ++ [0, 0, 0, 0], fun _ _ => by simp⟩

theorem pollRead_after_empty_write_panics_sample :
    (idleStream.pollRead appendingPrims 16
      [(idleStream.pollWrite appendingPrims []).2.2.pollFlush.1]).map Prod.fst =
      some (.failed .panic) :=
  pollRead_after_empty_write_panics appendingPrims idleStream idleStream 16
    [(idleStream.pollWrite appendingPrims []).2.2.pollFlush.1] [] rfl rfl rfl rfl rfl
    (by simp [pollWrite, pollFlush]) (by simp)

end ShadowTlsStream

end Shoes.ShadowTls
