import Shoes.XudpStream
import Shoes.Lib.Framing

/-!
# Decoding a stream of XUDP frames

`try_decode_one_frame` peeks at a frame before consuming it: the metadata length, the status and
the option byte, then, for a frame with data, the data length. It takes End and KeepAlive
frames to have no data section whatever their DATA bit, so the grammar it reads is this one: a
frame's metadata as `FrameMetadata::encode` writes it, followed by trailing bytes that the
metadata length counts and `FrameMetadata::decode` skips (the GlobalID of Xray-core), then a data
length and the data exactly when the DATA bit is set and the status is New or Keep
(`Frame.encode`).

Over that grammar, a frame means what `Frame.apply` says: the target it carries is recorded
for its session, an End frame forgets its session, and a non-empty data section is a datagram.
A complete frame at the front of the buffer is decoded as its meaning says
(`decodeFrame_wireFrame`), and the start of a frame is left in the buffer
(`decodeFrame_frontFrame`). With `Framing.feed_eq_specRun`, feeding any split of a stream of frames
gives the datagrams the frames carry, whatever the split (`feed_eq_specRun_wireFrames`).
-/

namespace Shoes.Xudp

open Wire

namespace XudpMessageStream

@[simp] theorem withReadBuffer_withReadBuffer (state : XudpMessageStream) (bytes bytes' : List UInt8) :
    (state.withReadBuffer bytes).withReadBuffer bytes' = state.withReadBuffer bytes' :=
  rfl

@[simp] theorem recordTarget_withReadBuffer (state : XudpMessageStream) (metadata : FrameMetadata)
    (bytes : List UInt8) :
    (state.withReadBuffer bytes).recordTarget metadata = (state.recordTarget metadata).withReadBuffer bytes := by
  unfold recordTarget
  split <;> rfl

@[simp] theorem endSession_withReadBuffer (state : XudpMessageStream) (sessionId : UInt16)
    (bytes : List UInt8) :
    (state.withReadBuffer bytes).endSession sessionId = (state.endSession sessionId).withReadBuffer bytes := by
  unfold endSession
  dsimp only [withReadBuffer]
  cases state.sessionToDestination sessionId <;> rfl

@[simp] theorem frameDestination_withReadBuffer (state : XudpMessageStream) (metadata : FrameMetadata)
    (bytes : List UInt8) :
    (state.withReadBuffer bytes).frameDestination metadata = state.frameDestination metadata :=
  rfl

theorem decodeFrame_short (state : XudpMessageStream) (short : state.readBuffer.length < 2) :
    state.decodeFrame = .ok (.more state) := by
  simp [decodeFrame, short]

theorem decodeFrame_incomplete (state : XudpMessageStream) {high low : UInt8} {rest : List UInt8}
    (buffered : state.readBuffer = high :: low :: rest)
    (incomplete : rest.length < (u16FromBe [high, low]).toNat) :
    state.decodeFrame = .ok (.more state) := by
  simp [decodeFrame, buffered, byteAt]
  omega

/-- How `decodeFrame` goes on after the complete metadata of a frame with data: it waits for the
data length and the data, then decodes the frame. -/
def dataSection (state : XudpMessageStream) : List UInt8 → Result Decoded
  | dataHigh :: dataLow :: afterLength =>
    if afterLength.length < (u16FromBe [dataHigh, dataLow]).toNat then .ok (.more state)
    else state.decodeDataFrame (u16FromBe [dataHigh, dataLow]).toNat
  | _ => .ok (.more state)

theorem decodeFrame_metadata (state : XudpMessageStream) (sessionId : UInt16) (status : SessionStatus)
    (option : UInt8) (destination tail : List UInt8) (fits : destination.length ≤ 65531)
    (buffered : state.readBuffer = u16ToBe (UInt16.ofNat (4 + destination.length)) ++
      (u16ToBe sessionId ++ [status.toByte, option] ++ destination) ++ tail) :
    state.decodeFrame =
      if status.toByte = 0x03 ∨ status.toByte = 0x04 ∨ ¬(option &&& optionData ≠ 0) then
        state.decodeControlFrame
      else state.dataSection tail := by
  obtain ⟨high, low, prefixEq, wordEq⟩ := u16ToBe_pair (UInt16.ofNat (4 + destination.length))
  obtain ⟨idHigh, idLow, idEq, _⟩ := u16ToBe_pair sessionId
  have metadataLen : (u16FromBe [high, low]).toNat = 4 + destination.length := by
    rw [wordEq, UInt16.toNat_ofNat', Nat.mod_eq_of_lt (by simp; omega)]
  have spelled : state.readBuffer =
      high :: low :: idHigh :: idLow :: status.toByte :: option :: (destination ++ tail) := by
    rw [buffered, prefixEq, idEq]
    simp
  -- the data length follows the metadata
  have dataHighAt :
      (high :: low :: idHigh :: idLow :: status.toByte :: option :: (destination ++ tail))[2 + (4 + destination.length)]? =
        tail[0]? := by
    rw [show 2 + (4 + destination.length) = destination.length + 6 by omega]
    simp [List.getElem?_append_right]
  have dataLowAt :
      (low :: idHigh :: idLow :: status.toByte :: option :: (destination ++ tail))[2 + (4 + destination.length)]? =
        tail[1]? := by
    rw [show 2 + (4 + destination.length) = destination.length + 6 by omega]
    simp [List.getElem?_append_right]
  simp only [decodeFrame, spelled, byteAt, List.getElem?_cons_zero, List.getElem?_cons_succ,
    List.length_cons, List.length_append, ok_bind]
  simp only [metadataLen, dataHighAt, dataLowAt]
  simp (disch := omega) only [if_neg]
  by_cases control : status.toByte = 3 ∨ status.toByte = 4 ∨ ¬option &&& optionData ≠ 0
  · rw [if_pos control, if_pos control]
  rw [if_neg control, if_neg control]
  -- the data length and the data are waited for
  rcases tail with _ | ⟨dataHigh, _ | ⟨dataLow, afterLength⟩⟩
  · simp [dataSection]
    omega
  · simp [dataSection]
    omega
  · simp only [dataSection, List.getElem?_cons_zero, List.getElem?_cons_succ, ok_bind, List.length_cons]
    split_ifs <;> first | rfl | omega

end XudpMessageStream

open XudpMessageStream

/-- A frame: its metadata and its data. -/
structure Frame where
  metadata : FrameMetadata
  data : List UInt8

/-- Whether a frame has a data section: the DATA bit is set and the status is New or Keep. -/
def Frame.hasDataSection (frame : Frame) : Prop :=
  frame.metadata.option &&& optionData ≠ 0 ∧ frame.metadata.status ≠ .close ∧
    frame.metadata.status ≠ .keepAlive

instance (frame : Frame) : Decidable frame.hasDataSection :=
  inferInstanceAs (Decidable (_ ∧ _ ∧ _))

/-- The data section of a frame: the data length and the data when it has one. -/
def Frame.sectionBytes (frame : Frame) : List UInt8 :=
  if frame.hasDataSection then u16ToBe (UInt16.ofNat frame.data.length) ++ frame.data else []

/-- The bytes of a frame: its metadata as `FrameMetadata::encode` writes it followed by `trailing`
bytes that the metadata length counts (the GlobalID Xray-core writes after a new session's
address), then its data section. -/
def Frame.encode (frame : Frame) (trailing : List UInt8) : Except IoError (List UInt8) := do
  let destination ← frame.metadata.encodeTarget
  let body := u16ToBe frame.metadata.sessionId ++ [frame.metadata.status.toByte, frame.metadata.option] ++
    (destination ++ trailing)
  .ok (u16ToBe (UInt16.ofNat body.length) ++ body ++ frame.sectionBytes)

/-- A frame with its bytes. Its metadata is one that `FrameMetadata::encode` accepts, with
hostnames that read back as themselves, and trailing bytes that `FrameMetadata::decode` skips:
the metadata fits its 16-bit length, and a keep frame without a target has no trailing bytes
that start like a UDP destination. Its data fits the 16-bit data length, and a frame without a
data section has none. -/
structure WireFrame where
  frame : Frame
  trailing : List UInt8
  bytes : List UInt8
  encoded : frame.encode trailing = .ok bytes
  dataFits : frame.data.length < 65536
  metadataFits : ∀ destination, frame.metadata.encodeTarget = .ok destination →
    4 + destination.length + trailing.length < 65536
  trailingSkipped : frame.metadata.carriesTarget = false → frame.metadata.status = .keep →
    trailing.head? ≠ some 0x02
  noStrayData : ¬frame.hasDataSection → frame.data = []
  hostnamesReadBack : ∀ target ∈ frame.metadata.target, ∀ name, target.address = .hostname name →
    Address.fromStr name = .ok (.hostname name)

/-- What a frame does to the stream, read at the frame level: the target it carries is recorded
for its session, an End frame forgets its session, and a non-empty data section is a datagram
for the frame's target or its session's destination. A frame with data refuses a TCP
destination and the ERROR bit. -/
def Frame.apply (frame : Frame) (state : XudpMessageStream) :
    Result (Option (List UInt8 × NetLocation) × XudpMessageStream) :=
  let metadata := frame.metadata.decoded
  if frame.hasDataSection then
    if metadata.network = some .tcp then
      fail .unsupported "XUDP with TCP destinations is not supported. Only UDP destinations are supported."
    else if metadata.option &&& optionError ≠ 0 then
      fail .connectionReset "XUDP session closed by remote with error"
    else
      let state := state.recordTarget metadata
      if frame.data = [] then .ok (none, state)
      else do
        let destination ← state.frameDestination metadata
        .ok (some (frame.data, destination), state)
  else
    let state := state.recordTarget metadata
    .ok (none, if metadata.status = .close then state.endSession metadata.sessionId else state)

/-- The pass of `try_decode_one_frame` that a frame's meaning gives: its error, its datagram, or
a call again for a frame without one. -/
def XudpMessageStream.Decoded.ofApplied
    (applied : Result (Option (List UInt8 × NetLocation) × XudpMessageStream)) : Result Decoded :=
  match applied with
  | .error fault => .error fault
  | .ok (none, next) => .ok (.again next)
  | .ok (some (data, destination), next) => .ok (.datagram data destination next)

theorem decodeDataFrame_encoded (state : XudpMessageStream) {frame : Frame} {metadataBytes : List UInt8}
    (decoded : ∀ suffix, FrameMetadata.decode (metadataBytes ++ suffix) =
      .ok (some (frame.metadata.decoded, suffix)))
    (dataSection : frame.hasDataSection) (rest : List UInt8) :
    (state.withReadBuffer (metadataBytes ++ u16ToBe (UInt16.ofNat frame.data.length) ++ frame.data ++ rest)).decodeDataFrame
        frame.data.length =
      Decoded.ofApplied (frame.apply (state.withReadBuffer rest)) := by
  have decoded := decoded (u16ToBe (UInt16.ofNat frame.data.length) ++ frame.data ++ rest)
  simp only [List.append_assoc] at decoded ⊢
  have skipLength := @Buf.advance_append (u16ToBe (UInt16.ofNat frame.data.length)) (frame.data ++ rest)
  have skipData := @Buf.advance_append frame.data rest
  simp only [u16ToBe_length] at skipLength
  simp only [decodeDataFrame, readBuffer_withReadBuffer, decoded, expect, ok_bind, Frame.apply,
    if_pos dataSection, withReadBuffer_withReadBuffer, recordTarget_withReadBuffer, skipLength]
  by_cases tcp : frame.metadata.decoded.network = some .tcp
  · simp [tcp, Decoded.ofApplied, fail]
  by_cases refused : frame.metadata.decoded.option &&& optionError ≠ 0
  · simp [tcp, refused, Decoded.ofApplied, fail]
  simp only [tcp, refused, if_false]
  by_cases empty : frame.data = []
  · simp [empty, Decoded.ofApplied]
  have sliced : slice (frame.data ++ rest) 0 frame.data.length = .ok frame.data := by
    simp [slice]
  simp only [empty, if_false, List.length_eq_zero_iff, sliced, skipData, ok_bind,
    frameDestination_withReadBuffer]
  rcases state.recordTarget frame.metadata.decoded |>.frameDestination frame.metadata.decoded with
    fault | destination
  · rfl
  · rfl

theorem decodeControlFrame_encoded (state : XudpMessageStream) {frame : Frame}
    {metadataBytes : List UInt8}
    (decoded : ∀ suffix, FrameMetadata.decode (metadataBytes ++ suffix) =
      .ok (some (frame.metadata.decoded, suffix)))
    (noDataSection : ¬frame.hasDataSection) (rest : List UInt8) :
    (state.withReadBuffer (metadataBytes ++ rest)).decodeControlFrame =
      Decoded.ofApplied (frame.apply (state.withReadBuffer rest)) := by
  have decoded := decoded rest
  simp only [decodeControlFrame, readBuffer_withReadBuffer, decoded, expect, ok_bind, Frame.apply,
    if_neg noDataSection, withReadBuffer_withReadBuffer]
  split_ifs <;> rfl

@[simp] theorem SessionStatus.toByte_eq_three_iff (status : SessionStatus) :
    status.toByte = 0x03 ↔ status = .close := by
  cases status <;> decide

@[simp] theorem SessionStatus.toByte_eq_four_iff (status : SessionStatus) :
    status.toByte = 0x04 ↔ status = .keepAlive := by
  cases status <;> decide

theorem peek_iff_not_hasDataSection (frame : Frame) :
    (frame.metadata.status.toByte = 0x03 ∨ frame.metadata.status.toByte = 0x04 ∨
      ¬frame.metadata.option &&& optionData ≠ 0) ↔ ¬frame.hasDataSection := by
  simp only [SessionStatus.toByte_eq_three_iff, SessionStatus.toByte_eq_four_iff, Frame.hasDataSection]
  tauto

/-- The bytes of a frame on the wire: its metadata, whose bytes after the option byte are the
destination part and the trailing bytes, then its data section; the metadata decodes to what the
frame carries, whatever follows it. -/
theorem WireFrame.spelled (wire : WireFrame) : ∃ afterOption metadataBytes, afterOption.length ≤ 65531 ∧
    metadataBytes = u16ToBe (UInt16.ofNat (4 + afterOption.length)) ++
      (u16ToBe wire.frame.metadata.sessionId ++ [wire.frame.metadata.status.toByte, wire.frame.metadata.option] ++
        afterOption) ∧
    wire.bytes = metadataBytes ++ wire.frame.sectionBytes ∧
    ∀ suffix, FrameMetadata.decode (metadataBytes ++ suffix) = .ok (some (wire.frame.metadata.decoded, suffix)) := by
  obtain ⟨destination, targetEncoded, framed⟩ := bind_eq_ok wire.encoded
  have fits := wire.metadataFits destination targetEncoded
  refine ⟨destination ++ wire.trailing, _, by simp; omega, rfl, ?_, fun suffix => ?_⟩
  · have bodyLength : (u16ToBe wire.frame.metadata.sessionId ++
        [wire.frame.metadata.status.toByte, wire.frame.metadata.option] ++ (destination ++ wire.trailing)).length =
          4 + (destination ++ wire.trailing).length := by
      simp
      omega
    simp only [Except.ok.injEq] at framed
    rw [← framed, bodyLength]
  · have readBack := FrameMetadata.decode_trailing targetEncoded wire.hostnamesReadBack wire.trailing fits
      wire.trailingSkipped suffix
    have lengthEq : 4 + (destination ++ wire.trailing).length = 4 + destination.length + wire.trailing.length := by
      simp only [List.length_append]
      omega
    rw [lengthEq, ← List.append_assoc (u16ToBe wire.frame.metadata.sessionId ++
      [wire.frame.metadata.status.toByte, wire.frame.metadata.option])]
    exact readBack

theorem decodeFrame_wireFrame (wire : WireFrame) (state : XudpMessageStream) (rest : List UInt8) :
    (state.withReadBuffer (wire.bytes ++ rest)).decodeFrame =
      Decoded.ofApplied (wire.frame.apply (state.withReadBuffer rest)) := by
  obtain ⟨afterOption, metadataBytes, fits, metadataSpelled, bytesEq, decoded⟩ := wire.spelled
  obtain ⟨frame, trailing, bytes, _, dataFits, _, _, _, _⟩ := wire
  dsimp only at bytesEq decoded ⊢
  subst bytesEq
  by_cases hasSection : frame.hasDataSection
  · -- a frame with data: the decoder waits for its data length and its data, then decodes it
    simp only [Frame.sectionBytes, if_pos hasSection, ← List.append_assoc]
    obtain ⟨dataHigh, dataLow, lengthEq, wordEq⟩ := u16ToBe_pair (UInt16.ofNat frame.data.length)
    have dataLen : (u16FromBe [dataHigh, dataLow]).toNat = frame.data.length := by
      rw [wordEq, UInt16.toNat_ofNat', Nat.mod_eq_of_lt (by simpa using dataFits)]
    rw [decodeFrame_metadata _ frame.metadata.sessionId frame.metadata.status frame.metadata.option
      afterOption (u16ToBe (UInt16.ofNat frame.data.length) ++ frame.data ++ rest) fits
      (by simp [metadataSpelled]),
      if_neg (fun peeked => (peek_iff_not_hasDataSection frame).mp peeked hasSection)]
    have waited : (state.withReadBuffer (metadataBytes ++ u16ToBe (UInt16.ofNat frame.data.length) ++
        frame.data ++ rest)).dataSection (u16ToBe (UInt16.ofNat frame.data.length) ++ frame.data ++ rest) =
        (state.withReadBuffer (metadataBytes ++ u16ToBe (UInt16.ofNat frame.data.length) ++
          frame.data ++ rest)).decodeDataFrame frame.data.length := by
      simp only [lengthEq, dataSection, dataLen, List.cons_append, List.nil_append,
        List.length_append]
      rw [if_neg (by omega)]
    rw [← decodeDataFrame_encoded state decoded hasSection rest]
    simpa using waited
  · -- a frame without data: decoded as soon as its metadata is complete
    simp only [Frame.sectionBytes, if_neg hasSection, List.append_nil]
    rw [decodeFrame_metadata _ frame.metadata.sessionId frame.metadata.status frame.metadata.option
      afterOption rest fits (by simp [metadataSpelled]),
      if_pos ((peek_iff_not_hasDataSection frame).mpr hasSection)]
    exact decodeControlFrame_encoded state decoded hasSection rest

theorem decodeFrame_frontFrame (wire : WireFrame) (state : XudpMessageStream) {front back : List UInt8}
    (spelled : front ++ back = wire.bytes) (unfinished : back ≠ []) :
    (state.withReadBuffer front).decodeFrame = .ok (.more (state.withReadBuffer front)) := by
  obtain ⟨afterOption, metadataBytes, fits, metadataSpelled, bytesEq, _⟩ := wire.spelled
  obtain ⟨frame, trailing, bytes, _, dataFits, _, _, _, _⟩ := wire
  dsimp only at spelled bytesEq
  obtain ⟨high, low, prefixEq, wordEq⟩ := u16ToBe_pair (UInt16.ofNat (4 + afterOption.length))
  have metadataLength : metadataBytes.length = 2 + (4 + afterOption.length) := by
    simp [metadataSpelled]
    omega
  by_cases short : front.length < 2
  · exact decodeFrame_short _ short
  by_cases incomplete : front.length < 2 + (4 + afterOption.length)
  · -- the metadata is not complete
    rw [bytesEq, metadataSpelled, prefixEq] at spelled
    rcases front with _ | ⟨first, _ | ⟨second, afterLength⟩⟩
    · simp at short
    · simp at short
    simp only [List.cons_append, List.cons.injEq] at spelled
    obtain ⟨rfl, rfl, _⟩ := spelled
    have metadataLen : (u16FromBe [first, second]).toNat = 4 + afterOption.length := by
      rw [wordEq, UInt16.toNat_ofNat', Nat.mod_eq_of_lt (by omega)]
    exact decodeFrame_incomplete _ rfl (by simp at incomplete; omega)
  · -- the metadata is complete: the frame has a data section, which is not
    obtain ⟨tail, rfl⟩ : ∃ tail, front = metadataBytes ++ tail := by
      rw [bytesEq] at spelled
      rcases List.append_eq_append_iff.mp spelled with ⟨middle, within, _⟩ | ⟨middle, beyond, _⟩
      · have := congrArg List.length within
        simp only [List.length_append] at this
        exact ⟨[], by
          have : middle = [] := List.eq_nil_of_length_eq_zero (by omega)
          simp_all⟩
      · exact ⟨middle, beyond⟩
    have tailBack : tail ++ back = frame.sectionBytes := by
      rw [bytesEq, List.append_assoc] at spelled
      exact List.append_cancel_left spelled
    rw [decodeFrame_metadata _ frame.metadata.sessionId frame.metadata.status frame.metadata.option
      afterOption tail fits (by simp [metadataSpelled])]
    by_cases hasSection : frame.hasDataSection
    · rw [if_neg (fun peeked => (peek_iff_not_hasDataSection frame).mp peeked hasSection)]
      rw [Frame.sectionBytes, if_pos hasSection] at tailBack
      obtain ⟨dataHigh, dataLow, lengthEq, wordEq⟩ := u16ToBe_pair (UInt16.ofNat frame.data.length)
      have dataLen : (u16FromBe [dataHigh, dataLow]).toNat = frame.data.length := by
        rw [wordEq, UInt16.toNat_ofNat', Nat.mod_eq_of_lt (by simpa using dataFits)]
      rw [lengthEq] at tailBack
      -- what has arrived of the data section is short of the data
      rcases tail with _ | ⟨first, _ | ⟨second, afterLength⟩⟩
      · rfl
      · rfl
      simp only [List.cons_append, List.nil_append, List.cons.injEq] at tailBack
      obtain ⟨rfl, rfl, dataSpelled⟩ := tailBack
      have short : afterLength.length < frame.data.length := by
        have lengths := congrArg List.length dataSpelled
        have backLong := List.length_pos_iff.mpr unfinished
        simp only [List.length_append] at lengths
        omega
      simp [dataSection, dataLen, short]
    · rw [Frame.sectionBytes, if_neg hasSection, List.append_eq_nil_iff] at tailBack
      exact absurd tailBack.2 unfinished

theorem Frame.apply_readBuffer {frame : Frame} {state next : XudpMessageStream}
    {output : Option (List UInt8 × NetLocation)} (applied : frame.apply state = .ok (output, next)) :
    next.readBuffer = state.readBuffer := by
  unfold Frame.apply at applied
  dsimp only at applied
  split_ifs at applied
  · simp [fail] at applied
  · simp [fail] at applied
  · cases applied
    simp
  · obtain ⟨destination, _, applied⟩ := bind_eq_ok applied
    cases applied
    simp
  · cases applied
    simp
  · cases applied
    simp

theorem Frame.apply_withReadBuffer (frame : Frame) (state : XudpMessageStream) (bytes : List UInt8) :
    frame.apply (state.withReadBuffer bytes) =
      (frame.apply state).map fun (output, next) => (output, next.withReadBuffer bytes) := by
  unfold Frame.apply
  dsimp only
  split_ifs
  · rfl
  · rfl
  · simp [Except.map]
  · simp only [recordTarget_withReadBuffer, frameDestination_withReadBuffer]
    cases (state.recordTarget frame.metadata.decoded).frameDestination frame.metadata.decoded <;> rfl
  · simp [Except.map]
  · simp [Except.map]

theorem WireFrame.bytes_ne_nil (wire : WireFrame) : wire.bytes ≠ [] := by
  obtain ⟨afterOption, metadataBytes, _, metadataSpelled, bytesEq, _⟩ := wire.spelled
  rw [bytesEq, metadataSpelled]
  exact List.ne_nil_of_length_pos (by simp)

/-- The read buffer, as the buffer of the incremental decoder. -/
def readBufferLens : Framing.Lens XudpMessageStream UInt8 where
  buffer := XudpMessageStream.readBuffer
  withBuffer := XudpMessageStream.withReadBuffer
  buffer_withBuffer _ _ := rfl
  withBuffer_withBuffer _ _ _ := rfl

/-- `try_decode_one_frame` decodes a stream of frames as their meaning says: it leaves the start
of a frame in the buffer, and consumes a complete frame, going on past a frame without a
datagram. -/
theorem tryDecodeOneFrame_decodes :
    Framing.Decodes readBufferLens WireFrame.bytes tryDecodeOneFrame fun wire => wire.frame.apply where
  encode_ne_nil := WireFrame.bytes_ne_nil
  call_empty _ := rfl
  call_prefix wire front back state spelled unfinished := by
    show tryDecodeOneFrameFuel front.length (state.withReadBuffer front) = _
    cases front with
    | nil => rfl
    | cons byte more =>
      simp only [List.length_cons, tryDecodeOneFrameFuel]
      rw [decodeFrame_frontFrame wire state spelled unfinished]
      rfl
  call_frame wire state rest := by
    show tryDecodeOneFrameFuel (wire.bytes ++ rest).length (state.withReadBuffer (wire.bytes ++ rest)) = _
    obtain ⟨fuel, fuelEq⟩ : ∃ fuel, (wire.bytes ++ rest).length = fuel + 1 :=
      ⟨(wire.bytes ++ rest).length - 1, by
        have := List.length_pos_iff.mpr wire.bytes_ne_nil
        simp only [List.length_append]
        omega⟩
    have restShorter : rest.length ≤ fuel := by
      have := List.length_pos_iff.mpr wire.bytes_ne_nil
      simp only [List.length_append] at fuelEq
      omega
    simp only [readBufferLens]
    rw [fuelEq, tryDecodeOneFrameFuel, decodeFrame_wireFrame]
    rcases applied : wire.frame.apply (state.withReadBuffer rest) with fault | ⟨_ | output, next⟩
    · rfl
    · -- the frame has no datagram: the next pass starts at the next frame
      have sameBuffer := Frame.apply_readBuffer applied
      simp only [readBuffer_withReadBuffer] at sameBuffer
      simp only [Decoded.ofApplied, ok_bind]
      exact tryDecodeOneFrameFuel_eq next (by rw [sameBuffer]; exact restShorter)
    · rfl
  apply_withBuffer wire state bytes := Frame.apply_withReadBuffer wire.frame state bytes

/-- Feeding any split of a stream of frames, and calling `try_decode_one_frame` until it needs more
bytes after each chunk, gives the datagrams the frames carry, in order, with the destinations
the frames give them, and ends as the frames leave the stream: in the same way for every
split. -/
theorem feed_eq_specRun_wireFrames (frames : List WireFrame) (chunks : List (List UInt8))
    (stream : chunks.flatten = frames.flatMap WireFrame.bytes) (state : XudpMessageStream) :
    Framing.feed readBufferLens tryDecodeOneFrame chunks (state.withReadBuffer []) =
      Framing.specRun (fun wire => wire.frame.apply) frames (state.withReadBuffer []) :=
  Framing.feed_eq_specRun tryDecodeOneFrame_decodes chunks frames stream state

/-- A new UDP session to 1.2.3.4:53 with the datagram "a", its address followed by an
eight-byte GlobalID. -/
def sampleNewFrame : WireFrame where
  frame := ⟨⟨1, .new, optionData, some ⟨.ipv4 (Ipv4Addr.new 1 2 3 4), 53⟩, some .udp⟩, [0x61]⟩
  trailing := [7, 7, 7, 7, 7, 7, 7, 7]
  bytes := [0, 20, 0, 1, 1, 1, 2, 0, 53, 1, 1, 2, 3, 4, 7, 7, 7, 7, 7, 7, 7, 7, 0, 1, 0x61]
  encoded := by decide
  dataFits := by decide
  metadataFits destination encoded := by
    have := FrameMetadata.encodeTarget_length_le encoded
    simp only [List.length_cons, List.length_nil]
    omega
  trailingSkipped := by decide
  noStrayData := by decide
  hostnamesReadBack := by
    rintro target ⟨⟩ name ⟨⟩

/-- The end of that session. -/
def sampleEndFrame : WireFrame where
  frame := ⟨⟨1, .close, 0, none, none⟩, []⟩
  trailing := []
  bytes := [0, 4, 0, 1, 3, 0]
  encoded := by decide
  dataFits := by decide
  metadataFits destination encoded := by
    have := FrameMetadata.encodeTarget_length_le encoded
    simp only [List.length_nil]
    omega
  trailingSkipped := by decide
  noStrayData _ := rfl
  hostnamesReadBack := by
    rintro target ⟨⟩

theorem feed_sample_split :
    [[0, 20, 0, 1, 1], [1, 2, 0, 53, 1, 1, 2, 3, 4, 7, 7, 7, 7, 7, 7, 7, 7, 0, 1, 0x61, 0, 4], [0, 1, 3, 0]].flatten =
        [sampleNewFrame, sampleEndFrame].flatMap WireFrame.bytes ∧
      Framing.feed readBufferLens tryDecodeOneFrame
          [[0, 20, 0, 1, 1], [1, 2, 0, 53, 1, 1, 2, 3, 4, 7, 7, 7, 7, 7, 7, 7, 7, 0, 1, 0x61, 0, 4], [0, 1, 3, 0]]
          (XudpMessageStream.new.withReadBuffer []) =
        Framing.specRun (fun wire => wire.frame.apply) [sampleNewFrame, sampleEndFrame]
          (XudpMessageStream.new.withReadBuffer []) :=
  ⟨rfl, feed_eq_specRun_wireFrames [sampleNewFrame, sampleEndFrame]
    [[0, 20, 0, 1, 1], [1, 2, 0, 53, 1, 1, 2, 3, 4, 7, 7, 7, 7, 7, 7, 7, 7, 0, 1, 0x61, 0, 4], [0, 1, 3, 0]] rfl
    XudpMessageStream.new⟩

example : (Framing.feed readBufferLens tryDecodeOneFrame
    [[0, 20, 0, 1, 1], [1, 2, 0, 53, 1, 1, 2, 3, 4, 7, 7, 7, 7, 7, 7, 7, 7, 0, 1, 0x61, 0, 4], [0, 1, 3, 0]]
    XudpMessageStream.new).1 = [([0x61], ⟨.ipv4 ⟨[1, 2, 3, 4], rfl⟩, 53⟩)] := by
  decide

/-- Where the decoder departs from a grammar in which every frame is read whole and its data
delivered: an End frame with the DATA bit set and an empty data section, whose data length the
decoder reads as the next frame's metadata length; a frame with data for a TCP destination, one
with the ERROR bit, and one for a session never opened, each refused with the frame after it
lost; a hostname that `Address::from` refuses; and a hostname that it reads as an IPv4 address. -/
theorem feed_departs_from_frame_grammar :
    Framing.feed readBufferLens tryDecodeOneFrame
        [[0, 4, 0, 1, 3, 1, 0, 0] ++ [0, 12, 0, 2, 1, 1, 2, 0, 53, 1, 1, 2, 3, 4, 0, 1, 0x61]]
        XudpMessageStream.new =
      ([], .error (.error ⟨.invalidData, "metadata too short: 0"⟩)) ∧
    Framing.feed readBufferLens tryDecodeOneFrame
        [[0, 12, 0, 1, 1, 1, 1, 0, 53, 1, 1, 2, 3, 4, 0, 1, 0x61] ++
          [0, 12, 0, 2, 1, 1, 2, 0, 53, 1, 1, 2, 3, 4, 0, 1, 0x62]]
        XudpMessageStream.new =
      ([], .error (.error ⟨.unsupported,
        "XUDP with TCP destinations is not supported. Only UDP destinations are supported."⟩)) ∧
    Framing.feed readBufferLens tryDecodeOneFrame
        [[0, 12, 0, 1, 1, 3, 2, 0, 53, 1, 1, 2, 3, 4, 0, 1, 0x61] ++
          [0, 12, 0, 2, 1, 1, 2, 0, 53, 1, 1, 2, 3, 4, 0, 1, 0x62]]
        XudpMessageStream.new =
      ([], .error (.error ⟨.connectionReset, "XUDP session closed by remote with error"⟩)) ∧
    Framing.feed readBufferLens tryDecodeOneFrame
        [[0, 4, 0, 5, 2, 1, 0, 1, 0x61] ++ [0, 12, 0, 2, 1, 1, 2, 0, 53, 1, 1, 2, 3, 4, 0, 1, 0x62]]
        XudpMessageStream.new =
      ([], .error (.error ⟨.invalidData, "unknown session ID: 5"⟩)) ∧
    Framing.feed readBufferLens tryDecodeOneFrame
        [[0, 12, 0, 1, 1, 1, 2, 0, 53, 2, 3, 97, 58, 98, 0, 1, 0x61] ++
          [0, 12, 0, 2, 1, 1, 2, 0, 53, 1, 1, 2, 3, 4, 0, 1, 0x62]]
        XudpMessageStream.new =
      ([], .error (.error ⟨.invalidData, "Failed to parse address: a:b"⟩)) ∧
    (Framing.feed readBufferLens tryDecodeOneFrame
        [[0, 16, 0, 1, 1, 1, 2, 0, 53, 2, 7, 49, 46, 50, 46, 51, 46, 52, 0, 1, 0x61]]
        XudpMessageStream.new).1 = [([0x61], ⟨.ipv4 (Ipv4Addr.new 1 2 3 4), 53⟩)] := by
  refine ⟨rfl, rfl, rfl, rfl, rfl, ?_⟩
  decide

end Shoes.Xudp
