import Mathlib
import Shoes.XudpFrame

/-!
# The XUDP message stream

`XudpMessageStream` carries UDP datagrams of many sessions over one inner stream of XUDP
frames. Reading decodes frames from a buffer of received bytes; a frame with a target records
it for its session, an End frame forgets its session, and a frame with data yields a datagram
with its destination. The datagram's destination is resolved and given a local session id,
which the reply written for that id is to be labelled with.

This module models the state and the read and write paths: `try_decode_one_frame`,
`get_or_create_session` with `allocate_session_id`, `poll_read_session_message` and
`poll_write_session_message`. The hash maps are partial functions. A resolution is ready at
once: the resolver cache and the resolver behind it are a function `lookup` of the hostname
location. An error from `try_decode_one_frame` ends the stream, so the state it leaves is
not modelled.
-/

namespace Shoes.Xudp

open Wire

/-- `ResolverCache::poll_resolve_location`, ready: an IP location is its own socket address,
and a hostname location goes to `lookup`. -/
def pollResolveLocation (lookup : NetLocation → Except IoError SocketAddr) (target : NetLocation) :
    Except IoError SocketAddr :=
  match target.toSocketAddrNonblocking with
  | some addr => .ok addr
  | none => lookup target

/-- `XudpMessageStream`: the read buffer, the session counter, the three session maps, the
buffered incoming message and the end-of-stream flag. -/
structure XudpMessageStream where
  readBuffer : List UInt8
  nextSessionId : UInt16
  destinationToSession : NetLocation → Option UInt16
  sessionToDestination : UInt16 → Option NetLocation
  sessionToOriginalDestination : UInt16 → Option NetLocation
  incomingMessage : Option (List UInt8 × NetLocation × Option NetLocation)
  isEof : Bool

namespace XudpMessageStream

def new : XudpMessageStream :=
  ⟨[], 1, fun _ => none, fun _ => none, fun _ => none, none, false⟩

def feedInitialReadData (state : XudpMessageStream) (data : List UInt8) : XudpMessageStream :=
  { state with readBuffer := state.readBuffer ++ data }

/-- The loop of `allocate_session_id` from the counter `next`, for at most `tries` ids: the
first id not `taken`, and the counter after it, which wraps past 0 to 1. -/
def allocateFrom (taken : UInt16 → Bool) : Nat → UInt16 → Option (UInt16 × UInt16)
  | 0, _ => none
  | tries + 1, next =>
    let following := if next + 1 = 0 then 1 else next + 1
    if taken next then allocateFrom taken tries following else some (next, following)

/-- `allocate_session_id`: an id with no destination. The counter skips 0, so 65535 tries see
every id; when all are taken the loop spins forever, which is `none`. -/
def allocateSessionId (state : XudpMessageStream) : Option (UInt16 × XudpMessageStream) :=
  (allocateFrom (fun id => (state.sessionToDestination id).isSome) 65535 state.nextSessionId).map
    fun (sessionId, next) => (sessionId, { state with nextSessionId := next })

/-- `get_or_create_session`: the session of the resolved destination, or a new one recorded in
the three maps; whether it is new. -/
def getOrCreateSession (state : XudpMessageStream) (resolvedDestination originalDestination : NetLocation) :
    Option ((UInt16 × Bool) × XudpMessageStream) :=
  match state.destinationToSession resolvedDestination with
  | some sessionId => some ((sessionId, false), state)
  | none => do
    let (sessionId, state) ← state.allocateSessionId
    some ((sessionId, true),
      { state with
        destinationToSession :=
          Function.update state.destinationToSession resolvedDestination (some sessionId)
        sessionToDestination :=
          Function.update state.sessionToDestination sessionId (some resolvedDestination)
        sessionToOriginalDestination :=
          Function.update state.sessionToOriginalDestination sessionId (some originalDestination) })

/-- The maps after a decoded frame with a target: the target becomes the destination of the
frame's session id, in `session_to_destination` and `session_to_original_destination`. -/
def recordTarget (state : XudpMessageStream) (metadata : FrameMetadata) : XudpMessageStream :=
  match metadata.target with
  | some target =>
    { state with
      sessionToDestination := Function.update state.sessionToDestination metadata.sessionId (some target)
      sessionToOriginalDestination :=
        Function.update state.sessionToOriginalDestination metadata.sessionId (some target) }
  | none => state

/-- The maps after an End frame: the session's destination is removed, with the reverse entry
of that destination, and its original destination. -/
def endSession (state : XudpMessageStream) (sessionId : UInt16) : XudpMessageStream :=
  let state :=
    match state.sessionToDestination sessionId with
    | some destination =>
      { state with
        sessionToDestination := Function.update state.sessionToDestination sessionId none
        destinationToSession := Function.update state.destinationToSession destination none }
    | none => state
  { state with
    sessionToOriginalDestination := Function.update state.sessionToOriginalDestination sessionId none }

/-- How one pass of `try_decode_one_frame` ends: more bytes are needed (`Ok(None)`), a datagram
is decoded, or a frame without one was consumed and the function calls itself again. -/
inductive Decoded
  | more (state : XudpMessageStream)
  | datagram (data : List UInt8) (destination : NetLocation) (state : XudpMessageStream)
  | again (state : XudpMessageStream)

/-- The state with another read buffer. -/
def withReadBuffer (state : XudpMessageStream) (bytes : List UInt8) : XudpMessageStream :=
  { state with readBuffer := bytes }

/-- The destination of a datagram: the frame's target, or the one its session has. -/
def frameDestination (state : XudpMessageStream) (metadata : FrameMetadata) : Result NetLocation :=
  match metadata.target with
  | some target => .ok target
  | none =>
    match state.sessionToDestination metadata.sessionId with
    | some destination => .ok destination
    | none => fail .invalidData ("unknown session ID: " ++ toString metadata.sessionId)

/-- The branch of `try_decode_one_frame` for a frame without a data section, once its metadata
is buffered: decode it, record its target, and forget its session if it is an End frame. -/
def decodeControlFrame (state : XudpMessageStream) : Result Decoded := do
  let (metadata, rest) ← expect (← FrameMetadata.decode state.readBuffer)
  let state := (state.withReadBuffer rest).recordTarget metadata
  if metadata.status = .close then .ok (.again (state.endSession metadata.sessionId))
  else .ok (.again state)

/-- The branch for a frame with a data section of `dataLen` bytes, once all of it is buffered:
decode the metadata, refuse a TCP destination and the ERROR bit, record the target, and take
the data with its destination; a frame with no data is skipped. -/
def decodeDataFrame (state : XudpMessageStream) (dataLen : Nat) : Result Decoded := do
  let (metadata, rest) ← expect (← FrameMetadata.decode state.readBuffer)
  if metadata.network = some .tcp then
    fail .unsupported "XUDP with TCP destinations is not supported. Only UDP destinations are supported."
  else if metadata.option &&& optionError ≠ 0 then
    fail .connectionReset "XUDP session closed by remote with error"
  else do
    let state := (state.withReadBuffer rest).recordTarget metadata
    let rest ← Buf.advance 2 state.readBuffer
    if dataLen = 0 then .ok (.again (state.withReadBuffer rest))
    else do
      let data ← slice rest 0 dataLen
      let rest ← Buf.advance dataLen rest
      let state := state.withReadBuffer rest
      let destination ← state.frameDestination metadata
      .ok (.datagram data destination state)

/-- The body of `try_decode_one_frame` up to its recursive calls. It peeks at the metadata
length, the status and the option byte, and at the data length of a frame with data, before
decoding: a frame is consumed only once it is complete. End and KeepAlive frames, and frames
without the DATA bit, are taken to have no data section. -/
def decodeFrame (state : XudpMessageStream) : Result Decoded :=
  let buf := state.readBuffer
  if buf.length < 2 then .ok (.more state)
  else do
    let high ← byteAt buf 0
    let low ← byteAt buf 1
    let metadataLen := (u16FromBe [high, low]).toNat
    if buf.length < 2 + metadataLen then .ok (.more state)
    else if metadataLen < 4 then fail .invalidData ("metadata too short: " ++ toString metadataLen)
    else do
      let statusByte ← byteAt buf (2 + 2)
      let optionByte ← byteAt buf (2 + 3)
      let hasData := optionByte &&& optionData ≠ 0
      let isEnd := statusByte = 0x03
      let isKeepalive := statusByte = 0x04
      if isEnd ∨ isKeepalive ∨ ¬hasData then state.decodeControlFrame
      else
        let dataLenOffset := 2 + metadataLen
        if buf.length < dataLenOffset + 2 then .ok (.more state)
        else do
          let dataHigh ← byteAt buf dataLenOffset
          let dataLow ← byteAt buf (dataLenOffset + 1)
          let dataLen := (u16FromBe [dataHigh, dataLow]).toNat
          if buf.length < dataLenOffset + 2 + dataLen then .ok (.more state)
          else state.decodeDataFrame dataLen

/-- `try_decode_one_frame` with at most `fuel` passes. -/
def tryDecodeOneFrameFuel :
    Nat → XudpMessageStream → Result (Option (List UInt8 × NetLocation) × XudpMessageStream)
  | 0, state => .ok (none, state)
  | fuel + 1, state => do
    match ← state.decodeFrame with
    | .more state => .ok (none, state)
    | .datagram data destination state => .ok (some (data, destination), state)
    | .again state => tryDecodeOneFrameFuel fuel state

/-- `try_decode_one_frame`. Each pass that calls again consumes bytes, so a pass per buffered
byte is enough (`tryDecodeOneFrameFuel_eq`). -/
def tryDecodeOneFrame (state : XudpMessageStream) :
    Result (Option (List UInt8 × NetLocation) × XudpMessageStream) :=
  tryDecodeOneFrameFuel state.readBuffer.length state

/-- How `poll_read_session_message` ends: a datagram of a session and the socket address its
destination resolved to, an error that leaves the stream usable, or pending. -/
inductive SessionRead
  | message (sessionId : UInt16) (source : SocketAddr) (data : List UInt8)
  | failed (err : IoError)
  | pending

/-- The buffered incoming message of `poll_read_session_message`, for a `ReadBuf` with room for
`room` bytes. -/
def readIncomingMessage (lookup : NetLocation → Except IoError SocketAddr) (room : Nat)
    (state : XudpMessageStream) (data : List UInt8) (originalDestination : NetLocation)
    (resolved : Option NetLocation) : Option (Result (SessionRead × XudpMessageStream)) :=
  if room < data.length then
    some (.ok (.failed ⟨.invalidData, "buffer too small for incoming message"⟩,
      { state with incomingMessage := some (data, originalDestination, resolved) }))
  else
    let resolvedDestination : Except IoError NetLocation :=
      match resolved with
      | some resolved => .ok resolved
      | none => (pollResolveLocation lookup originalDestination).map SocketAddr.toNetLocation
    match resolvedDestination with
    | .error err => some (.ok (.failed err, state))
    | .ok resolvedDestination => do
      let ((sessionId, _), state) ← state.getOrCreateSession resolvedDestination originalDestination
      match pollResolveLocation lookup originalDestination with
      | .ok socketAddr => some (.ok (.message sessionId socketAddr data, state))
      | .error err => some (.ok (.failed err, state))

/-- The loop of `poll_read_session_message`, for at most `fuel` passes:
decode a frame, or read up to 8192 more bytes and decode again. A decoded datagram is
resolved and given its session; a datagram too large for the `ReadBuf` is kept, resolved, for
the next call. -/
def readLoop (lookup : NetLocation → Except IoError SocketAddr) (room : Nat) :
    Nat → XudpMessageStream → Incoming → Option (Result (SessionRead × XudpMessageStream × Incoming))
  | 0, _, _ => none
  | fuel + 1, state, incoming =>
    match state.tryDecodeOneFrame with
    | .error fault => some (.error fault)
    | .ok (some (data, destination), state) =>
      match pollResolveLocation lookup destination with
      | .error err => some (.ok (.failed err, state, incoming))
      | .ok socketAddr =>
        let resolvedDestination := socketAddr.toNetLocation
        match state.getOrCreateSession resolvedDestination destination with
        | none => none
        | some ((sessionId, _), state) =>
          if room < data.length then
            some (.ok (.failed ⟨.invalidData, "buffer too small for incoming message"⟩,
              { state with incomingMessage := some (data, destination, some resolvedDestination) },
              incoming))
          else some (.ok (.message sessionId socketAddr data, state, incoming))
    | .ok (none, state) =>
      match readIncoming 8192 incoming with
      | none => some (.ok (.pending, state, incoming))
      | some (bytes, incoming) =>
        if bytes.isEmpty then
          some (.ok (.failed ⟨.unexpectedEof, "EOF reached"⟩, { state with isEof := true }, incoming))
        else readLoop lookup room fuel (state.withReadBuffer (state.readBuffer ++ bytes)) incoming

/-- `poll_read_session_message` into a `ReadBuf` with room for `room` bytes, reading from the
inner stream's `incoming` chunks; `none` when the call does not return. Each pass of the loop
but the last reads a byte at least, so a pass per incoming byte is enough. -/
def pollReadSessionMessage (lookup : NetLocation → Except IoError SocketAddr) (room : Nat)
    (state : XudpMessageStream) (incoming : Incoming) :
    Option (Result (SessionRead × XudpMessageStream × Incoming)) :=
  match state.incomingMessage with
  | some (data, originalDestination, resolved) =>
    (readIncomingMessage lookup room { state with incomingMessage := none } data originalDestination
      resolved).map (Except.map fun (read, state) => (read, state, incoming))
  | none =>
    if state.isEof then some (.ok (.failed ⟨.unexpectedEof, "EOF reached"⟩, state, incoming))
    else readLoop lookup room ((incoming.map List.length).sum + 1) state incoming

/-- `poll_write_session_message` of `buf` for a session, answering from `target`: the frame
written and the state after it. The frame carries the session's original destination, or
`target` for a session this stream does not know, which is then recorded as the session's;
it is a New frame for an unknown session and a Keep frame otherwise. -/
def pollWriteSessionMessage (state : XudpMessageStream) (sessionId : UInt16) (buf : List UInt8)
    (target : SocketAddr) : Except IoError (List UInt8 × XudpMessageStream) := do
  let isNewSession := (state.sessionToOriginalDestination sessionId).isNone
  let (targetLocation, state) :=
    match state.sessionToOriginalDestination sessionId with
    | some original => (original, state)
    | none =>
      let targetLocation := target.toNetLocation
      (targetLocation,
        { state with
          sessionToOriginalDestination :=
            Function.update state.sessionToOriginalDestination sessionId (some targetLocation)
          destinationToSession :=
            Function.update state.destinationToSession targetLocation (some sessionId)
          sessionToDestination :=
            Function.update state.sessionToDestination sessionId (some targetLocation) })
  let status := if isNewSession then SessionStatus.new else .keep
  let metadata : FrameMetadata :=
    ⟨sessionId, status, optionData, some targetLocation, some .udp⟩
  let encoded ← metadata.encode
  .ok (encoded ++ u16ToBe (UInt16.ofNat buf.length) ++ buf, state)

@[simp] theorem recordTarget_readBuffer (state : XudpMessageStream) (metadata : FrameMetadata) :
    (state.recordTarget metadata).readBuffer = state.readBuffer := by
  unfold recordTarget
  split <;> rfl

@[simp] theorem endSession_readBuffer (state : XudpMessageStream) (sessionId : UInt16) :
    (state.endSession sessionId).readBuffer = state.readBuffer := by
  unfold endSession
  split <;> rfl

@[simp] theorem readBuffer_withReadBuffer (state : XudpMessageStream) (bytes : List UInt8) :
    (state.withReadBuffer bytes).readBuffer = bytes :=
  rfl

theorem decodeControlFrame_again {state next : XudpMessageStream}
    (again : state.decodeControlFrame = .ok (.again next)) :
    next.readBuffer.length + 6 ≤ state.readBuffer.length := by
  unfold decodeControlFrame at again
  obtain ⟨decoded, decodedEq, again⟩ := bind_eq_ok again
  cases decoded with
  | none => simp [expect, abort] at again
  | some decoded =>
    obtain ⟨metadata, rest⟩ := decoded
    have consumed := FrameMetadata.decode_consumes decodedEq
    simp only [expect, ok_bind] at again
    split_ifs at again <;> cases again <;> simpa using consumed

theorem decodeDataFrame_again {state next : XudpMessageStream} {dataLen : Nat}
    (again : state.decodeDataFrame dataLen = .ok (.again next)) :
    next.readBuffer.length + 8 ≤ state.readBuffer.length := by
  unfold decodeDataFrame at again
  obtain ⟨decoded, decodedEq, again⟩ := bind_eq_ok again
  cases decoded with
  | none => simp [expect, abort] at again
  | some decoded =>
    obtain ⟨metadata, rest⟩ := decoded
    have consumed := FrameMetadata.decode_consumes decodedEq
    simp only [expect, ok_bind] at again
    split_ifs at again with tcp refused empty
    · simp [fail] at again
    · simp [fail] at again
    · obtain ⟨skipped, skip, again⟩ := bind_eq_ok again
      cases again
      have := Buf.advance_eq_ok skip
      simp only [readBuffer_withReadBuffer, recordTarget_readBuffer] at *
      omega
    · obtain ⟨skipped, skip, again⟩ := bind_eq_ok again
      obtain ⟨data, sliced, again⟩ := bind_eq_ok again
      obtain ⟨rest, skipData, again⟩ := bind_eq_ok again
      obtain ⟨destination, found, again⟩ := bind_eq_ok again
      cases again

theorem decodeFrame_again {state next : XudpMessageStream}
    (again : state.decodeFrame = .ok (.again next)) :
    next.readBuffer.length < state.readBuffer.length := by
  unfold decodeFrame at again
  dsimp only at again
  split at again
  · cases again
  obtain ⟨high, _, again⟩ := bind_eq_ok again
  obtain ⟨low, _, again⟩ := bind_eq_ok again
  split at again
  · cases again
  split at again
  · simp [fail] at again
  obtain ⟨statusByte, _, again⟩ := bind_eq_ok again
  obtain ⟨optionByte, _, again⟩ := bind_eq_ok again
  split at again
  · have := decodeControlFrame_again again
    omega
  split at again
  · cases again
  obtain ⟨dataHigh, _, again⟩ := bind_eq_ok again
  obtain ⟨dataLow, _, again⟩ := bind_eq_ok again
  split at again
  · cases again
  · have := decodeDataFrame_again again
    omega

theorem tryDecodeOneFrameFuel_succ (fuel : Nat) (state : XudpMessageStream)
    (enough : state.readBuffer.length ≤ fuel) :
    tryDecodeOneFrameFuel (fuel + 1) state = tryDecodeOneFrameFuel fuel state := by
  induction fuel generalizing state with
  | zero =>
    have empty : state.readBuffer = [] := List.length_eq_zero_iff.mp (by omega)
    simp [tryDecodeOneFrameFuel, decodeFrame, empty]
  | succ fuel induction =>
    rw [tryDecodeOneFrameFuel, tryDecodeOneFrameFuel]
    rcases decoded : state.decodeFrame with fault | (next | ⟨data, destination, next⟩ | next)
    · rfl
    · rfl
    · rfl
    · -- a pass that calls again consumed bytes, so one pass fewer is still enough
      have shorter := decodeFrame_again decoded
      exact induction next (by omega)

theorem tryDecodeOneFrameFuel_eq (state : XudpMessageStream) {fuel : Nat}
    (enough : state.readBuffer.length ≤ fuel) :
    tryDecodeOneFrameFuel fuel state = state.tryDecodeOneFrame := by
  induction fuel, enough using Nat.le_induction with
  | base => rfl
  | succ fuel enough induction => rw [tryDecodeOneFrameFuel_succ fuel state enough, induction]

end XudpMessageStream

end Shoes.Xudp
