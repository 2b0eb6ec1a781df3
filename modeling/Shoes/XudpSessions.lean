import Shoes.XudpStream
import Shoes.Lib.PartialMap

/-!
# Session bookkeeping of the XUDP stream

The stream keeps three maps: `destination_to_session` and `session_to_destination`, meant to
index each other, and `session_to_original_destination`, the destination to label replies
with. `get_or_create_session` keeps the first two inverse. But a decoded frame records its
target under the session id the peer chose, in the same id space as the ids the stream
allocates, and does not touch `destination_to_session`: after frames of two peer sessions, a
reply can be labelled with the other session's destination (`reply_labelled_with_other_session`).

What holds over every run is that `session_to_original_destination` has the keys of
`session_to_destination` (`Reachable.originalsAligned`): the two are always updated together.
-/

namespace Shoes.Xudp

open Wire PartialMap

namespace XudpMessageStream

/-- `session_to_original_destination` has an entry exactly for the sessions that
`session_to_destination` has. -/
def OriginalsAligned (state : XudpMessageStream) : Prop :=
  SameKeys state.sessionToDestination state.sessionToOriginalDestination

/-- `destination_to_session` and `session_to_destination` index each other. -/
def SessionsIndexed (state : XudpMessageStream) : Prop :=
  Inverse state.destinationToSession state.sessionToDestination

theorem allocateFrom_not_taken {taken : UInt16 → Bool} {tries : Nat} {next sessionId following : UInt16}
    (allocated : allocateFrom taken tries next = some (sessionId, following)) :
    taken sessionId = false := by
  induction tries generalizing next with
  | zero => cases allocated
  | succ tries induction =>
    simp only [allocateFrom] at allocated
    by_cases isTaken : taken next
    · rw [if_pos isTaken] at allocated
      exact induction allocated
    · rw [if_neg isTaken, Option.some.injEq, Prod.mk.injEq] at allocated
      rw [← allocated.1]
      simpa using isTaken

theorem allocateSessionId_spec {state next : XudpMessageStream} {sessionId : UInt16}
    (allocated : state.allocateSessionId = some (sessionId, next)) :
    state.sessionToDestination sessionId = none ∧ next.destinationToSession = state.destinationToSession ∧
      next.sessionToDestination = state.sessionToDestination ∧
      next.sessionToOriginalDestination = state.sessionToOriginalDestination := by
  unfold allocateSessionId at allocated
  obtain ⟨⟨found, following⟩, foundEq, picked⟩ := Option.map_eq_some_iff.mp allocated
  simp only [Prod.mk.injEq] at picked
  obtain ⟨rfl, rfl⟩ := picked
  have free := allocateFrom_not_taken foundEq
  simpa using free

theorem OriginalsAligned.withReadBuffer {state : XudpMessageStream} (aligned : state.OriginalsAligned)
    (bytes : List UInt8) : (state.withReadBuffer bytes).OriginalsAligned :=
  aligned

theorem OriginalsAligned.getOrCreateSession {state next : XudpMessageStream}
    {resolved original : NetLocation} {result : UInt16 × Bool} (aligned : state.OriginalsAligned)
    (created : state.getOrCreateSession resolved original = some (result, next)) :
    next.OriginalsAligned := by
  unfold XudpMessageStream.getOrCreateSession at created
  split at created
  · cases created
    exact aligned
  · obtain ⟨⟨sessionId, allocatedState⟩, allocated, created⟩ := Option.bind_eq_some_iff.mp created
    obtain ⟨_, _, sameTargets, sameOriginals⟩ := allocateSessionId_spec allocated
    simp only [Option.some.injEq, Prod.mk.injEq] at created
    obtain ⟨_, rfl⟩ := created
    rw [OriginalsAligned, sameTargets, sameOriginals]
    exact sameKeys_update_some aligned sessionId resolved original

theorem OriginalsAligned.recordTarget {state : XudpMessageStream} (aligned : state.OriginalsAligned)
    (metadata : FrameMetadata) : (state.recordTarget metadata).OriginalsAligned := by
  unfold XudpMessageStream.recordTarget
  split
  · rename_i target _
    exact sameKeys_update_some aligned metadata.sessionId target target
  · exact aligned

theorem OriginalsAligned.endSession {state : XudpMessageStream} (aligned : state.OriginalsAligned)
    (sessionId : UInt16) : (state.endSession sessionId).OriginalsAligned := by
  unfold XudpMessageStream.endSession
  split
  · exact sameKeys_update_none aligned sessionId
  · -- the session had no destination: removing it from the first map changes nothing
    rename_i unmapped
    have unchanged : Function.update state.sessionToDestination sessionId none = state.sessionToDestination :=
      Function.update_eq_self_iff.mpr unmapped.symm
    show SameKeys state.sessionToDestination _
    rw [← unchanged]
    exact sameKeys_update_none aligned sessionId

/-- The state a pass of `try_decode_one_frame` leaves. -/
def Decoded.state : Decoded → XudpMessageStream
  | .more state => state
  | .datagram _ _ state => state
  | .again state => state

theorem OriginalsAligned.decodeControlFrame {state : XudpMessageStream} {decoded : Decoded}
    (aligned : state.OriginalsAligned) (passed : state.decodeControlFrame = .ok decoded) :
    decoded.state.OriginalsAligned := by
  unfold XudpMessageStream.decodeControlFrame at passed
  obtain ⟨metadata?, _, passed⟩ := bind_eq_ok passed
  obtain ⟨⟨metadata, rest⟩, _, passed⟩ := bind_eq_ok passed
  have recorded := (aligned.withReadBuffer rest).recordTarget metadata
  dsimp only at passed
  split_ifs at passed
  · cases passed
    exact recorded.endSession metadata.sessionId
  · cases passed
    exact recorded

theorem OriginalsAligned.decodeDataFrame {state : XudpMessageStream} {dataLen : Nat} {decoded : Decoded}
    (aligned : state.OriginalsAligned) (passed : state.decodeDataFrame dataLen = .ok decoded) :
    decoded.state.OriginalsAligned := by
  unfold XudpMessageStream.decodeDataFrame at passed
  obtain ⟨metadata?, _, passed⟩ := bind_eq_ok passed
  obtain ⟨⟨metadata, rest⟩, _, passed⟩ := bind_eq_ok passed
  have recorded := (aligned.withReadBuffer rest).recordTarget metadata
  dsimp only at passed
  split at passed
  · simp [fail] at passed
  split at passed
  · simp [fail] at passed
  obtain ⟨afterLength, _, passed⟩ := bind_eq_ok passed
  split at passed
  · cases passed
    exact recorded.withReadBuffer afterLength
  obtain ⟨data, _, passed⟩ := bind_eq_ok passed
  obtain ⟨afterData, _, passed⟩ := bind_eq_ok passed
  obtain ⟨destination, _, passed⟩ := bind_eq_ok passed
  cases passed
  exact recorded.withReadBuffer afterData

theorem OriginalsAligned.decodeFrame {state : XudpMessageStream} {decoded : Decoded}
    (aligned : state.OriginalsAligned) (passed : state.decodeFrame = .ok decoded) :
    decoded.state.OriginalsAligned := by
  unfold XudpMessageStream.decodeFrame at passed
  dsimp only at passed
  split at passed
  · cases passed
    exact aligned
  obtain ⟨high, _, passed⟩ := bind_eq_ok passed
  obtain ⟨low, _, passed⟩ := bind_eq_ok passed
  split at passed
  · cases passed
    exact aligned
  split at passed
  · simp [fail] at passed
  obtain ⟨statusByte, _, passed⟩ := bind_eq_ok passed
  obtain ⟨optionByte, _, passed⟩ := bind_eq_ok passed
  split at passed
  · exact aligned.decodeControlFrame passed
  split at passed
  · cases passed
    exact aligned
  obtain ⟨dataHigh, _, passed⟩ := bind_eq_ok passed
  obtain ⟨dataLow, _, passed⟩ := bind_eq_ok passed
  split at passed
  · cases passed
    exact aligned
  · exact aligned.decodeDataFrame passed

theorem OriginalsAligned.tryDecodeOneFrameFuel {fuel : Nat} {state next : XudpMessageStream}
    {output : Option (List UInt8 × NetLocation)} (aligned : state.OriginalsAligned)
    (decoded : tryDecodeOneFrameFuel fuel state = .ok (output, next)) : next.OriginalsAligned := by
  induction fuel generalizing state with
  | zero =>
    cases decoded
    exact aligned
  | succ fuel induction =>
    unfold XudpMessageStream.tryDecodeOneFrameFuel at decoded
    obtain ⟨pass, passed, decoded⟩ := bind_eq_ok decoded
    have passAligned := aligned.decodeFrame passed
    cases pass with
    | more state =>
      cases decoded
      exact passAligned
    | datagram data destination state =>
      cases decoded
      exact passAligned
    | again state => exact induction passAligned decoded

theorem OriginalsAligned.readIncomingMessage {lookup : NetLocation → Except IoError SocketAddr}
    {room : Nat} {state next : XudpMessageStream} {data : List UInt8} {original : NetLocation}
    {resolved : Option NetLocation} {read : SessionRead} (aligned : state.OriginalsAligned)
    (returned : readIncomingMessage lookup room state data original resolved = some (.ok (read, next))) :
    next.OriginalsAligned := by
  unfold XudpMessageStream.readIncomingMessage at returned
  split_ifs at returned
  · cases returned
    exact aligned
  dsimp only at returned
  split at returned
  · cases returned
    exact aligned
  obtain ⟨⟨result, created⟩, createdEq, returned⟩ := Option.bind_eq_some_iff.mp returned
  have createdAligned := aligned.getOrCreateSession createdEq
  split at returned <;> cases returned <;> exact createdAligned

theorem OriginalsAligned.readLoop {lookup : NetLocation → Except IoError SocketAddr} {room fuel : Nat}
    {state next : XudpMessageStream} {incoming rest : Incoming} {read : SessionRead}
    (aligned : state.OriginalsAligned)
    (returned : readLoop lookup room fuel state incoming = some (.ok (read, next, rest))) :
    next.OriginalsAligned := by
  induction fuel generalizing state incoming with
  | zero => cases returned
  | succ fuel induction =>
    unfold XudpMessageStream.readLoop at returned
    rcases decodedEq : state.tryDecodeOneFrame with fault | ⟨_ | ⟨data, destination⟩, decodedState⟩
    · simp [decodedEq] at returned
    · -- no frame yet: read from the inner stream
      have decodedAligned := aligned.tryDecodeOneFrameFuel decodedEq
      simp only [decodedEq] at returned
      rcases readEq : readIncoming 8192 incoming with _ | ⟨bytes, incoming⟩
      · simp only [readEq, Option.some.injEq, Except.ok.injEq, Prod.mk.injEq] at returned
        obtain ⟨_, rfl, _⟩ := returned
        exact decodedAligned
      simp only [readEq] at returned
      split_ifs at returned
      · simp only [Option.some.injEq, Except.ok.injEq, Prod.mk.injEq] at returned
        obtain ⟨_, rfl, _⟩ := returned
        exact decodedAligned
      · exact induction (decodedAligned.withReadBuffer _) returned
    · -- a datagram: resolved and given its session
      have decodedAligned := aligned.tryDecodeOneFrameFuel decodedEq
      simp only [decodedEq] at returned
      rcases resolvedEq : pollResolveLocation lookup destination with err | socketAddr
      · simp only [resolvedEq, Option.some.injEq, Except.ok.injEq, Prod.mk.injEq] at returned
        obtain ⟨_, rfl, _⟩ := returned
        exact decodedAligned
      rcases created : decodedState.getOrCreateSession socketAddr.toNetLocation destination with
        _ | ⟨result, createdState⟩
      · simp [resolvedEq, created] at returned
      have createdAligned := decodedAligned.getOrCreateSession created
      simp only [resolvedEq, created] at returned
      split_ifs at returned <;> simp only [Option.some.injEq, Except.ok.injEq, Prod.mk.injEq] at returned <;>
        obtain ⟨_, rfl, _⟩ := returned <;> exact createdAligned

theorem OriginalsAligned.pollReadSessionMessage {lookup : NetLocation → Except IoError SocketAddr}
    {room : Nat} {state next : XudpMessageStream} {incoming rest : Incoming} {read : SessionRead}
    (aligned : state.OriginalsAligned)
    (returned : pollReadSessionMessage lookup room state incoming = some (.ok (read, next, rest))) :
    next.OriginalsAligned := by
  unfold XudpMessageStream.pollReadSessionMessage at returned
  split at returned
  · -- the buffered message
    obtain ⟨result, buffered, mapped⟩ := Option.map_eq_some_iff.mp returned
    obtain ⟨⟨read, buffered⟩, rfl, returnedEq⟩ := map_eq_ok mapped
    simp only [Prod.mk.injEq] at returnedEq
    obtain ⟨_, rfl, _⟩ := returnedEq
    have taken : ({ state with incomingMessage := none } : XudpMessageStream).OriginalsAligned :=
      aligned
    exact taken.readIncomingMessage buffered
  · split_ifs at returned
    · cases returned
      exact aligned
    · exact aligned.readLoop returned

theorem OriginalsAligned.pollWriteSessionMessage {state next : XudpMessageStream} {sessionId : UInt16}
    {buf bytes : List UInt8} {target : SocketAddr} (aligned : state.OriginalsAligned)
    (written : state.pollWriteSessionMessage sessionId buf target = .ok (bytes, next)) :
    next.OriginalsAligned := by
  unfold XudpMessageStream.pollWriteSessionMessage at written
  rcases known : state.sessionToOriginalDestination sessionId with _ | original
  · simp only [known] at written
    obtain ⟨encoded, _, written⟩ := bind_eq_ok written
    cases written
    exact sameKeys_update_some aligned sessionId _ _
  · simp only [known] at written
    obtain ⟨encoded, _, written⟩ := bind_eq_ok written
    cases written
    exact aligned

/-- The states a stream reaches from `new` by feeding initial data, reading session messages
from any inner stream and writing any replies. -/
inductive Reachable (lookup : NetLocation → Except IoError SocketAddr) : XudpMessageStream → Prop
  | new : Reachable lookup XudpMessageStream.new
  | feed {state : XudpMessageStream} (data : List UInt8) :
      Reachable lookup state → Reachable lookup (state.feedInitialReadData data)
  | read {state next : XudpMessageStream} {room : Nat} {incoming rest : Incoming} {read : SessionRead} :
      Reachable lookup state →
      pollReadSessionMessage lookup room state incoming = some (.ok (read, next, rest)) →
      Reachable lookup next
  | write {state next : XudpMessageStream} {sessionId : UInt16} {buf bytes : List UInt8}
      {target : SocketAddr} :
      Reachable lookup state → state.pollWriteSessionMessage sessionId buf target = .ok (bytes, next) →
      Reachable lookup next

theorem SessionsIndexed.getOrCreateSession {state next : XudpMessageStream}
    {resolved original : NetLocation} {result : UInt16 × Bool} (indexed : state.SessionsIndexed)
    (created : state.getOrCreateSession resolved original = some (result, next)) :
    next.SessionsIndexed := by
  unfold XudpMessageStream.getOrCreateSession at created
  split at created
  · cases created
    exact indexed
  · rename_i unindexed
    obtain ⟨⟨sessionId, allocatedState⟩, allocated, created⟩ := Option.bind_eq_some_iff.mp created
    obtain ⟨free, sameSessions, sameTargets, _⟩ := allocateSessionId_spec allocated
    simp only [Option.some.injEq, Prod.mk.injEq] at created
    obtain ⟨_, rfl⟩ := created
    rw [SessionsIndexed, sameSessions, sameTargets]
    exact inverse_insert indexed unindexed free

theorem SessionsIndexed.endSession {state : XudpMessageStream} (indexed : state.SessionsIndexed)
    (sessionId : UInt16) : (state.endSession sessionId).SessionsIndexed := by
  unfold XudpMessageStream.endSession
  split
  · rename_i destination mapped
    exact inverse_erase indexed ((indexed destination sessionId).mpr mapped)
  · exact indexed

/-! ## A reply labelled with another session's destination

A New frame of the peer's session 1 to `1.2.3.4:53` is recorded under id 1, and its datagram
is given the session the stream allocates for that destination, id 2: from then on
`destination_to_session` sends `1.2.3.4:53` to 2 while `session_to_destination` sends 1 to it.
A New frame of the peer's session 2 to `5.6.7.8:53` then overwrites the destination of id 2.
A Keep frame of the peer's session 1 is read as session 2 again, and the reply to it is
labelled `5.6.7.8:53`. -/

theorem reply_labelled_with_other_session (lookup : NetLocation → Except IoError SocketAddr) :
    ∃ first second third : XudpMessageStream,
      pollReadSessionMessage lookup 100 XudpMessageStream.new
          [[0, 12, 0, 1, 1, 1, 2, 0, 53, 1, 1, 2, 3, 4, 0, 1, 0x61]] =
        some (.ok (.message 2 ⟨.v4 ⟨[1, 2, 3, 4], rfl⟩, 53⟩ [0x61], first, [])) ∧
      pollReadSessionMessage lookup 100 first
          [[0, 12, 0, 2, 1, 1, 2, 0, 53, 1, 5, 6, 7, 8, 0, 1, 0x62]] =
        some (.ok (.message 3 ⟨.v4 ⟨[5, 6, 7, 8], rfl⟩, 53⟩ [0x62], second, [])) ∧
      pollReadSessionMessage lookup 100 second
          [[0, 12, 0, 1, 2, 1, 2, 0, 53, 1, 1, 2, 3, 4, 0, 1, 0x63]] =
        some (.ok (.message 2 ⟨.v4 ⟨[1, 2, 3, 4], rfl⟩, 53⟩ [0x63], third, [])) ∧
      (third.pollWriteSessionMessage 2 [0x64] ⟨.v4 ⟨[1, 2, 3, 4], rfl⟩, 53⟩).map Prod.fst =
        .ok [0, 12, 0, 2, 2, 1, 2, 0, 53, 1, 5, 6, 7, 8, 0, 1, 0x64] ∧
      ¬ first.SessionsIndexed := by
  refine ⟨_, _, _, rfl, rfl, rfl, rfl, ?_⟩
  intro indexed
  have recorded := (indexed ⟨.ipv4 ⟨[1, 2, 3, 4], rfl⟩, 53⟩ 1).mpr rfl
  have allocated : _ = some (2 : UInt16) := rfl
  exact absurd (recorded.symm.trans allocated) (by decide)

end XudpMessageStream

end Shoes.Xudp
