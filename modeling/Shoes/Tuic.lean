import Shoes.Address
import Shoes.Fragments
import Shoes.LruCache

/-!
# TUIC datagrams

The server side of TUIC v5 UDP relaying over QUIC datagrams: the header parser of
`run_datagram_loop`, the fragment reassembly of `process_udp_packet`, and the loop that feeds
one to the other.

A datagram is `[5, command, assoc_id, packet_id, frag_total, frag_id, payload_size,
address, payload]`. The address is one type byte and its body (`0x00` a length-prefixed
hostname, `0x01` an IPv4, `0x02` an IPv6 address, each followed by a port), or the single byte
`0xff` on fragments after the first. Fragments of one packet are kept in an LRU cache keyed
by the packet id until all of them have arrived, and then forwarded in fragment order to the
destination carried by the first one.

Opening a session (judging the destination, resolving it, binding a socket) and sending are
effects of the environment: the model takes the first as a parameter and returns the second
as the forward it asks for.
-/

namespace Shoes.Tuic

open Wire Lru

def commandTypePacket : UInt8 := 0x02

def commandTypeHeartbeat : UInt8 := 0x04

def maxFragmentCacheSize : Nat := 256

/-- `serialize_address`: the hostname length is cast to a byte. -/
def serializeAddress (location : NetLocation) : List UInt8 :=
  let addressBytes :=
    match location.address with
    | .hostname name => 0x00 :: UInt8.ofNat (strBytes name).length :: strBytes name
    | .ipv4 addr => 0x01 :: addr.octets
    | .ipv6 addr => 0x02 :: addr.octets
  addressBytes ++ u16ToBe location.port

/-- The address part of `run_datagram_loop`'s header parser: the destination, and where the
payload starts. Every form but `0xff` checks that the payload fits in the datagram. -/
def decodeUdpAddress (data : List UInt8) (addressType : UInt8) (payloadSize : Nat) :
    Result (Option NetLocation × Nat) :=
  let dataLen := data.length
  if addressType = 0xff then .ok (none, 11)
  else if addressType = 0x00 then
    if dataLen < 14 then fail .other "decode UDP message: hostname too short"
    else do
      let addressLen := (← byteAt data 11).toNat
      if dataLen < 12 + addressLen + 2 + payloadSize then
        fail .other "decode UDP message: truncated hostname"
      else do
        let addressBytes ← slice data 12 (12 + addressLen)
        match strFromUtf8 addressBytes with
        | none => fail .other "decode UDP message: invalid UTF-8"
        | some addressStr =>
          match Address.fromStr addressStr with
          | .error err => fail .other ("decode UDP message: invalid address: " ++ err.message)
          | .ok address => do
            let portHigh ← byteAt data (12 + addressLen)
            let portLow ← byteAt data (12 + addressLen + 1)
            .ok (some ⟨address, u16FromBe [portHigh, portLow]⟩, 12 + addressLen + 2)
  else if addressType = 0x01 then
    if dataLen < 17 + payloadSize then fail .other "decode UDP message: IPv4 too short"
    else do
      let octets ← slice data 11 15
      let portHigh ← byteAt data 15
      let portLow ← byteAt data 16
      match octets with
      | [a, b, c, d] => .ok (some ⟨.ipv4 (Ipv4Addr.new a b c d), u16FromBe [portHigh, portLow]⟩, 17)
      | _ => abort
  else if addressType = 0x02 then
    if dataLen < 29 + payloadSize then fail .other "decode UDP message: IPv6 too short"
    else do
      let addr ← ipv6OfSlice (← slice data 11 27)
      let portHigh ← byteAt data 27
      let portLow ← byteAt data 28
      .ok (some ⟨.ipv6 addr, u16FromBe [portHigh, portLow]⟩, 29)
  else fail .other s!"decode UDP message: invalid address type: {addressType}"

/-- A `Packet` command as `run_datagram_loop` hands it to `process_udp_packet`. -/
structure UdpPacket where
  assocId : UInt16
  packetId : UInt16
  fragTotal : UInt8
  fragId : UInt8
  remoteLocation : Option NetLocation
  payload : List UInt8
  deriving DecidableEq

/-- The header parser of `run_datagram_loop`: `none` for a heartbeat, which it skips. An error
ends the loop and with it the connection. -/
def parseDatagram (data : List UInt8) : Result (Option UdpPacket) :=
  if data.length < 2 then fail .other "invalid message: too short"
  else do
    let tuicVersion ← byteAt data 0
    if tuicVersion ≠ 5 then fail .other s!"unknown version: {tuicVersion}"
    else do
      let commandType ← byteAt data 1
      if commandType = commandTypeHeartbeat then .ok none
      else if commandType ≠ commandTypePacket then fail .other s!"unknown command: {commandType}"
      else if data.length < 11 then fail .other "decode UDP message: too short"
      else do
        let assocId := u16FromBe [← byteAt data 2, ← byteAt data 3]
        let packetId := u16FromBe [← byteAt data 4, ← byteAt data 5]
        let fragTotal ← byteAt data 6
        let fragId ← byteAt data 7
        let payloadSize := (u16FromBe [← byteAt data 8, ← byteAt data 9]).toNat
        let addressType ← byteAt data 10
        let (remoteLocation, offset) ← decodeUdpAddress data addressType payloadSize
        let payloadFragment ← slice data offset (offset + payloadSize)
        .ok (some ⟨assocId, packetId, fragTotal, fragId, remoteLocation, payloadFragment⟩)

/-! ## What the parser can do

Every address form but `0xff` checks that the payload fits in the datagram before it is
sliced; nothing else in the parser can panic. -/

@[simp] theorem fail_ne_abort {α : Type} (kind : ErrorKind) (message : String) :
    (fail kind message : Result α) ≠ abort := by
  simp [fail, abort]

theorem decodeUdpAddress_ne_abort (data : List UInt8) (addressType : UInt8) (payloadSize : Nat) :
    decodeUdpAddress data addressType payloadSize ≠ abort := by
  unfold decodeUdpAddress
  dsimp only
  split_ifs with marker hostname short ipv4 ipv4Short ipv6 ipv6Short
  · simp [abort]
  · exact fail_ne_abort _ _
  · -- a hostname: its length byte, the hostname and the port lie within the checked length
    simp only [byteAt_of_lt (show 11 < data.length by omega), ok_bind]
    split_ifs with truncated
    · exact fail_ne_abort _ _
    rw [slice_of_le (by omega) (by omega), ok_bind]
    split
    · exact fail_ne_abort _ _
    split
    · exact fail_ne_abort _ _
    simp only [byteAt_of_lt (show 12 + data[11].toNat < data.length by omega),
      byteAt_of_lt (show 12 + data[11].toNat + 1 < data.length by omega), ok_bind]
    simp [abort]
  · exact fail_ne_abort _ _
  · -- an IPv4 address: the slice has four bytes
    have octetsLength : ((data.drop 11).take (15 - 11)).length = 4 := by
      simp only [List.length_take, List.length_drop]
      omega
    rw [slice_of_le (by omega) (by omega), ok_bind,
      byteAt_of_lt (show 15 < data.length by omega), ok_bind,
      byteAt_of_lt (show 16 < data.length by omega), ok_bind]
    obtain ⟨a, b, c, d, octets⟩ := List.length_eq_four.mp octetsLength
    simp [octets, abort]
  · exact fail_ne_abort _ _
  · have octetsLength : ((data.drop 11).take (27 - 11)).length = 16 := by
      simp only [List.length_take, List.length_drop]
      omega
    rw [slice_of_le (by omega) (by omega), ok_bind]
    simp only [ipv6OfSlice, octetsLength, dite_true, ok_bind,
      byteAt_of_lt (show 27 < data.length by omega), byteAt_of_lt (show 28 < data.length by omega)]
    simp [abort]
  · exact fail_ne_abort _ _

theorem decodeUdpAddress_fits {data : List UInt8} {addressType : UInt8} {payloadSize : Nat}
    {location : Option NetLocation} {offset : Nat}
    (decoded : decodeUdpAddress data addressType payloadSize = .ok (location, offset))
    (marked : addressType ≠ 0xff) : offset + payloadSize ≤ data.length := by
  unfold decodeUdpAddress at decoded
  dsimp only at decoded
  split_ifs at decoded with marker hostname short ipv4 ipv4Short ipv6 ipv6Short
  · exact absurd marker marked
  · simp [fail] at decoded
  · simp only [byteAt_of_lt (show 11 < data.length by omega), ok_bind] at decoded
    split_ifs at decoded with truncated
    · simp [fail] at decoded
    rw [slice_of_le (by omega) (by omega), ok_bind] at decoded
    split at decoded
    · simp [fail] at decoded
    split at decoded
    · simp [fail] at decoded
    simp only [byteAt_of_lt (show 12 + data[11].toNat < data.length by omega),
      byteAt_of_lt (show 12 + data[11].toNat + 1 < data.length by omega), ok_bind,
      Except.ok.injEq, Prod.mk.injEq] at decoded
    omega
  · simp [fail] at decoded
  · have octetsLength : ((data.drop 11).take (15 - 11)).length = 4 := by
      simp only [List.length_take, List.length_drop]
      omega
    rw [slice_of_le (by omega) (by omega), ok_bind,
      byteAt_of_lt (show 15 < data.length by omega), ok_bind,
      byteAt_of_lt (show 16 < data.length by omega), ok_bind] at decoded
    obtain ⟨a, b, c, d, octets⟩ := List.length_eq_four.mp octetsLength
    simp only [octets, Except.ok.injEq, Prod.mk.injEq] at decoded
    omega
  · simp [fail] at decoded
  · rw [slice_of_le (by omega) (by omega), ok_bind] at decoded
    simp only [ipv6OfSlice] at decoded
    split at decoded
    · simp only [ok_bind, byteAt_of_lt (show 27 < data.length by omega),
        byteAt_of_lt (show 28 < data.length by omega), Except.ok.injEq, Prod.mk.injEq] at decoded
      omega
    · simp [abort] at decoded
  · simp [fail] at decoded

theorem decodeUdpAddress_marker (data : List UInt8) (payloadSize : Nat) :
    decodeUdpAddress data 0xff payloadSize = .ok (none, 11) :=
  rfl

theorem parseDatagram_ne_abort_of_lt {data : List UInt8} (short : data.length < 11) :
    parseDatagram data ≠ abort := by
  unfold parseDatagram
  split_ifs with tiny
  · exact fail_ne_abort _ _
  simp only [byteAt_of_lt (show 0 < data.length by omega),
    byteAt_of_lt (show 1 < data.length by omega), ok_bind]
  split_ifs
  all_goals first | exact fail_ne_abort _ _ | simp [abort]

/-- The parser panics exactly on a packet command with the `0xff` marker whose payload size
is larger than what follows the header: the one address form that does not check it. -/
theorem parseDatagram_eq_abort_iff (data : List UInt8) :
    parseDatagram data = abort ↔
      ∃ b2 b3 b4 b5 b6 b7 b8 b9 rest,
        data = [5, commandTypePacket, b2, b3, b4, b5, b6, b7, b8, b9, 0xff] ++ rest ∧
          rest.length < (u16FromBe [b8, b9]).toNat := by
  constructor
  · intro panics
    by_cases long : 11 ≤ data.length
    swap
    · exact absurd panics (parseDatagram_ne_abort_of_lt (by omega))
    obtain ⟨b0, b1, b2, b3, b4, b5, b6, b7, b8, b9, b10, rest, rfl⟩ :
        ∃ b0 b1 b2 b3 b4 b5 b6 b7 b8 b9 b10 rest,
          data = b0 :: b1 :: b2 :: b3 :: b4 :: b5 :: b6 :: b7 :: b8 :: b9 :: b10 :: rest := by
      match data, long with
      | b0 :: b1 :: b2 :: b3 :: b4 :: b5 :: b6 :: b7 :: b8 :: b9 :: b10 :: rest, _ =>
        exact ⟨b0, b1, b2, b3, b4, b5, b6, b7, b8, b9, b10, rest, rfl⟩
    simp only [parseDatagram, byteAt, List.length_cons, List.getElem?_cons_zero,
      List.getElem?_cons_succ, ok_bind] at panics
    rw [if_neg (by omega)] at panics
    -- only a packet command reaches the address decoder
    by_cases version : b0 = 5
    swap
    · rw [if_pos (show b0 ≠ 5 from version)] at panics
      exact absurd panics (fail_ne_abort _ _)
    rw [if_neg (show ¬b0 ≠ 5 from not_not.mpr version)] at panics
    by_cases heartbeat : b1 = commandTypeHeartbeat
    · rw [if_pos heartbeat] at panics
      cases panics
    rw [if_neg heartbeat] at panics
    by_cases packet : b1 = commandTypePacket
    swap
    · rw [if_pos (show b1 ≠ commandTypePacket from packet)] at panics
      exact absurd panics (fail_ne_abort _ _)
    rw [if_neg (show ¬b1 ≠ commandTypePacket from not_not.mpr packet), if_neg (by omega)] at panics
    -- the address decoder cannot panic, so the payload slice did
    rcases decoding : decodeUdpAddress (b0 :: b1 :: b2 :: b3 :: b4 :: b5 :: b6 :: b7 :: b8 :: b9 ::
        b10 :: rest) b10 (u16FromBe [b8, b9]).toNat with fault | ⟨location, offset⟩
    · rw [decoding, error_bind] at panics
      have panicked : fault = .panic := by simpa [abort] using panics
      subst panicked
      exact absurd decoding (decodeUdpAddress_ne_abort _ _ _)
    rw [decoding, ok_bind] at panics
    rcases slicing : slice (b0 :: b1 :: b2 :: b3 :: b4 :: b5 :: b6 :: b7 :: b8 :: b9 :: b10 :: rest)
        offset (offset + (u16FromBe [b8, b9]).toNat) with fault | piece
    · have outside := slice_eq_error slicing
      simp only [List.length_cons, not_and, Nat.le_add_right, true_implies, not_le] at outside
      by_cases marker : b10 = 0xff
      · subst version packet marker
        have start : offset = 11 := by
          rw [decodeUdpAddress_marker] at decoding
          cases decoding
          rfl
        exact ⟨b2, b3, b4, b5, b6, b7, b8, b9, rest, rfl, by omega⟩
      · have fits := decodeUdpAddress_fits decoding marker
        simp only [List.length_cons] at fits
        omega
    · rw [slicing, ok_bind] at panics
      simp [abort] at panics
  · rintro ⟨b2, b3, b4, b5, b6, b7, b8, b9, rest, rfl, short⟩
    simp only [parseDatagram, byteAt, List.cons_append, List.nil_append, List.length_cons,
      List.getElem?_cons_zero, List.getElem?_cons_succ, ok_bind]
    rw [if_neg (by omega), if_neg (by decide), if_neg (by decide), if_neg (by decide),
      if_neg (by omega), decodeUdpAddress_marker, ok_bind, slice_of_gt (by simp; omega)]
    rfl

/-- A payload the server sends out through an association's session. -/
structure Forward where
  assocId : UInt16
  location : NetLocation
  payload : List UInt8
  deriving DecidableEq

/-- What `process_udp_packet` reads and changes: the associations with a session
(`udp_session_map`) and the fragment cache of `run_datagram_loop`. -/
structure ServerState where
  sessions : List UInt16
  fragments : LruCache UInt16 (FragmentedPacket (Option NetLocation))

/-- The state of a new connection. -/
def ServerState.initial : ServerState :=
  ⟨[], LruCache.new maxFragmentCacheSize (by decide)⟩

/-- The session lookup of `process_udp_packet`: an unknown association opens a session to the
packet's destination, which `startSession` (judging, resolving, binding a socket) may refuse
with its own error. -/
def ensureSession (startSession : NetLocation → Except IoError Unit) (sessions : List UInt16)
    (assocId : UInt16) (remoteLocation : Option NetLocation) : Except IoError (List UInt16) :=
  if assocId ∈ sessions then .ok sessions
  else
    match remoteLocation with
    | none => .error ⟨.other, "Ignoring packet with unknown session and empty address"⟩
    | some location =>
      match startSession location with
      | .error err => .error err
      | .ok () => .ok (assocId :: sessions)

/-- The branch of `process_udp_packet` for a packet of several fragments. `get_mut` on the
entry makes it the most recently used, as a `put` of it does. -/
def reassemble (fragments : LruCache UInt16 (FragmentedPacket (Option NetLocation)))
    (assocId packetId : UInt16) (fragTotal fragId : UInt8) (remoteLocation : Option NetLocation)
    (payload : List UInt8) :
    Result (Option Forward) × LruCache UInt16 (FragmentedPacket (Option NetLocation)) :=
  let isNew := !fragments.contains packetId
  let fragments :=
    if isNew then fragments.put packetId (FragmentedPacket.new fragTotal remoteLocation)
    else fragments
  match fragments.peek packetId with
  | none => (fail .other "Fragment cache error", fragments)
  | some packet =>
    let fragments := fragments.put packetId packet
    let firstWithoutAddress := isNew && fragId == 0 && packet.remoteLocation.isNone
    if firstWithoutAddress && remoteLocation.isNone then
      (fail .other
          s!"Ignoring packet with empty first fragment address for session {assocId}",
        fragments.pop packetId)
    else
      let packet := if firstWithoutAddress then { packet with remoteLocation } else packet
      match packet.receive fragTotal fragId payload with
      | .mismatchedCount =>
        (fail .other s!"Mismatched fragment count for session {assocId} packet {packetId}",
          fragments.pop packetId)
      | .outOfRange => (abort, fragments)
      | .duplicate =>
        (fail .other s!"Duplicate fragment for session {assocId} packet {packetId}",
          fragments.pop packetId)
      | .pending packet => (.ok none, fragments.put packetId packet)
      | .complete packet =>
        -- the completed entry leaves the cache; its destination is unwrapped
        let fragments := fragments.pop packetId
        match packet.remoteLocation with
        | none => (abort, fragments)
        | some location =>
          match joinFragments packet.received with
          | .ok completePayload => (.ok (some ⟨assocId, location, completePayload⟩), fragments)
          | .error fault => (.error fault, fragments)

/-- `process_udp_packet` for a datagram: the forward it asks for, if any, and the new state. -/
def processUdpPacket (startSession : NetLocation → Except IoError Unit) (state : ServerState)
    (packet : UdpPacket) : Result (Option Forward) × ServerState :=
  let ⟨assocId, packetId, fragTotal, fragId, remoteLocation, payload⟩ := packet
  if fragTotal = 0 then (fail .other "Ignoring packet with empty fragment total", state)
  else if fragTotal ≤ fragId then
    (fail .other s!"Invalid fragment id {fragId} >= total {fragTotal}", state)
  else
    match ensureSession startSession state.sessions assocId remoteLocation with
    | .error err => (.error (.error err), state)
    | .ok sessions =>
      let state := { state with sessions }
      if fragTotal = 1 then
        match remoteLocation with
        | none => (fail .other "Ignoring packet with single fragment and no address", state)
        | some location => (.ok (some ⟨assocId, location, payload⟩), state)
      else
        let (outcome, fragments) :=
          reassemble state.fragments assocId packetId fragTotal fragId remoteLocation payload
        (outcome, { state with fragments })

/-- `run_datagram_loop` over the datagrams of one connection: the forwards it asks for, in
order, and how it stands after them: still reading, or stopped by an error or a panic. The
errors of `process_udp_packet` are logged and the loop goes on. -/
def datagramLoop (startSession : NetLocation → Except IoError Unit) :
    ServerState → List (List UInt8) → List Forward × Result ServerState
  | state, [] => ([], .ok state)
  | state, data :: rest =>
    match parseDatagram data with
    | .error fault => ([], .error fault)
    | .ok none => datagramLoop startSession state rest
    | .ok (some packet) =>
      match processUdpPacket startSession state packet with
      | (.error .panic, _) => ([], abort)
      | (.error (.error _), state) => datagramLoop startSession state rest
      | (.ok forward, state) =>
        let (forwards, outcome) := datagramLoop startSession state rest
        (forward.toList ++ forwards, outcome)

/-- The two fragments a session's packet `[0x61, 0x62]` to `1.2.3.4:80` is cut into, as
`run_udp_remote_to_local_datagram_loop` emits them: the first with the address, the second
with the `0xff` marker. Delivered in that order they are forwarded as one payload; delivered
the other way round, the first fragment to arrive creates the entry without a destination,
the one with the destination is not new and leaves it unset, and completing the packet
unwraps `None`. -/
theorem datagramLoop_reordered_fragments_panic (startSession : NetLocation → Except IoError Unit) :
    datagramLoop startSession ⟨[7], LruCache.new maxFragmentCacheSize (by decide)⟩
        [[5, 2, 0, 7, 0, 0, 2, 0, 0, 1, 0x01, 1, 2, 3, 4, 0, 80, 0x61],
          [5, 2, 0, 7, 0, 0, 2, 1, 0, 1, 0xff, 0x62]] =
      ([⟨7, ⟨.ipv4 ⟨[1, 2, 3, 4], rfl⟩, 80⟩, [0x61, 0x62]⟩],
        .ok ⟨[7], LruCache.new maxFragmentCacheSize (by decide)⟩) ∧
    datagramLoop startSession ⟨[7], LruCache.new maxFragmentCacheSize (by decide)⟩
        [[5, 2, 0, 7, 0, 0, 2, 1, 0, 1, 0xff, 0x62],
          [5, 2, 0, 7, 0, 0, 2, 0, 0, 1, 0x01, 1, 2, 3, 4, 0, 80, 0x61]] =
      ([], abort) :=
  ⟨rfl, rfl⟩

end Shoes.Tuic
