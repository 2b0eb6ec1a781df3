import Shoes.Address
import Shoes.Fragments
import Shoes.LruCache

/-!
# Hysteria2 datagrams

The server side of Hysteria2 UDP relaying: the datagram parser of
`run_udp_local_to_remote_loop`, with its inline decoder of the QUIC variable-length address
length, the per-session fragment reassembly, and the loop over the datagrams of a
connection. `encode_varint` is the encoder the fragmenters use for the same field.

A datagram is `[session_id (4), packet_id (2), fragment_id, fragment_count,
address length (varint), address, payload]`, the address being the text of a
`NetLocation`. Malformed datagrams are skipped rather than ending the connection.

Opening a session (judging the destination, resolving it, binding a socket) is a parameter;
the choice of socket address for a forward and the send itself are effects of the
environment, and the model returns the forward it asks for.
-/

namespace Shoes.Hysteria2

open Wire Lru

def maxFragmentCacheSize : Nat := 256

/-- Sets the two length bits in the first byte of a big-endian word. -/
def tagFirstByte (tag : UInt8) : List UInt8 → List UInt8
  | [] => []
  | first :: rest => (first ||| tag) :: rest

/-- `encode_varint`: one, two, four or eight big-endian bytes, the two top bits of the first
giving the length. -/
def encodeVarint (value : UInt64) : Except IoError (List UInt8) :=
  if value.toNat ≤ 0b00111111 then .ok [UInt8.ofNat value.toNat]
  else if value.toNat < 2 ^ 14 then .ok (tagFirstByte 0b01000000 (beBytes 2 value.toNat))
  else if value.toNat < 2 ^ 30 then .ok (tagFirstByte 0b10000000 (beBytes 4 value.toNat))
  else if value.toNat < 2 ^ 62 then .ok (tagFirstByte 0b11000000 (beBytes 8 value.toNat))
  else .error ⟨.other, "value too large to encode as varint"⟩

/-- The number of bytes of a variable-length integer, from the top two bits of its first
byte (the `unreachable!()` arm cannot be taken). -/
def varintLength (firstByte : UInt8) : Nat :=
  match (firstByte >>> 6).toNat with
  | 0 => 1
  | 1 => 2
  | 2 => 4
  | _ => 8

/-- The address-length decoder inlined in `run_udp_local_to_remote_loop`: the value at byte 8
and the index after it. Only `data.len() >= 9` has been checked, so the slice of the
remaining bytes panics when the datagram ends inside the integer. The `u64` accumulator
holds at most 62 bits and does not overflow. -/
def readAddressLength (data : List UInt8) : Result (Nat × Nat) := do
  let firstByte ← byteAt data 8
  let numBytes := varintLength firstByte
  let value := (firstByte &&& 0b00111111).toNat
  if 1 < numBytes then do
    let remaining ← slice data 9 (9 + (numBytes - 1))
    let value := remaining.foldl (fun value byte => (value <<< 8) ||| byte.toNat) value
    .ok (value, 9 + (numBytes - 1))
  else .ok (value, 9)

theorem shiftRight_six_toNat (byte : UInt8) : (byte >>> 6).toNat = byte.toNat / 64 := by
  rw [UInt8.toNat_shiftRight, Nat.shiftRight_eq_div_pow]
  rfl

theorem and_low_six_toNat (byte : UInt8) : (byte &&& 0x3f).toNat = byte.toNat % 64 := by
  rw [UInt8.toNat_and, show (0x3f : UInt8).toNat = 2 ^ 6 - 1 from rfl,
    Nat.and_two_pow_sub_one_eq_mod]

theorem tagged_toNat (byte : UInt8) (small : byte.toNat < 64) {indicator : Nat}
    (indicatorBound : indicator < 4) :
    (byte ||| UInt8.ofNat (indicator * 64)).toNat = indicator * 64 + byte.toNat := by
  have disjoint : 2 ^ 6 * indicator + byte.toNat = 2 ^ 6 * indicator ||| byte.toNat :=
    Nat.two_pow_add_eq_or_of_lt (by simpa using small) indicator
  rw [UInt8.toNat_or, UInt8.toNat_ofNat', Nat.mod_eq_of_lt (by omega), Nat.or_comm,
    show indicator * 64 = 2 ^ 6 * indicator by omega, disjoint]

theorem varintLength_congr {first second : UInt8} (same : first.toNat / 64 = second.toNat / 64) :
    varintLength first = varintLength second := by
  unfold varintLength
  rw [shiftRight_six_toNat, shiftRight_six_toNat, same]

theorem readAddressLength_of_length {header : List UInt8} (headerLength : header.length = 8)
    (first : UInt8) (tail rest : List UInt8) (lengthOfFirst : varintLength first = tail.length + 1)
    (multi : 0 < tail.length) :
    readAddressLength (header ++ first :: tail ++ rest) =
      .ok ((first &&& 0x3f).toNat * 256 ^ tail.length + beValue tail, 9 + tail.length) := by
  have firstAt : byteAt (header ++ first :: tail ++ rest) 8 = .ok first := by
    simp [byteAt, headerLength]
  have remaining : slice (header ++ first :: tail ++ rest) 9 (9 + (tail.length + 1 - 1)) = .ok tail := by
    rw [slice_of_le (by omega) (by simp; omega)]
    simp [headerLength, List.drop_append, List.drop_eq_nil_of_le (show header.length ≤ 9 by omega)]
  simp only [readAddressLength, firstAt, ok_bind, lengthOfFirst, remaining, foldl_shiftByte]
  rw [if_pos (by omega), Nat.add_sub_cancel]

theorem readAddressLength_of_single {header : List UInt8} (headerLength : header.length = 8)
    (first : UInt8) (rest : List UInt8) (single : varintLength first = 1) :
    readAddressLength (header ++ first :: rest) = .ok ((first &&& 0x3f).toNat, 9) := by
  have firstAt : byteAt (header ++ first :: rest) 8 = .ok first := by
    simp [byteAt, headerLength]
  simp only [readAddressLength, firstAt, ok_bind, single]
  rfl

theorem readAddressLength_tagged {header : List UInt8} (headerLength : header.length = 8)
    (rest : List UInt8) (indicator width : Nat) (indicatorBound : indicator < 4)
    (tagLength : varintLength (UInt8.ofNat (indicator * 64)) = width + 1) (multi : 0 < width)
    {value : Nat} (fits : value < 64 * 256 ^ width) :
    readAddressLength
        (header ++ tagFirstByte (UInt8.ofNat (indicator * 64)) (beBytes (width + 1) value) ++ rest) =
      .ok (value, 9 + width) := by
  have topSmall : value / 256 ^ width < 64 := Nat.div_lt_of_lt_mul (by rwa [Nat.mul_comm])
  have topNat : (UInt8.ofNat (value / 256 ^ width)).toNat = value / 256 ^ width := by
    rw [UInt8.toNat_ofNat', Nat.mod_eq_of_lt (by omega)]
  have firstNat := tagged_toNat (UInt8.ofNat (value / 256 ^ width)) (by omega) indicatorBound
  rw [topNat] at firstNat
  have firstLength : varintLength (UInt8.ofNat (value / 256 ^ width) ||| UInt8.ofNat (indicator * 64)) =
      (beBytes width value).length + 1 := by
    rw [beBytes_length, ← tagLength]
    apply varintLength_congr
    rw [firstNat, UInt8.toNat_ofNat', Nat.mod_eq_of_lt (by omega)]
    omega
  rw [beBytes, tagFirstByte, readAddressLength_of_length headerLength _ _ _ firstLength (by simpa),
    and_low_six_toNat, firstNat, beBytes_length, beValue_beBytes]
  have low : (indicator * 64 + value / 256 ^ width) % 64 = value / 256 ^ width := by omega
  rw [low, Nat.div_add_mod']

/-- The inline decoder agrees with `encode_varint`: whatever the latter encodes, the former
reads back, and consumes exactly the bytes written. -/
theorem readAddressLength_encodeVarint {header : List UInt8} (headerLength : header.length = 8)
    {value : UInt64} {bytes : List UInt8} (encoded : encodeVarint value = .ok bytes)
    (rest : List UInt8) :
    readAddressLength (header ++ bytes ++ rest) = .ok (value.toNat, 8 + bytes.length) := by
  unfold encodeVarint at encoded
  split_ifs at encoded with one two four eight
  · -- one byte, below 64, with the length bits clear
    cases encoded
    have byteNat : (UInt8.ofNat value.toNat).toNat = value.toNat := by
      rw [UInt8.toNat_ofNat', Nat.mod_eq_of_lt (by omega)]
    have single : varintLength (UInt8.ofNat value.toNat) = varintLength 0 :=
      varintLength_congr (by rw [byteNat]; simp; omega)
    rw [List.append_assoc, List.singleton_append,
      readAddressLength_of_single headerLength _ _ single, and_low_six_toNat, byteNat,
      Nat.mod_eq_of_lt (by omega)]
    rfl
  · cases encoded
    exact readAddressLength_tagged headerLength rest 1 1 (by omega) rfl
      (by omega) (by simp; omega)
  · cases encoded
    exact readAddressLength_tagged headerLength rest 2 3 (by omega) rfl
      (by omega) (by simp; omega)
  · cases encoded
    exact readAddressLength_tagged headerLength rest 3 7 (by omega) rfl
      (by omega) (by simp; omega)

theorem readAddressLength_encodeVarint_sample :
    [(0 : UInt8), 0, 0, 0, 0, 0, 0, 0].length = 8 ∧ encodeVarint 300 = .ok [0x41, 0x2c] ∧
      readAddressLength ([0, 0, 0, 0, 0, 0, 0, 0] ++ [0x41, 0x2c] ++ [0x61]) =
        .ok ((300 : UInt64).toNat, 8 + [(0x41 : UInt8), 0x2c].length) :=
  ⟨rfl, by decide,
    readAddressLength_encodeVarint (show [(0 : UInt8), 0, 0, 0, 0, 0, 0, 0].length = 8 from rfl)
      (show encodeVarint 300 = .ok [0x41, 0x2c] by decide) [0x61]⟩

/-- A datagram as the loop reads it. -/
structure Datagram where
  sessionId : UInt32
  packetId : UInt16
  fragmentId : UInt8
  fragmentCount : UInt8
  remoteLocation : NetLocation
  payload : List UInt8
  deriving DecidableEq

/-- The parser of `run_udp_local_to_remote_loop`: `none` for a datagram it skips. -/
def parseDatagram (data : List UInt8) : Result (Option Datagram) :=
  if data.length < 9 then .ok none
  else do
    let sessionId := u32FromBe (← slice data 0 4)
    let packetId := u16FromBe (← slice data 4 6)
    let fragmentId ← byteAt data 6
    let fragmentCount ← byteAt data 7
    let (addressLen, nextIndex) ← readAddressLength data
    if addressLen = 0 then .ok none
    else if 2048 < addressLen then .ok none
    else if data.length < nextIndex + addressLen then .ok none
    else do
      let addressBytes ← slice data nextIndex (nextIndex + addressLen)
      let payloadFragment ← slice data (nextIndex + addressLen) data.length
      match strFromUtf8 addressBytes with
      | none => .ok none
      | some addrStr =>
        match NetLocation.fromStr addrStr none with
        | .error _ => .ok none
        | .ok remoteLocation =>
          .ok (some ⟨sessionId, packetId, fragmentId, fragmentCount, remoteLocation,
            payloadFragment⟩)

/-- A payload the server sends out through a session. -/
structure Forward where
  sessionId : UInt32
  location : NetLocation
  payload : List UInt8
  deriving DecidableEq

/-- The sessions of a connection, each with its fragment cache. -/
abbrev Sessions := List (UInt32 × LruCache UInt16 (FragmentedPacket NetLocation))

/-- How opening a session for a new session id ends: the session starts; the destination is
blocked or does not resolve and the datagram is skipped; or the socket cannot be bound and
the loop ends with the error. -/
inductive SessionStart
  | opened
  | refused
  | failed (err : IoError)

/-- The session for a datagram, opening one for a new session id. `none` skips the datagram. -/
def sessionFragments (startSession : NetLocation → SessionStart) (sessions : Sessions)
    (sessionId : UInt32) (remoteLocation : NetLocation) :
    Except IoError (Option (LruCache UInt16 (FragmentedPacket NetLocation))) :=
  match sessions.lookup sessionId with
  | some fragments => .ok (some fragments)
  | none =>
    match startSession remoteLocation with
    | .opened => .ok (some (LruCache.new maxFragmentCacheSize (by decide)))
    | .refused => .ok none
    | .failed err => .error err

/-- The reassembly branch for a datagram of several fragments: the payload to forward with the
destination of the entry, once complete, and the session's new fragment cache. -/
def reassemble (fragments : LruCache UInt16 (FragmentedPacket NetLocation)) (packetId : UInt16)
    (fragmentId fragmentCount : UInt8) (remoteLocation : NetLocation) (payload : List UInt8) :
    Result (Option (NetLocation × List UInt8)) × LruCache UInt16 (FragmentedPacket NetLocation) :=
  let isNew := !fragments.contains packetId
  let fragments :=
    if isNew then fragments.put packetId (FragmentedPacket.new fragmentCount remoteLocation)
    else fragments
  match fragments.peek packetId with
  | none => (.ok none, fragments)
  | some packet =>
    let fragments := fragments.put packetId packet
    match packet.receive fragmentCount fragmentId payload with
    | .mismatchedCount => (.ok none, fragments.pop packetId)
    | .outOfRange => (abort, fragments)
    | .duplicate => (.ok none, fragments.pop packetId)
    | .pending packet => (.ok none, fragments.put packetId packet)
    | .complete packet =>
      let fragments := fragments.pop packetId
      match joinFragments packet.received with
      | .ok completePayload => (.ok (some (packet.remoteLocation, completePayload)), fragments)
      | .error fault => (.error fault, fragments)

/-- One parsed datagram in `run_udp_local_to_remote_loop`: the forward it asks for, if any, and
the sessions after it. An error ends the loop. -/
def processDatagram (startSession : NetLocation → SessionStart) (sessions : Sessions)
    (datagram : Datagram) : Result (Option Forward × Sessions) :=
  let ⟨sessionId, packetId, fragmentId, fragmentCount, remoteLocation, payload⟩ := datagram
  match sessionFragments startSession sessions sessionId remoteLocation with
  | .error err => .error (.error err)
  | .ok none => .ok (none, sessions)
  | .ok (some fragments) =>
    let withFragments := fun fragments => (sessionId, fragments) :: removeKey sessionId sessions
    if fragmentCount = 0 then .ok (none, withFragments fragments)
    else if fragmentCount = 1 then
      .ok (some ⟨sessionId, remoteLocation, payload⟩, withFragments fragments)
    else
      match reassemble fragments packetId fragmentId fragmentCount remoteLocation payload with
      | (.error fault, _) => .error fault
      | (.ok none, fragments) => .ok (none, withFragments fragments)
      | (.ok (some (location, completePayload)), fragments) =>
        .ok (some ⟨sessionId, location, completePayload⟩, withFragments fragments)

/-- `run_udp_local_to_remote_loop` over the datagrams of one connection: the forwards it asks
for, in order, and how it stands after them: still reading, or stopped by an error or a
panic. -/
def datagramLoop (startSession : NetLocation → SessionStart) :
    Sessions → List (List UInt8) → List Forward × Result Sessions
  | sessions, [] => ([], .ok sessions)
  | sessions, data :: rest =>
    match parseDatagram data with
    | .error fault => ([], .error fault)
    | .ok none => datagramLoop startSession sessions rest
    | .ok (some datagram) =>
      match processDatagram startSession sessions datagram with
      | .error fault => ([], .error fault)
      | .ok (forward, sessions) =>
        let (forwards, outcome) := datagramLoop startSession sessions rest
        (forward.toList ++ forwards, outcome)

/-- A nine-byte datagram whose last byte announces a two-byte address length: the decoder
slices `data[9..10]` after checking only `data.len() >= 9`, and the loop panics. Every
sibling field is checked before it is read (`data.len() < next_index + address_len`). -/
theorem datagramLoop_short_varint_panics (startSession : NetLocation → SessionStart)
    (sessions : Sessions) :
    datagramLoop startSession sessions [[0, 0, 0, 1, 0, 0, 0, 1, 0x40]] = ([], abort) :=
  rfl

end Shoes.Hysteria2
