import Shoes.Address
import Shoes.SlideBuffer

/-!
# UDP over TCP, version 1

`UotV1ServerStream` of `uot_v1_server_stream.rs` carries UDP datagrams over a TCP stream, each as
a packet `ATYP address port length data` with its full destination (`parse_uot_address` and
`write_uot_address` of `uot_common.rs`; the address types are not SOCKS5's). Reading collects
the stream's bytes in a `SlideBuffer` of 65535 bytes until a whole packet is there, hands its
payload out and consumes it. When no whole packet is there and the buffer has no room left, the
read fails.

The buffer is compacted only when more than 4096 bytes have been consumed at its front, so a
packet that fits the buffer is refused when it follows a small packet in the same read: the
front of the buffer is not given back, and the packet's tail has nowhere to go
(`large_packet_after_small_refused`).
-/

namespace Shoes.Uot

open Wire

/-- `ATYP_IPV4` of UoT. -/
def atypIpv4 : UInt8 := 0x00

/-- `ATYP_IPV6` of UoT. -/
def atypIpv6 : UInt8 := 0x01

/-- `ATYP_DOMAIN` of UoT. -/
def atypDomain : UInt8 := 0x02

/-- `parse_uot_address`: the location and the bytes it took, or `none` while the address is
incomplete. -/
def parseUotAddress (data : List UInt8) : Result (Option (NetLocation × Nat)) :=
  match data with
  | [] => .ok none
  | atyp :: _ =>
    if atyp = atypIpv4 then
      if data.length < 7 then .ok none
      else do
        let ip ← ipv4OfSlice (← slice data 1 5)
        let port := u16FromBe [← byteAt data 5, ← byteAt data 6]
        .ok (some (⟨.ipv4 ip, port⟩, 7))
    else if atyp = atypIpv6 then
      if data.length < 19 then .ok none
      else do
        let ip ← ipv6OfSlice (← slice data 1 17)
        let port := u16FromBe [← byteAt data 17, ← byteAt data 18]
        .ok (some (⟨.ipv6 ip, port⟩, 19))
    else if atyp = atypDomain then
      if data.length < 2 then .ok none
      else do
        let domainLen := (← byteAt data 1).toNat
        let totalLen := 1 + 1 + domainLen + 2
        if data.length < totalLen then .ok none
        else do
          -- the hostname is kept as it is, not parsed with `Address::from`
          let domain ← fromUtf8 .other "invalid domain: " (← slice data 2 (2 + domainLen))
          let port := u16FromBe [← byteAt data (2 + domainLen), ← byteAt data (3 + domainLen)]
          .ok (some (⟨.hostname domain, port⟩, totalLen))
    else fail .other s!"unknown UoT ATYP: {atyp}"

/-- `write_uot_address` of a socket address. -/
def writeUotAddress (addr : SocketAddr) : List UInt8 :=
  match addr.ip with
  | .v4 ip => atypIpv4 :: ip.octets ++ u16ToBe addr.port
  | .v6 ip => atypIpv6 :: ip.octets ++ u16ToBe addr.port

def bufferSize : Nat := 65535

/-- The packet `poll_write_sourced_message` puts in its write buffer for a datagram `buf` from
`source`, or its error for a packet larger than the buffer. -/
def sourcedPacket (buf : List UInt8) (source : SocketAddr) : Except IoError (List UInt8) :=
  let addrLen := match source.ip with
    | .v4 _ => 7
    | .v6 _ => 19
  let totalLen := addrLen + 2 + buf.length
  if bufferSize < totalLen then .error ⟨.other, s!"UoT packet too large: {totalLen} > {bufferSize}"⟩
  else .ok (writeUotAddress source ++ u16ToBe (UInt16.ofNat buf.length) ++ buf)

/-- `try_parse_packet` on the buffered data: the location, where the payload starts and its
length, or `none` while the packet is incomplete. -/
def tryParsePacket (data : List UInt8) : Result (Option (NetLocation × Nat × Nat)) := do
  match ← parseUotAddress data with
  | none => .ok none
  | some (location, addrLen) =>
    if data.length < addrLen + 2 then .ok none
    else do
      let payloadLen := (u16FromBe [← byteAt data addrLen, ← byteAt data (addrLen + 1)]).toNat
      let payloadStart := addrLen + 2
      if data.length < payloadStart + payloadLen then .ok none
      else .ok (some (location, payloadStart, payloadLen))

theorem parseUotAddress_writeUotAddress (addr : SocketAddr) (rest : List UInt8) :
    parseUotAddress (writeUotAddress addr ++ rest) =
      .ok (some (addr.toNetLocation, (writeUotAddress addr).length)) := by
  obtain ⟨ip, port⟩ := addr
  obtain ⟨high, low, portBytes, word⟩ := u16ToBe_pair port
  cases ip with
  | v4 ip =>
    obtain ⟨octets, octetsLength⟩ := ip
    match octets, octetsLength with
    | [a, b, c, d], _ =>
      simp [parseUotAddress, writeUotAddress, portBytes, word, slice, byteAt, ipv4OfSlice,
        SocketAddr.toNetLocation, atypIpv4]
  | v6 ip =>
    obtain ⟨octets, octetsLength⟩ := ip
    -- the port's bytes sit right after the sixteen octets
    have atLow : (octets ++ high :: low :: rest)[17]? = some low := by
      rw [List.getElem?_append_right (by omega), octetsLength]
      rfl
    have long : ¬16 + (rest.length + 1 + 1) + 1 < 19 := by omega
    simp [parseUotAddress, writeUotAddress, portBytes, word, slice, byteAt, ipv6OfSlice,
      SocketAddr.toNetLocation, atypIpv4, atypIpv6, octetsLength, atLow, long]

theorem tryParsePacket_header (source : SocketAddr) (payloadLen : UInt16) (body : List UInt8) :
    tryParsePacket (writeUotAddress source ++ u16ToBe payloadLen ++ body) =
      .ok (if body.length < payloadLen.toNat then none
        else some (source.toNetLocation, (writeUotAddress source).length + 2, payloadLen.toNat)) := by
  obtain ⟨high, low, portBytes, word⟩ := u16ToBe_pair payloadLen
  have parsed := parseUotAddress_writeUotAddress source (u16ToBe payloadLen ++ body)
  rw [portBytes, List.cons_append, List.cons_append, List.nil_append] at parsed
  have atHigh : (writeUotAddress source ++ high :: low :: body)[(writeUotAddress source).length]? =
      some high := by
    simp
  have atLow :
      (writeUotAddress source ++ high :: low :: body)[(writeUotAddress source).length + 1]? =
        some low := by
    rw [List.getElem?_append_right (by omega)]
    simp
  simp only [tryParsePacket, portBytes, List.append_assoc, List.cons_append, List.nil_append,
    parsed, ok_bind, byteAt, atHigh, atLow, word, List.length_append, List.length_cons]
  rw [if_neg (by omega)]
  by_cases short : body.length < payloadLen.toNat
  · rw [if_pos (by omega), if_pos short]
  · rw [if_neg (by omega), if_neg short]

theorem writeUotAddress_length_le (addr : SocketAddr) : (writeUotAddress addr).length ≤ 19 := by
  obtain ⟨ip, port⟩ := addr
  cases ip with
  | v4 ip => simp [writeUotAddress, ip.octets_length]
  | v6 ip => simp [writeUotAddress, ip.octets_length]

theorem sourcedPacket_eq {payload packet : List UInt8} {source : SocketAddr}
    (written : sourcedPacket payload source = .ok packet) :
    packet = writeUotAddress source ++ u16ToBe (UInt16.ofNat payload.length) ++ payload ∧
      (writeUotAddress source).length + 2 + payload.length ≤ bufferSize := by
  obtain ⟨ip, port⟩ := source
  unfold sourcedPacket at written
  cases ip with
  | v4 ip =>
    dsimp only at written
    split_ifs at written with tooLarge
    cases written
    refine ⟨rfl, ?_⟩
    simp only [writeUotAddress, List.length_append, List.length_cons, ip.octets_length,
      u16ToBe_length]
    omega
  | v6 ip =>
    dsimp only at written
    split_ifs at written with tooLarge
    cases written
    refine ⟨rfl, ?_⟩
    simp only [writeUotAddress, List.length_append, List.length_cons, ip.octets_length,
      u16ToBe_length]
    omega

theorem tryParsePacket_sourcedPacket {payload packet : List UInt8} {source : SocketAddr}
    (written : sourcedPacket payload source = .ok packet) (body : List UInt8) :
    tryParsePacket (writeUotAddress source ++ u16ToBe (UInt16.ofNat payload.length) ++ body) =
      .ok (if body.length < payload.length then none
        else some (source.toNetLocation, (writeUotAddress source).length + 2, payload.length)) := by
  obtain ⟨-, fits⟩ := sourcedPacket_eq written
  have lengthWord : (UInt16.ofNat payload.length).toNat = payload.length := by
    rw [UInt16.toNat_ofNat', Nat.mod_eq_of_lt (by unfold bufferSize at fits; omega)]
  rw [tryParsePacket_header, lengthWord]

/-- The read side of `UotV1ServerStream`: the read buffer and whether the stream has ended. -/
structure UotV1ServerStream where
  readBuf : SlideBuffer
  isEof : Bool

/-- `NetLocation::UNSPECIFIED`, which a read returns at the end of the stream. -/
def unspecified : NetLocation :=
  ⟨.ipv4 (Ipv4Addr.new 0 0 0 0), 0⟩

/-- What `poll_read_targeted_message` returns: a location with the payload it put into the
caller's buffer, or `Pending`. -/
inductive TargetedRead
  | message (location : NetLocation) (payload : List UInt8)
  | pending
  deriving DecidableEq

namespace UotV1ServerStream

def new : UotV1ServerStream :=
  ⟨SlideBuffer.new bufferSize, false⟩

/-- `feed_initial_data`: as much of the data as the buffer has room for. -/
def feedInitialData (this : UotV1ServerStream) (data : List UInt8) : UotV1ServerStream :=
  if data.isEmpty then this
  else
    let len := min data.length this.readBuf.remainingCapacity
    { this with
      readBuf := this.readBuf.extendFromSlice (data.take len) (by simp [len]) }

/-- The payload of a parsed packet put into a caller's buffer with room for `room` bytes, and
the packet consumed from the read buffer. -/
def takePacket (this : UotV1ServerStream) (room payloadStart payloadLen : Nat) :
    Result (List UInt8 × UotV1ServerStream) := do
  let payload ← slice this.readBuf.data payloadStart (payloadStart + payloadLen)
  -- `ReadBuf::put_slice` asserts that the payload fits
  if room < payload.length then abort
  else .ok (payload, { this with readBuf := this.readBuf.consume (payloadStart + payloadLen) })

/-- The loop of `poll_read_targeted_message`, with `fuel` passes: parse a packet from the
buffer, and while there is none, compact if more than 4096 bytes were consumed, fail if the
buffer is full, and read more. `none` when the fuel runs out. -/
def readLoop (room : Nat) :
    Nat → UotV1ServerStream → Incoming → Option (Result (TargetedRead × UotV1ServerStream × Incoming))
  | 0, _, _ => none
  | fuel + 1, this, incoming =>
    match tryParsePacket this.readBuf.data with
    | .error fault => some (.error fault)
    | .ok (some (location, payloadStart, payloadLen)) =>
      some ((this.takePacket room payloadStart payloadLen).map fun (payload, this) =>
        (.message location payload, this, incoming))
    | .ok none =>
      let readBuf := this.readBuf.maybeCompact 4096
      if readBuf.remainingCapacity = 0 then
        some (fail .other "UoT read buffer full but no complete packet")
      else
        match reading : readIncoming readBuf.remainingCapacity incoming with
        | none => some (.ok (.pending, { this with readBuf }, incoming))
        | some (bytes, incoming) =>
          if bytes.isEmpty then some (.ok (.message unspecified [], ⟨readBuf, true⟩, incoming))
          else
            readLoop room fuel
              { this with readBuf := readBuf.advanceWrite bytes (readIncoming_length_le reading) }
              incoming

/-- `poll_read_targeted_message` into a `ReadBuf` with room for `room` bytes, reading from the
inner stream's `incoming` chunks; `none` when the call does not return. Each pass of the loop
but the last reads a byte at least, so a pass per incoming byte is enough. -/
def pollReadTargetedMessage (room : Nat) (this : UotV1ServerStream) (incoming : Incoming) :
    Option (Result (TargetedRead × UotV1ServerStream × Incoming)) :=
  if this.isEof then some (.ok (.message unspecified [], this, incoming))
  else readLoop room ((incoming.map List.length).sum + 1) this incoming

theorem readLoop_packet {room fuel : Nat} {this : UotV1ServerStream} {incoming : Incoming}
    {location : NetLocation} {payloadStart payloadLen : Nat}
    (parsed : tryParsePacket this.readBuf.data = .ok (some (location, payloadStart, payloadLen))) :
    readLoop room (fuel + 1) this incoming =
      some ((this.takePacket room payloadStart payloadLen).map fun (payload, this) =>
        (.message location payload, this, incoming)) := by
  rw [readLoop, parsed]

theorem readLoop_full {room fuel : Nat} {this : UotV1ServerStream} {incoming : Incoming}
    (incomplete : tryParsePacket this.readBuf.data = .ok none)
    (full : (this.readBuf.maybeCompact 4096).remainingCapacity = 0) :
    readLoop room (fuel + 1) this incoming =
      some (fail .other "UoT read buffer full but no complete packet") := by
  rw [readLoop, incomplete]
  simp only [full, if_true]

theorem readLoop_read {room fuel : Nat} {this : UotV1ServerStream} {incoming rest : Incoming}
    {bytes : List UInt8} (incomplete : tryParsePacket this.readBuf.data = .ok none)
    (roomLeft : (this.readBuf.maybeCompact 4096).remainingCapacity ≠ 0)
    (read : readIncoming (this.readBuf.maybeCompact 4096).remainingCapacity incoming =
      some (bytes, rest))
    (nonempty : bytes ≠ []) :
    readLoop room (fuel + 1) this incoming =
      readLoop room fuel
        { this with
          readBuf := (this.readBuf.maybeCompact 4096).advanceWrite bytes (readIncoming_length_le read) }
        rest := by
  rw [readLoop, incomplete]
  simp only [if_neg roomLeft]
  split
  · rename_i pending
    rw [read] at pending
    cases pending
  · rename_i bytes' rest' reading
    obtain ⟨rfl, rfl⟩ : bytes = bytes' ∧ rest = rest' := by
      rw [read] at reading
      cases reading
      exact ⟨rfl, rfl⟩
    simp [nonempty]

theorem readLoop_new_fill (room fuel : Nat) {chunk : List UInt8} (rest : Incoming)
    (long : bufferSize < chunk.length) :
    ∃ this : UotV1ServerStream, this.readBuf.data = chunk.take bufferSize ∧
      this.readBuf.start = 0 ∧ this.readBuf.capacity = bufferSize ∧ this.isEof = false ∧
      readLoop room (fuel + 1) new (chunk :: rest) =
        readLoop room fuel this (chunk.drop bufferSize :: rest) := by
  have incomplete : tryParsePacket new.readBuf.data = .ok none := rfl
  have unchanged : new.readBuf.maybeCompact 4096 = new.readBuf :=
    SlideBuffer.maybeCompact_of_le (by decide)
  have roomLeft : (new.readBuf.maybeCompact 4096).remainingCapacity = bufferSize := by
    rw [unchanged]
    rfl
  have short : (chunk.take bufferSize).length < chunk.length := by
    rw [List.length_take]
    omega
  have read : readIncoming (new.readBuf.maybeCompact 4096).remainingCapacity (chunk :: rest) =
      some (chunk.take bufferSize, chunk.drop bufferSize :: rest) := by
    rw [roomLeft]
    simp only [readIncoming, short, if_true]
  have nonempty : chunk.take bufferSize ≠ [] := by
    intro empty
    rw [empty] at short
    simp only [List.length_nil] at short
    have := congrArg List.length empty
    simp only [List.length_take, List.length_nil] at this
    unfold bufferSize at this
    omega
  obtain ⟨capacity, data, -⟩ := new.readBuf.maybeCompact_data 4096
  refine ⟨_, ?_, ?_, ?_, rfl, readLoop_read incomplete (by rw [roomLeft]; decide) read nonempty⟩
  · rw [SlideBuffer.data_advanceWrite, data]
    rfl
  · rw [SlideBuffer.start_advanceWrite, unchanged]
    rfl
  · rw [SlideBuffer.capacity_advanceWrite, capacity]
    rfl

theorem readLoop_sourcedPacket (fuel : Nat) (incoming : Incoming) {room : Nat} {this : UotV1ServerStream}
    {payload packet tail : List UInt8} {source : SocketAddr}
    (written : sourcedPacket payload source = .ok packet)
    (front : this.readBuf.data = packet ++ tail) (roomy : payload.length ≤ room) :
    ∃ next, readLoop room (fuel + 1) this incoming =
        some (.ok (.message source.toNetLocation payload, next, incoming)) ∧
      next.readBuf = this.readBuf.consume packet.length ∧ next.isEof = this.isEof := by
  obtain ⟨shape, -⟩ := sourcedPacket_eq written
  have packetLength : packet.length = (writeUotAddress source).length + 2 + payload.length := by
    simp [shape, Nat.add_assoc]
  rw [shape] at front
  have parsed : tryParsePacket this.readBuf.data =
      .ok (some (source.toNetLocation, (writeUotAddress source).length + 2, payload.length)) := by
    rw [front, List.append_assoc _ payload, tryParsePacket_sourcedPacket written,
      if_neg (by simp)]
  have sliced : slice this.readBuf.data ((writeUotAddress source).length + 2)
      ((writeUotAddress source).length + 2 + payload.length) = .ok payload := by
    have middle := slice_append (writeUotAddress source ++ u16ToBe (UInt16.ofNat payload.length))
      payload tail
    simpa [front] using middle
  refine ⟨{ this with readBuf := this.readBuf.consume packet.length }, ?_, rfl, rfl⟩
  rw [readLoop_packet parsed, packetLength]
  simp [takePacket, sliced, Nat.not_lt.mpr roomy, Except.map]

theorem readLoop_partial_full (fuel : Nat) (incoming : Incoming) {room : Nat} {this : UotV1ServerStream}
    {payload packet : List UInt8} {source : SocketAddr} {received : Nat}
    (written : sourcedPacket payload source = .ok packet)
    (partly : this.readBuf.data = packet.take received)
    (headerIn : (writeUotAddress source).length + 2 ≤ received) (short : received < packet.length)
    (uncompacted : this.readBuf.start ≤ 4096)
    (full : this.readBuf.endOffset = this.readBuf.capacity) :
    readLoop room (fuel + 1) this incoming =
      some (fail .other "UoT read buffer full but no complete packet") := by
  obtain ⟨shape, -⟩ := sourcedPacket_eq written
  subst shape
  have header : (writeUotAddress source ++ u16ToBe (UInt16.ofNat payload.length)).length =
      (writeUotAddress source).length + 2 := by
    simp
  have body : this.readBuf.data = writeUotAddress source ++ u16ToBe (UInt16.ofNat payload.length) ++
      payload.take (received - ((writeUotAddress source).length + 2)) := by
    rw [partly, List.take_append, List.take_of_length_le (by omega), header]
  have incomplete : tryParsePacket this.readBuf.data = .ok none := by
    rw [body, tryParsePacket_sourcedPacket written, if_pos]
    simp only [List.length_take, List.length_append, header] at short ⊢
    omega
  refine readLoop_full incomplete ?_
  rw [SlideBuffer.maybeCompact_of_le uncompacted, SlideBuffer.remainingCapacity, full,
    Nat.sub_self]

/-- A packet that fits the buffer is refused when it comes in the same read as a small packet
before it: the first call hands out the small packet, and the second finds the buffer full with
the large packet incomplete, since the few bytes consumed at the front are not compacted away. -/
theorem large_packet_after_small_refused {room : Nat} {firstSource secondSource : SocketAddr}
    {firstPayload secondPayload first second : List UInt8} (more : List UInt8)
    (firstWritten : sourcedPacket firstPayload firstSource = .ok first)
    (secondWritten : sourcedPacket secondPayload secondSource = .ok second)
    (small : first.length ≤ 4096) (together : bufferSize < first.length + second.length)
    (roomy : firstPayload.length ≤ room) :
    ∃ this incoming,
      pollReadTargetedMessage room new [first ++ second ++ more] =
        some (.ok (.message firstSource.toNetLocation firstPayload, this, incoming)) ∧
      pollReadTargetedMessage room this incoming =
        some (fail .other "UoT read buffer full but no complete packet") := by
  have size : bufferSize = 65535 := rfl
  have long : bufferSize < (first ++ second ++ more).length := by
    simp only [List.length_append]
    omega
  -- the first call reads a buffer's worth and hands out the first packet
  obtain ⟨filled, filledData, filledStart, filledCapacity, filledEof, fill⟩ :=
    readLoop_new_fill room (first ++ second ++ more).length [] long
  have kept : bufferSize - first.length < second.length := by omega
  have filledFront : filled.readBuf.data = first ++ second.take (bufferSize - first.length) := by
    rw [filledData, List.append_assoc, List.take_append, List.take_of_length_le (by omega),
      List.take_append_of_le_length (by omega)]
  obtain ⟨next, handOut, nextBuf, nextEof⟩ :=
    readLoop_sourcedPacket ((first ++ second ++ more).length - 1)
      [(first ++ second ++ more).drop bufferSize] firstWritten filledFront roomy
  refine ⟨next, [(first ++ second ++ more).drop bufferSize], ?_, ?_⟩
  · have fuel : ([first ++ second ++ more].map List.length).sum + 1 =
        (first ++ second ++ more).length + 1 := by
      simp only [List.map_cons, List.map_nil, List.sum_cons, List.sum_nil, Nat.add_zero]
    have again : (first ++ second ++ more).length = (first ++ second ++ more).length - 1 + 1 := by
      omega
    rw [pollReadTargetedMessage, if_neg (by decide), fuel, fill, again, handOut]
  -- the second call finds the rest of the buffer taken by the incomplete second packet
  · have nextData : next.readBuf.data = second.take (bufferSize - first.length) := by
      rw [nextBuf, (filled.readBuf.consume_data first.length).2, filledFront, List.drop_left]
    have nextStart : next.readBuf.start = first.length := by
      have inside : first.length < filled.readBuf.data.length := by
        rw [filledFront, List.length_append, List.length_take]
        omega
      rw [nextBuf, SlideBuffer.consume_start inside, filledStart, Nat.zero_add]
    have nextFull : next.readBuf.endOffset = next.readBuf.capacity := by
      rw [SlideBuffer.endOffset, nextStart, nextData, nextBuf,
        (filled.readBuf.consume_data _).1, filledCapacity, List.length_take]
      omega
    have headerIn : (writeUotAddress secondSource).length + 2 ≤ bufferSize - first.length := by
      have := writeUotAddress_length_le secondSource
      omega
    rw [pollReadTargetedMessage, if_neg (by rw [nextEof, filledEof]; decide)]
    exact readLoop_partial_full _ _ secondWritten nextData headerIn kept (by omega) nextFull

theorem large_packet_after_small_refused_sample :
    sourcedPacket [] ⟨.v4 ⟨[0, 0, 0, 0], rfl⟩, 0⟩ = .ok [0, 0, 0, 0, 0, 0, 0, 0, 0] ∧
      sourcedPacket (List.replicate 65526 0) ⟨.v4 ⟨[0, 0, 0, 0], rfl⟩, 0⟩ =
        .ok ([0, 0, 0, 0, 0, 0, 0, 0xff, 0xf6] ++ List.replicate 65526 0) ∧
      ([0, 0, 0, 0, 0, 0, 0, 0, 0] : List UInt8).length ≤ 4096 ∧
      bufferSize < ([0, 0, 0, 0, 0, 0, 0, 0, 0] : List UInt8).length +
        ([0, 0, 0, 0, 0, 0, 0, 0xff, 0xf6] ++ List.replicate 65526 (0 : UInt8)).length ∧
      ([] : List UInt8).length ≤ 65535 ∧
      ∃ this incoming,
        pollReadTargetedMessage 65535 new
            [[0, 0, 0, 0, 0, 0, 0, 0, 0] ++ ([0, 0, 0, 0, 0, 0, 0, 0xff, 0xf6] ++ List.replicate 65526 0) ++ []] =
          some (.ok (.message (SocketAddr.toNetLocation ⟨.v4 ⟨[0, 0, 0, 0], rfl⟩, 0⟩) [], this,
            incoming)) ∧
        pollReadTargetedMessage 65535 this incoming =
          some (fail .other "UoT read buffer full but no complete packet") := by
  have first : sourcedPacket [] ⟨.v4 ⟨[0, 0, 0, 0], rfl⟩, 0⟩ = .ok [0, 0, 0, 0, 0, 0, 0, 0, 0] := by
    decide
  have fits : ¬bufferSize < 7 + 2 + (List.replicate 65526 (0 : UInt8)).length := by
    rw [List.length_replicate]
    decide
  have second : sourcedPacket (List.replicate 65526 0) ⟨.v4 ⟨[0, 0, 0, 0], rfl⟩, 0⟩ =
      .ok ([0, 0, 0, 0, 0, 0, 0, 0xff, 0xf6] ++ List.replicate 65526 0) := by
    have header : writeUotAddress ⟨.v4 ⟨[0, 0, 0, 0], rfl⟩, 0⟩ ++ u16ToBe (UInt16.ofNat 65526) =
        [0, 0, 0, 0, 0, 0, 0, 0xff, 0xf6] := by
      rfl
    simp only [sourcedPacket]
    rw [if_neg fits, List.length_replicate, header]
  have small : ([0, 0, 0, 0, 0, 0, 0, 0, 0] : List UInt8).length ≤ 4096 := by decide
  have together : bufferSize < ([0, 0, 0, 0, 0, 0, 0, 0, 0] : List UInt8).length +
      ([0, 0, 0, 0, 0, 0, 0, 0xff, 0xf6] ++ List.replicate 65526 (0 : UInt8)).length := by
    rw [List.length_append, List.length_replicate]
    decide
  have roomy : ([] : List UInt8).length ≤ 65535 := by decide
  exact ⟨first, second, small, together, roomy,
    large_packet_after_small_refused [] first second small together roomy⟩

end UotV1ServerStream

end Shoes.Uot
