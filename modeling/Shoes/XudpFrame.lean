import Shoes.Address

/-!
# XUDP frames

XUDP multiplexes UDP sessions over one stream. Each frame starts with its metadata, prefixed
by its big-endian 16-bit length: the session id, the session status, the option bits and, for
a new session or a UDP keep frame, the network, the port and the address of the destination
in the VLESS address format. A frame whose DATA bit is set is followed by a 16-bit data
length and the data.

This module models `FrameMetadata::encode` and `FrameMetadata::decode` with the address
codec they share, and proves that decoding reads back what encoding wrote and nothing more:
`FrameMetadata.decode_encode`.
-/

namespace Shoes.Xudp

open Wire

/-- `SessionStatus`; `End` is `close`, after the source's comment ("Close session"). -/
inductive SessionStatus
  | new | keep | close | keepAlive
  deriving DecidableEq, Repr

def SessionStatus.toByte : SessionStatus → UInt8
  | .new => 0x01
  | .keep => 0x02
  | .close => 0x03
  | .keepAlive => 0x04

def SessionStatus.tryFrom (value : UInt8) : Except IoError SessionStatus :=
  if value = 0x01 then .ok .new
  else if value = 0x02 then .ok .keep
  else if value = 0x03 then .ok .close
  else if value = 0x04 then .ok .keepAlive
  else .error ⟨.invalidData, "invalid session status: " ++ toString value⟩

def optionData : UInt8 := 0x01

def optionError : UInt8 := 0x02

inductive TargetNetwork
  | tcp | udp
  deriving DecidableEq, Repr

def TargetNetwork.toByte : TargetNetwork → UInt8
  | .tcp => 0x01
  | .udp => 0x02

def TargetNetwork.tryFrom (value : UInt8) : Except IoError TargetNetwork :=
  if value = 0x01 then .ok .tcp
  else if value = 0x02 then .ok .udp
  else .error ⟨.invalidData, "invalid network type: " ++ toString value⟩

/-- `FrameMetadata`; the option is its raw byte. -/
structure FrameMetadata where
  sessionId : UInt16
  status : SessionStatus
  option : UInt8
  target : Option NetLocation
  network : Option TargetNetwork
  deriving DecidableEq

def encodeAddress : Address → Except IoError (List UInt8)
  | .ipv4 addr => .ok (0x01 :: addr.octets)
  | .hostname hostname =>
    if 255 < (strBytes hostname).length then .error ⟨.invalidInput, "hostname too long"⟩
    else .ok (0x02 :: UInt8.ofNat (strBytes hostname).length :: strBytes hostname)
  | .ipv6 addr => .ok (0x03 :: addr.octets)

/-- The port and address that follow the network byte. -/
def encodeDestination (target : NetLocation) : Except IoError (List UInt8) :=
  (encodeAddress target.address).map fun address => u16ToBe target.port ++ address

/-- Whether a frame carries its destination: a new session, or a keep frame of a UDP
session. -/
def FrameMetadata.carriesTarget (metadata : FrameMetadata) : Bool :=
  metadata.status = .new || (metadata.status = .keep && metadata.network = some .udp)

/-- What decoding a frame's metadata gives back: the metadata itself when it carries its
target, and otherwise the metadata without its target and network, which are not written. -/
def FrameMetadata.decoded (metadata : FrameMetadata) : FrameMetadata :=
  if metadata.carriesTarget then metadata else { metadata with target := none, network := none }

/-- The part of `FrameMetadata::encode` after the option byte: the network, port and address of
a new session or of a UDP keep frame, and nothing otherwise. -/
def FrameMetadata.encodeTarget (metadata : FrameMetadata) : Except IoError (List UInt8) :=
  if metadata.status = .new then
    match metadata.network with
    | none => .error ⟨.invalidInput, "network required for SessionStatusNew"⟩
    | some network =>
      match metadata.target with
      | none => .error ⟨.invalidInput, "target required for SessionStatusNew"⟩
      | some target => (encodeDestination target).map (network.toByte :: ·)
  else if metadata.status = .keep ∧ metadata.network = some .udp then
    match metadata.target with
    | none => .error ⟨.invalidInput, "target required for Keep+UDP"⟩
    | some target => (encodeDestination target).map (TargetNetwork.udp.toByte :: ·)
  else .ok []

/-- `FrameMetadata::encode`: the length prefix, filled in last, then the metadata. -/
def FrameMetadata.encode (metadata : FrameMetadata) : Except IoError (List UInt8) := do
  let destination ← metadata.encodeTarget
  let body := u16ToBe metadata.sessionId ++ [metadata.status.toByte, metadata.option] ++ destination
  .ok (u16ToBe (UInt16.ofNat body.length) ++ body)

/-- `decode_address`: the address and the rest of the buffer. The checks come before each read,
so it cannot panic. -/
def decodeAddress (buf : List UInt8) : Except IoError (Address × List UInt8) :=
  match buf with
  | [] => .error ⟨.unexpectedEof, "incomplete address type"⟩
  | addrType :: buf =>
    if addrType = 0x01 then
      match buf with
      | a :: b :: c :: d :: rest => .ok (.ipv4 (Ipv4Addr.new a b c d), rest)
      | _ => .error ⟨.unexpectedEof, "incomplete IPv4 address"⟩
    else if addrType = 0x02 then
      match buf with
      | [] => .error ⟨.unexpectedEof, "incomplete hostname length"⟩
      | len :: buf =>
        if buf.length < len.toNat then .error ⟨.unexpectedEof, "incomplete hostname"⟩
        else
          match strFromUtf8 (buf.take len.toNat) with
          | none => .error ⟨.invalidData, "invalid utf-8"⟩
          | some hostname =>
            (Address.fromStr hostname).map fun address => (address, buf.drop len.toNat)
    else if addrType = 0x03 then
      if size : 16 ≤ buf.length then
        .ok (.ipv6 ⟨buf.take 16, by simp [List.length_take, Nat.min_eq_left size]⟩, buf.drop 16)
      else .error ⟨.unexpectedEof, "incomplete IPv6 address"⟩
    else .error ⟨.invalidData, "invalid address type: " ++ toString addrType⟩

/-- `FrameMetadata::decode`: `none` while the metadata is incomplete, otherwise the metadata
and the buffer after it. The destination is read when the metadata has more than its four
fixed bytes and the status is New, or Keep with a UDP network byte next; its reads
(`get_u8`, `get_u16`) panic if the buffer ends. Metadata bytes left unread are skipped. -/
def FrameMetadata.decode (buf : List UInt8) : Result (Option (FrameMetadata × List UInt8)) :=
  match buf with
  | high :: low :: buf =>
    let metadataLen := (u16FromBe [high, low]).toNat
    if buf.length < metadataLen then .ok none
    else if metadataLen < 4 then fail .invalidData ("metadata too short: " ++ toString metadataLen)
    else do
      let metadataStart := buf.length
      let (sessionId, buf) ← Buf.getU16 buf
      let (statusByte, buf) ← Buf.getU8 buf
      match SessionStatus.tryFrom statusByte with
      | .error err => .error (.error err)
      | .ok status => do
        let (option, buf) ← Buf.getU8 buf
        let remainingMetadata := metadataLen - 4
        let parsed : Result ((Option TargetNetwork × Option NetLocation) × List UInt8) :=
          if 0 < remainingMetadata ∧
              (status = .new ∨ (status = .keep ∧ 0 < buf.length ∧ buf.head? = some 0x02)) then do
            let (netByte, buf) ← Buf.getU8 buf
            match TargetNetwork.tryFrom netByte with
            | .error err => .error (.error err)
            | .ok network => do
              let (port, buf) ← Buf.getU16 buf
              match decodeAddress buf with
              | .error err => .error (.error err)
              | .ok (address, buf) => .ok ((some network, some ⟨address, port⟩), buf)
          else .ok ((none, none), buf)
        let ((network, target), buf) ← parsed
        let consumed := metadataStart - buf.length
        let unconsumed := metadataLen - consumed
        let buf ← Buf.advance unconsumed buf
        .ok (some (⟨sessionId, status, option, target, network⟩, buf))
  | _ => .ok none

/-- A New frame that declares five bytes of metadata: the destination branch is entered and
reads the network byte, then the port and the address from the bytes after the metadata; with
no bytes after it, the port read panics. -/
theorem decode_reads_past_metadata :
    FrameMetadata.decode [0, 5, 0, 1, 1, 0, 2, 0, 53, 1, 1, 2, 3, 4, 0x61] =
        .ok (some (⟨1, .new, 0, some ⟨.ipv4 ⟨[1, 2, 3, 4], rfl⟩, 53⟩, some .udp⟩, [0x61])) ∧
      FrameMetadata.decode [0, 5, 0, 1, 1, 0, 2] = abort := by
  constructor <;> decide

theorem decodeAddress_eq_ok {buf rest : List UInt8} {address : Address}
    (decoded : decodeAddress buf = .ok (address, rest)) : rest.length ≤ buf.length := by
  unfold decodeAddress at decoded
  split at decoded
  · cases decoded
  rename_i addrType buf
  split_ifs at decoded
  · split at decoded
    · cases decoded
      simp
      omega
    · cases decoded
  · split at decoded
    · cases decoded
    rename_i len buf
    split_ifs at decoded
    split at decoded
    · cases decoded
    obtain ⟨_, _, same⟩ := map_eq_ok decoded
    cases same
    simp
    omega
  · cases decoded
    simp
    omega

theorem FrameMetadata.decode_consumes {buf rest : List UInt8} {metadata : FrameMetadata}
    (decoded : FrameMetadata.decode buf = .ok (some (metadata, rest))) : rest.length + 6 ≤ buf.length := by
  unfold FrameMetadata.decode at decoded
  split at decoded
  · rename_i high low buf
    dsimp only at decoded
    split_ifs at decoded with short tooShort
    · cases decoded
    · cases decoded
    obtain ⟨⟨sessionId, afterId⟩, readId, decoded⟩ := bind_eq_ok decoded
    obtain ⟨⟨statusByte, afterStatus⟩, readStatus, decoded⟩ := bind_eq_ok decoded
    split at decoded
    · cases decoded
    obtain ⟨⟨option, afterOption⟩, readOption, decoded⟩ := bind_eq_ok decoded
    obtain ⟨⟨⟨network, target⟩, parsedRest⟩, parsed, decoded⟩ := bind_eq_ok decoded
    obtain ⟨skipped, skip, decoded⟩ := bind_eq_ok decoded
    have parsedShorter : parsedRest.length ≤ afterOption.length := by
      split_ifs at parsed
      · obtain ⟨⟨netByte, afterNet⟩, readNet, parsed⟩ := bind_eq_ok parsed
        split at parsed
        · cases parsed
        obtain ⟨⟨port, afterPort⟩, readPort, parsed⟩ := bind_eq_ok parsed
        split at parsed
        · cases parsed
        rename_i readAddress
        cases parsed
        have := Buf.getU8_eq_ok readNet
        have := Buf.getU16_eq_ok readPort
        have := decodeAddress_eq_ok readAddress
        dsimp only at *
        omega
      · cases parsed
        exact le_refl _
    cases decoded
    have := Buf.getU16_eq_ok readId
    have := Buf.getU8_eq_ok readStatus
    have := Buf.getU8_eq_ok readOption
    have := Buf.advance_eq_ok skip
    dsimp only at *
    simp only [List.length_cons]
    omega
  · cases decoded

@[simp] theorem SessionStatus.tryFrom_toByte (status : SessionStatus) :
    SessionStatus.tryFrom status.toByte = .ok status := by
  cases status <;> rfl

@[simp] theorem TargetNetwork.tryFrom_toByte (network : TargetNetwork) :
    TargetNetwork.tryFrom network.toByte = .ok network := by
  cases network <;> rfl

@[simp] theorem TargetNetwork.toByte_eq_two_iff (network : TargetNetwork) :
    network.toByte = 0x02 ↔ network = .udp := by
  cases network <;> decide

theorem encodeAddress_length_le {address : Address} {bytes : List UInt8}
    (encoded : encodeAddress address = .ok bytes) : bytes.length ≤ 257 := by
  cases address with
  | ipv4 addr =>
    simp only [encodeAddress, Except.ok.injEq] at encoded
    simp [← encoded, addr.octets_length]
  | ipv6 addr =>
    simp only [encodeAddress, Except.ok.injEq] at encoded
    simp [← encoded, addr.octets_length]
  | hostname name =>
    -- the length check keeps the name within one length byte
    simp only [encodeAddress] at encoded
    split_ifs at encoded with tooLong
    simp only [Except.ok.injEq] at encoded
    simp only [← encoded, List.length_cons]
    omega

theorem decodeAddress_encodeAddress {address : Address} {bytes : List UInt8}
    (encoded : encodeAddress address = .ok bytes)
    (hostnameReadsBack : ∀ name, address = .hostname name → Address.fromStr name = .ok (.hostname name))
    (rest : List UInt8) :
    decodeAddress (bytes ++ rest) = .ok (address, rest) := by
  cases address with
  | ipv4 addr =>
    obtain ⟨octets, octetsLength⟩ := addr
    simp only [encodeAddress, Except.ok.injEq] at encoded
    subst encoded
    match octets, octetsLength with
    | [a, b, c, d], _ => rfl
  | ipv6 addr =>
    obtain ⟨octets, octetsLength⟩ := addr
    simp only [encodeAddress, Except.ok.injEq] at encoded
    subst encoded
    simp [decodeAddress, octetsLength]
  | hostname name =>
    simp only [encodeAddress] at encoded
    split_ifs at encoded with tooLong
    simp only [Except.ok.injEq] at encoded
    subst encoded
    have lengthByte : (UInt8.ofNat (strBytes name).length).toNat = (strBytes name).length := by
      rw [UInt8.toNat_ofNat', Nat.mod_eq_of_lt (by omega)]
    simp [decodeAddress, lengthByte, strFromUtf8_strBytes, hostnameReadsBack name rfl, Except.map]

theorem decode_without_destination (sessionId : UInt16) (status : SessionStatus) (option : UInt8)
    (trailing suffix : List UInt8) (fits : 4 + trailing.length < 65536) (notNew : status ≠ .new)
    (skipped : status = .keep → trailing.head? ≠ some 0x02) :
    FrameMetadata.decode (u16ToBe (UInt16.ofNat (4 + trailing.length)) ++
        (u16ToBe sessionId ++ [status.toByte, option]) ++ trailing ++ suffix) =
      .ok (some (⟨sessionId, status, option, none, none⟩, suffix)) := by
  obtain ⟨high, low, prefixEq, wordEq⟩ := u16ToBe_pair (UInt16.ofNat (4 + trailing.length))
  have metadataLen : (u16FromBe [high, low]).toNat = 4 + trailing.length := by
    rw [wordEq, UInt16.toNat_ofNat', Nat.mod_eq_of_lt fits]
  rw [prefixEq]
  -- no destination is read: the trailing bytes are empty, or do not start with a UDP network byte
  rcases trailing with _ | ⟨first, rest⟩
  · simp +arith [FrameMetadata.decode, metadataLen, Buf.advance]
  · by_cases keep : status = .keep
    · have notUdp : first ≠ 2 := by simpa using skipped keep
      simp +arith [FrameMetadata.decode, metadataLen, Buf.advance, keep, notUdp]
    · simp +arith [FrameMetadata.decode, metadataLen, Buf.advance, notNew, keep]

theorem decode_with_destination (sessionId : UInt16) (status : SessionStatus) (option : UInt8)
    (network : TargetNetwork) {target : NetLocation} {destination : List UInt8}
    (destinationEncoded : encodeDestination target = .ok destination)
    (hostnameReadsBack : ∀ name, target.address = .hostname name → Address.fromStr name = .ok (.hostname name))
    (announced : status = .new ∨ (status = .keep ∧ network = .udp)) (trailing suffix : List UInt8)
    (fits : 5 + destination.length + trailing.length < 65536) :
    let body := u16ToBe sessionId ++ [status.toByte, option] ++ network.toByte :: destination ++ trailing
    FrameMetadata.decode (u16ToBe (UInt16.ofNat body.length) ++ body ++ suffix) =
      .ok (some (⟨sessionId, status, option, some target, some network⟩, suffix)) := by
  rcases addressEncoded : encodeAddress target.address with err | addressBytes
  · simp [encodeDestination, addressEncoded, Except.map] at destinationEncoded
  simp only [encodeDestination, addressEncoded, Except.map, Except.ok.injEq] at destinationEncoded
  subst destinationEncoded
  have addressReadsBack := decodeAddress_encodeAddress addressEncoded hostnameReadsBack (trailing ++ suffix)
  have bodyLength : (u16ToBe sessionId ++ [status.toByte, option] ++
      network.toByte :: (u16ToBe target.port ++ addressBytes) ++ trailing).length =
        7 + addressBytes.length + trailing.length := by
    simp; omega
  intro body
  obtain ⟨high, low, prefixEq, wordEq⟩ := u16ToBe_pair (UInt16.ofNat body.length)
  have metadataLen : (u16FromBe [high, low]).toNat = 7 + addressBytes.length + trailing.length := by
    rw [wordEq, bodyLength, UInt16.toNat_ofNat', Nat.mod_eq_of_lt (by simp at fits; omega)]
  rw [prefixEq]
  -- the metadata ends after the trailing bytes, which the final advance skips
  have skip : trailing.length + addressBytes.length + 7 -
      (trailing.length + suffix.length + addressBytes.length + 7 - (trailing.length + suffix.length)) =
        trailing.length := by omega
  rcases announced with rfl | ⟨rfl, rfl⟩ <;>
    simp +arith [body, FrameMetadata.decode, metadataLen, Buf.advance, addressReadsBack, skip]

theorem encodeDestination_length_le {target : NetLocation} {bytes : List UInt8}
    (encoded : encodeDestination target = .ok bytes) : bytes.length ≤ 259 := by
  obtain ⟨address, addressEncoded, spelled⟩ := map_eq_ok encoded
  have := encodeAddress_length_le addressEncoded
  subst spelled
  simp
  omega

theorem FrameMetadata.encodeTarget_length_le {metadata : FrameMetadata} {destination : List UInt8}
    (encoded : metadata.encodeTarget = .ok destination) : destination.length ≤ 260 := by
  unfold FrameMetadata.encodeTarget at encoded
  split_ifs at encoded
  · split at encoded
    · cases encoded
    split at encoded
    · cases encoded
    obtain ⟨bytes, bytesEncoded, spelled⟩ := map_eq_ok encoded
    have := encodeDestination_length_le bytesEncoded
    subst spelled
    simp
    omega
  · split at encoded
    · cases encoded
    obtain ⟨bytes, bytesEncoded, spelled⟩ := map_eq_ok encoded
    have := encodeDestination_length_le bytesEncoded
    subst spelled
    simp
    omega
  · cases encoded
    simp

theorem FrameMetadata.encode_shape {metadata : FrameMetadata} {bytes : List UInt8}
    (encoded : metadata.encode = .ok bytes) :
    ∃ destination, metadata.encodeTarget = .ok destination ∧ destination.length ≤ 260 ∧
      bytes = u16ToBe (UInt16.ofNat (4 + destination.length)) ++
        (u16ToBe metadata.sessionId ++ [metadata.status.toByte, metadata.option] ++ destination) := by
  obtain ⟨destination, targetEncoded, framed⟩ := bind_eq_ok encoded
  refine ⟨destination, targetEncoded, FrameMetadata.encodeTarget_length_le targetEncoded, ?_⟩
  simp only [Except.ok.injEq] at framed
  rw [← framed]
  simp only [List.length_append, u16ToBe_length, List.length_cons, List.length_nil]

/-- Decoding reads back what encoding wrote followed by `trailing` bytes that the metadata length
counts, as Xray-core writes a GlobalID after a new session's address: up to the target and
network of a frame that does not carry them, and skipping the trailing bytes, unless a keep frame
without a target has trailing bytes that start like a UDP destination. Hostnames must read back
as themselves: `Address::from` turns a name that spells an IP address into that address. -/
theorem FrameMetadata.decode_trailing {metadata : FrameMetadata} {destination : List UInt8}
    (targetEncoded : metadata.encodeTarget = .ok destination)
    (hostnamesReadBack : ∀ target ∈ metadata.target, ∀ name, target.address = .hostname name →
      Address.fromStr name = .ok (.hostname name))
    (trailing : List UInt8) (fits : 4 + destination.length + trailing.length < 65536)
    (skipped : metadata.carriesTarget = false → metadata.status = .keep → trailing.head? ≠ some 0x02)
    (suffix : List UInt8) :
    FrameMetadata.decode (u16ToBe (UInt16.ofNat (4 + destination.length + trailing.length)) ++
        (u16ToBe metadata.sessionId ++ [metadata.status.toByte, metadata.option] ++ destination ++ trailing) ++
        suffix) =
      .ok (some (metadata.decoded, suffix)) := by
  obtain ⟨sessionId, status, option, target, network⟩ := metadata
  unfold FrameMetadata.encodeTarget at targetEncoded
  by_cases isNew : status = .new
  · -- a new session: both the network and the target are required
    subst isNew
    simp only [if_pos] at targetEncoded
    cases network with
    | none => cases targetEncoded
    | some network =>
      cases target with
      | none => cases targetEncoded
      | some target =>
        rcases destinationEncoded : encodeDestination target with err | addressPart
        · simp [destinationEncoded, Except.map] at targetEncoded
        simp only [destinationEncoded, Except.map, Except.ok.injEq] at targetEncoded
        subst targetEncoded
        have decodedEq : FrameMetadata.decoded ⟨sessionId, .new, option, some target, some network⟩ =
            ⟨sessionId, .new, option, some target, some network⟩ := by
          simp [FrameMetadata.decoded, FrameMetadata.carriesTarget]
        have bodyLength : 4 + (network.toByte :: addressPart).length + trailing.length =
            (u16ToBe sessionId ++ [SessionStatus.new.toByte, option] ++ network.toByte :: addressPart ++
              trailing).length := by
          simp; omega
        rw [decodedEq, bodyLength]
        exact decode_with_destination sessionId .new option network destinationEncoded
          (hostnamesReadBack target rfl) (.inl rfl) trailing suffix (by simp at fits ⊢; omega)
  by_cases udpKeep : status = .keep ∧ network = some .udp
  · -- a keep frame of a UDP session carries its target again
    obtain ⟨rfl, rfl⟩ := udpKeep
    rw [if_neg isNew, if_pos ⟨rfl, rfl⟩] at targetEncoded
    cases target with
    | none => cases targetEncoded
    | some target =>
      rcases destinationEncoded : encodeDestination target with err | addressPart
      · simp [destinationEncoded, Except.map] at targetEncoded
      simp only [destinationEncoded, Except.map, Except.ok.injEq] at targetEncoded
      subst targetEncoded
      have decodedEq : FrameMetadata.decoded ⟨sessionId, .keep, option, some target, some .udp⟩ =
          ⟨sessionId, .keep, option, some target, some .udp⟩ := by
        simp [FrameMetadata.decoded, FrameMetadata.carriesTarget]
      have bodyLength : 4 + (TargetNetwork.udp.toByte :: addressPart).length + trailing.length =
          (u16ToBe sessionId ++ [SessionStatus.keep.toByte, option] ++ TargetNetwork.udp.toByte :: addressPart ++
            trailing).length := by
        simp; omega
      rw [decodedEq, bodyLength]
      exact decode_with_destination sessionId .keep option .udp destinationEncoded
        (hostnamesReadBack target rfl) (.inr ⟨rfl, rfl⟩) trailing suffix (by simp at fits ⊢; omega)
  · -- any other frame is its four fixed bytes and the trailing ones, and decoding drops the
    -- target and network
    simp only [if_neg isNew, if_neg udpKeep, Except.ok.injEq] at targetEncoded
    subst targetEncoded
    have notCarried : FrameMetadata.carriesTarget ⟨sessionId, status, option, target, network⟩ = false := by
      simpa [FrameMetadata.carriesTarget, isNew] using udpKeep
    have decodedEq : FrameMetadata.decoded ⟨sessionId, status, option, target, network⟩ =
        ⟨sessionId, status, option, none, none⟩ := by
      simp [FrameMetadata.decoded, notCarried]
    simp only [List.length_nil, Nat.add_zero, List.append_nil] at fits ⊢
    rw [decodedEq]
    exact decode_without_destination sessionId status option trailing suffix fits isNew (skipped notCarried)

/-- Decoding reads back what encoding wrote, up to the target and network of a frame that does
not carry them, and leaves whatever follows the frame's metadata. -/
theorem FrameMetadata.decode_encode {metadata : FrameMetadata} {bytes : List UInt8}
    (encoded : metadata.encode = .ok bytes)
    (hostnamesReadBack : ∀ target ∈ metadata.target, ∀ name, target.address = .hostname name →
      Address.fromStr name = .ok (.hostname name))
    (suffix : List UInt8) :
    FrameMetadata.decode (bytes ++ suffix) = .ok (some (metadata.decoded, suffix)) := by
  obtain ⟨destination, targetEncoded, fits, spelled⟩ := FrameMetadata.encode_shape encoded
  have readBack := FrameMetadata.decode_trailing targetEncoded hostnamesReadBack [] (by simp; omega)
    (by simp) suffix
  simpa [spelled] using readBack

/-- A new session to a hostname. -/
def sampleMetadata : FrameMetadata := ⟨7, .new, 1, some ⟨.hostname "a.com", 53⟩, some .udp⟩
theorem decode_encode_sample :
    sampleMetadata.encode = .ok [0, 14, 0, 7, 1, 1, 2, 0, 53, 2, 5, 97, 46, 99, 111, 109] ∧
      (∀ target ∈ sampleMetadata.target, ∀ name, target.address = .hostname name →
        Address.fromStr name = .ok (.hostname name)) ∧
      FrameMetadata.decode ([0, 14, 0, 7, 1, 1, 2, 0, 53, 2, 5, 97, 46, 99, 111, 109] ++ [9, 9]) =
        .ok (some (sampleMetadata.decoded, [9, 9])) := by
  have encoded : sampleMetadata.encode = .ok [0, 14, 0, 7, 1, 1, 2, 0, 53, 2, 5, 97, 46, 99, 111, 109] := by
    decide
  have readBack : ∀ target ∈ sampleMetadata.target, ∀ name, target.address = .hostname name →
      Address.fromStr name = .ok (.hostname name) := by
    rintro target ⟨⟩ name ⟨⟩
    decide
  exact ⟨encoded, readBack, FrameMetadata.decode_encode encoded readBack [9, 9]⟩

end Shoes.Xudp
