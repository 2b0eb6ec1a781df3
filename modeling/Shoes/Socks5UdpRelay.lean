import Shoes.Address

/-!
# The SOCKS5 UDP relay

`SocksUdpRelay` carries the datagrams of a SOCKS5 UDP association. A datagram from the client
is `RSV(2) FRAG(1) ATYP DST.ADDR DST.PORT DATA`; `poll_read_targeted_message` takes the queued
datagrams in order, skips those it cannot parse, and hands on the destination and data of the
first one it can. `poll_write_sourced_message` wraps a reply in the same header, with the
reply's source address, for the client address last seen.

The FRAG byte is never looked at, so a fragment is read as a whole datagram
(`parseDatagram_frag`), and a domain that `Address::from` refuses is unwrapped, which panics
(`domain_unwrap_panics`). Every reply the relay writes reads back as its source and data
(`pollReadTargetedMessage_sourcedMessage`).
-/

namespace Shoes.Socks5

open Wire

def atypIpv4 : UInt8 := 0x01

def atypIpv6 : UInt8 := 0x04

def atypDomain : UInt8 := 0x03

/-- The header parse of `poll_read_targeted_message` on one datagram: `none` when the datagram
is skipped, otherwise its destination and the length of its header. -/
def parseDatagram (data : List UInt8) : Result (Option (NetLocation × Nat)) :=
  if data.length < 10 then .ok none
  else do
    let atyp ← byteAt data 3
    if atyp = atypIpv4 then
      if data.length < 10 then .ok none
      else do
        let ip : Ipv4Addr := ⟨[← byteAt data 4, ← byteAt data 5, ← byteAt data 6, ← byteAt data 7], rfl⟩
        let port := u16FromBe [← byteAt data 8, ← byteAt data 9]
        .ok (some (⟨.ipv4 ip, port⟩, 10))
    else if atyp = atypIpv6 then
      if data.length < 22 then .ok none
      else do
        let ip ← ipv6OfSlice (← slice data 4 20)
        let port := u16FromBe [← byteAt data 20, ← byteAt data 21]
        .ok (some (⟨.ipv6 ip, port⟩, 22))
    else if atyp = atypDomain then
      if data.length < 5 then .ok none
      else do
        let domainLen := (← byteAt data 4).toNat
        if data.length < 5 + domainLen + 2 then .ok none
        else do
          let domain := strFromUtf8 (← slice data 5 (5 + domainLen))
          let port := u16FromBe [← byteAt data (5 + domainLen), ← byteAt data (6 + domainLen)]
          match domain with
          | some d =>
            -- `Address::from(d.as_str()).unwrap()`
            match Address.fromStr d with
            | .ok address => .ok (some (⟨address, port⟩, 3 + 1 + 1 + domainLen + 2))
            | .error _ => abort
          | none => .ok none
    else .ok none

/-- `SocksUdpRelay`: the client address replies are sent to. -/
structure SocksUdpRelay where
  clientAddr : Option SocketAddr
  deriving DecidableEq

/-- How `poll_read_targeted_message` ends: a datagram's destination and data, or pending. -/
inductive TargetedRead
  | message (target : NetLocation) (payload : List UInt8)
  | pending
  deriving DecidableEq

/-- `poll_read_targeted_message` into a `ReadBuf` with room for `room` bytes, over the
datagrams the receive task has queued, with their senders; `closed` once the receive task has
stopped. The sender of every datagram taken off the queue becomes the client address. -/
def pollReadTargetedMessage (room : Nat) (closed : Bool) (relay : SocksUdpRelay) :
    List (List UInt8 × SocketAddr) → Result (TargetedRead × SocksUdpRelay × List (List UInt8 × SocketAddr))
  | [] =>
    if closed then fail .unexpectedEof "UDP relay channel closed" else .ok (.pending, relay, [])
  | (data, fromAddr) :: queue => do
    let relay := { relay with clientAddr := some fromAddr }
    match ← parseDatagram data with
    | none => pollReadTargetedMessage room closed relay queue
    | some (targetAddr, headerLen) =>
      let payload := data.drop headerLen
      if room < payload.length then
        let payloadLen := payload.length
        fail .invalidInput s!"UDP payload too large: {payloadLen} > {room}"
      else .ok (.message targetAddr payload, relay, queue)

/-- The datagram `poll_write_sourced_message` builds: the header with the reply's source
address and port, then the data. -/
def sourcedMessage (data : List UInt8) (source : SocketAddr) : List UInt8 :=
  [0, 0, 0] ++
    (match source.ip with
      | .v4 ip => atypIpv4 :: ip.octets
      | .v6 ip => atypIpv6 :: ip.octets) ++
    u16ToBe source.port ++ data

/-- `poll_write_sourced_message`: the datagram and the client address it is sent to. -/
def pollWriteSourcedMessage (relay : SocksUdpRelay) (data : List UInt8) (source : SocketAddr) :
    Except IoError (List UInt8 × SocketAddr) :=
  match relay.clientAddr with
  | none => .error ⟨.notConnected, "No client address available"⟩
  | some targetAddr => .ok (sourcedMessage data source, targetAddr)

theorem parseDatagram_sourcedMessage (data : List UInt8) (source : SocketAddr) :
    ∃ headerLen, parseDatagram (sourcedMessage data source) =
        .ok (some (source.toNetLocation, headerLen)) ∧
      (sourcedMessage data source).drop headerLen = data := by
  obtain ⟨ip, port⟩ := source
  obtain ⟨high, low, written, read⟩ := u16ToBe_pair port
  subst read
  cases ip with
  | v4 ip =>
    obtain ⟨octets, length⟩ := ip
    match octets, length with
    | [a, b, c, d], _ =>
      refine ⟨10, ?_, ?_⟩
      · simp only [sourcedMessage, written, List.cons_append, List.nil_append]
        simp [parseDatagram, byteAt, atypIpv4, SocketAddr.toNetLocation]
        rw [if_neg (by omega), if_neg (by omega)]
      · simp [sourcedMessage, written]
  | v6 ip =>
    have octets := ip.octets_length
    refine ⟨22, ?_, ?_⟩
    · simp only [sourcedMessage, written, List.cons_append, List.nil_append]
      simp [parseDatagram, byteAt, slice, atypIpv4, atypIpv6, SocketAddr.toNetLocation, octets,
        List.getElem?_append_right]
      rw [if_neg (by omega), if_neg (by omega)]
    · -- the header is the four leading bytes, the sixteen octets and the two port bytes
      simp [sourcedMessage, written]
      rw [show 18 = ip.octets.length + 2 by omega, List.drop_append,
        List.drop_eq_nil_of_le (by omega), List.nil_append, Nat.add_sub_cancel_left]
      rfl

/-- Every datagram the relay writes is read back, when it fits the reader's buffer, as its
source and data, and its sender becomes the client address. -/
theorem pollReadTargetedMessage_sourcedMessage (room : Nat) (closed : Bool)
    (relay : SocksUdpRelay) (data : List UInt8) (source fromAddr : SocketAddr)
    (queue : List (List UInt8 × SocketAddr)) (fits : data.length ≤ room) :
    pollReadTargetedMessage room closed relay ((sourcedMessage data source, fromAddr) :: queue) =
      .ok (.message source.toNetLocation data, ⟨some fromAddr⟩, queue) := by
  obtain ⟨headerLen, parsed, payload⟩ := parseDatagram_sourcedMessage data source
  simp only [pollReadTargetedMessage, parsed, ok_bind, payload]
  rw [if_neg (by omega)]

theorem pollReadTargetedMessage_sourcedMessage_sample :
    [(0x61 : UInt8)].length ≤ 1500 ∧
      pollReadTargetedMessage 1500 false ⟨none⟩
          ((sourcedMessage [0x61] ⟨.v4 (Ipv4Addr.new 1 2 3 4), 53⟩, ⟨.v4 (Ipv4Addr.new 5 6 7 8), 9000⟩) :: []) =
        .ok (.message (SocketAddr.toNetLocation ⟨.v4 (Ipv4Addr.new 1 2 3 4), 53⟩) [0x61],
          ⟨some ⟨.v4 (Ipv4Addr.new 5 6 7 8), 9000⟩⟩, []) :=
  ⟨by decide, pollReadTargetedMessage_sourcedMessage 1500 false ⟨none⟩ [0x61] ⟨.v4 (Ipv4Addr.new 1 2 3 4), 53⟩
    ⟨.v4 (Ipv4Addr.new 5 6 7 8), 9000⟩ [] (by decide)⟩

/-- A domain that `Address::from` refuses is unwrapped, and the relay panics on a ten-byte
datagram; a datagram with FRAG set is taken as a whole one. -/
theorem domain_unwrap_panics :
    pollReadTargetedMessage 100 false ⟨none⟩
        [([0, 0, 0, 3, 3, 0x61, 0x3a, 0x62, 0, 53], ⟨.v4 ⟨[127, 0, 0, 1], rfl⟩, 5000⟩)] = abort ∧
      pollReadTargetedMessage 100 false ⟨none⟩
          [([0, 0, 1, 1, 1, 2, 3, 4, 0, 53, 0x61], ⟨.v4 ⟨[127, 0, 0, 1], rfl⟩, 5000⟩)] =
        .ok (.message ⟨.ipv4 ⟨[1, 2, 3, 4], rfl⟩, 53⟩ [0x61],
          ⟨some ⟨.v4 ⟨[127, 0, 0, 1], rfl⟩, 5000⟩⟩, []) := by
  constructor <;> decide

end Shoes.Socks5
