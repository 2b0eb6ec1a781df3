import Shoes.Address

/-!
# SOCKS5 locations

The address form of SOCKS5, `ATYP DST.ADDR DST.PORT`, as `socks_handler.rs` writes it
(`write_location_to_vec`) and reads it, through a `StreamReader` (`read_location`) or straight
from a stream (`read_location_direct`). Shadowsocks, Trojan, AnyTLS and NaiveProxy carry their
destinations in this form. The two readers differ only in how they take bytes from the stream
and in the text of one error, so both are one body, `readLocationWith`, and its laws are proved
once over any byte source that takes bytes off the front of the input.

A hostname is written after its length in one byte. Both readers give back every location whose
hostname `Address::from` keeps as it is and fits that byte, and leave the bytes after it unread
(`readLocation_writeLocationToVec`). The writer has no error path: a longer hostname is written
with its length modulo 256, and neither reader then stops where its encoding ends
(`long_hostname_misread`).
-/

namespace Shoes.SocksHandler

open Wire

def addrTypeIpv4 : UInt8 := 0x01

def addrTypeDomainName : UInt8 := 0x03

def addrTypeIpv6 : UInt8 := 0x04

/-- `write_location_to_vec`: the address type, the address (a hostname after its length cast to
a byte), and the port. -/
def writeLocationToVec (location : NetLocation) : List UInt8 :=
  let vec := match location.address with
    | .ipv4 v4addr => addrTypeIpv4 :: v4addr.octets
    | .ipv6 v6addr => addrTypeIpv6 :: v6addr.octets
    | .hostname domainName =>
      addrTypeDomainName :: UInt8.ofNat (strBytes domainName).length :: strBytes domainName
  -- `(port >> 8) as u8` and `(port & 0xff) as u8`
  vec ++ u16ToBe location.port

/-- The body of `read_location` and `read_location_direct`, over how each takes one byte
(`readByte`) and a run of bytes (`readBytes`) off the stream and the context of its UTF-8
error: the location and the bytes left. -/
def readLocationWith (readByte : List UInt8 → Result (UInt8 × List UInt8))
    (readBytes : Nat → List UInt8 → Result (List UInt8 × List UInt8)) (utf8Context : String)
    (input : List UInt8) : Result (NetLocation × List UInt8) := do
  let (addressType, input) ← readByte input
  if addressType = addrTypeIpv4 then
    let (addressBytes, input) ← readBytes 6 input
    let v4addr ← ipv4OfSlice (← slice addressBytes 0 4)
    let port := u16FromBe (← slice addressBytes 4 6)
    .ok (⟨.ipv4 v4addr, port⟩, input)
  else if addressType = addrTypeIpv6 then
    let (addressBytes, input) ← readBytes 18 input
    -- `Ipv6Addr::new` of the eight big-endian segments: the sixteen bytes as they are
    let v6addr ← ipv6OfSlice (← slice addressBytes 0 16)
    let port := u16FromBe (← slice addressBytes 16 18)
    .ok (⟨.ipv6 v6addr, port⟩, input)
  else if addressType = addrTypeDomainName then
    let (addressLen, input) ← readByte input
    let (addressBytes, input) ← readBytes (addressLen.toNat + 2) input
    let addressStr ← fromUtf8 .invalidData utf8Context (← slice addressBytes 0 addressLen.toNat)
    let port := u16FromBe (← slice addressBytes addressLen.toNat (addressLen.toNat + 2))
    -- parsed as an `Address` since some clients pass IP addresses as hostnames
    let address ← liftIo (Address.fromStr addressStr)
    .ok (⟨address, port⟩, input)
  else fail .invalidInput s!"Unknown address type: {addressType}"

/-- `read_location`, through a `StreamReader` with a buffer of `bufferSize` bytes. -/
def readLocation (bufferSize : Nat) : List UInt8 → Result (NetLocation × List UInt8) :=
  readLocationWith StreamReader.readU8 (StreamReader.readSlice bufferSize) "Failed to decode address: "

/-- `read_exact` into a one-byte array. -/
def readExactU8 (input : List UInt8) : Result (UInt8 × List UInt8) := do
  let (bytes, input) ← readExact 1 input
  .ok (← byteAt bytes 0, input)

def readLocationDirect : List UInt8 → Result (NetLocation × List UInt8) :=
  readLocationWith readExactU8 readExact "Invalid domain encoding: "

/-! ## Byte sources

Both readers take their bytes off the front of what the stream will deliver; how the stream
splits those bytes into reads makes no difference to them. -/

/-- The laws of a byte source: one byte is taken off the front, a run of at most `room` bytes
is taken off the front when the input has that many, and a run that is returned is the front of
the input. -/
structure FrontReads (room : Nat) (readByte : List UInt8 → Result (UInt8 × List UInt8))
    (readBytes : Nat → List UInt8 → Result (List UInt8 × List UInt8)) : Prop where
  byte_cons : ∀ byte rest, readByte (byte :: rest) = .ok (byte, rest)
  bytes_front : ∀ front rest, front.length ≤ room → readBytes front.length (front ++ rest) = .ok (front, rest)
  bytes_taken : ∀ len input front rest, readBytes len input = .ok (front, rest) →
    front.length = len ∧ input = front ++ rest

theorem streamReader_frontReads (bufferSize : Nat) :
    FrontReads bufferSize StreamReader.readU8 (StreamReader.readSlice bufferSize) where
  byte_cons := StreamReader.readU8_cons
  bytes_front front rest fits := StreamReader.readSlice_append rest rfl fits
  bytes_taken len input front rest read := by
    rcases StreamReader.readSlice_cases bufferSize len input with ⟨err, failed⟩ | ⟨taken, left, split, length, whole⟩
    · rw [failed] at read
      cases read
    · rw [split] at read
      cases read
      exact ⟨length, whole⟩

theorem readExact_frontReads (room : Nat) : FrontReads room readExactU8 readExact where
  byte_cons byte rest := by
    simp [readExactU8, readExact, byteAt]
  bytes_front front rest _ := readExact_append rest rfl
  bytes_taken len input front rest read := by
    unfold readExact at read
    split_ifs at read with short
    · cases read
    · cases read
      exact ⟨by simp; omega, (List.take_append_drop len input).symm⟩

section RoundTrip

variable {room : Nat} {readByte : List UInt8 → Result (UInt8 × List UInt8)}
  {readBytes : Nat → List UInt8 → Result (List UInt8 × List UInt8)} {utf8Context : String}

theorem slice_port (front : List UInt8) (port : UInt16) :
    slice (front ++ u16ToBe port) front.length (front.length + 2) = .ok (u16ToBe port) := by
  simpa using slice_append front (u16ToBe port) []

theorem readLocationWith_writeLocationToVec (sources : FrontReads room readByte readBytes)
    (roomy : 257 ≤ room) {location : NetLocation}
    (hostnameReadsBack : ∀ name, location.address = .hostname name →
      Address.fromStr name = .ok (.hostname name))
    (hostnameFits : ∀ name, location.address = .hostname name → (strBytes name).length < 256)
    (rest : List UInt8) :
    readLocationWith readByte readBytes utf8Context (writeLocationToVec location ++ rest) =
      .ok (location, rest) := by
  obtain ⟨address, port⟩ := location
  cases address with
  | ipv4 addr =>
    have read : readBytes 6 (addr.octets ++ (u16ToBe port ++ rest)) =
        .ok (addr.octets ++ u16ToBe port, rest) := by
      have taken := sources.bytes_front (addr.octets ++ u16ToBe port) rest
        (by simp [addr.octets_length]; omega)
      simpa [addr.octets_length] using taken
    have portBytes := slice_port addr.octets port
    rw [addr.octets_length] at portBytes
    simp [readLocationWith, writeLocationToVec, sources.byte_cons, read,
      slice_front _ addr.octets_length, portBytes]
  | ipv6 addr =>
    have read : readBytes 18 (addr.octets ++ (u16ToBe port ++ rest)) =
        .ok (addr.octets ++ u16ToBe port, rest) := by
      have taken := sources.bytes_front (addr.octets ++ u16ToBe port) rest
        (by simp [addr.octets_length]; omega)
      simpa [addr.octets_length] using taken
    have portBytes := slice_port addr.octets port
    rw [addr.octets_length] at portBytes
    simp [readLocationWith, writeLocationToVec, sources.byte_cons, read,
      slice_front _ addr.octets_length, portBytes, addrTypeIpv4, addrTypeIpv6]
  | hostname name =>
    have fits := hostnameFits name rfl
    have lengthByte : (UInt8.ofNat (strBytes name).length).toNat = (strBytes name).length := by
      rw [UInt8.toNat_ofNat', Nat.mod_eq_of_lt (by omega)]
    have read : readBytes ((strBytes name).length + 2) (strBytes name ++ (u16ToBe port ++ rest)) =
        .ok (strBytes name ++ u16ToBe port, rest) := by
      have taken := sources.bytes_front (strBytes name ++ u16ToBe port) rest (by simp; omega)
      simpa using taken
    simp [readLocationWith, writeLocationToVec, sources.byte_cons, lengthByte, read,
      slice_front _ rfl, slice_port, fromUtf8, hostnameReadsBack name rfl, addrTypeIpv4,
      addrTypeIpv6, addrTypeDomainName]

theorem readLocationWith_domain_consumes (sources : FrontReads room readByte readBytes)
    {lengthByte : UInt8} {tail after : List UInt8} {location : NetLocation}
    (read : readLocationWith readByte readBytes utf8Context
      (addrTypeDomainName :: lengthByte :: tail) = .ok (location, after)) :
    tail.length = lengthByte.toNat + 2 + after.length := by
  simp [readLocationWith, sources.byte_cons, addrTypeIpv4, addrTypeIpv6, addrTypeDomainName] at read
  obtain ⟨⟨addressBytes, input⟩, taken, decoded⟩ := bind_eq_ok read
  -- the rest of the branch fails or returns the bytes after the run it read
  obtain ⟨hostBytes, -, decoded⟩ := bind_eq_ok decoded
  obtain ⟨addressStr, -, decoded⟩ := bind_eq_ok decoded
  obtain ⟨portBytes, -, decoded⟩ := bind_eq_ok decoded
  obtain ⟨address, -, decoded⟩ := bind_eq_ok decoded
  obtain ⟨length, rfl⟩ := sources.bytes_taken _ _ _ _ taken
  cases decoded
  simp [length]

theorem readLocationWith_long_hostname (sources : FrontReads room readByte readBytes)
    {name : String} {port : UInt16} {rest after : List UInt8} {location : NetLocation}
    (long : 256 ≤ (strBytes name).length)
    (read : readLocationWith readByte readBytes utf8Context
      (writeLocationToVec ⟨.hostname name, port⟩ ++ rest) = .ok (location, after)) :
    rest.length < after.length := by
  have encoded : writeLocationToVec ⟨.hostname name, port⟩ ++ rest =
      addrTypeDomainName :: UInt8.ofNat (strBytes name).length ::
        (strBytes name ++ u16ToBe port ++ rest) := by
    simp [writeLocationToVec]
  rw [encoded] at read
  have consumed := readLocationWith_domain_consumes sources read
  have wrapped := (UInt8.ofNat (strBytes name).length).toNat_lt
  simp only [List.length_append, u16ToBe_length] at consumed
  omega

end RoundTrip

/-- Both readers give back every location whose hostname `Address::from` keeps as it is and
whose length fits a byte; the `StreamReader` needs room for the longest such hostname. -/
theorem readLocation_writeLocationToVec {bufferSize : Nat} (roomy : 257 ≤ bufferSize)
    {location : NetLocation}
    (hostnameReadsBack : ∀ name, location.address = .hostname name →
      Address.fromStr name = .ok (.hostname name))
    (hostnameFits : ∀ name, location.address = .hostname name → (strBytes name).length < 256)
    (rest : List UInt8) :
    readLocation bufferSize (writeLocationToVec location ++ rest) = .ok (location, rest) ∧
      readLocationDirect (writeLocationToVec location ++ rest) = .ok (location, rest) :=
  ⟨readLocationWith_writeLocationToVec (streamReader_frontReads bufferSize) roomy hostnameReadsBack
      hostnameFits rest,
    readLocationWith_writeLocationToVec (readExact_frontReads 257) le_rfl hostnameReadsBack
      hostnameFits rest⟩

theorem readLocation_writeLocationToVec_sample :
    257 ≤ 4096 ∧
      (∀ name, (⟨.hostname "a.com", 443⟩ : NetLocation).address = .hostname name →
        Address.fromStr name = .ok (.hostname name)) ∧
      (∀ name, (⟨.hostname "a.com", 443⟩ : NetLocation).address = .hostname name → (strBytes name).length < 256) ∧
      readLocation 4096 (writeLocationToVec ⟨.hostname "a.com", 443⟩ ++ [0x61]) = .ok (⟨.hostname "a.com", 443⟩, [0x61]) ∧
      readLocationDirect (writeLocationToVec ⟨.hostname "a.com", 443⟩ ++ [0x61]) =
        .ok (⟨.hostname "a.com", 443⟩, [0x61]) := by
  have readsBack : ∀ name, (⟨.hostname "a.com", 443⟩ : NetLocation).address = .hostname name →
      Address.fromStr name = .ok (.hostname name) := by
    rintro name ⟨⟩
    decide
  have fits : ∀ name, (⟨.hostname "a.com", 443⟩ : NetLocation).address = .hostname name →
      (strBytes name).length < 256 := by
    rintro name ⟨⟩
    decide
  exact ⟨by decide, readsBack, fits, readLocation_writeLocationToVec (by decide) readsBack fits [0x61]⟩

/-- A hostname of 256 bytes or more is not read back: whatever either reader returns, it has left
bytes of the encoding unread, so what follows is read from the middle of the hostname. -/
theorem long_hostname_misread (name : String) (port : UInt16) (rest : List UInt8)
    (long : 256 ≤ (strBytes name).length) :
    (∀ bufferSize location after, readLocation bufferSize
        (writeLocationToVec ⟨.hostname name, port⟩ ++ rest) = .ok (location, after) →
      rest.length < after.length) ∧
    ∀ location after, readLocationDirect (writeLocationToVec ⟨.hostname name, port⟩ ++ rest) =
        .ok (location, after) →
      rest.length < after.length :=
  ⟨fun bufferSize _ _ read =>
      readLocationWith_long_hostname (streamReader_frontReads bufferSize) long read,
    fun _ _ read => readLocationWith_long_hostname (readExact_frontReads 0) long read⟩

set_option maxRecDepth 20000 in
theorem long_hostname_misread_sample :
    256 ≤ (strBytes (String.ofList (List.replicate 256 'x'))).length ∧
      (∀ bufferSize location after, readLocation bufferSize
          (writeLocationToVec ⟨.hostname (String.ofList (List.replicate 256 'x')), 0⟩) =
            .ok (location, after) →
        0 < after.length) ∧
      ∀ location after, readLocationDirect
          (writeLocationToVec ⟨.hostname (String.ofList (List.replicate 256 'x')), 0⟩) =
            .ok (location, after) →
        0 < after.length := by
  have long : 256 ≤ (strBytes (String.ofList (List.replicate 256 'x'))).length := by decide
  have misread := long_hostname_misread _ 0 [] long
  simp only [List.append_nil, List.length_nil] at misread
  exact ⟨long, misread⟩

-- The name of 256 bytes is read as the empty hostname, with two of its bytes as the port.
set_option maxRecDepth 20000 in
example : readLocation 400 (writeLocationToVec ⟨.hostname (String.ofList (List.replicate 256 'x')), 0⟩) =
    .ok (⟨.hostname "", 0x7878⟩, List.replicate 254 0x78 ++ [0, 0]) := by
  decide

end Shoes.SocksHandler
