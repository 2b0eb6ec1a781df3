import Shoes.Wire

/-!
# Addresses and network locations

`Address`, `NetLocation`, `ResolvedLocation` and `Address::from` of `address.rs`, with the
parts of Rust's standard library they rest on: the `Ipv4Addr` and `Ipv6Addr` text parsers of
`core::net::parser`, each a step parser over the input bytes that either consumes a prefix or
fails, and the socket addresses a resolver returns.

`Address::from` scans the bytes once to rule kinds out (a `:` cannot occur in a hostname or an
IPv4 address, a `.` cannot occur in an IPv6 address without an embedded IPv4 part, and so
on), tries IPv4 when exactly three dots were seen, then IPv6, and falls back to a hostname.
-/

namespace Shoes

open Wire

/-- `Ipv4Addr`: four octets. -/
structure Ipv4Addr where
  octets : List UInt8
  octets_length : octets.length = 4
  deriving DecidableEq

theorem Ipv4Addr.length_octets (a b c d : UInt8) : [a, b, c, d].length = 4 :=
  rfl

/-- `Ipv4Addr::new`: the address of four octets, the first the most significant. -/
def Ipv4Addr.new (a b c d : UInt8) : Ipv4Addr :=
  ⟨[a, b, c, d], Ipv4Addr.length_octets a b c d⟩

/-- `Ipv6Addr`: sixteen octets. -/
structure Ipv6Addr where
  octets : List UInt8
  octets_length : octets.length = 16
  deriving DecidableEq

/-- `Address`: an IP address or a hostname, kept as the string it was given. -/
inductive Address
  | ipv4 (addr : Ipv4Addr)
  | ipv6 (addr : Ipv6Addr)
  | hostname (name : String)
  deriving DecidableEq

/-- `NetLocation`: an address and a port. -/
structure NetLocation where
  address : Address
  port : UInt16
  deriving DecidableEq

inductive IpAddr
  | v4 (addr : Ipv4Addr)
  | v6 (addr : Ipv6Addr)
  deriving DecidableEq

/-- `SocketAddr`: what a resolver returns. -/
structure SocketAddr where
  ip : IpAddr
  port : UInt16
  deriving DecidableEq

/-- `ResolvedLocation`: a location and the socket address it resolved to, once it has been. -/
structure ResolvedLocation where
  location : NetLocation
  resolvedAddr : Option SocketAddr
  deriving DecidableEq

/-- `<[u8; 4]>::try_into` on a slice, unwrapped: a panic unless the slice has four bytes. -/
def ipv4OfSlice (bytes : List UInt8) : Result Ipv4Addr :=
  if size : bytes.length = 4 then .ok ⟨bytes, size⟩ else abort

/-- `<[u8; 16]>::try_into` on a slice, unwrapped: a panic unless the slice has sixteen bytes. -/
def ipv6OfSlice (bytes : List UInt8) : Result Ipv6Addr :=
  if size : bytes.length = 16 then .ok ⟨bytes, size⟩ else abort

@[simp] theorem ipv4OfSlice_octets (addr : Ipv4Addr) : ipv4OfSlice addr.octets = .ok addr := by
  simp [ipv4OfSlice, addr.octets_length]

@[simp] theorem ipv6OfSlice_octets (addr : Ipv6Addr) : ipv6OfSlice addr.octets = .ok addr := by
  simp [ipv6OfSlice, addr.octets_length]

def Address.hostname? : Address → Option String
  | .hostname name => some name
  | _ => none

def NetLocation.toSocketAddrNonblocking (location : NetLocation) : Option SocketAddr :=
  match location.address with
  | .ipv4 addr => some ⟨.v4 addr, location.port⟩
  | .ipv6 addr => some ⟨.v6 addr, location.port⟩
  | .hostname _ => none

/-- `NetLocation::new` of the IP address and port of a socket address. -/
def SocketAddr.toNetLocation (addr : SocketAddr) : NetLocation :=
  match addr.ip with
  | .v4 ip => ⟨.ipv4 ip, addr.port⟩
  | .v6 ip => ⟨.ipv6 ip, addr.port⟩

/-- `From<NetLocation> for ResolvedLocation`: not yet resolved. -/
def ResolvedLocation.new (location : NetLocation) : ResolvedLocation :=
  ⟨location, none⟩

/-! ## Display

`Display` of addresses, as `format!` and `to_string` write them: IPv4 in dotted decimal, IPv6
in lowercase hex groups with the first longest run of two or more zero groups written `::`
(an IPv4-mapped address as `::ffff:` and dotted decimal), a hostname as it is, a location
as address and port, a socket address with an IPv6 address in brackets. -/

/-- Dotted decimal. -/
def Ipv4Addr.display (addr : Ipv4Addr) : String :=
  ".".intercalate (addr.octets.map fun octet => toString octet.toNat)

def Ipv6Addr.segments (addr : Ipv6Addr) : List Nat :=
  (List.range 8).map fun index => beValue ((addr.octets.drop (2 * index)).take 2)

def Ipv6Addr.toIpv4Mapped (addr : Ipv6Addr) : Option Ipv4Addr :=
  if addr.octets.take 12 = [0, 0, 0, 0, 0, 0, 0, 0, 0, 0, 255, 255] then
    some ⟨addr.octets.drop 12, by simp [addr.octets_length]⟩
  else none

/-- The first longest run of zero segments, as its start and length: a later run replaces the
current longest only when it is strictly longer. -/
def longestZeroRun (segments : List Nat) : Nat × Nat :=
  let step := fun (state : (Nat × Nat) × (Nat × Nat) × Nat) (segment : Nat) =>
    let (longest, current, index) := state
    if segment = 0 then
      let current := if current.2 = 0 then (index, 1) else (current.1, current.2 + 1)
      let longest := if longest.2 < current.2 then current else longest
      (longest, current, index + 1)
    else (longest, (0, 0), index + 1)
  (segments.foldl step ((0, 0), (0, 0), 0)).1

/-- Hex segments joined by colons. -/
def hexSegments (segments : List Nat) : String :=
  ":".intercalate (segments.map fun segment => String.ofList (Nat.toDigits 16 segment))

def Ipv6Addr.display (addr : Ipv6Addr) : String :=
  match addr.toIpv4Mapped with
  | some ipv4 => "::ffff:" ++ ipv4.display
  | none =>
    let segments := addr.segments
    let (start, length) := longestZeroRun segments
    if 1 < length then
      hexSegments (segments.take start) ++ "::" ++ hexSegments (segments.drop (start + length))
    else hexSegments segments

def Address.display : Address → String
  | .ipv4 addr => addr.display
  | .ipv6 addr => addr.display
  | .hostname name => name

def NetLocation.display (location : NetLocation) : String :=
  location.address.display ++ ":" ++ toString location.port.toNat

def SocketAddr.display (addr : SocketAddr) : String :=
  match addr.ip with
  | .v4 ip => ip.display ++ ":" ++ toString addr.port.toNat
  | .v6 ip => "[" ++ ip.display ++ "]:" ++ toString addr.port.toNat

/-! ## The standard library's IP address parser

`core::net::parser::Parser` over the bytes of the text. Every reader is atomic: on failure it
consumes nothing, which a step parser returning `none` expresses directly. -/

namespace IpParser

def readGivenChar (target : UInt8) : List UInt8 → Option (List UInt8)
  | byte :: rest => if byte = target then some rest else none
  | [] => none

/-- `char::to_digit(radix)` on the character of a byte: decimal digits, then letters of either
case from ten. -/
def digitValue (radix : Nat) (byte : UInt8) : Option Nat :=
  let code := byte.toNat
  let digit :=
    if 48 ≤ code ∧ code ≤ 57 then code - 48
    else if 97 ≤ code ∧ code ≤ 122 then code - 87
    else if 65 ≤ code ∧ code ≤ 90 then code - 55
    else 36
  if digit < radix then some digit else none

/-- The digit loop of `read_number`: the accumulated value, the number of digits and the rest. -/
def readDigits (radix : Nat) : List UInt8 → Nat → Nat → Nat × Nat × List UInt8
  | byte :: rest, value, count =>
    match digitValue radix byte with
    | some digit => readDigits radix rest (value * radix + digit) (count + 1)
    | none => (value, count, byte :: rest)
  | [], value, count => (value, count, [])

/-- `Parser::read_number` with a digit limit, converted into a type of `bound` values: fails on
no digits, on more than `maxDigits` digits, on a value that does not fit, and on a leading
zero when it is not allowed. -/
def readNumber (radix maxDigits : Nat) (allowZeroPrefix : Bool) (bound : Nat)
    (input : List UInt8) : Option (Nat × List UInt8) :=
  let hasLeadingZero := input.head? = some 48
  let (value, count, rest) := readDigits radix input 0 0
  if maxDigits < count then none
  else if bound ≤ value then none
  else if count = 0 then none
  else if !allowZeroPrefix && hasLeadingZero && 1 < count then none
  else some (value, rest)

/-- `read_separator`: the separator unless this is the first item. -/
def readSeparator (separator : UInt8) (index : Nat) (input : List UInt8) : Option (List UInt8) :=
  if 0 < index then readGivenChar separator input else some input

/-- One decimal octet of an IPv4 address: at most three digits, no leading zero. -/
def readOctet (input : List UInt8) : Option (Nat × List UInt8) :=
  readNumber 10 3 false 256 input

/-- `Parser::read_ipv4_addr`: four octets separated by dots. -/
def readIpv4 (input : List UInt8) : Option (Ipv4Addr × List UInt8) := do
  let (first, input) ← readOctet input
  let input ← readGivenChar 46 input
  let (second, input) ← readOctet input
  let input ← readGivenChar 46 input
  let (third, input) ← readOctet input
  let input ← readGivenChar 46 input
  let (fourth, input) ← readOctet input
  pure (⟨[UInt8.ofNat first, UInt8.ofNat second, UInt8.ofNat third, UInt8.ofNat fourth], rfl⟩, input)

/-- `read_groups` of `read_ipv6_addr`, at the item `limit - remaining`: the 16-bit groups read,
whether the last two came from an embedded IPv4 address, and the rest of the input. An
embedded IPv4 address is tried first while at least two slots are left. -/
def readGroups (limit : Nat) : Nat → List UInt8 → List Nat × Bool × List UInt8
  | 0, input => ([], false, input)
  | remaining + 1, input =>
    let index := limit - (remaining + 1)
    let embedded :=
      if index + 1 < limit then
        (readSeparator 58 index input).bind readIpv4
      else none
    match embedded with
    | some (addr, rest) =>
      ([beValue (addr.octets.take 2), beValue (addr.octets.drop 2)], true, rest)
    | none =>
      match (readSeparator 58 index input).bind (readNumber 16 4 true 65536) with
      | some (group, rest) =>
        let (groups, ipv4, rest) := readGroups limit remaining rest
        (group :: groups, ipv4, rest)
      | none => ([], false, input)

/-- `Parser::read_ipv6_addr`: the groups before `::`, then after it the groups that end the
address, zeros in between. -/
def readIpv6 (input : List UInt8) : Option (List Nat × List UInt8) :=
  let (head, headIpv4, input) := readGroups 8 8 input
  if head.length = 8 then some (head, input)
  else if headIpv4 then none
  else do
    let input ← readGivenChar 58 input
    let input ← readGivenChar 58 input
    let (tail, _, input) := readGroups (8 - (head.length + 1)) (8 - (head.length + 1)) input
    pure (head ++ List.replicate (8 - head.length - tail.length) 0 ++ tail, input)

/-- The sixteen octets of eight 16-bit groups. -/
def groupOctets (groups : List Nat) : List UInt8 :=
  (List.range 8).flatMap fun index => beBytes 2 (groups.getD index 0)

theorem groupOctets_length (groups : List Nat) : (groupOctets groups).length = 16 := by
  simp [groupOctets, List.length_flatMap]

/-- `Ipv4Addr::from_str`: the whole text must be an IPv4 address, of at most 15 bytes. -/
def parseIpv4 (bytes : List UInt8) : Option Ipv4Addr :=
  if 15 < bytes.length then none
  else
    match readIpv4 bytes with
    | some (addr, []) => some addr
    | _ => none

/-- `Ipv6Addr::from_str`: the whole text must be an IPv6 address. -/
def parseIpv6 (bytes : List UInt8) : Option Ipv6Addr :=
  match readIpv6 bytes with
  | some (groups, []) => some ⟨groupOctets groups, groupOctets_length groups⟩
  | _ => none

end IpParser

/-- The flags of the byte scan in `Address::from`. -/
structure AddressScan where
  dots : Nat
  possibleIpv4 : Bool
  possibleIpv6 : Bool
  possibleHostname : Bool

/-- The scan loop of `Address::from`: a `:` stops it and rules out IPv4 and hostnames, a
fourth dot stops it, a hex letter rules out IPv4, any other non-digit stops it and leaves only
a hostname possible. -/
def scanAddress : List UInt8 → AddressScan → AddressScan
  | [], scan => scan
  | byte :: rest, scan =>
    if byte = 58 then { scan with possibleIpv4 := false, possibleHostname := false }
    else if byte = 46 then
      let scan := { scan with possibleIpv6 := false, dots := scan.dots + 1 }
      if 3 < scan.dots then scan else scanAddress rest scan
    else if (65 ≤ byte ∧ byte ≤ 70) ∨ (97 ≤ byte ∧ byte ≤ 102) then
      scanAddress rest { scan with possibleIpv4 := false }
    else if ¬(48 ≤ byte ∧ byte ≤ 57) then
      { scan with possibleIpv4 := false, possibleIpv6 := false }
    else scanAddress rest scan

def Address.fromStr (text : String) : Except IoError Address :=
  let bytes := strBytes text
  let scan := scanAddress bytes ⟨0, true, true, true⟩
  match (if scan.possibleIpv4 ∧ scan.dots = 3 then IpParser.parseIpv4 bytes else none) with
  | some addr => .ok (.ipv4 addr)
  | none =>
    match (if scan.possibleIpv6 then IpParser.parseIpv6 bytes else none) with
    | some addr => .ok (.ipv6 addr)
    | none =>
      if scan.possibleHostname then .ok (.hostname text)
      else .error ⟨.invalidData, s!"Failed to parse address: {text}"⟩

/-- `u16::from_str`: decimal digits after an optional `+`, with no overflow. -/
def parseU16 (bytes : List UInt8) : Option UInt16 :=
  let digits := match bytes with
    | 43 :: rest => rest
    | _ => bytes
  if digits = [] then none
  else
    let value := digits.foldl (fun acc byte => acc.bind fun value =>
      if 48 ≤ byte ∧ byte ≤ 57 ∧ value * 10 + (byte.toNat - 48) < 65536 then
        some (value * 10 + (byte.toNat - 48))
      else none) (some 0)
    value.map UInt16.ofNat

/-- `str::rfind` for a byte: the index of its last occurrence. -/
def lastIndexOf (target : UInt8) : List UInt8 → Option Nat
  | [] => none
  | byte :: rest =>
    match lastIndexOf target rest with
    | some index => some (index + 1)
    | none => if byte = target then some 0 else none

def Address.isIpv6 : Address → Bool
  | .ipv6 _ => true
  | _ => false

/-- `NetLocation::from_str`: the text after the last `:` is the port when it parses as one;
otherwise the whole text must be an IPv6 address and the default port is used. -/
def NetLocation.fromStr (text : String) (defaultPort : Option UInt16) :
    Except IoError NetLocation :=
  let bytes := strBytes text
  let (addressStr, port, expectIpv6) :=
    match lastIndexOf 58 bytes with
    | some index =>
      match parseU16 (bytes.drop (index + 1)) with
      | some port => (String.Pos.Raw.extract text ⟨0⟩ ⟨index⟩, some port, false)
      | none => (text, defaultPort, true)
    | none => (text, defaultPort, false)
  match Address.fromStr addressStr with
  | .error err => .error err
  | .ok address =>
    if expectIpv6 ∧ !address.isIpv6 then .error ⟨.other, "Invalid location"⟩
    else
      match port with
      | none => .error ⟨.other, "No port"⟩
      | some port => .ok ⟨address, port⟩

end Shoes
