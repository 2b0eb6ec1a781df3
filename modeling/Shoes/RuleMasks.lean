import Shoes.ClientProxySelector
import Shoes.Lib.PrefixMask

/-!
# Rule masks: parsing, printing and matching

`AddressMask::from` reads an address with an optional `/bits`, and keeps the top `96 + bits`
bits of an IPv4 address as an IPv4-mapped IPv6 address, the top `bits` of an IPv6 address, and
all 128 bits of a hostname, refusing a bit count for a hostname; a zero bit count keeps none, so
that the mask matches any address. `NetLocationMask::from` adds a port, after a bracketed mask, after
the bit count, or after the only colon of the text. `Display` writes the address and the bit
count back, and a port when it is not 0.

The masks `from` builds are the `MaskShape`s (`NetLocationMask.fromStr_shape`). With rule
hostnames left unresolved and a destination that resolves to an address, `match_rule` returns the
first rule with a mask of the right port whose shape matches (`matchRule_first_match`): a hostname
mask compares domains, and an IP mask compares the resolved address, of a hostname destination as
well (`hostname_destination_matches_ipv4_rule`).

`Display` writes each mask with the bit count of its shape (`AddressMask.display_shape`). A
hostname mask keeps all 128 bits, so it is written back as `name/128`, which `from` refuses:
hostname masks do not survive the configuration's print and parse (`hostname_mask_not_reparsed`).
-/

namespace Shoes.ClientProxySelector

open Wire PrefixMask

deriving instance DecidableEq for AddressMask
deriving instance DecidableEq for NetLocationMask

/-- The `IntErrorKind`s of an unsigned `from_str`. -/
inductive IntErrorKind
  | empty
  | invalidDigit
  | posOverflow
  deriving DecidableEq

/-- `Display` of `ParseIntError`. -/
def IntErrorKind.display : IntErrorKind → String
  | .empty => "cannot parse integer from empty string"
  | .invalidDigit => "invalid digit found in string"
  | .posOverflow => "number too large to fit in target type"

/-- `from_str` of an unsigned integer type with `bound` values: an optional `+` and decimal
digits, the first bad digit or overflow reported. -/
def parseUnsigned (bound : Nat) (bytes : List UInt8) : Except IntErrorKind Nat :=
  match bytes with
  | [] => .error .empty
  | [43] => .error .invalidDigit
  | _ =>
    let digits := match bytes with
      | 43 :: rest => rest
      | _ => bytes
    digits.foldlM (fun value byte =>
      if 48 ≤ byte ∧ byte ≤ 57 then
        if value * 10 + (byte.toNat - 48) < bound then .ok (value * 10 + (byte.toNat - 48))
        else .error .posOverflow
      else .error .invalidDigit) 0

/-- The netmask of `AddressMask::from` for the bits it keeps. -/
def netmaskOf (keepBits : Nat) : Nat :=
  let clearBits := 128 - keepBits
  -- Rust refuses to shift all 128 bits away
  if clearBits = 128 then 0 else (2 ^ 128 - 1) >>> clearBits <<< clearBits

/-- `&text[start..stop]`, at byte offsets that are character boundaries. -/
def strSlice (text : String) (start stop : Nat) : String :=
  String.Pos.Raw.extract text ⟨start⟩ ⟨stop⟩

/-- The address text and the bit count of an address mask, split at the last `/`. -/
def splitNumBits (text : String) : Except IoError (String × Option Nat) :=
  let bytes := strBytes text
  match lastIndexOf 47 bytes with
  | some index =>
    match parseUnsigned 256 (bytes.drop (index + 1)) with
    | .ok numBits => .ok (strSlice text 0 index, some numBits)
    | .error err => .error ⟨.other, "Failed to parse netmask: " ++ err.display⟩
  | none => .ok (text, none)

/-- The bits `AddressMask::from` keeps of an address, from the bit count given for it. -/
def keepBitsOf (address : Address) (numBits : Option Nat) : Except IoError Nat :=
  match address with
  | .ipv4 _ =>
    let numBits := numBits.getD 32
    if 32 < numBits then
      .error ⟨.other, s!"Invalid number of bits for ipv4 address: {numBits}"⟩
    -- a zero bit count keeps nothing, so that the mask matches IPv6 addresses too
    else .ok (if numBits = 0 then 0 else 96 + numBits)
  | .ipv6 _ =>
    let numBits := numBits.getD 128
    if 128 < numBits then
      .error ⟨.other, s!"Invalid number of bits for ipv4 address: {numBits}"⟩
    else .ok numBits
  | .hostname hostname =>
    if numBits.isSome then
      .error ⟨.other,
        s!"Cannot specify number of number of netmask bits for hostnames: {hostname}"⟩
    else .ok 128

def AddressMask.fromStr (text : String) : Except IoError AddressMask := do
  let (addressStr, numBits) ← splitNumBits text
  let address ← Address.fromStr addressStr
  let keepBits ← keepBitsOf address numBits
  .ok ⟨address, netmaskOf keepBits⟩

/-- The port of a mask text, `Failed to parse port` when it is not a `u16`. -/
def parsePort (bytes : List UInt8) : Except IoError UInt16 :=
  match parseUnsigned 65536 bytes with
  | .ok port => .ok (UInt16.ofNat port)
  | .error err => .error ⟨.other, "Failed to parse port: " ++ err.display⟩

/-- The port after a bracketed mask ending at `bracketEnd`: after a colon, else 0. -/
def bracketPort (bytes : List UInt8) (bracketEnd : Nat) : Except IoError UInt16 :=
  if bracketEnd + 1 < bytes.length ∧ bytes[bracketEnd + 1]? = some 58 then
    parsePort (bytes.drop (bracketEnd + 2))
  else .ok 0

/-- The mask text and the port of a mask without brackets: a port after the bit count, else after
the only colon of the text, else port 0. -/
def splitPort (text : String) : Except IoError (String × UInt16) :=
  let bytes := strBytes text
  match lastIndexOf 47 bytes with
  | some slashPos =>
    let afterSlash := bytes.drop (slashPos + 1)
    match afterSlash.idxOf? 58 with
    | some colonInSuffix =>
      match parseUnsigned 256 (afterSlash.take colonInSuffix) with
      | .error err => .error ⟨.other, "Failed to parse netmask bits: " ++ err.display⟩
      | .ok _ => do
        let port ← parsePort (afterSlash.drop (colonInSuffix + 1))
        .ok (strSlice text 0 (slashPos + 1 + colonInSuffix), port)
    | none => .ok (text, 0)
  | none =>
    -- a colon is one byte of UTF-8 and is never inside another character
    if bytes.count 58 = 1 then
      match bytes.idxOf? 58 with
      | some colonPos => do
        let port ← parsePort (bytes.drop (colonPos + 1))
        .ok (strSlice text 0 colonPos, port)
      | none => .ok (text, 0)
    else .ok (text, 0)

/-- `NetLocationMask::from`: a bracketed mask, else a mask split from its port by `splitPort`. -/
def NetLocationMask.fromStr (text : String) : Except IoError NetLocationMask :=
  let bytes := strBytes text
  match bytes, bytes.idxOf? 93 with
  | 91 :: _, some bracketEnd => do
    let port ← bracketPort bytes bracketEnd
    .ok ⟨← AddressMask.fromStr (strSlice text 1 bracketEnd), port⟩
  | _, _ => do
    let (addressMaskStr, port) ← splitPort text
    .ok ⟨← AddressMask.fromStr addressMaskStr, port⟩

/-- `Display` of `AddressMask`: the address, and the bits the netmask keeps, less the 96 of the
IPv4-mapped prefix for an IPv4 address. -/
def AddressMask.display (mask : AddressMask) : String :=
  let bits := if mask.netmask = 0 then 0 else 128 - trailingZeros 128 mask.netmask
  let displayBits :=
    match mask.address with
    | .ipv4 _ => if 96 < bits then bits - 96 else if bits = 0 then 0 else bits
    | .ipv6 _ => bits
    | .hostname _ => bits
  mask.address.display ++ "/" ++ toString displayBits

/-- `Display` of `NetLocationMask`: the address mask, and the port when it is not 0. -/
def NetLocationMask.display (mask : NetLocationMask) : String :=
  if mask.port = 0 then mask.addressMask.display
  else mask.addressMask.display ++ ":" ++ toString mask.port.toNat

/-- The masks `AddressMask::from` can build: a mask of no bits on any address, the top bits of an
IPv4 or IPv6 address, or a whole hostname. -/
inductive MaskShape
  | any (address : Address)
  | ipv4 (addr : Ipv4Addr) (bits : Nat) (positive : 0 < bits) (within : bits ≤ 32)
  | ipv6 (addr : Ipv6Addr) (bits : Nat) (positive : 0 < bits) (within : bits ≤ 128)
  | hostname (name : String)

/-- The address mask of a shape, as `AddressMask::from` builds it. -/
def MaskShape.addressMask : MaskShape → AddressMask
  | .any address => ⟨address, 0⟩
  | .ipv4 addr bits _ _ => ⟨.ipv4 addr, prefixMask 128 (96 + bits)⟩
  | .ipv6 addr bits _ _ => ⟨.ipv6 addr, prefixMask 128 bits⟩
  | .hostname name => ⟨.hostname name, prefixMask 128 128⟩

/-- What `matches_domain` decides, as a relation on the bytes: the hostname is the base domain, or
ends with a dot and the base domain. -/
def DomainMatches (base host : List UInt8) : Prop :=
  host = base ∨ (46 :: base) <:+ host

instance (base host : List UInt8) : Decidable (DomainMatches base host) :=
  inferInstanceAs (Decidable (_ ∨ _))

theorem matchesDomain_eq (baseDomain hostname : String) :
    matchesDomain baseDomain hostname =
      decide (DomainMatches (strBytes baseDomain) (strBytes hostname)) := by
  unfold matchesDomain DomainMatches
  generalize strBytes baseDomain = base
  generalize strBytes hostname = host
  by_cases suffix : base <:+ host
  · obtain ⟨front, rfl⟩ := suffix
    -- the byte before the domain is the last of what stands in front of it
    rcases List.eq_nil_or_concat front with rfl | ⟨init, last, rfl⟩
    · simp
    · have longer : init ++ last :: base ≠ base := by
        intro same
        have lengths := congrArg List.length same
        simp at lengths
        omega
      have dotted : (46 :: base) <:+ init ++ last :: base ↔ last = 46 := by
        rw [show 46 :: base = [46] ++ base from rfl,
          show init ++ last :: base = (init ++ [last]) ++ base by simp, List.suffix_append_self_iff]
        simp [eq_comm]
      have index : init.length + (base.length + 1) - base.length - 1 = init.length := by omega
      have unequalLengths : init.length + (base.length + 1) ≠ base.length := by omega
      have isSuffix : base <:+ init ++ last :: base := ⟨init ++ [last], by simp⟩
      simp [List.isSuffixOf_iff_suffix, index, longer, dotted, unequalLengths, isSuffix,
        Bool.beq_eq_decide_eq]
  · have notDotted : ¬ (46 :: base) <:+ host :=
      fun dotted => suffix ((List.suffix_cons _ _).trans dotted)
    have notSame : host ≠ base := fun same => suffix (same ▸ List.suffix_refl base)
    simp [List.isSuffixOf_iff_suffix, suffix, notDotted, notSame]

/-- What a mask of each shape matches, the destination resolving to `ip`: any destination; the
same top bits of the 128-bit word, for an IPv4 address those under the IPv4-mapped prefix; and a
hostname destination in the mask's domain, since rule hostnames are left unresolved. -/
def MaskShape.Matches : MaskShape → NetLocation → IpAddr → Bool
  | .any _, _, _ => true
  | .ipv4 addr bits _ _, _, ip => ipv4ToU128 addr >>> (32 - bits) == ipToU128 ip >>> (32 - bits)
  | .ipv6 addr bits _ _, _, ip => ipv6ToU128 addr >>> (128 - bits) == ipToU128 ip >>> (128 - bits)
  | .hostname name, destination, _ =>
    match destination.address.hostname? with
    | some remoteHostname => decide (DomainMatches (strBytes name) (strBytes remoteHostname))
    | none => false

/-- A rule mask built from a shape and a port. -/
def shapeMask (mask : MaskShape × UInt16) : NetLocationMask :=
  ⟨mask.1.addressMask, mask.2⟩

/-- A rule mask matches the destination, resolving to `ip`, when its port is 0 or the
destination's and its shape matches, as `match_mask` decides it. -/
def maskMatches (destination : NetLocation) (ip : IpAddr) (mask : MaskShape × UInt16) : Bool :=
  (mask.2 == 0 || mask.2 == destination.port) && mask.1.Matches destination ip

theorem ipToU128_lt (ip : IpAddr) : ipToU128 ip < 2 ^ 128 := by
  cases ip with
  | v4 addr =>
    have octets := beValue_lt addr.octets
    rw [addr.octets_length] at octets
    simp only [ipToU128, ipv4ToU128]
    omega
  | v6 addr =>
    have octets := beValue_lt addr.octets
    rw [addr.octets_length] at octets
    simp only [ipToU128, ipv6ToU128]
    omega

theorem masked_beq {first second : Nat} (firstFits : first < 2 ^ 128) (secondFits : second < 2 ^ 128)
    (kept : Nat) :
    (first &&& prefixMask 128 kept == second &&& prefixMask 128 kept) =
      (first >>> (128 - kept) == second >>> (128 - kept)) := by
  rw [Bool.eq_iff_iff, beq_iff_eq, beq_iff_eq]
  exact and_prefixMask_eq_iff firstFits secondFits kept

section Destination

variable {resolver : Resolver} {destination : NetLocation} {address : SocketAddr}

/-- What matching keeps of the destination: the location itself, and only its own resolution
cached as an address or a number. -/
structure Agrees (destination : NetLocation) (address : SocketAddr) (state : MatchState) : Prop where
  location_eq : state.location.location = destination
  resolvedIp_eq : ∀ value, state.resolvedIp = some value → value = ipToU128 address.ip
  resolvedAddr_eq : ∀ addr, state.location.resolvedAddr = some addr → addr = address

theorem agrees_new : Agrees destination address ⟨ResolvedLocation.new destination, none⟩ := by
  constructor
  · rfl
  · intro value known
    cases known
  · intro addr cached
    cases cached

variable (resolved : resolveSingleAddress resolver destination = .ok address)
include resolved

theorem resolveLocation_agrees {state : MatchState} (agrees : Agrees destination address state) :
    ∃ location, resolveLocation resolver state.location = .ok (address, location) ∧
      location.location = destination ∧ location.resolvedAddr = some address := by
  unfold resolveLocation
  cases cached : state.location.resolvedAddr with
  | some addr =>
    obtain rfl := agrees.resolvedAddr_eq addr cached
    exact ⟨state.location, rfl, agrees.location_eq, cached⟩
  | none =>
    rw [agrees.location_eq, resolved]
    exact ⟨_, rfl, rfl, rfl⟩

theorem resolveIp_agrees {state : MatchState} (agrees : Agrees destination address state) :
    ∃ next, resolveIp resolver state = .ok (ipToU128 address.ip, next) ∧
      Agrees destination address next := by
  unfold resolveIp
  cases known : state.resolvedIp with
  | some value =>
    rw [agrees.resolvedIp_eq value known]
    exact ⟨state, rfl, agrees⟩
  | none =>
    obtain ⟨location, located, locationEq, cached⟩ := resolveLocation_agrees resolved agrees
    rw [located]
    refine ⟨⟨location, some (ipToU128 address.ip)⟩, rfl, locationEq, ?_, ?_⟩
    · intro value recorded
      cases recorded
      rfl
    · intro addr recorded
      rw [cached] at recorded
      cases recorded
      rfl

theorem matchMask_shape (mask : MaskShape × UInt16) {state : MatchState}
    (agrees : Agrees destination address state) :
    ∃ next, matchMask resolver false (shapeMask mask) state =
      (.ok (maskMatches destination address.ip mask), next) ∧ Agrees destination address next := by
  obtain ⟨shape, port⟩ := mask
  show ∃ next, matchMask resolver false ⟨shape.addressMask, port⟩ state =
    (.ok ((port == 0 || port == destination.port) && shape.Matches destination address.ip), next) ∧ _
  unfold matchMask
  rw [agrees.location_eq]
  by_cases skipped : 0 < port.toNat ∧ port ≠ destination.port
  · have otherPort : (port == 0 || port == destination.port) = false := by
      have nonzero : port ≠ 0 := fun zero => by simp [zero] at skipped
      simp [nonzero, skipped.2]
    rw [if_pos skipped, otherPort, Bool.false_and]
    exact ⟨state, rfl, agrees⟩
  · have samePort : (port == 0 || port == destination.port) = true := by
      rw [not_and_or, not_lt, Nat.le_zero, not_not] at skipped
      rcases skipped with zero | same
      · simp [UInt16.toNat_inj.mp (zero.trans UInt16.toNat_zero.symm)]
      · simp [same]
    rw [if_neg skipped, samePort, Bool.true_and]
    -- below the port, each shape takes its own branch of the matching
    cases shape with
    | any anyAddress =>
      exact ⟨state, rfl, agrees⟩
    | ipv4 addr bits positive within =>
      have nonzero : prefixMask 128 (96 + bits) ≠ 0 := prefixMask_ne_zero (by omega) (by omega)
      have clears : 128 - (96 + bits) = 32 - bits := by omega
      obtain ⟨next, resolves, nextAgrees⟩ := resolveIp_agrees resolved agrees
      refine ⟨next, ?_, nextAgrees⟩
      simp only [MaskShape.addressMask, if_neg nonzero, matchHostname, Address.hostname?, resolves,
        compareMasked, MaskShape.Matches]
      have fits : ipv4ToU128 addr < 2 ^ 128 := ipToU128_lt (.v4 addr)
      rw [masked_beq fits (ipToU128_lt address.ip), clears]
    | ipv6 addr bits positive within =>
      have nonzero : prefixMask 128 bits ≠ 0 := prefixMask_ne_zero positive within
      obtain ⟨next, resolves, nextAgrees⟩ := resolveIp_agrees resolved agrees
      refine ⟨next, ?_, nextAgrees⟩
      simp only [MaskShape.addressMask, if_neg nonzero, matchHostname, Address.hostname?, resolves,
        compareMasked, MaskShape.Matches]
      have fits : ipv6ToU128 addr < 2 ^ 128 := ipToU128_lt (.v6 addr)
      rw [masked_beq fits (ipToU128_lt address.ip)]
    | hostname name =>
      have nonzero : prefixMask 128 128 ≠ 0 := prefixMask_ne_zero (by decide) le_rfl
      refine ⟨state, ?_, agrees⟩
      simp only [MaskShape.addressMask, nonzero, if_false, matchHostname, Address.hostname?,
        MaskShape.Matches]
      cases destination.address with
      | hostname remoteHostname => simp [matchesDomain_eq]
      | ipv4 addr => rfl
      | ipv6 addr => rfl

theorem matchRuleMasks_shapes (ruleIndex : Nat) (masks : List (MaskShape × UInt16))
    {state : MatchState} (agrees : Agrees destination address state) :
    ∃ next, matchRuleMasks resolver false ruleIndex (masks.map shapeMask) state =
      (.ok (if masks.any (maskMatches destination address.ip) then some ruleIndex else none), next) ∧
      Agrees destination address next := by
  induction masks generalizing state with
  | nil => exact ⟨state, rfl, agrees⟩
  | cons mask masks ih =>
    obtain ⟨next, matched, nextAgrees⟩ := matchMask_shape resolved mask agrees
    rw [List.map_cons, matchRuleMasks, matched, List.any_cons]
    cases maskMatches destination address.ip mask with
    | true => exact ⟨next, rfl, nextAgrees⟩
    | false => exact ih nextAgrees

theorem matchRuleFrom_shapes {γ : Type} (rules : List (ConnectRule γ))
    (shapes : List (List (MaskShape × UInt16)))
    (built : rules.map ConnectRule.masks = shapes.map (List.map shapeMask)) (ruleIndex : Nat)
    {state : MatchState} (agrees : Agrees destination address state) :
    (matchRuleFrom resolver false ruleIndex rules state).1 =
      .ok ((shapes.findIdx? fun masks => masks.any (maskMatches destination address.ip)).map
        (· + ruleIndex)) := by
  induction rules generalizing shapes ruleIndex state with
  | nil =>
    obtain rfl : shapes = [] := List.map_eq_nil_iff.mp built.symm
    rfl
  | cons rule rules ih =>
    obtain ⟨masks, shapes, rfl⟩ : ∃ masks rest, shapes = masks :: rest := by
      cases shapes with
      | nil => cases built
      | cons masks rest => exact ⟨masks, rest, rfl⟩
    obtain ⟨ruleMasks, restBuilt⟩ := List.cons.inj built
    obtain ⟨next, result, nextAgrees⟩ := matchRuleMasks_shapes resolved ruleIndex masks agrees
    rw [matchRuleFrom, ruleMasks, result, List.findIdx?_cons]
    cases masks.any (maskMatches destination address.ip) with
    | true => simp
    | false =>
      simp only [Bool.false_eq_true, ite_false]
      rw [ih shapes restBuilt (ruleIndex + 1) nextAgrees, Option.map_map]
      congr 2
      funext index
      simp only [Function.comp_apply]
      omega

end Destination

theorem matchRule_first_match {γ : Type} (rules : List (ConnectRule γ))
    (shapes : List (List (MaskShape × UInt16)))
    (built : rules.map ConnectRule.masks = shapes.map (List.map shapeMask))
    (resolver : Resolver) (destination : NetLocation) (address : SocketAddr)
    (resolved : resolveSingleAddress resolver destination = .ok address) :
    (matchRule rules (.new destination) none resolver false).1 =
      .ok (shapes.findIdx? fun masks => masks.any (maskMatches destination address.ip)) := by
  have matched := matchRuleFrom_shapes resolved rules shapes built 0 agrees_new
  simp only [Nat.add_zero, Option.map_id'] at matched
  exact matched

/-- Two rules: a hostname mask, which an IPv4 destination never matches, and the destination's
`/8` on its port. -/
def sampleShapes : List (List (MaskShape × UInt16)) :=
  [[(.hostname "example.com", 0)], [(.ipv4 ⟨[10, 0, 0, 0], rfl⟩ 8 (by decide) (by decide), 443)]]

theorem matchRule_first_match_sample :
    (matchRule (sampleShapes.map fun masks => (⟨masks.map shapeMask, .block⟩ : ConnectRule Unit))
        (.new ⟨.ipv4 ⟨[10, 1, 2, 3], rfl⟩, 443⟩) none (fun _ => .ok []) false).1 =
      .ok (some 1) := by
  rw [matchRule_first_match _ sampleShapes (by simp) (fun _ => .ok []) _
    ⟨.v4 ⟨[10, 1, 2, 3], rfl⟩, 443⟩ rfl]
  rfl

/-- A hostname destination against an IPv4 mask: the destination is resolved, and its address
matches the mask. -/
theorem hostname_destination_matches_ipv4_rule :
    NetLocationMask.fromStr "1.2.3.4" = .ok ⟨⟨.ipv4 ⟨[1, 2, 3, 4], rfl⟩, prefixMask 128 128⟩, 0⟩ ∧
    (matchRule [(⟨[⟨⟨.ipv4 ⟨[1, 2, 3, 4], rfl⟩, prefixMask 128 128⟩, 0⟩], .block⟩ : ConnectRule Unit)]
      (.new ⟨.hostname "example.com", 80⟩) none (fun _ => .ok [⟨.v4 ⟨[1, 2, 3, 4], rfl⟩, 80⟩])
      false).1 = .ok (some 0) := by
  constructor
  · decide
  · rfl

/-- The bit count a mask of each shape is written with. -/
def MaskShape.bits : MaskShape → Nat
  | .any _ => 0
  | .ipv4 _ bits _ _ => bits
  | .ipv6 _ bits _ _ => bits
  | .hostname _ => 128

theorem AddressMask.display_shape (shape : MaskShape) :
    shape.addressMask.display =
      shape.addressMask.address.display ++ "/" ++ toString shape.bits := by
  -- a mask that keeps bits is printed from its trailing zeros
  have keeps {mask : AddressMask} (kept : Nat) (netmaskEq : mask.netmask = prefixMask 128 kept)
      (positive : 0 < kept) (within : kept ≤ 128) :
      (if mask.netmask = 0 then 0 else 128 - trailingZeros 128 mask.netmask) = kept := by
    rw [netmaskEq, if_neg (prefixMask_ne_zero positive within),
      trailingZeros_prefixMask positive within]
    omega
  unfold AddressMask.display
  dsimp only
  cases shape with
  | any address =>
    cases address <;> rfl
  | ipv4 addr bits positive within =>
    rw [keeps (96 + bits) rfl (by omega) (by omega), if_pos (by omega : 96 < 96 + bits),
      Nat.add_sub_cancel_left]
    rfl
  | ipv6 addr bits positive within =>
    rw [keeps bits rfl positive within]
    rfl
  | hostname name =>
    rw [keeps 128 rfl (by decide) le_rfl]
    rfl

/-- A hostname mask is written back with `/128`, and `from` refuses a bit count on a hostname. -/
theorem hostname_mask_not_reparsed :
    NetLocationMask.fromStr "example.com" = .ok ⟨(MaskShape.hostname "example.com").addressMask, 0⟩ ∧
    NetLocationMask.display ⟨(MaskShape.hostname "example.com").addressMask, 0⟩ =
      "example.com/128" ∧
    NetLocationMask.fromStr "example.com/128" =
      .error ⟨.other, "Cannot specify number of number of netmask bits for hostnames: example.com"⟩ := by
  refine ⟨by decide, ?_, by decide⟩
  rw [NetLocationMask.display, if_pos rfl, AddressMask.display_shape]
  rfl

end Shoes.ClientProxySelector
