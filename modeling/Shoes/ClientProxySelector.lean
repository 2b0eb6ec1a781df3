import Shoes.Address
import Shoes.LruCache

/-!
# Rule matching and the routing cache

`ClientProxySelector` of `client_proxy_selector.rs`: an ordered list of rules, each a list of
masks and an action, and `judge`, which returns the action of the first rule with a mask that
matches the destination. A mask matches on its port (0 for any), then on a zero netmask (any
address), then for a hostname mask against a hostname destination by domain suffix, and
otherwise by comparing masked 128-bit addresses, resolving the destination lazily and the
mask's hostname through the resolver.

With more than sixteen rules, or when rule hostnames are resolved, `judge` first looks the
destination up in an LRU cache of decisions keyed by `RoutingCacheKey::from_location`, which
lowercases hostnames, and records each computed decision there.

Two parts are parameters: the resolver, a function from a location to its addresses or an
error that gives the same answer each time it is asked, and `str::to_lowercase`, whose
Unicode tables the model does not embed.
-/

namespace Shoes.ClientProxySelector

open Wire Lru

/-- `AddressMask`: an address and a netmask over 128-bit addresses, IPv4 mapped into IPv6. -/
structure AddressMask where
  address : Address
  netmask : Nat

/-- `NetLocationMask`: an address mask and a port, 0 for any port. -/
structure NetLocationMask where
  addressMask : AddressMask
  port : UInt16

/-- `ConnectAction`, over the type of chain groups. -/
inductive ConnectAction (γ : Type)
  | allow (overrideAddress : Option NetLocation) (chainGroup : γ)
  | block

structure ConnectRule (γ : Type) where
  masks : List NetLocationMask
  action : ConnectAction γ

/-- `ConnectDecision`. The chain group is returned as a reference into the rule list; the model
records the index of its rule, which determines that reference. -/
inductive ConnectDecision (γ : Type)
  | allow (ruleIndex : Nat) (chainGroup : γ) (remoteLocation : ResolvedLocation)
  | block
  deriving DecidableEq

inductive CachedDecision
  | allow (ruleIndex : Nat)
  | block
  deriving DecidableEq

inductive RoutingCacheKey
  | hostname (hostname : String) (port : UInt16)
  | ipv4 (addr : Ipv4Addr) (port : UInt16)
  | ipv6 (addr : Ipv6Addr) (port : UInt16)
  deriving DecidableEq

/-- `RoutingCacheKey::from_location`: hostnames are lowercased by `str::to_lowercase`, whose
Unicode case tables are a parameter of the model. -/
def RoutingCacheKey.fromLocation (toLowercase : String → String) (location : NetLocation) :
    RoutingCacheKey :=
  match location.address with
  | .hostname name => .hostname (toLowercase name) location.port
  | .ipv4 addr => .ipv4 addr location.port
  | .ipv6 addr => .ipv6 addr location.port

/-- `Resolver::resolve_location`, answering the same for the same location. -/
abbrev Resolver := NetLocation → Except IoError (List SocketAddr)

def ipv6ToU128 (addr : Ipv6Addr) : Nat :=
  beValue addr.octets

/-- `ipv4_to_u128`: the IPv4-mapped IPv6 address `::ffff:a.b.c.d`. -/
def ipv4ToU128 (addr : Ipv4Addr) : Nat :=
  0xffff * 2 ^ 32 + beValue addr.octets

def ipToU128 : IpAddr → Nat
  | .v4 addr => ipv4ToU128 addr
  | .v6 addr => ipv6ToU128 addr

/-- `matches_domain`: the hostname is the base domain or ends with a dot and the base domain,
compared byte for byte. -/
def matchesDomain (baseDomain hostname : String) : Bool :=
  let base := strBytes baseDomain
  let host := strBytes hostname
  if base.isSuffixOf host then
    if host.length = base.length then true
    else host[host.length - base.length - 1]? == some 46
  else false

/-- `resolve_single_address`: an IP address directly, else the resolver's first answer. -/
def resolveSingleAddress (resolver : Resolver) (location : NetLocation) : Except IoError SocketAddr :=
  match location.toSocketAddrNonblocking with
  | some addr => .ok addr
  | none =>
    match resolver location with
    | .ok (first :: _) => .ok first
    | .ok [] => .error ⟨.other, "could not resolve location: " ++ location.display⟩
    | .error err => .error err

/-- `resolve_location`: the cached resolution, or a fresh one recorded in the location. -/
def resolveLocation (resolver : Resolver) (location : ResolvedLocation) :
    Except IoError (SocketAddr × ResolvedLocation) :=
  match location.resolvedAddr with
  | some addr => .ok (addr, location)
  | none =>
    match resolveSingleAddress resolver location.location with
    | .ok addr => .ok (addr, { location with resolvedAddr := some addr })
    | .error err => .error err

inductive MatchMaskError
  | nonFatal (err : IoError)
  | fatal (err : IoError)

/-- What matching carries from mask to mask: the destination, with any resolution cached in it,
and its resolved address as a number. -/
structure MatchState where
  location : ResolvedLocation
  resolvedIp : Option Nat

/-- The hostname shortcut of `match_mask`: a hostname mask decides a hostname destination by its
domain, and any other destination as no match unless rule hostnames are resolved; `none` when
the addresses have to be compared. -/
def matchHostname (resolveRuleHostnames : Bool) (address : Address) (destination : NetLocation) :
    Option Bool :=
  match address.hostname? with
  | some hostname =>
    match destination.address.hostname? with
    | some remoteHostname => some (matchesDomain hostname remoteHostname)
    | none => if resolveRuleHostnames then none else some false
  | none => none

/-- The destination's address as a number: the one already known, or a lazy resolution of the
destination, recorded in it, whose failure is fatal. -/
def resolveIp (resolver : Resolver) (state : MatchState) : Except MatchMaskError (Nat × MatchState) :=
  match state.resolvedIp with
  | some ip => .ok (ip, state)
  | none =>
    match resolveLocation resolver state.location with
    | .ok (socketAddr, location) =>
      .ok (ipToU128 socketAddr.ip, ⟨location, some (ipToU128 socketAddr.ip)⟩)
    | .error err => .error (.fatal err)

/-- The comparison of `match_mask`: the mask's address, or each address its hostname resolves to
(failing non-fatally), against the destination's, both under the netmask. -/
def compareMasked (resolver : Resolver) (address : Address) (port : UInt16) (netmask ip : Nat) :
    Except MatchMaskError Bool :=
  let maskedIp := ip &&& netmask
  match address with
  | .ipv4 addr => .ok (ipv4ToU128 addr &&& netmask == maskedIp)
  | .ipv6 addr => .ok (ipv6ToU128 addr &&& netmask == maskedIp)
  | .hostname _ =>
    match resolver ⟨address, port⟩ with
    | .error err => .error (.nonFatal err)
    | .ok socketAddrs => .ok (socketAddrs.any fun socketAddr => ipToU128 socketAddr.ip &&& netmask == maskedIp)

/-- `match_mask`. On a non-fatal error the matching goes on, so the state is returned with every
outcome. -/
def matchMask (resolver : Resolver) (resolveRuleHostnames : Bool) (mask : NetLocationMask)
    (state : MatchState) : Except MatchMaskError Bool × MatchState :=
  let address := mask.addressMask.address
  let netmask := mask.addressMask.netmask
  if 0 < mask.port.toNat ∧ mask.port ≠ state.location.location.port then (.ok false, state)
  else if netmask = 0 then (.ok true, state)
  else
    match matchHostname resolveRuleHostnames address state.location.location with
    | some matched => (.ok matched, state)
    | none =>
      match resolveIp resolver state with
      | .error err => (.error err, state)
      | .ok (ip, state) => (compareMasked resolver address mask.port netmask ip, state)

/-- The mask loop of `match_rule` for the rule at `ruleIndex`: `none` when no mask matched. -/
def matchRuleMasks (resolver : Resolver) (resolveRuleHostnames : Bool) (ruleIndex : Nat) :
    List NetLocationMask → MatchState → Except IoError (Option Nat) × MatchState
  | [], state => (.ok none, state)
  | mask :: masks, state =>
    match matchMask resolver resolveRuleHostnames mask state with
    | (.ok true, state) => (.ok (some ruleIndex), state)
    | (.ok false, state) => matchRuleMasks resolver resolveRuleHostnames ruleIndex masks state
    | (.error (.fatal err), state) =>
      (.error ⟨.other, "fatal error while matching mask for " ++ state.location.location.display ++
        ": " ++ err.message⟩, state)
    | (.error (.nonFatal _), state) =>
      matchRuleMasks resolver resolveRuleHostnames ruleIndex masks state

/-- The rule loop of `match_rule`, from the rule at `ruleIndex`. -/
def matchRuleFrom {γ : Type} (resolver : Resolver) (resolveRuleHostnames : Bool) :
    Nat → List (ConnectRule γ) → MatchState → Except IoError (Option Nat) × MatchState
  | _, [], state => (.ok none, state)
  | ruleIndex, rule :: rules, state =>
    match matchRuleMasks resolver resolveRuleHostnames ruleIndex rule.masks state with
    | (.ok none, state) => matchRuleFrom resolver resolveRuleHostnames (ruleIndex + 1) rules state
    | outcome => outcome

/-- `match_rule`: the index of the first matching rule, and the destination with whatever
resolution the matching did. -/
def matchRule {γ : Type} (rules : List (ConnectRule γ)) (location : ResolvedLocation)
    (resolvedIp : Option Nat) (resolver : Resolver) (resolveRuleHostnames : Bool) :
    Except IoError (Option Nat) × ResolvedLocation :=
  let (outcome, state) := matchRuleFrom resolver resolveRuleHostnames 0 rules ⟨location, resolvedIp⟩
  (outcome, state.location)

/-- `ConnectAction::to_decision`: an override address replaces the destination, unresolved and
keeping the requested port when its own is 0; otherwise the destination passes through with
its resolution. -/
def ConnectAction.toDecision {γ : Type} (ruleIndex : Nat) (location : ResolvedLocation) :
    ConnectAction γ → ConnectDecision γ
  | .allow overrideAddress chainGroup =>
    let remoteLocation :=
      match overrideAddress with
      | some overridden =>
        if 0 < overridden.port.toNat then ResolvedLocation.new overridden
        else ResolvedLocation.new ⟨overridden.address, location.location.port⟩
      | none => location
    .allow ruleIndex chainGroup remoteLocation
  | .block => .block

/-- `self.rules[rule_index].action.to_decision(location)`, panicking on an index past the end. -/
def decideRule {γ : Type} (rules : List (ConnectRule γ)) (ruleIndex : Nat)
    (location : ResolvedLocation) : Result (ConnectDecision γ) :=
  match rules[ruleIndex]? with
  | some rule => .ok (rule.action.toDecision ruleIndex location)
  | none => abort

def cacheRuleThreshold : Nat := 16

structure Selector (γ : Type) where
  rules : List (ConnectRule γ)
  resolveRuleHostnames : Bool
  cache : Option (LruCache RoutingCacheKey CachedDecision)

/-- `ClientProxySelector::with_options_and_cache_size`: a cache when hostnames are resolved or
there are more than sixteen rules, of capacity at least 1. -/
def Selector.withOptionsAndCacheSize {γ : Type} (rules : List (ConnectRule γ))
    (resolveRuleHostnames : Bool) (cacheCapacity : Nat) : Selector γ where
  rules := rules
  resolveRuleHostnames := resolveRuleHostnames
  cache :=
    if resolveRuleHostnames ∨ cacheRuleThreshold < rules.length then
      some (LruCache.new (max cacheCapacity 1) (by omega))
    else none

def Selector.judgeUncached {γ : Type} (selector : Selector γ) (resolver : Resolver)
    (location : ResolvedLocation) (resolvedIp : Option Nat) : Result (ConnectDecision γ) :=
  match matchRule selector.rules location resolvedIp resolver selector.resolveRuleHostnames with
  | (.error err, _) => .error (.error err)
  | (.ok (some ruleIndex), location) => decideRule selector.rules ruleIndex location
  | (.ok none, _) => .ok .block

def Selector.cachedToDecision {γ : Type} (selector : Selector γ) (cached : CachedDecision)
    (location : ResolvedLocation) : Result (ConnectDecision γ) :=
  match cached with
  | .allow ruleIndex => decideRule selector.rules ruleIndex location
  | .block => .ok .block

/-- `ClientProxySelector::judge`: the decision, and the selector with its cache updated. A hit
passes the request's location through as it came; a computed decision is recorded under the
destination's key. -/
def Selector.judge {γ : Type} (toLowercase : String → String) (selector : Selector γ)
    (resolver : Resolver) (location : ResolvedLocation) : Result (ConnectDecision γ) × Selector γ :=
  let resolvedIp := location.resolvedAddr.map fun addr => ipToU128 addr.ip
  match selector.cache with
  | none => (selector.judgeUncached resolver location resolvedIp, selector)
  | some cache =>
    match cache.peek (RoutingCacheKey.fromLocation toLowercase location.location) with
    | some cached => (selector.cachedToDecision cached location, selector)
    | none =>
      match matchRule selector.rules location resolvedIp resolver selector.resolveRuleHostnames with
      | (.error err, _) => (.error (.error err), selector)
      | (.ok (some ruleIndex), location) =>
        (decideRule selector.rules ruleIndex location,
          { selector with
            cache := some (cache.put (RoutingCacheKey.fromLocation toLowercase location.location)
            (.allow ruleIndex)) })
      | (.ok none, location) =>
        (.ok .block,
          { selector with
            cache := some (cache.put (RoutingCacheKey.fromLocation toLowercase location.location)
            .block) })

end Shoes.ClientProxySelector

namespace Shoes.ClientProxySelector

open Wire

/-! ## Rule matching leaves the destination in place

Matching may resolve the destination and record the answer in it, but never changes the
location itself. -/

theorem resolveLocation_location {resolver : Resolver} {location resolved : ResolvedLocation}
    {addr : SocketAddr} (resolves : resolveLocation resolver location = .ok (addr, resolved)) :
    resolved.location = location.location := by
  unfold resolveLocation at resolves
  split at resolves
  · cases resolves
    rfl
  · split at resolves
    · cases resolves
      rfl
    · cases resolves

theorem matchMask_location (resolver : Resolver) (resolveRuleHostnames : Bool)
    (mask : NetLocationMask) (state : MatchState) :
    (matchMask resolver resolveRuleHostnames mask state).2.location.location =
      state.location.location := by
  have resolved (ip : Nat) (next : MatchState) (resolves : resolveIp resolver state = .ok (ip, next)) :
      next.location.location = state.location.location := by
    unfold resolveIp at resolves
    split at resolves
    · cases resolves
      rfl
    · split at resolves
      · cases resolves
        exact resolveLocation_location ‹_›
      · cases resolves
  unfold matchMask
  dsimp only
  split_ifs
  · rfl
  · rfl
  · cases matchHostname resolveRuleHostnames mask.addressMask.address state.location.location with
    | some matched => rfl
    | none =>
      cases resolves : resolveIp resolver state with
      | error err => rfl
      | ok result => exact resolved result.1 result.2 resolves

theorem matchRuleMasks_location (resolver : Resolver) (resolveRuleHostnames : Bool)
    (ruleIndex : Nat) (masks : List NetLocationMask) (state : MatchState) :
    (matchRuleMasks resolver resolveRuleHostnames ruleIndex masks state).2.location.location =
      state.location.location := by
  induction masks generalizing state with
  | nil => rfl
  | cons mask masks ih =>
    have step := matchMask_location resolver resolveRuleHostnames mask state
    rcases outcome : matchMask resolver resolveRuleHostnames mask state with ⟨result, next⟩
    rw [outcome] at step
    unfold matchRuleMasks
    rw [outcome]
    -- each arm either stops with the state after the mask or goes on from it
    rcases result with (nonFatal | fatal) | (_ | _)
    · exact (ih next).trans step
    · exact step
    · exact (ih next).trans step
    · exact step

theorem matchRuleFrom_location {γ : Type} (resolver : Resolver) (resolveRuleHostnames : Bool)
    (ruleIndex : Nat) (rules : List (ConnectRule γ)) (state : MatchState) :
    (matchRuleFrom resolver resolveRuleHostnames ruleIndex rules state).2.location.location =
      state.location.location := by
  induction rules generalizing ruleIndex state with
  | nil => rfl
  | cons rule rules ih =>
    have step := matchRuleMasks_location resolver resolveRuleHostnames ruleIndex rule.masks state
    rcases outcome : matchRuleMasks resolver resolveRuleHostnames ruleIndex rule.masks state with
      ⟨result, next⟩
    rw [outcome] at step
    unfold matchRuleFrom
    rw [outcome]
    rcases result with err | (_ | matched)
    · exact step
    · exact (ih (ruleIndex + 1) next).trans step
    · exact step

@[simp] theorem matchRule_location {γ : Type} (rules : List (ConnectRule γ))
    (location : ResolvedLocation) (resolvedIp : Option Nat) (resolver : Resolver)
    (resolveRuleHostnames : Bool) :
    (matchRule rules location resolvedIp resolver resolveRuleHostnames).2.location =
      location.location :=
  matchRuleFrom_location resolver resolveRuleHostnames 0 rules ⟨location, resolvedIp⟩

end Shoes.ClientProxySelector
