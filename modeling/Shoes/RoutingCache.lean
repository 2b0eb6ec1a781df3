import Shoes.ClientProxySelector

/-!
# What the routing cache preserves

A run of `judge` calls against `judge_uncached` on the same destinations. The cache keeps one
invariant: each entry holds the outcome that rule matching gave for some destination with the
entry's key. A hit therefore gives the uncached decision as soon as the key determines the
destination, except that it passes the request through as it came, without the resolution
that an uncached match records in the remote location.

Neither condition can be dropped: the key lowercases hostnames while `matches_domain` compares
them byte for byte, so two destinations differing only in case can share an entry and get
different rules, and a hit on a destination the rules resolved returns it unresolved.
-/

namespace Shoes.ClientProxySelector

open Wire Lru

/-- Two decisions that name the same rule and chain group and the same remote location, up to
the address a resolution recorded in it; errors and blocks agree with themselves. -/
def DecisionAgrees {γ : Type} : Result (ConnectDecision γ) → Result (ConnectDecision γ) → Prop
  | .ok (.allow ruleIndex chainGroup remote), .ok (.allow ruleIndex' chainGroup' remote') =>
    ruleIndex = ruleIndex' ∧ chainGroup = chainGroup' ∧ remote.location = remote'.location
  | .ok .block, .ok .block => True
  | .error fault, .error fault' => fault = fault'
  | _, _ => False

theorem decisionAgrees_refl {γ : Type} (decision : Result (ConnectDecision γ)) :
    DecisionAgrees decision decision := by
  rcases decision with fault | (_ | _) <;> simp [DecisionAgrees]

/-- The decision a cache records for the outcome of rule matching. -/
def CachedDecision.ofMatch : Option Nat → CachedDecision
  | some ruleIndex => .allow ruleIndex
  | none => .block

@[simp] theorem ResolvedLocation.new_resolvedAddr (location : NetLocation) :
    (ResolvedLocation.new location).resolvedAddr = none :=
  rfl

@[simp] theorem ResolvedLocation.new_location (location : NetLocation) :
    (ResolvedLocation.new location).location = location :=
  rfl

theorem toDecision_agrees {γ : Type} (action : ConnectAction γ) (ruleIndex : Nat)
    {first second : ResolvedLocation} (same : first.location = second.location) :
    DecisionAgrees (.ok (action.toDecision ruleIndex first)) (.ok (action.toDecision ruleIndex second)) := by
  cases action with
  | block => simp [ConnectAction.toDecision, DecisionAgrees]
  | allow overrideAddress chainGroup =>
    cases overrideAddress with
    | none => simp [ConnectAction.toDecision, DecisionAgrees, same]
    | some overridden => simp [ConnectAction.toDecision, DecisionAgrees, same]

theorem decideRule_agrees {γ : Type} (rules : List (ConnectRule γ)) (ruleIndex : Nat)
    {first second : ResolvedLocation} (same : first.location = second.location) :
    DecisionAgrees (decideRule rules ruleIndex first) (decideRule rules ruleIndex second) := by
  unfold decideRule
  cases rules[ruleIndex]? with
  | none => exact decisionAgrees_refl _
  | some rule => exact toDecision_agrees rule.action ruleIndex same

section Run

variable {γ : Type} (toLowercase : String → String) (resolver : Resolver)

/-- The decisions of a run of `judge` calls on unresolved destinations, each made by the
selector the call before left behind. -/
def judgeRun : Selector γ → List NetLocation → List (Result (ConnectDecision γ))
  | _, [] => []
  | selector, location :: rest =>
    (selector.judge toLowercase resolver (.new location)).1 ::
      judgeRun (selector.judge toLowercase resolver (.new location)).2 rest

/-- The cache invariant: every entry records the outcome of rule matching for a destination,
among the `allowed` ones, whose key is the entry's. -/
def CacheSound (allowed : NetLocation → Prop) (selector : Selector γ) : Prop :=
  ∀ cache, selector.cache = some cache → ∀ key cached, cache.peek key = some cached →
    ∃ location, allowed location ∧ RoutingCacheKey.fromLocation toLowercase location = key ∧
      ∃ outcome, (matchRule selector.rules (.new location) none resolver
        selector.resolveRuleHostnames).1 = .ok outcome ∧ CachedDecision.ofMatch outcome = cached

theorem cacheSound_withOptionsAndCacheSize (allowed : NetLocation → Prop)
    (rules : List (ConnectRule γ)) (resolveRuleHostnames : Bool) (cacheCapacity : Nat) :
    CacheSound toLowercase resolver allowed
      (Selector.withOptionsAndCacheSize rules resolveRuleHostnames cacheCapacity) := by
  intro cache built key cached found
  unfold Selector.withOptionsAndCacheSize at built
  split at built
  · cases built
    simp at found
  · cases built

theorem judge_of_cache_none {selector : Selector γ} (uncachedSelector : selector.cache = none)
    (location : NetLocation) :
    selector.judge toLowercase resolver (.new location) =
      (selector.judgeUncached resolver (.new location) none, selector) := by
  simp [Selector.judge, uncachedSelector]

theorem judge_of_hit {selector : Selector γ} {cache : LruCache RoutingCacheKey CachedDecision}
    (cached : selector.cache = some cache) {location : NetLocation} {decision : CachedDecision}
    (hit : cache.peek (RoutingCacheKey.fromLocation toLowercase location) = some decision) :
    selector.judge toLowercase resolver (.new location) =
      (selector.cachedToDecision decision (.new location), selector) := by
  simp [Selector.judge, cached, hit]

theorem judge_of_error {selector : Selector γ} {cache : LruCache RoutingCacheKey CachedDecision}
    (cached : selector.cache = some cache) {location : NetLocation}
    (miss : cache.peek (RoutingCacheKey.fromLocation toLowercase location) = none)
    {err : IoError} {resolved : ResolvedLocation}
    (matching : matchRule selector.rules (.new location) none resolver
      selector.resolveRuleHostnames = (.error err, resolved)) :
    selector.judge toLowercase resolver (.new location) = (.error (.error err), selector) := by
  simp [Selector.judge, cached, miss, matching]

theorem judge_of_miss {selector : Selector γ} {cache : LruCache RoutingCacheKey CachedDecision}
    (cached : selector.cache = some cache) {location : NetLocation}
    (miss : cache.peek (RoutingCacheKey.fromLocation toLowercase location) = none)
    {outcome : Option Nat} {resolved : ResolvedLocation}
    (matching : matchRule selector.rules (.new location) none resolver
      selector.resolveRuleHostnames = (.ok outcome, resolved)) :
    selector.judge toLowercase resolver (.new location) =
      (selector.judgeUncached resolver (.new location) none,
        { selector with
          cache := some (cache.put (RoutingCacheKey.fromLocation toLowercase location)
            (CachedDecision.ofMatch outcome)) }) := by
  have resolvedLocation : resolved.location = location := by
    simpa [matching] using matchRule_location selector.rules (.new location) none resolver
      selector.resolveRuleHostnames
  cases outcome <;>
    simp [Selector.judge, Selector.judgeUncached, cached, miss, matching, resolvedLocation,
      CachedDecision.ofMatch]

theorem judge_cases {motive : Result (ConnectDecision γ) × Selector γ → Prop}
    (selector : Selector γ) (location : NetLocation)
    (uncachedCase : selector.cache = none →
      motive (selector.judgeUncached resolver (.new location) none, selector))
    (hitCase : ∀ cache decision, selector.cache = some cache →
      cache.peek (RoutingCacheKey.fromLocation toLowercase location) = some decision →
      motive (selector.cachedToDecision decision (.new location), selector))
    (errorCase : ∀ cache err resolved, selector.cache = some cache →
      cache.peek (RoutingCacheKey.fromLocation toLowercase location) = none →
      matchRule selector.rules (.new location) none resolver selector.resolveRuleHostnames =
        (.error err, resolved) →
      motive (.error (.error err), selector))
    (missCase : ∀ cache outcome resolved, selector.cache = some cache →
      cache.peek (RoutingCacheKey.fromLocation toLowercase location) = none →
      matchRule selector.rules (.new location) none resolver selector.resolveRuleHostnames =
        (.ok outcome, resolved) →
      motive (selector.judgeUncached resolver (.new location) none,
        { selector with
          cache := some (cache.put (RoutingCacheKey.fromLocation toLowercase location)
            (CachedDecision.ofMatch outcome)) })) :
    motive (selector.judge toLowercase resolver (.new location)) := by
  rcases selectorCache : selector.cache with _ | cache
  · rw [judge_of_cache_none toLowercase resolver selectorCache]
    exact uncachedCase selectorCache
  rcases hit : cache.peek (RoutingCacheKey.fromLocation toLowercase location) with _ | decision
  · rcases matching : matchRule selector.rules (.new location) none resolver
      selector.resolveRuleHostnames with ⟨err | outcome, resolved⟩
    · rw [judge_of_error toLowercase resolver selectorCache hit matching]
      exact errorCase cache err resolved selectorCache hit matching
    · rw [judge_of_miss toLowercase resolver selectorCache hit matching]
      exact missCase cache outcome resolved selectorCache hit matching
  · rw [judge_of_hit toLowercase resolver selectorCache hit]
    exact hitCase cache decision selectorCache hit

theorem judgeUncached_judge (selector : Selector γ) (location : NetLocation) :
    (selector.judge toLowercase resolver (.new location)).2.judgeUncached resolver =
      selector.judgeUncached resolver := by
  refine judge_cases toLowercase resolver
    (motive := fun step => step.2.judgeUncached resolver = selector.judgeUncached resolver)
    selector location ?_ ?_ ?_ ?_
  · exact fun _ => rfl
  · exact fun _ _ _ _ => rfl
  · exact fun _ _ _ _ _ _ => rfl
  · exact fun _ _ _ _ _ _ => rfl

theorem judge_cacheSound {allowed : NetLocation → Prop} {selector : Selector γ}
    (sound : CacheSound toLowercase resolver allowed selector) {location : NetLocation}
    (permitted : allowed location) :
    CacheSound toLowercase resolver allowed (selector.judge toLowercase resolver (.new location)).2 := by
  refine judge_cases toLowercase resolver
    (motive := fun step => CacheSound toLowercase resolver allowed step.2) selector location
    (fun _ => sound) (fun _ _ _ _ => sound) (fun _ _ _ _ _ _ => sound) ?_
  intro cache outcome resolved selectorCache _ matching updated updatedCache key decision found
  simp only [Option.some.injEq] at updatedCache
  subst updatedCache
  -- the new entry is the destination's own; every other entry was there before or is gone
  by_cases sameKey : key = RoutingCacheKey.fromLocation toLowercase location
  · subst sameKey
    rw [LruCache.peek_put_self] at found
    exact ⟨location, permitted, rfl, outcome, by rw [matching], Option.some.inj found⟩
  · exact sound cache selectorCache key decision (LruCache.peek_put_of_ne cache _ sameKey found)

theorem cachedToDecision_agrees {selector : Selector γ} {location : NetLocation}
    {outcome : Option Nat}
    (matching : (matchRule selector.rules (.new location) none resolver
      selector.resolveRuleHostnames).1 = .ok outcome) :
    DecisionAgrees (selector.cachedToDecision (CachedDecision.ofMatch outcome) (.new location))
      (selector.judgeUncached resolver (.new location) none) := by
  rcases full : matchRule selector.rules (.new location) none resolver
    selector.resolveRuleHostnames with ⟨result, resolved⟩
  rw [full] at matching
  subst matching
  have resolvedLocation : resolved.location = location := by
    simpa [full] using matchRule_location selector.rules (.new location) none resolver
      selector.resolveRuleHostnames
  cases outcome with
  | none =>
    simp [Selector.cachedToDecision, Selector.judgeUncached, full, CachedDecision.ofMatch,
      DecisionAgrees]
  | some ruleIndex =>
    simp only [Selector.cachedToDecision, Selector.judgeUncached, full, CachedDecision.ofMatch]
    exact decideRule_agrees selector.rules ruleIndex resolvedLocation.symm

theorem judge_agrees {allowed : NetLocation → Prop} {selector : Selector γ}
    (sound : CacheSound toLowercase resolver allowed selector) {location : NetLocation}
    (keyDetermines : ∀ other, allowed other →
      RoutingCacheKey.fromLocation toLowercase other =
        RoutingCacheKey.fromLocation toLowercase location → other = location) :
    DecisionAgrees (selector.judge toLowercase resolver (.new location)).1
      (selector.judgeUncached resolver (.new location) none) := by
  refine judge_cases toLowercase resolver
    (motive := fun step => DecisionAgrees step.1 (selector.judgeUncached resolver (.new location) none))
    selector location (fun _ => decisionAgrees_refl _) ?_ ?_
    (fun _ _ _ _ _ _ => decisionAgrees_refl _)
  · intro cache decision selectorCache hit
    obtain ⟨recorded, recordedAllowed, sameKey, outcome, matching, decided⟩ :=
      sound cache selectorCache _ decision hit
    obtain rfl := keyDetermines recorded recordedAllowed sameKey
    rw [← decided]
    exact cachedToDecision_agrees resolver matching
  · intro _ err resolved _ _ matching
    simp [Selector.judgeUncached, matching, DecisionAgrees]

theorem judgeRun_agrees {allowed : NetLocation → Prop} (selector : Selector γ)
    (locations : List NetLocation) (sound : CacheSound toLowercase resolver allowed selector)
    (within : ∀ location ∈ locations, allowed location)
    (keysDetermine : ∀ first, allowed first → ∀ second, allowed second →
      RoutingCacheKey.fromLocation toLowercase first =
        RoutingCacheKey.fromLocation toLowercase second → first = second) :
    List.Forall₂ DecisionAgrees (judgeRun toLowercase resolver selector locations)
      (locations.map fun location => selector.judgeUncached resolver (.new location) none) := by
  induction locations generalizing selector with
  | nil => exact .nil
  | cons location rest ih =>
    have permitted : allowed location := within location List.mem_cons_self
    have restAgree := ih (selector.judge toLowercase resolver (.new location)).2
      (judge_cacheSound toLowercase resolver sound permitted)
      (fun other member => within other (List.mem_cons_of_mem _ member))
    rw [judgeUncached_judge] at restAgree
    exact .cons (judge_agrees toLowercase resolver sound
      (fun other otherAllowed sameKey => keysDetermine other otherAllowed location permitted sameKey))
      restAgree

/-- From a fresh selector, every call of a run agrees with `judge_uncached` as long as no two
different destinations of the run share a cache key. -/
theorem judgeRun_transparent_of_distinctKeys (rules : List (ConnectRule γ))
    (resolveRuleHostnames : Bool) (cacheCapacity : Nat) (locations : List NetLocation)
    (distinctKeys : ∀ first ∈ locations, ∀ second ∈ locations,
      RoutingCacheKey.fromLocation toLowercase first =
        RoutingCacheKey.fromLocation toLowercase second → first = second) :
    List.Forall₂ DecisionAgrees
      (judgeRun toLowercase resolver
        (Selector.withOptionsAndCacheSize rules resolveRuleHostnames cacheCapacity) locations)
      (locations.map fun location =>
        (Selector.withOptionsAndCacheSize rules resolveRuleHostnames cacheCapacity).judgeUncached
          resolver (.new location) none) :=
  judgeRun_agrees toLowercase resolver _ locations
    (cacheSound_withOptionsAndCacheSize toLowercase resolver (· ∈ locations) rules
      resolveRuleHostnames cacheCapacity)
    (fun _ member => member) distinctKeys

end Run

/-! ### A run where the cache is not transparent

Three rules: the hostname `example.com`, the network `1.2.3.0/24`, and everything. With
hostname resolution on, the selector caches. -/

/-- `str::to_lowercase` on ASCII text. -/
def asciiLowercase (text : String) : String :=
  String.ofList (text.toList.map Char.toLower)

def sampleRules : List (ConnectRule Unit) :=
  [⟨[⟨⟨.hostname "example.com", 2 ^ 128 - 1⟩, 0⟩], .allow none ()⟩,
   ⟨[⟨⟨.ipv4 (Ipv4Addr.new 1 2 3 0), 2 ^ 128 - 256⟩, 0⟩], .allow none ()⟩,
   ⟨[⟨⟨.ipv4 (Ipv4Addr.new 0 0 0 0), 0⟩, 0⟩], .allow none ()⟩]

def sampleSelector : Selector Unit :=
  Selector.withOptionsAndCacheSize sampleRules true 10000

def siteLocation : NetLocation := ⟨.hostname "a.com", 443⟩
def upperLocation : NetLocation := ⟨.hostname "EXAMPLE.COM", 443⟩
def lowerLocation : NetLocation := ⟨.hostname "example.com", 443⟩
def siteAddr : SocketAddr := ⟨.v4 (Ipv4Addr.new 1 2 3 4), 443⟩
def upperAddr : SocketAddr := ⟨.v4 (Ipv4Addr.new 5 6 7 8), 443⟩

def sampleResolver : Resolver := fun location =>
  if location = siteLocation then .ok [siteAddr]
  else if location = upperLocation then .ok [upperAddr]
  else .error ⟨.notFound, "no address"⟩

theorem judgeRun_sample_transparent :
    List.Forall₂ DecisionAgrees
      (judgeRun asciiLowercase sampleResolver sampleSelector [siteLocation, siteLocation, lowerLocation])
      ([siteLocation, siteLocation, lowerLocation].map fun location =>
        sampleSelector.judgeUncached sampleResolver (.new location) none) :=
  judgeRun_transparent_of_distinctKeys asciiLowercase sampleResolver sampleRules true 10000
    [siteLocation, siteLocation, lowerLocation] (by decide)

/-- A hit on a destination the rules resolved returns it unresolved, and `EXAMPLE.COM`, which
the hostname rule does not match, leaves under the shared key the decision that
`example.com` then gets instead of its hostname rule. -/
theorem judgeRun_sample_not_transparent :
    judgeRun asciiLowercase sampleResolver sampleSelector
        [siteLocation, siteLocation, upperLocation, lowerLocation] =
      [.ok (.allow 1 () ⟨siteLocation, some siteAddr⟩), .ok (.allow 1 () ⟨siteLocation, none⟩),
        .ok (.allow 2 () ⟨upperLocation, some upperAddr⟩), .ok (.allow 2 () ⟨lowerLocation, none⟩)] ∧
    [siteLocation, siteLocation, upperLocation, lowerLocation].map (fun location =>
        sampleSelector.judgeUncached sampleResolver (.new location) none) =
      [.ok (.allow 1 () ⟨siteLocation, some siteAddr⟩), .ok (.allow 1 () ⟨siteLocation, some siteAddr⟩),
        .ok (.allow 2 () ⟨upperLocation, some upperAddr⟩), .ok (.allow 0 () ⟨lowerLocation, none⟩)] := by
  decide

end Shoes.ClientProxySelector
