import Shoes.TlsDeframer

/-!
# Finding where TLS starts

`FuzzyTlsDeframer` of `tls_fuzzy_deframer.rs` reads a stream that may carry unknown bytes
before its TLS records. While `Searching` it looks for the start of a TLS handshake, the six
bytes `[0x16, 0x03, 0x01..0x03, _, _, 0x01 | 0x02]` (`find_tls_handshake_start`), and hands out
the bytes before it as an unknown prefix. It does not wait for the whole stream: bytes that can
no longer begin the pattern are handed out at once, and only the longest suffix of at most five
bytes that could still grow into the pattern is kept (`find_potential_tls_suffix_len`). Once the
pattern is found it is `Deframing`, and the bytes from the pattern on go to a `TlsDeframer`.

Whatever the chunks the stream arrives in, with every chunk followed by calls until one needs
data, the unknown prefixes are the stream before its first handshake, and the records are what
a `TlsDeframer` hands out of the stream from there (`feedDrain_splits`); a stream with no
handshake is handed out but for at most its last five bytes.
-/

namespace Shoes.Vless

open Wire

def minTlsHandshakePatternLen : Nat := 6

/-- `is_valid_tls_handshake_prefix`: the first bytes of the handshake pattern that are there
are right. -/
def isValidTlsHandshakePrefix (data : List UInt8) : Bool :=
  if data.isEmpty then true
  else if data.getD 0 0 ≠ 0x16 then false
  else if 2 ≤ data.length ∧ data.getD 1 0 ≠ 0x03 then false
  else if 3 ≤ data.length ∧ ¬(0x01 ≤ data.getD 2 0 ∧ data.getD 2 0 ≤ 0x03) then false
  else true

/-- `memmem::Finder::new(&[0x16, 0x03]).find`: the first offset of the two bytes. -/
def findHandshakeBytes : List UInt8 → Option Nat
  | first :: second :: rest =>
    if first = 0x16 ∧ second = 0x03 then some 0
    else (findHandshakeBytes (second :: rest)).map (· + 1)
  | _ => none

theorem findHandshakeBytes_lt {data : List UInt8} {offset : Nat}
    (found : findHandshakeBytes data = some offset) : offset + 1 < data.length := by
  induction data generalizing offset with
  | nil => cases found
  | cons first rest more =>
    cases rest with
    | nil => cases found
    | cons second rest =>
      unfold findHandshakeBytes at found
      split_ifs at found
      · cases found
        simp
      · obtain ⟨inner, innerFound, rfl⟩ := Option.map_eq_some_iff.mp found
        have := more innerFound
        simp only [List.length_cons] at this ⊢
        omega

/-- The loop of `find_tls_handshake_start` from `pos`: each occurrence of `[0x16, 0x03]` is
checked against the rest of the pattern, and the search stops at one too close to the end. -/
def findFrom (data : List UInt8) (pos : Nat) : Option Nat :=
  match found : findHandshakeBytes (data.drop pos) with
  | none => none
  | some offset =>
    let absoluteOffset := pos + offset
    if data.length < absoluteOffset + minTlsHandshakePatternLen then none
    else
      let candidate := data.drop absoluteOffset
      if (0x01 ≤ candidate.getD 2 0 ∧ candidate.getD 2 0 ≤ 0x03) ∧
          (candidate.getD 5 0 = 0x01 ∨ candidate.getD 5 0 = 0x02) then some absoluteOffset
      else findFrom data (absoluteOffset + 1)
termination_by data.length - pos
decreasing_by
  have := findHandshakeBytes_lt found
  simp only [List.length_drop] at this
  omega

def findTlsHandshakeStart (data : List UInt8) : Option Nat :=
  if data.length < minTlsHandshakePatternLen then none else findFrom data 0

/-- The loop of `find_potential_tls_suffix_len`, over suffixes from `suffixLen` bytes down. -/
def suffixFrom (data : List UInt8) : Nat → Nat
  | 0 => 0
  | suffixLen + 1 =>
    if isValidTlsHandshakePrefix (data.drop (data.length - (suffixLen + 1))) then suffixLen + 1
    else suffixFrom data suffixLen

/-- `find_potential_tls_suffix_len`: the longest suffix of at most five bytes that could still
grow into the pattern. -/
def findPotentialTlsSuffixLen (data : List UInt8) : Nat :=
  if data.length = 0 then 0 else suffixFrom data (min data.length 5)

inductive FuzzyState
  | searching
  | deframing
  deriving DecidableEq, Repr

inductive DeframeResult
  | tlsRecord (record : List UInt8)
  | unknownPrefix (bytes : List UInt8)
  | needData
  deriving DecidableEq, Repr

structure FuzzyTlsDeframer where
  inner : TlsDeframer
  searchBuffer : List UInt8
  state : FuzzyState
  totalPrefixBytes : Nat
  deriving DecidableEq, Repr

namespace FuzzyTlsDeframer

def new : FuzzyTlsDeframer :=
  ⟨TlsDeframer.new, [], .searching, 0⟩

/-- `feed`: to the search buffer while searching, to the inner deframer after. -/
def feed (deframer : FuzzyTlsDeframer) (data : List UInt8) : FuzzyTlsDeframer :=
  match deframer.state with
  | .searching => { deframer with searchBuffer := deframer.searchBuffer ++ data }
  | .deframing => { deframer with inner := deframer.inner.feed data }

def remainingData (deframer : FuzzyTlsDeframer) : List UInt8 :=
  match deframer.state with
  | .searching => deframer.searchBuffer
  | .deframing => deframer.inner.remainingData

/-- The `Deframing` branch of `next_record`: the inner deframer's next record. -/
def nextInner (deframer : FuzzyTlsDeframer) : Result (DeframeResult × FuzzyTlsDeframer) := do
  let (record, inner) ← deframer.inner.nextRecord
  match record with
  | some record => .ok (.tlsRecord record, { deframer with inner := inner })
  | none => .ok (.needData, { deframer with inner := inner })

/-- `next_record`. Its loop goes round at most once: a pattern at the very start of the search
buffer moves everything to the inner deframer, whose branch returns. -/
def nextRecord (deframer : FuzzyTlsDeframer) : Result (DeframeResult × FuzzyTlsDeframer) :=
  match deframer.state with
  | .deframing => deframer.nextInner
  | .searching =>
    if deframer.searchBuffer.isEmpty then .ok (.needData, deframer)
    else
      let found := if minTlsHandshakePatternLen ≤ deframer.searchBuffer.length then
        findTlsHandshakeStart deframer.searchBuffer else none
      match found with
      | some offset =>
        if 0 < offset then
          let skipped := deframer.searchBuffer.take offset
          .ok (.unknownPrefix skipped,
            ⟨deframer.inner.feed (deframer.searchBuffer.drop offset), [], .deframing,
              deframer.totalPrefixBytes + skipped.length⟩)
        else nextInner ⟨deframer.inner.feed deframer.searchBuffer, [], .deframing,
          deframer.totalPrefixBytes⟩
      | none =>
        let suffixLen := findPotentialTlsSuffixLen deframer.searchBuffer
        if suffixLen < deframer.searchBuffer.length then
          let prefixLen := deframer.searchBuffer.length - suffixLen
          let skipped := deframer.searchBuffer.take prefixLen
          .ok (.unknownPrefix skipped,
            { deframer with searchBuffer := deframer.searchBuffer.drop prefixLen,
                            totalPrefixBytes := deframer.totalPrefixBytes + skipped.length })
        else .ok (.needData, deframer)

end FuzzyTlsDeframer

/-- The six bytes of the start of a handshake, at the front of `data`. -/
def isHandshakePattern : List UInt8 → Bool
  | first :: second :: minor :: _ :: _ :: kind :: _ =>
    first == 0x16 && second == 0x03 && (0x01 ≤ minor && minor ≤ 0x03) && (kind == 0x01 || kind == 0x02)
  | _ => false

/-- Where the first handshake of `data` starts. -/
def firstHandshake (data : List UInt8) : Option Nat :=
  (List.range data.length).find? fun offset => isHandshakePattern (data.drop offset)

theorem isHandshakePattern_length {data : List UInt8} (starts : isHandshakePattern data = true) :
    minTlsHandshakePatternLen ≤ data.length := by
  match data, starts with
  | _ :: _ :: _ :: _ :: _ :: _ :: _, _ => simp [minTlsHandshakePatternLen]

theorem isHandshakePattern_append {data : List UInt8} (long : minTlsHandshakePatternLen ≤ data.length)
    (more : List UInt8) : isHandshakePattern (data ++ more) = isHandshakePattern data := by
  match data, long with
  | _ :: _ :: _ :: _ :: _ :: _ :: _, _ => rfl

theorem isHandshakePattern_of_valid {data : List UInt8} (short : data.length ≤ 5)
    (invalid : isValidTlsHandshakePrefix data = false) (more : List UInt8) :
    isHandshakePattern (data ++ more) = false := by
  match data, short with
  | [], _ => simp [isValidTlsHandshakePrefix] at invalid
  | [first], _ =>
    rcases more with _ | ⟨second, _ | ⟨minor, _ | ⟨_, _ | ⟨_, _ | ⟨kind, more⟩⟩⟩⟩⟩ <;>
      simp_all [isValidTlsHandshakePrefix, isHandshakePattern]
  | [first, second], _ =>
    rcases more with _ | ⟨minor, _ | ⟨_, _ | ⟨_, _ | ⟨kind, more⟩⟩⟩⟩ <;>
      simp_all [isValidTlsHandshakePrefix, isHandshakePattern]
  | [first, second, minor], _ =>
    rcases more with _ | ⟨_, _ | ⟨_, _ | ⟨kind, more⟩⟩⟩ <;>
      simp_all [isValidTlsHandshakePrefix, isHandshakePattern]
  | [first, second, minor, high], _ =>
    rcases more with _ | ⟨_, _ | ⟨kind, more⟩⟩ <;>
      simp_all [isValidTlsHandshakePrefix, isHandshakePattern]
  | [first, second, minor, high, low], _ =>
    rcases more with _ | ⟨kind, more⟩ <;>
      simp_all [isValidTlsHandshakePrefix, isHandshakePattern]

theorem firstHandshake_eq_some {data : List UInt8} {start : Nat} :
    firstHandshake data = some start ↔
      isHandshakePattern (data.drop start) = true ∧
        ∀ offset < start, isHandshakePattern (data.drop offset) = false := by
  rw [firstHandshake, List.find?_range_eq_some, List.mem_range]
  constructor
  · rintro ⟨starts, _, before⟩
    exact ⟨starts, fun offset below => by simpa using before offset below⟩
  · rintro ⟨starts, before⟩
    have long := isHandshakePattern_length starts
    simp only [List.length_drop, minTlsHandshakePatternLen] at long
    exact ⟨starts, by omega, fun offset below => by simpa using before offset below⟩

theorem firstHandshake_eq_none {data : List UInt8} :
    firstHandshake data = none ↔ ∀ offset, isHandshakePattern (data.drop offset) = false := by
  rw [firstHandshake, List.find?_range_eq_none]
  constructor
  · intro none offset
    by_cases inside : offset < data.length
    · simpa using none offset inside
    · rw [List.drop_eq_nil_of_le (by omega)]
      rfl
  · intro none offset _
    simpa using none offset

theorem take_two_of_isHandshakePattern {data : List UInt8} (starts : isHandshakePattern data = true) :
    data.take 2 = [0x16, 0x03] := by
  match data, starts with
  | first :: second :: _ :: _ :: _ :: _ :: _, starts =>
    simp only [isHandshakePattern, Bool.and_eq_true, beq_iff_eq] at starts
    simp [starts.1.1.1, starts.1.1.2]

theorem isHandshakePattern_iff {data : List UInt8} (long : minTlsHandshakePatternLen ≤ data.length)
    (front : data.take 2 = [0x16, 0x03]) :
    isHandshakePattern data = true ↔
      (0x01 ≤ data.getD 2 0 ∧ data.getD 2 0 ≤ 0x03) ∧ (data.getD 5 0 = 0x01 ∨ data.getD 5 0 = 0x02) := by
  match data, long with
  | first :: second :: minor :: _ :: _ :: kind :: _, _ =>
    simp only [List.take_succ_cons, List.take_zero, List.cons.injEq, and_true] at front
    simp [isHandshakePattern, front.1, front.2]

theorem findHandshakeBytes_some {data : List UInt8} {offset : Nat}
    (found : findHandshakeBytes data = some offset) :
    (data.drop offset).take 2 = [0x16, 0x03] ∧
      ∀ before < offset, (data.drop before).take 2 ≠ [0x16, 0x03] := by
  induction data generalizing offset with
  | nil => cases found
  | cons first rest more =>
    cases rest with
    | nil => cases found
    | cons second rest =>
      unfold findHandshakeBytes at found
      split_ifs at found with here
      · cases found
        exact ⟨by simp [here.1, here.2], fun _ below => absurd below (Nat.not_lt_zero _)⟩
      · obtain ⟨inner, innerFound, rfl⟩ := Option.map_eq_some_iff.mp found
        obtain ⟨starts, none⟩ := more innerFound
        refine ⟨by simpa using starts, fun before below => ?_⟩
        cases before with
        | zero => simpa using here
        | succ before => simpa using none before (by omega)

theorem findHandshakeBytes_none {data : List UInt8} (missing : findHandshakeBytes data = none) :
    ∀ offset, (data.drop offset).take 2 ≠ [0x16, 0x03] := by
  induction data with
  | nil => simp
  | cons first rest more =>
    cases rest with
    | nil => intro offset; cases offset <;> simp
    | cons second rest =>
      unfold findHandshakeBytes at missing
      split_ifs at missing with here
      intro offset
      cases offset with
      | zero => simpa using here
      | succ offset => simpa using more (Option.map_eq_none_iff.mp missing) offset

/-- The search loop from `pos` finds the first handshake when there is none before `pos`: each
occurrence of `[0x16, 0x03]` that is not a handshake is passed over, and one too close to the
end leaves no room for a handshake after it. -/
theorem findFrom_eq (data : List UInt8) (pos : Nat)
    (before : ∀ offset < pos, isHandshakePattern (data.drop offset) = false) :
    findFrom data pos = firstHandshake data := by
  have passed : ∀ offset, (data.drop offset).take 2 ≠ [0x16, 0x03] →
      isHandshakePattern (data.drop offset) = false :=
    fun offset front => Bool.eq_false_iff.mpr (mt take_two_of_isHandshakePattern front)
  rw [findFrom]
  split
  · rename_i missing
    rw [eq_comm, firstHandshake_eq_none]
    intro offset
    by_cases early : offset < pos
    · exact before offset early
    · apply passed
      have := findHandshakeBytes_none missing (offset - pos)
      rwa [List.drop_drop, Nat.add_sub_cancel' (Nat.le_of_not_lt early)] at this
  · rename_i offset found
    obtain ⟨starts, skipped⟩ := findHandshakeBytes_some found
    rw [List.drop_drop] at starts
    -- no handshake starts between `pos` and the occurrence
    have gap : ∀ other < pos + offset, isHandshakePattern (data.drop other) = false := by
      intro other below
      by_cases early : other < pos
      · exact before other early
      · apply passed
        have := skipped (other - pos) (by omega)
        rwa [List.drop_drop, Nat.add_sub_cancel' (Nat.le_of_not_lt early)] at this
    dsimp only
    split_ifs with close candidate
    · -- too close to the end: no handshake at or after the occurrence
      rw [eq_comm, firstHandshake_eq_none]
      intro other
      by_cases below : other < pos + offset
      · exact gap other below
      · apply Bool.eq_false_iff.mpr
        intro starts
        have := isHandshakePattern_length starts
        simp only [List.length_drop, minTlsHandshakePatternLen] at this close
        omega
    · rw [eq_comm, firstHandshake_eq_some]
      exact ⟨(isHandshakePattern_iff (by simp only [List.length_drop]; omega) starts).mpr
        candidate, gap⟩
    · apply findFrom_eq data (pos + offset + 1)
      intro other below
      by_cases at_ : other = pos + offset
      · subst at_
        exact Bool.eq_false_iff.mpr (mt (isHandshakePattern_iff (by
          simp only [List.length_drop]; omega) starts).mp candidate)
      · exact gap other (by omega)
termination_by data.length - pos
decreasing_by
  unfold minTlsHandshakePatternLen at *
  omega

theorem firstHandshake_of_short {data : List UInt8} (short : data.length < minTlsHandshakePatternLen) :
    firstHandshake data = none := by
  rw [firstHandshake_eq_none]
  intro offset
  apply Bool.eq_false_iff.mpr
  intro starts
  have := isHandshakePattern_length starts
  simp only [List.length_drop, minTlsHandshakePatternLen] at this short
  omega

theorem findTlsHandshakeStart_eq (data : List UInt8) :
    findTlsHandshakeStart data = firstHandshake data := by
  rw [findTlsHandshakeStart]
  split_ifs with short
  · exact (firstHandshake_of_short short).symm
  · exact findFrom_eq data 0 (fun _ below => absurd below (Nat.not_lt_zero _))

theorem firstHandshake_append {buffer : List UInt8} {offset : Nat}
    (found : firstHandshake buffer = some offset) (more : List UInt8) :
    firstHandshake (buffer ++ more) = some offset := by
  obtain ⟨starts, before⟩ := firstHandshake_eq_some.mp found
  have long := isHandshakePattern_length starts
  simp only [List.length_drop, minTlsHandshakePatternLen] at long
  have inside : ∀ other ≤ offset, (buffer ++ more).drop other = buffer.drop other ++ more :=
    fun other within => List.drop_append_of_le_length (by omega)
  have window : ∀ other ≤ offset, minTlsHandshakePatternLen ≤ (buffer.drop other).length :=
    fun other within => by simp only [List.length_drop, minTlsHandshakePatternLen]; omega
  rw [firstHandshake_eq_some, inside offset (le_refl _), isHandshakePattern_append (window offset (le_refl _))]
  refine ⟨starts, fun other below => ?_⟩
  rw [inside other below.le, isHandshakePattern_append (window other below.le)]
  exact before other below

theorem firstHandshake_of_passed {stream : List UInt8} {released : Nat}
    (passed : ∀ offset < released, isHandshakePattern (stream.drop offset) = false) :
    firstHandshake stream = (firstHandshake (stream.drop released)).map (released + ·) := by
  have later : ∀ offset, released ≤ offset →
      stream.drop offset = (stream.drop released).drop (offset - released) := by
    intro offset above
    rw [List.drop_drop, Nat.add_sub_cancel' above]
  rcases found : firstHandshake (stream.drop released) with _ | start
  · rw [Option.map_none, firstHandshake_eq_none]
    intro offset
    by_cases early : offset < released
    · exact passed offset early
    · rw [later offset (by omega)]
      exact firstHandshake_eq_none.mp found _
  · obtain ⟨starts, before⟩ := firstHandshake_eq_some.mp found
    rw [Option.map_some, firstHandshake_eq_some, ← List.drop_drop]
    refine ⟨starts, fun offset below => ?_⟩
    by_cases early : offset < released
    · exact passed offset early
    · rw [later offset (by omega)]
      exact before _ (by omega)

theorem suffixFrom_spec (data : List UInt8) (suffixLen : Nat) :
    suffixFrom data suffixLen ≤ suffixLen ∧
      (0 < suffixFrom data suffixLen →
        isValidTlsHandshakePrefix (data.drop (data.length - suffixFrom data suffixLen)) = true) ∧
      ∀ longer, suffixFrom data suffixLen < longer → longer ≤ suffixLen →
        isValidTlsHandshakePrefix (data.drop (data.length - longer)) = false := by
  induction suffixLen with
  | zero => exact ⟨le_refl 0, fun positive => absurd positive (Nat.lt_irrefl 0), fun _ _ _ => by omega⟩
  | succ suffixLen more =>
    by_cases valid : isValidTlsHandshakePrefix (data.drop (data.length - (suffixLen + 1))) = true
    · have kept : suffixFrom data (suffixLen + 1) = suffixLen + 1 := if_pos valid
      rw [kept]
      exact ⟨le_refl _, fun _ => valid, fun _ _ _ => by omega⟩
    · have kept : suffixFrom data (suffixLen + 1) = suffixFrom data suffixLen := if_neg valid
      obtain ⟨bound, found, none⟩ := more
      rw [kept]
      refine ⟨by omega, found, fun longer above within => ?_⟩
      by_cases top : longer = suffixLen + 1
      · subst top
        exact Bool.eq_false_iff.mpr valid
      · exact none longer above (by omega)

theorem findPotentialTlsSuffixLen_le (data : List UInt8) :
    findPotentialTlsSuffixLen data ≤ min data.length 5 := by
  unfold findPotentialTlsSuffixLen
  split_ifs
  · exact Nat.zero_le _
  · exact (suffixFrom_spec data _).1

/-- The prefix a call hands out before `count` bytes, as the pieces it comes in: none when
`count` is zero. -/
def prefixPieces (bytes : List UInt8) (count : Nat) : List (List UInt8) :=
  if 0 < count then [bytes.take count] else []

@[simp] theorem flatten_prefixPieces (bytes : List UInt8) (count : Nat) :
    (prefixPieces bytes count).flatten = bytes.take count := by
  unfold prefixPieces
  split_ifs with positive
  · exact List.flatten_singleton
  · rw [Nat.eq_zero_of_not_pos positive, List.take_zero, List.flatten_nil]

/-- How many bytes a search that finds no handshake hands out: all but the suffix kept. -/
def releasedLen (buffer : List UInt8) : Nat :=
  buffer.length - findPotentialTlsSuffixLen buffer

theorem findPotentialTlsSuffixLen_valid (data : List UInt8) :
    isValidTlsHandshakePrefix (data.drop (data.length - findPotentialTlsSuffixLen data)) = true := by
  by_cases positive : 0 < findPotentialTlsSuffixLen data
  · unfold findPotentialTlsSuffixLen at positive ⊢
    split_ifs at positive ⊢ with empty
    · exact absurd positive (Nat.lt_irrefl 0)
    · exact (suffixFrom_spec data _).2.1 positive
  · rw [Nat.eq_zero_of_not_pos positive, Nat.sub_zero, List.drop_length]
    rfl

theorem findPotentialTlsSuffixLen_longest (data : List UInt8) (longer : Nat)
    (above : findPotentialTlsSuffixLen data < longer) (within : longer ≤ min data.length 5) :
    isValidTlsHandshakePrefix (data.drop (data.length - longer)) = false := by
  unfold findPotentialTlsSuffixLen at above
  split_ifs at above with empty
  · omega
  · exact (suffixFrom_spec data _).2.2 longer above within

/-- The bytes the search hands out when it finds no handshake start none, whatever follows
them: a full window of six bytes was searched, and a shorter tail is longer than the suffix
kept, so it cannot begin the pattern. -/
theorem isHandshakePattern_released {data : List UInt8} (missing : firstHandshake data = none)
    {offset : Nat} (released : offset < releasedLen data)
    (more : List UInt8) : isHandshakePattern (data.drop offset ++ more) = false := by
  rw [releasedLen] at released
  by_cases long : minTlsHandshakePatternLen ≤ (data.drop offset).length
  · rw [isHandshakePattern_append long]
    exact firstHandshake_eq_none.mp missing offset
  · simp only [List.length_drop, minTlsHandshakePatternLen, not_le] at long
    apply isHandshakePattern_of_valid (by simp only [List.length_drop]; omega)
    have := findPotentialTlsSuffixLen_longest data (data.length - offset) (by omega) (by omega)
    rwa [Nat.sub_sub_self (by omega)] at this

theorem findPotentialTlsSuffixLen_self {data : List UInt8} (short : data.length ≤ 5)
    (valid : isValidTlsHandshakePrefix data = true) :
    findPotentialTlsSuffixLen data = data.length := by
  unfold findPotentialTlsSuffixLen
  split_ifs with empty
  · exact empty.symm
  · obtain ⟨bound, -, longest⟩ := suffixFrom_spec data (min data.length 5)
    rw [Nat.min_eq_left short] at bound longest ⊢
    by_contra shorter
    have := longest data.length (by omega) (le_refl _)
    rw [Nat.sub_self, List.drop_zero, valid] at this
    cases this

namespace FuzzyTlsDeframer

/-- The bytes a deframer holds, in its search buffer and in its inner deframer. -/
def pending (deframer : FuzzyTlsDeframer) : Nat :=
  deframer.searchBuffer.length + deframer.inner.buffer.length

theorem nextInner_pending {deframer next : FuzzyTlsDeframer} {result : DeframeResult}
    (returned : deframer.nextInner = .ok (result, next)) (handed : result ≠ .needData) :
    next.pending < deframer.pending := by
  unfold nextInner at returned
  obtain ⟨⟨record, inner⟩, called, rest⟩ := bind_eq_ok returned
  cases record with
  | none =>
    cases rest
    exact absurd rfl handed
  | some record =>
    cases rest
    have := TlsDeframer.nextRecord_shorter called
    simp only [pending]
    omega

theorem nextRecord_pending {deframer next : FuzzyTlsDeframer} {result : DeframeResult}
    (returned : deframer.nextRecord = .ok (result, next)) (handed : result ≠ .needData) :
    next.pending < deframer.pending := by
  unfold nextRecord at returned
  split at returned
  · exact nextInner_pending returned handed
  · by_cases empty : deframer.searchBuffer.isEmpty
    · rw [if_pos empty] at returned
      cases returned
      exact absurd rfl handed
    have held : 0 < deframer.searchBuffer.length := by
      simpa [List.isEmpty_iff, List.length_pos_iff] using empty
    rw [if_neg empty] at returned
    dsimp only at returned
    generalize (if minTlsHandshakePatternLen ≤ deframer.searchBuffer.length then
      findTlsHandshakeStart deframer.searchBuffer else none) = found at returned
    cases found with
    | some offset =>
      dsimp only at returned
      split_ifs at returned with skips
      · -- the bytes before the pattern are handed out and the rest moves to the inner deframer
        cases returned
        simp only [pending, TlsDeframer.feed, List.length_nil, List.length_append, List.length_drop]
        omega
      · -- the pattern is at the front: the inner deframer's first record comes out
        have := nextInner_pending returned handed
        simp only [pending, TlsDeframer.feed, List.length_nil, List.length_append] at this ⊢
        omega
    | none =>
      dsimp only at returned
      split_ifs at returned with kept
      · cases returned
        simp only [pending, List.length_drop]
        omega
      · cases returned
        exact absurd rfl handed

/-- Calls `next_record` until it returns `NeedData`, as the caller of each `feed` does. -/
def drain (deframer : FuzzyTlsDeframer) : Result (List DeframeResult × FuzzyTlsDeframer) :=
  match _returned : deframer.nextRecord with
  | .ok (.needData, next) => .ok ([], next)
  | .ok (.tlsRecord record, next) => do
    let (results, final) ← drain next
    .ok (.tlsRecord record :: results, final)
  | .ok (.unknownPrefix bytes, next) => do
    let (results, final) ← drain next
    .ok (.unknownPrefix bytes :: results, final)
  | .error err => .error err
termination_by deframer.pending
decreasing_by
  · exact nextRecord_pending _returned nofun
  · exact nextRecord_pending _returned nofun

theorem drain_of_needData {deframer next : FuzzyTlsDeframer}
    (returned : deframer.nextRecord = .ok (.needData, next)) : deframer.drain = .ok ([], next) := by
  rw [drain]
  split <;> rename_i found <;> rw [returned] at found <;> cases found
  rfl

theorem drain_of_handed {deframer next : FuzzyTlsDeframer} {result : DeframeResult}
    (returned : deframer.nextRecord = .ok (result, next)) (handed : result ≠ .needData) :
    deframer.drain = next.drain.map fun (results, final) => (result :: results, final) := by
  rw [drain]
  split <;> rename_i found <;> rw [returned] at found <;> cases found
  · exact absurd rfl handed
  all_goals cases next.drain <;> rfl

theorem drain_of_error {deframer : FuzzyTlsDeframer} {err : Fault}
    (failed : deframer.nextRecord = .error err) : deframer.drain = .error err := by
  rw [drain]
  split <;> rename_i found <;> rw [failed] at found <;> cases found
  rfl

theorem drain_congr {first second : FuzzyTlsDeframer}
    (same : first.nextRecord = second.nextRecord) : first.drain = second.drain := by
  rcases called : second.nextRecord with err | ⟨result, next⟩
  · rw [drain_of_error (same.trans called), drain_of_error called]
  · by_cases waits : result = .needData
    · subst waits
      rw [drain_of_needData (same.trans called), drain_of_needData called]
    · rw [drain_of_handed (same.trans called) waits, drain_of_handed called waits]

theorem drain_deframing {deframer : FuzzyTlsDeframer} (deframing : deframer.state = .deframing) :
    deframer.drain = deframer.inner.nextRecords.map fun (records, inner) =>
      (records.map .tlsRecord, { deframer with inner := inner }) := by
  obtain ⟨inner, searchBuffer, state, totalPrefixBytes⟩ := deframer
  subst deframing
  fun_induction TlsDeframer.nextRecords inner with
  | case1 inner record next called more =>
    have returned : nextRecord ⟨inner, searchBuffer, .deframing, totalPrefixBytes⟩ =
        .ok (.tlsRecord record, ⟨next, searchBuffer, .deframing, totalPrefixBytes⟩) := by
      simp only [nextRecord, nextInner, called, ok_bind]
    rw [drain_of_handed returned (by simp), more]
    cases next.nextRecords <;> rfl
  | case2 inner next called =>
    have returned : nextRecord ⟨inner, searchBuffer, .deframing, totalPrefixBytes⟩ =
        .ok (.needData, ⟨next, searchBuffer, .deframing, totalPrefixBytes⟩) := by
      simp only [nextRecord, nextInner, called, ok_bind]
    rw [drain_of_needData returned]
    rfl
  | case3 inner err called =>
    have failed : nextRecord ⟨inner, searchBuffer, .deframing, totalPrefixBytes⟩ = .error err := by
      simp only [nextRecord, nextInner, called, error_bind]
    rw [drain_of_error failed]
    rfl

theorem found_eq (buffer : List UInt8) :
    (if minTlsHandshakePatternLen ≤ buffer.length then findTlsHandshakeStart buffer else none) =
      firstHandshake buffer := by
  split_ifs with long
  · exact findTlsHandshakeStart_eq buffer
  · exact (firstHandshake_of_short (Nat.lt_of_not_le long)).symm

theorem nextRecord_found {deframer : FuzzyTlsDeframer} (searching : deframer.state = .searching)
    {offset : Nat} (found : firstHandshake deframer.searchBuffer = some offset) :
    deframer.nextRecord =
      if 0 < offset then
        .ok (.unknownPrefix (deframer.searchBuffer.take offset),
          ⟨deframer.inner.feed (deframer.searchBuffer.drop offset), [], .deframing,
            deframer.totalPrefixBytes + offset⟩)
      else nextInner ⟨deframer.inner.feed deframer.searchBuffer, [], .deframing,
        deframer.totalPrefixBytes⟩ := by
  have long := isHandshakePattern_length (firstHandshake_eq_some.mp found).1
  simp only [List.length_drop, minTlsHandshakePatternLen] at long
  have held : deframer.searchBuffer.isEmpty = false := by
    rw [List.isEmpty_eq_false_iff, ← List.length_pos_iff]
    omega
  simp only [nextRecord, searching, held, found_eq, found, Bool.false_eq_true, if_false,
    List.length_take, Nat.min_eq_left (by omega : offset ≤ deframer.searchBuffer.length)]

theorem nextRecord_release {deframer : FuzzyTlsDeframer} (searching : deframer.state = .searching)
    (missing : firstHandshake deframer.searchBuffer = none)
    (releases : findPotentialTlsSuffixLen deframer.searchBuffer < deframer.searchBuffer.length) :
    deframer.nextRecord =
      .ok (.unknownPrefix (deframer.searchBuffer.take (releasedLen deframer.searchBuffer)),
        { deframer with
          searchBuffer := deframer.searchBuffer.drop (releasedLen deframer.searchBuffer),
          totalPrefixBytes := deframer.totalPrefixBytes + releasedLen deframer.searchBuffer }) := by
  have held : deframer.searchBuffer.isEmpty = false := by
    rw [List.isEmpty_eq_false_iff, ← List.length_pos_iff]
    omega
  simp only [nextRecord, searching, held, found_eq, missing, Bool.false_eq_true, if_false,
    if_pos releases, List.length_take, Nat.min_eq_left (Nat.sub_le _ _), releasedLen]

theorem nextRecord_waiting {deframer : FuzzyTlsDeframer} (searching : deframer.state = .searching)
    (short : deframer.searchBuffer.length ≤ 5)
    (valid : isValidTlsHandshakePrefix deframer.searchBuffer = true) :
    deframer.nextRecord = .ok (.needData, deframer) := by
  have missing : firstHandshake deframer.searchBuffer = none :=
    firstHandshake_of_short (by unfold minTlsHandshakePatternLen; omega)
  simp only [nextRecord, searching, found_eq, missing, findPotentialTlsSuffixLen_self short valid,
    Nat.lt_irrefl, if_false, ite_self]

theorem drain_found {deframer : FuzzyTlsDeframer} (searching : deframer.state = .searching)
    {offset : Nat} (found : firstHandshake deframer.searchBuffer = some offset) :
    deframer.drain =
      (deframer.inner.feed (deframer.searchBuffer.drop offset)).nextRecords.map fun (records, inner) =>
        ((prefixPieces deframer.searchBuffer offset).map .unknownPrefix ++ records.map .tlsRecord,
          ⟨inner, [], .deframing, deframer.totalPrefixBytes + offset⟩) := by
  by_cases skips : 0 < offset
  · have returned := nextRecord_found searching found
    rw [if_pos skips] at returned
    rw [drain_of_handed returned (by simp), drain_deframing rfl]
    simp only [prefixPieces, if_pos skips, List.map_singleton, List.singleton_append]
    cases (deframer.inner.feed (deframer.searchBuffer.drop offset)).nextRecords <;> rfl
  · -- the handshake is at the front: the first call is already the inner deframer's
    obtain rfl : offset = 0 := by omega
    have same : deframer.nextRecord =
        nextRecord ⟨deframer.inner.feed deframer.searchBuffer, [], .deframing,
          deframer.totalPrefixBytes⟩ := by
      rw [nextRecord_found searching found, if_neg skips]
      rfl
    rw [drain_congr same, drain_deframing rfl]
    simp only [prefixPieces, List.drop_zero, Nat.lt_irrefl, if_false, List.map_nil, List.nil_append,
      Nat.add_zero]

theorem drain_missing {deframer : FuzzyTlsDeframer} (searching : deframer.state = .searching)
    (missing : firstHandshake deframer.searchBuffer = none) :
    deframer.drain =
      .ok ((prefixPieces deframer.searchBuffer (releasedLen deframer.searchBuffer)).map .unknownPrefix,
        { deframer with
          searchBuffer := deframer.searchBuffer.drop (releasedLen deframer.searchBuffer),
          totalPrefixBytes := deframer.totalPrefixBytes + releasedLen deframer.searchBuffer }) := by
  have kept := findPotentialTlsSuffixLen_le deframer.searchBuffer
  -- what is left is the suffix, which waits for more data
  have waits : ∀ next : FuzzyTlsDeframer, next.state = .searching →
      next.searchBuffer = deframer.searchBuffer.drop (releasedLen deframer.searchBuffer) →
        next.nextRecord = .ok (.needData, next) := by
    intro next nextSearching left
    apply nextRecord_waiting nextSearching
    · rw [left, List.length_drop, releasedLen]
      omega
    · rw [left]
      exact findPotentialTlsSuffixLen_valid _
  by_cases releases : findPotentialTlsSuffixLen deframer.searchBuffer < deframer.searchBuffer.length
  · have left := waits { deframer with
      searchBuffer := deframer.searchBuffer.drop (releasedLen deframer.searchBuffer),
      totalPrefixBytes := deframer.totalPrefixBytes + releasedLen deframer.searchBuffer } searching rfl
    rw [drain_of_handed (nextRecord_release searching missing releases) (by simp),
      drain_of_needData left, prefixPieces, if_pos (by rw [releasedLen]; omega)]
    rfl
  · have none : releasedLen deframer.searchBuffer = 0 := by
      rw [releasedLen]
      omega
    rw [drain_of_needData (waits deframer searching (by rw [none, List.drop_zero])), none]
    rfl

end FuzzyTlsDeframer

/-- A caller that feeds each chunk and then calls `next_record` until it returns `NeedData`. -/
def feedDrain : List (List UInt8) → FuzzyTlsDeframer →
    Result (List DeframeResult × FuzzyTlsDeframer)
  | [], deframer => .ok ([], deframer)
  | chunk :: chunks, deframer => do
    let (results, deframer) ← (deframer.feed chunk).drain
    let (more, deframer) ← feedDrain chunks deframer
    .ok (results ++ more, deframer)

theorem feedDrain_deframing (chunks : List (List UInt8)) {deframer : FuzzyTlsDeframer}
    (deframing : deframer.state = .deframing) :
    feedDrain chunks deframer = (feedRecords chunks deframer.inner).map fun (records, inner) =>
      (records.map .tlsRecord, { deframer with inner := inner }) := by
  induction chunks generalizing deframer with
  | nil => rfl
  | cons chunk chunks more =>
    have fed : deframer.feed chunk = { deframer with inner := deframer.inner.feed chunk } := by
      simp only [FuzzyTlsDeframer.feed, deframing]
    have fedState : ({ deframer with inner := deframer.inner.feed chunk } : FuzzyTlsDeframer).state =
        .deframing := deframing
    rw [feedDrain, feedRecords, fed, FuzzyTlsDeframer.drain_deframing fedState]
    rcases (deframer.inner.feed chunk).nextRecords with err | ⟨records, inner⟩
    · rfl
    · have drainedState : ({ deframer with inner := inner } : FuzzyTlsDeframer).state = .deframing :=
        deframing
      simp only [Except.map, ok_bind]
      rw [more drainedState]
      rcases feedRecords chunks inner with err | ⟨later, last⟩
      · rfl
      · simp only [Except.map, ok_bind, List.map_append]

/-- What a stream comes out as: the bytes before its first handshake as unknown prefixes, then
the records a `TlsDeframer` takes from the handshake on; with no handshake, unknown prefixes of
all but at most its last five bytes. -/
def SplitsAtHandshake (data : List UInt8) (outcome : Result (List DeframeResult)) : Prop :=
  match firstHandshake data with
  | some start => ∃ pieces : List (List UInt8), pieces.flatten = data.take start ∧
      outcome = (TlsDeframer.new.feed (data.drop start)).nextRecords.map fun (records, _) =>
        pieces.map .unknownPrefix ++ records.map .tlsRecord
  | none => ∃ (pieces : List (List UInt8)) (kept : List UInt8), kept.length ≤ 5 ∧
      pieces.flatten ++ kept = data ∧ outcome = .ok (pieces.map .unknownPrefix)

theorem splitsAtHandshake_of_passed {data : List UInt8} {released : Nat}
    (passed : ∀ offset < released, isHandshakePattern (data.drop offset) = false)
    {before : List (List UInt8)} (taken : before.flatten = data.take released)
    {outcome : Result (List DeframeResult)} (rest : SplitsAtHandshake (data.drop released) outcome) :
    SplitsAtHandshake data (outcome.map (before.map .unknownPrefix ++ ·)) := by
  unfold SplitsAtHandshake at rest ⊢
  rw [firstHandshake_of_passed passed]
  rcases found : firstHandshake (data.drop released) with _ | start
  · rw [found] at rest
    obtain ⟨pieces, kept, short, whole, came⟩ := rest
    refine ⟨before ++ pieces, kept, short, ?_, ?_⟩
    · rw [List.flatten_append, List.append_assoc, whole, taken, List.take_append_drop]
    · rw [came, List.map_append]
      rfl
  · rw [found] at rest
    obtain ⟨pieces, front, came⟩ := rest
    refine ⟨before ++ pieces, ?_, ?_⟩
    · rw [List.flatten_append, taken, front, List.take_add]
    · rw [came, List.drop_drop]
      cases (TlsDeframer.new.feed (data.drop (released + start))).nextRecords <;>
        simp only [Except.map, List.map_append, List.append_assoc]

theorem splitsAtHandshake_of_found {buffer : List UInt8} {offset : Nat}
    (found : firstHandshake buffer = some offset) (more : List UInt8) :
    SplitsAtHandshake (buffer ++ more)
      ((TlsDeframer.new.feed (buffer.drop offset ++ more)).nextRecords.map fun (records, _) =>
        (prefixPieces buffer offset).map .unknownPrefix ++ records.map .tlsRecord) := by
  have long := isHandshakePattern_length (firstHandshake_eq_some.mp found).1
  simp only [List.length_drop, minTlsHandshakePatternLen] at long
  unfold SplitsAtHandshake
  rw [firstHandshake_append found more]
  refine ⟨prefixPieces buffer offset, ?_, ?_⟩
  · rw [flatten_prefixPieces, List.take_append_of_le_length (by omega)]
  · rw [List.drop_append_of_le_length (by omega)]

theorem map_fst_prepend {α β : Type} (before : List α) (result : Result (List α × β)) :
    (result >>= fun (more, final) => .ok (before ++ more, final)).map Prod.fst =
      (result.map Prod.fst).map (before ++ ·) := by
  cases result <;> rfl

/-- Whatever the chunks, a searching deframer with a fresh inner deframer and at most five bytes
held splits what it holds and is fed at the first handshake. The induction is on the chunks; a
chunk either completes a handshake, after which everything goes to the inner deframer, or
releases bytes that start no handshake and leaves a searching deframer as before. -/
theorem feedDrain_searching (chunks : List (List UInt8)) {deframer : FuzzyTlsDeframer}
    (searching : deframer.state = .searching) (fresh : deframer.inner = TlsDeframer.new)
    (short : deframer.searchBuffer.length ≤ 5) :
    SplitsAtHandshake (deframer.searchBuffer ++ chunks.flatten)
      ((feedDrain chunks deframer).map Prod.fst) := by
  induction chunks generalizing deframer with
  | nil =>
    have missing : firstHandshake deframer.searchBuffer = none :=
      firstHandshake_of_short (by unfold minTlsHandshakePatternLen; omega)
    unfold SplitsAtHandshake
    rw [List.flatten_nil, List.append_nil, missing]
    exact ⟨[], deframer.searchBuffer, short, rfl, rfl⟩
  | cons chunk chunks more =>
    obtain ⟨inner, buffer, state, totalPrefixBytes⟩ := deframer
    subst searching fresh
    have whole : buffer ++ (chunk :: chunks).flatten = (buffer ++ chunk) ++ chunks.flatten := by
      rw [List.flatten_cons, List.append_assoc]
    have fedSearching : (⟨TlsDeframer.new, buffer ++ chunk, .searching, totalPrefixBytes⟩ :
        FuzzyTlsDeframer).state = .searching := rfl
    rw [whole, feedDrain]
    change SplitsAtHandshake _ ((FuzzyTlsDeframer.drain
      ⟨TlsDeframer.new, buffer ++ chunk, .searching, totalPrefixBytes⟩ >>= _).map Prod.fst)
    rcases found : firstHandshake (buffer ++ chunk) with _ | offset
    · -- no handshake yet: a prefix that starts none is released and the suffix kept
      rw [FuzzyTlsDeframer.drain_missing fedSearching found, ok_bind]
      dsimp only
      rw [map_fst_prepend]
      have left : (buffer ++ chunk).drop (releasedLen (buffer ++ chunk)) ++ chunks.flatten =
          (buffer ++ chunk ++ chunks.flatten).drop (releasedLen (buffer ++ chunk)) :=
        (List.drop_append_of_le_length (Nat.sub_le _ _)).symm
      have kept := findPotentialTlsSuffixLen_le (buffer ++ chunk)
      have rest := more (show (⟨TlsDeframer.new, (buffer ++ chunk).drop (releasedLen (buffer ++ chunk)),
          .searching, totalPrefixBytes + releasedLen (buffer ++ chunk)⟩ : FuzzyTlsDeframer).state =
            .searching from rfl) rfl (by simp only [List.length_drop, releasedLen]; omega)
      rw [left] at rest
      apply splitsAtHandshake_of_passed _ _ rest
      · intro offset below
        rw [List.drop_append_of_le_length (by rw [releasedLen] at below; omega)]
        exact isHandshakePattern_released found below _
      · rw [flatten_prefixPieces, releasedLen]
        exact (List.take_append_of_le_length (Nat.sub_le _ _)).symm
    · -- a handshake: from it on, every byte goes to the inner deframer
      have target := splitsAtHandshake_of_found found chunks.flatten
      have twice : TlsDeframer.new.feed ((buffer ++ chunk).drop offset ++ chunks.flatten) =
          (TlsDeframer.new.feed ((buffer ++ chunk).drop offset)).feed chunks.flatten := by
        simp only [TlsDeframer.feed, List.append_assoc]
      rw [twice, TlsDeframer.nextRecords_feed] at target
      rw [FuzzyTlsDeframer.drain_found fedSearching found]
      rcases drained : (TlsDeframer.new.feed ((buffer ++ chunk).drop offset)).nextRecords with
        err | ⟨records, inner⟩
      · rw [drained] at target
        exact target
      · rw [drained, ok_bind] at target
        dsimp only at target
        simp only [Except.map, ok_bind]
        rw [feedDrain_deframing chunks rfl, feedRecords_eq chunks (TlsDeframer.nextRecords_stable drained)]
        rcases rest : (inner.feed chunks.flatten).nextRecords with err | ⟨later, last⟩ <;>
          rw [rest] at target
        · exact target
        · simpa only [Except.map, ok_bind, List.map_append, List.append_assoc] using target

/-- Whatever chunks a stream is fed in, each followed by calls until one needs data, a new
fuzzy deframer hands out the stream before its first handshake as unknown prefixes and then
the records a `TlsDeframer` takes from the handshake on; a stream with no handshake is handed
out but for at most its last five bytes. -/
theorem feedDrain_splits (chunks : List (List UInt8)) :
    SplitsAtHandshake chunks.flatten ((feedDrain chunks FuzzyTlsDeframer.new).map Prod.fst) := by
  have searched := feedDrain_searching chunks
    (show FuzzyTlsDeframer.new.state = .searching from rfl) rfl (Nat.zero_le 5)
  rwa [show FuzzyTlsDeframer.new.searchBuffer = [] from rfl, List.nil_append] at searched

end Shoes.Vless
