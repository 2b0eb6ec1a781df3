import Mathlib

/-!
# The replay window of Shadowsocks salts

A Shadowsocks server refuses a connection whose salt it has seen recently. `TimedSaltChecker`
keeps the salts it accepted in a queue, oldest first, with the instant of each, and as a hash set;
each `insert_and_check` first drops the entries at the front that are `timeout_secs` whole seconds
old or older, then refuses the salt if it is still known, and otherwise accepts it and records it.

Over any run of calls at non-decreasing instants, a call is refused exactly when the latest call
that accepted the same salt is less than `timeout_secs` whole seconds old
(`insertAndCheck_replay_window`), and between calls the set is the set of salts of the queue,
which holds each salt once, in the order of their instants. The proof carries a window invariant
relative to the history of calls (`Window`), which one call keeps (`Window.insertAndCheck`).
-/

namespace Shoes.Shadowsocks

/-- Nanoseconds in a second. -/
def nanosPerSec : Nat := 1000000000

/-- `instant.elapsed().as_secs()` at `now`, instants being nanoseconds of the monotonic clock:
the whole seconds since `instant`, none before it. -/
def elapsedSecs (now instant : Nat) : Nat :=
  (now - instant) / nanosPerSec

theorem elapsedSecs_anti (now : Nat) {earlier later : Nat} (ordered : earlier ≤ later) :
    elapsedSecs now later ≤ elapsedSecs now earlier := by
  unfold elapsedSecs
  exact Nat.div_le_div_right (by omega)

theorem elapsedSecs_mono {now later : Nat} (ordered : now ≤ later) (instant : Nat) :
    elapsedSecs now instant ≤ elapsedSecs later instant := by
  unfold elapsedSecs
  exact Nat.div_le_div_right (by omega)

structure TimeEntry where
  instant : Nat
  salt : List UInt8
  deriving DecidableEq

/-- `TimedSaltChecker`: the queue `last_salts`, the set `known_salts` and the timeout. -/
structure TimedSaltChecker where
  lastSalts : List TimeEntry
  knownSalts : Finset (List UInt8)
  timeoutSecs : Nat

namespace TimedSaltChecker

def new (timeoutSecs : Nat) : TimedSaltChecker :=
  ⟨[], ∅, timeoutSecs⟩

/-- The loop at the start of `insert_and_check`: entries are dropped from the front, and their
salts from the set, until the front entry is younger than the timeout. -/
def evictExpired (now : Nat) (timeoutSecs : Nat) :
    List TimeEntry → Finset (List UInt8) → List TimeEntry × Finset (List UInt8)
  | [], knownSalts => ([], knownSalts)
  | entry :: lastSalts, knownSalts =>
    if elapsedSecs now entry.instant < timeoutSecs then (entry :: lastSalts, knownSalts)
    else evictExpired now timeoutSecs lastSalts (knownSalts.erase entry.salt)

/-- `insert_and_check` at the instant `now`: `false` for a salt still known. -/
def insertAndCheck (checker : TimedSaltChecker) (now : Nat) (salt : List UInt8) :
    Bool × TimedSaltChecker :=
  let (lastSalts, knownSalts) :=
    evictExpired now checker.timeoutSecs checker.lastSalts checker.knownSalts
  if salt ∈ knownSalts then (false, { checker with lastSalts, knownSalts })
  else
    (true,
      { checker with
        lastSalts := lastSalts ++ [⟨now, salt⟩]
        knownSalts := insert salt knownSalts })

/-- A run of calls, each a salt and the instant of the call: the answers and the checker after. -/
def checkAll : TimedSaltChecker → List (List UInt8 × Nat) → List Bool × TimedSaltChecker
  | checker, [] => ([], checker)
  | checker, (salt, now) :: calls =>
    let (answer, checker) := checker.insertAndCheck now salt
    let (answers, checker) := checkAll checker calls
    (answer :: answers, checker)

end TimedSaltChecker

/-- A history of calls, the latest first: each salt, its instant and the answer. -/
abbrev History := List (List UInt8 × Nat × Bool)

/-- The instant of the latest call in the history that accepted the salt. -/
def lastAccepted (salt : List UInt8) : History → Option Nat
  | [] => none
  | (other, instant, accepted) :: history =>
    if other = salt ∧ accepted = true then some instant else lastAccepted salt history

/-- Whether a call with the salt at `now` is a replay: the latest call that accepted the salt is
younger than the timeout. -/
def replayed (timeoutSecs : Nat) (history : History) (salt : List UInt8) (now : Nat) : Bool :=
  match lastAccepted salt history with
  | some instant => decide (elapsedSecs now instant < timeoutSecs)
  | none => false

/-- What a replay window answers to each call of a run: a call is accepted unless it is a
replay, and the history grows by each call and its answer. -/
def windowAnswers (timeoutSecs : Nat) : History → List (List UInt8 × Nat) → List Bool
  | _, [] => []
  | history, (salt, now) :: calls =>
    let answer := !replayed timeoutSecs history salt now
    answer :: windowAnswers timeoutSecs ((salt, now, answer) :: history) calls

example : windowAnswers 2 [] [([1], 0), ([1], 1000000000), ([1], 3000000000), ([2], 3000000000)] =
    [true, false, true, true] := by
  decide

/-- The shape of the checker's state: the set is the set of the queue's salts, each salt is in
the queue once, and the queue is in the order of the instants. -/
structure Shape (checker : TimedSaltChecker) : Prop where
  known_eq : checker.knownSalts = (checker.lastSalts.map TimeEntry.salt).toFinset
  nodup : (checker.lastSalts.map TimeEntry.salt).Nodup
  sorted : (checker.lastSalts.map TimeEntry.instant).Pairwise (· ≤ ·)

/-- The checker after the calls of `history`, the last at `latest`: every entry is the latest
acceptance of its salt, and every acceptance younger than the timeout at `latest` has its entry. -/
structure Window (checker : TimedSaltChecker) (history : History) (latest : Nat) : Prop
    extends Shape checker where
  before : ∀ entry ∈ checker.lastSalts, entry.instant ≤ latest
  recorded : ∀ entry ∈ checker.lastSalts, lastAccepted entry.salt history = some entry.instant
  live : ∀ salt instant, lastAccepted salt history = some instant →
    elapsedSecs latest instant < checker.timeoutSecs → ⟨instant, salt⟩ ∈ checker.lastSalts

theorem window_new (timeoutSecs : Nat) : Window (TimedSaltChecker.new timeoutSecs) [] 0 where
  known_eq := rfl
  nodup := List.nodup_nil
  sorted := List.Pairwise.nil
  before := by simp [TimedSaltChecker.new]
  recorded := by simp [TimedSaltChecker.new]
  live := by simp [lastAccepted]

namespace TimedSaltChecker

section Evict

variable (now : Nat) (timeoutSecs : Nat)

theorem evictExpired_suffix (entries : List TimeEntry) (known : Finset (List UInt8)) :
    (evictExpired now timeoutSecs entries known).1 <:+ entries := by
  induction entries generalizing known with
  | nil => exact List.suffix_refl _
  | cons entry entries ih =>
    unfold evictExpired
    split_ifs
    · exact List.suffix_refl _
    · exact (ih _).trans (List.suffix_cons _ _)

theorem evictExpired_known (entries : List TimeEntry) (known : Finset (List UInt8))
    (nodup : (entries.map TimeEntry.salt).Nodup)
    (known_eq : known = (entries.map TimeEntry.salt).toFinset) :
    (evictExpired now timeoutSecs entries known).2 =
      ((evictExpired now timeoutSecs entries known).1.map TimeEntry.salt).toFinset := by
  induction entries generalizing known with
  | nil => simp [evictExpired, known_eq]
  | cons entry entries ih =>
    rw [List.map_cons, List.nodup_cons] at nodup
    unfold evictExpired
    split_ifs
    · simp [known_eq]
    · apply ih _ nodup.2
      rw [known_eq, List.map_cons, List.toFinset_cons, Finset.erase_insert]
      simpa using nodup.1

theorem evictExpired_fresh (entries : List TimeEntry) (known : Finset (List UInt8))
    (sorted : (entries.map TimeEntry.instant).Pairwise (· ≤ ·)) :
    ∀ entry ∈ (evictExpired now timeoutSecs entries known).1,
      elapsedSecs now entry.instant < timeoutSecs := by
  induction entries generalizing known with
  | nil => simp [evictExpired]
  | cons first entries ih =>
    rw [List.map_cons, List.pairwise_cons] at sorted
    unfold evictExpired
    split_ifs with young
    · intro entry member
      rcases List.mem_cons.mp member with rfl | later
      · exact young
      · have ordered := sorted.1 _ (List.mem_map_of_mem later)
        exact lt_of_le_of_lt (elapsedSecs_anti now ordered) young
    · exact ih _ sorted.2

theorem evictExpired_keeps (entries : List TimeEntry) (known : Finset (List UInt8))
    (entry : TimeEntry) (member : entry ∈ entries)
    (young : elapsedSecs now entry.instant < timeoutSecs) :
    entry ∈ (evictExpired now timeoutSecs entries known).1 := by
  induction entries generalizing known with
  | nil => cases member
  | cons first entries ih =>
    unfold evictExpired
    split_ifs with firstYoung
    · exact member
    · rcases List.mem_cons.mp member with rfl | later
      · exact absurd young firstYoung
      · exact ih _ later

end Evict

@[simp] theorem insertAndCheck_timeoutSecs (checker : TimedSaltChecker) (now : Nat)
    (salt : List UInt8) : (checker.insertAndCheck now salt).2.timeoutSecs = checker.timeoutSecs := by
  unfold insertAndCheck
  generalize evictExpired now checker.timeoutSecs checker.lastSalts checker.knownSalts = evicted
  obtain ⟨lastSalts, knownSalts⟩ := evicted
  dsimp only
  split_ifs <;> rfl

end TimedSaltChecker

@[simp] theorem lastAccepted_refused (salt other : List UInt8) (now : Nat) (history : History) :
    lastAccepted salt ((other, now, false) :: history) = lastAccepted salt history := by
  simp [lastAccepted]

@[simp] theorem lastAccepted_accepted (salt other : List UInt8) (now : Nat) (history : History) :
    lastAccepted salt ((other, now, true) :: history) =
      if other = salt then some now else lastAccepted salt history := by
  simp [lastAccepted]

open TimedSaltChecker in
theorem Window.insertAndCheck {checker : TimedSaltChecker} {history : History} {latest : Nat}
    (window : Window checker history latest) {now : Nat} (later : latest ≤ now)
    (salt : List UInt8) :
    let answer := !replayed checker.timeoutSecs history salt now
    (checker.insertAndCheck now salt).1 = answer ∧
      Window (checker.insertAndCheck now salt).2 ((salt, now, answer) :: history) now := by
  intro answer
  set timeoutSecs := checker.timeoutSecs with timeoutEq
  set kept := (evictExpired now timeoutSecs checker.lastSalts checker.knownSalts).1
  set knownKept := (evictExpired now timeoutSecs checker.lastSalts checker.knownSalts).2
  have suffix : kept <:+ checker.lastSalts := evictExpired_suffix _ _ _ _
  have knownKept_eq : knownKept = (kept.map TimeEntry.salt).toFinset :=
    evictExpired_known _ _ _ _ window.nodup window.known_eq
  have fresh : ∀ entry ∈ kept, elapsedSecs now entry.instant < timeoutSecs :=
    evictExpired_fresh _ _ _ _ window.sorted
  have keeps : ∀ entry ∈ checker.lastSalts, elapsedSecs now entry.instant < timeoutSecs →
      entry ∈ kept :=
    fun entry member young => evictExpired_keeps _ _ _ _ entry member young
  have inKept : ∀ entry ∈ kept, entry ∈ checker.lastSalts := fun _ member => suffix.subset member
  -- an acceptance young enough at `now` was young enough at `latest`, so its entry was kept
  have alive : ∀ other instant, lastAccepted other history = some instant →
      elapsedSecs now instant < timeoutSecs → ⟨instant, other⟩ ∈ kept := by
    intro other instant accepted young
    exact keeps _ (window.live other instant accepted
      (lt_of_le_of_lt (elapsedSecs_mono later instant) young)) young
  have known_iff : salt ∈ knownKept ↔ replayed timeoutSecs history salt now = true := by
    rw [knownKept_eq, List.mem_toFinset, List.mem_map]
    constructor
    · rintro ⟨entry, member, rfl⟩
      simp [replayed, window.recorded entry (inKept entry member), fresh entry member]
    · intro replay
      unfold replayed at replay
      split at replay
      next instant accepted =>
        exact ⟨_, alive salt instant accepted (by simpa using replay), rfl⟩
      next => cases replay
  have before : ∀ entry ∈ kept, entry.instant ≤ now :=
    fun entry member => (window.before entry (inKept entry member)).trans later
  have evicted : evictExpired now timeoutSecs checker.lastSalts checker.knownSalts =
      (kept, knownKept) := rfl
  unfold TimedSaltChecker.insertAndCheck
  rw [← timeoutEq, evicted]
  by_cases known : salt ∈ knownKept
  · -- a replay: refused, and the history's acceptances stay as they were
    have refused : answer = false := by
      simp only [answer, ← timeoutEq, known_iff.mp known, Bool.not_true]
    simp only [known, if_true, refused, true_and]
    exact
      { known_eq := knownKept_eq
        nodup := window.nodup.sublist (suffix.sublist.map _)
        sorted := window.sorted.sublist (suffix.sublist.map _)
        before := before
        recorded := fun entry member => by
          simpa using window.recorded entry (inKept entry member)
        live := fun other instant accepted young => alive other instant (by simpa using accepted) young }
  · -- accepted: the salt's entry goes to the back of the queue
    have accepted : answer = true := by
      simpa [answer, ← timeoutEq] using mt known_iff.mpr known
    have absent : salt ∉ kept.map TimeEntry.salt := by
      simpa [knownKept_eq] using known
    simp only [known, if_false, accepted, true_and]
    refine
      { known_eq := ?_
        nodup := ?_
        sorted := ?_
        before := ?_
        recorded := ?_
        live := ?_ }
    · ext other
      simp [knownKept_eq]
    · have keptNodup := window.nodup.sublist (suffix.sublist.map TimeEntry.salt)
      have distinct : ∀ entry ∈ kept, ¬entry.salt = salt :=
        fun entry member same => absent (same ▸ List.mem_map_of_mem member)
      simpa [List.nodup_append] using And.intro keptNodup distinct
    · simp only [List.map_append, List.map_cons, List.map_nil]
      refine List.pairwise_append.mpr ⟨window.sorted.sublist (suffix.sublist.map _),
        List.pairwise_singleton _ _, ?_⟩
      simp only [List.mem_map, List.mem_singleton]
      rintro _ ⟨entry, member, rfl⟩ _ rfl
      exact before entry member
    · intro entry member
      rcases List.mem_append.mp member with old | new
      · exact before entry old
      · simp [List.mem_singleton.mp new]
    · intro entry member
      rcases List.mem_append.mp member with old | new
      · have other : salt ≠ entry.salt := fun same => absent (same ▸ List.mem_map_of_mem old)
        simp [other, window.recorded entry (inKept entry old)]
      · simp [List.mem_singleton.mp new]
    · intro other instant accepted young
      rw [lastAccepted_accepted] at accepted
      split_ifs at accepted with same
      · cases accepted
        simp [same]
      · exact List.mem_append_left _ (alive other instant accepted young)

open TimedSaltChecker in
/-- A run of calls at instants from `latest` on, in order, answers as the replay window does, and
the checker keeps its shape after every prefix of the run. The induction is on the calls, with
the window carried from one call to the next by `Window.insertAndCheck`. -/
theorem Window.checkAll {checker : TimedSaltChecker} {history : History} {latest : Nat}
    (window : Window checker history latest) (calls : List (List UInt8 × Nat))
    (ordered : (latest :: calls.map Prod.snd).Pairwise (· ≤ ·)) :
    (checker.checkAll calls).1 = windowAnswers checker.timeoutSecs history calls ∧
      ∀ count ≤ calls.length, Shape (checker.checkAll (calls.take count)).2 := by
  induction calls generalizing checker history latest with
  | nil =>
    refine ⟨rfl, ?_⟩
    intro count bounded
    rw [Nat.le_zero.mp bounded]
    exact window.toShape
  | cons call calls ih =>
    obtain ⟨salt, now⟩ := call
    rw [List.map_cons, List.pairwise_cons, List.pairwise_cons] at ordered
    obtain ⟨fromLatest, fromNow, rest⟩ := ordered
    obtain ⟨answered, next⟩ := window.insertAndCheck (fromLatest now List.mem_cons_self) salt
    rcases called : checker.insertAndCheck now salt with ⟨answer, after⟩
    rw [called] at answered next
    have sameTimeout : after.timeoutSecs = checker.timeoutSecs := by
      simpa [called] using insertAndCheck_timeoutSecs checker now salt
    obtain ⟨answers, shapes⟩ := ih next (List.pairwise_cons.mpr ⟨fromNow, rest⟩)
    refine ⟨?_, ?_⟩
    · simp only [TimedSaltChecker.checkAll, called, windowAnswers, answers, sameTimeout]
      simp only at answered
      rw [answered]
    · intro count bounded
      cases count with
      | zero => exact window.toShape
      | succ count =>
        simpa [TimedSaltChecker.checkAll, called] using
          shapes count (by simp only [List.length_cons] at bounded; omega)

/-- Over any run of calls at non-decreasing instants, `insert_and_check` refuses a salt exactly
when the latest call that accepted it is less than `timeout_secs` whole seconds old, and after
every call the set of known salts is the set of the queue's salts, each once, in the order of
their instants. -/
theorem insertAndCheck_replay_window (timeoutSecs : Nat) (calls : List (List UInt8 × Nat))
    (ordered : (calls.map Prod.snd).Pairwise (· ≤ ·)) :
    ((TimedSaltChecker.new timeoutSecs).checkAll calls).1 = windowAnswers timeoutSecs [] calls ∧
      ∀ count ≤ calls.length,
        Shape ((TimedSaltChecker.new timeoutSecs).checkAll (calls.take count)).2 :=
  (window_new timeoutSecs).checkAll calls
    (List.pairwise_cons.mpr ⟨fun _ _ => Nat.zero_le _, ordered⟩)

example : ((TimedSaltChecker.new 2).checkAll
    [([1], 0), ([1], 1000000000), ([1], 3000000000), ([2], 3000000000)]).1 =
    [true, false, true, true] := by
  decide

/-- A two-second window: the same salt at 0 s, 1 s and 3 s, then another salt at 3 s. -/
theorem insertAndCheck_replay_window_sample :
    ((TimedSaltChecker.new 2).checkAll
        [([1], 0), ([1], 1000000000), ([1], 3000000000), ([2], 3000000000)]).1 =
      windowAnswers 2 [] [([1], 0), ([1], 1000000000), ([1], 3000000000), ([2], 3000000000)] ∧
    ∀ count ≤ 4, Shape ((TimedSaltChecker.new 2).checkAll
      ([([1], 0), ([1], 1000000000), ([1], 3000000000), ([2], 3000000000)].take count)).2 :=
  insertAndCheck_replay_window 2 _ (by decide)

end Shoes.Shadowsocks
