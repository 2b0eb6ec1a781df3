import Shoes.Wire
import Shoes.Lib.Automaton

/-!
# The Vision unpadder

VLESS Vision pads the first packets of a connection. The first carries the user's UUID, and each
is a block: a command, the content and padding lengths as big-endian `u16`s, the content and the
padding (`pad`). `VisionUnpadder::unpad` takes the bytes of one read and returns the content of
the blocks they reach, keeping between calls only where it stands in the block it is reading. Its
loop reads whole runs of content and padding at once, and returns when the input runs out.

The loop is modelled pass by pass as the source has it (`VisionUnpadder.pass`, `unpadLoop`).
Under it, the unpadder is an automaton of `Lib.Automaton` that reads one byte at a time
(`Position.feedByte`): a call of `unpad` is the automaton's run over the call's input, with the
content it emits returned together (`unpadLoop_eq_resume`). Runs compose over concatenation, so
the contents of calls on any split of the input are the content of one run over all of it
(`unpadChunks_running`, `unpadChunks_ended`), and over padded blocks that is the blocks' content
(`run_blocks`). A call after a block with `End` or `Direct` fails: the bytes after that block are
returned only by the call that reads its last byte.
-/

namespace Shoes.Vision

open Wire Automaton

inductive UnpadCommand
  | «continue» | «end» | direct
  deriving DecidableEq, Repr

/-- The command's byte, `command as u8`. -/
def UnpadCommand.toByte : UnpadCommand → UInt8
  | .continue => 0
  | .end => 1
  | .direct => 2

def UnpadCommand.tryFrom (value : UInt8) : Result UnpadCommand :=
  if value = 0 then .ok .continue
  else if value = 1 then .ok .end
  else if value = 2 then .ok .direct
  else fail .invalidData s!"Invalid padding command: {value}"

@[simp] theorem UnpadCommand.tryFrom_toByte (command : UnpadCommand) :
    tryFrom command.toByte = .ok command := by
  cases command <;> rfl

/-- `UnpadResult`: the content extracted, and the command when there is one. -/
structure UnpadResult where
  content : List UInt8
  command : Option UnpadCommand
  deriving DecidableEq, Repr

def UnpadResult.empty : UnpadResult :=
  ⟨[], none⟩

/-- A UUID, `[u8; 16]`. -/
@[ext] structure Uuid where
  bytes : List UInt8
  length_eq : bytes.length = 16

instance : DecidableEq Uuid := fun first second =>
  decidable_of_iff (first.bytes = second.bytes) Uuid.ext_iff.symm

/-- `UnpadState`. The lengths are the source's `u16`s, read from two bytes and only counted
down. -/
inductive UnpadState
  | initial (expectedUuid : Uuid)
  | readingCommand
  | readingContentLength (command : UnpadCommand) (firstByte : Option UInt8)
  | readingPaddingLength (command : UnpadCommand) (contentLen : Nat) (firstByte : Option UInt8)
  | readingContent (command : UnpadCommand) (partialContent : List UInt8) (remainingContentLen : Nat)
      (paddingLen : Nat)
  | readingPadding (command : UnpadCommand) (content : List UInt8) (remainingPaddingLen : Nat)
  | done
  deriving DecidableEq

/-- `VisionUnpadder`. Its `accumulated_buffer` is cleared at the start of every call, and is the
loop's accumulator here. -/
structure VisionUnpadder where
  state : UnpadState
  firstBlock : Bool
  deriving DecidableEq

def VisionUnpadder.new (expectedUuid : Uuid) : VisionUnpadder :=
  ⟨.initial expectedUuid, true⟩

/-- Where one pass of the loop in `unpad` leaves it: returning, or going round again with the
new state, the content accumulated and the input left. -/
inductive Pass
  | ret (result : UnpadResult) (unpadder : VisionUnpadder)
  | next (unpadder : VisionUnpadder) (accumulated data : List UInt8)

/-- The return when the input runs out in a block's header: the content so far with `Continue`
once a block has been completed, and nothing before. -/
def outOfDataInHeader (firstBlock : Bool) (accumulated : List UInt8) : UnpadResult :=
  if firstBlock then .empty else ⟨accumulated, some .continue⟩

/-- The return when the input runs out in a block's content or padding: the content so far,
with `Continue` once a block has been completed. -/
def outOfDataInBody (firstBlock : Bool) (accumulated : List UInt8) : UnpadResult :=
  ⟨accumulated, if firstBlock then none else some .continue⟩

/-- The end of a block's padding: the block's content joins what was accumulated. After
`Continue` the next block's command follows; after `End` or `Direct` the rest of the input is
returned with the command. -/
def completeBlock (command : UnpadCommand) (content accumulated data : List UInt8) : Pass :=
  let accumulated := accumulated ++ content
  match command with
  | .continue => .next ⟨.readingCommand, false⟩ accumulated data
  | command => .ret ⟨accumulated ++ data, some command⟩ ⟨.done, false⟩

/-- One pass of the loop in `VisionUnpadder::unpad`, from the state, the content accumulated in
this call and the input left. -/
def VisionUnpadder.pass (unpadder : VisionUnpadder) (accumulated data : List UInt8) :
    Result Pass :=
  let firstBlock := unpadder.firstBlock
  match unpadder.state with
  | .initial expectedUuid =>
    if data.length < 16 then .ok (.ret .empty unpadder)
    -- not XTLS padding: the input is returned as it is
    else if data.take 16 ≠ expectedUuid.bytes then .ok (.ret ⟨data, none⟩ unpadder)
    else .ok (.next ⟨.readingCommand, firstBlock⟩ accumulated (data.drop 16))
  | .readingCommand =>
    match data with
    | [] => .ok (.ret (outOfDataInHeader firstBlock accumulated) unpadder)
    | commandByte :: data => do
      let command ← UnpadCommand.tryFrom commandByte
      .ok (.next ⟨.readingContentLength command none, firstBlock⟩ accumulated data)
  | .readingContentLength command firstByte =>
    match data, firstByte with
    | [], _ => .ok (.ret (outOfDataInHeader firstBlock accumulated) unpadder)
    | byte :: data, none =>
      .ok (.next ⟨.readingContentLength command (some byte), firstBlock⟩ accumulated data)
    | lowByte :: data, some highByte =>
      .ok (.next ⟨.readingPaddingLength command (u16FromBe [highByte, lowByte]).toNat none,
        firstBlock⟩ accumulated data)
  | .readingPaddingLength command contentLen firstByte =>
    match data, firstByte with
    | [], _ => .ok (.ret (outOfDataInHeader firstBlock accumulated) unpadder)
    | byte :: data, none =>
      .ok (.next ⟨.readingPaddingLength command contentLen (some byte), firstBlock⟩ accumulated data)
    | lowByte :: data, some highByte =>
      .ok (.next ⟨.readingContent command [] contentLen (u16FromBe [highByte, lowByte]).toNat,
        firstBlock⟩ accumulated data)
  | .readingContent command partialContent remainingContentLen paddingLen =>
    if 0 < remainingContentLen then
      if data = [] then
        -- what was read of the content is returned, and leaves the state
        .ok (.ret (outOfDataInBody firstBlock (accumulated ++ partialContent))
          ⟨.readingContent command [] remainingContentLen paddingLen, firstBlock⟩)
      else
        let toRead := min remainingContentLen data.length
        let partialContent := partialContent ++ data.take toRead
        let remainingContentLen := remainingContentLen - toRead
        let state :=
          if remainingContentLen = 0 then .readingPadding command partialContent paddingLen
          else .readingContent command partialContent remainingContentLen paddingLen
        .ok (.next ⟨state, firstBlock⟩ accumulated (data.drop toRead))
    else .ok (.next ⟨.readingPadding command partialContent paddingLen, firstBlock⟩ accumulated data)
  | .readingPadding command content remainingPaddingLen =>
    if 0 < remainingPaddingLen then
      if data = [] then
        -- the block's content is returned before its padding is all read, but not its command
        .ok (.ret (outOfDataInBody firstBlock (accumulated ++ content))
          ⟨.readingPadding command [] remainingPaddingLen, firstBlock⟩)
      else
        let toSkip := min remainingPaddingLen data.length
        let remainingPaddingLen := remainingPaddingLen - toSkip
        if remainingPaddingLen = 0 then .ok (completeBlock command content accumulated (data.drop toSkip))
        else
          .ok (.next ⟨.readingPadding command content remainingPaddingLen, firstBlock⟩ accumulated
            (data.drop toSkip))
    else .ok (completeBlock command content accumulated data)
  | .done => fail .invalidData "Already in UnpadState::Done"

/-- Content before padding before the next command: the passes that read nothing go down this
order. -/
def UnpadState.rank : UnpadState → Nat
  | .readingContent .. => 2
  | .readingPadding .. => 1
  | _ => 0

theorem completeBlock_decreases {command : UnpadCommand} {content accumulated data : List UInt8}
    {next : VisionUnpadder} {accumulated' data' : List UInt8}
    (completed : completeBlock command content accumulated data = .next next accumulated' data') :
    data' = data ∧ next.state.rank = 0 := by
  cases command
  · simp only [completeBlock, Pass.next.injEq] at completed
    obtain ⟨rfl, -, rfl⟩ := completed
    exact ⟨rfl, rfl⟩
  all_goals simp [completeBlock] at completed

theorem pass_decreases {unpadder next : VisionUnpadder} {accumulated data accumulated' data' : List UInt8}
    (passed : unpadder.pass accumulated data = .ok (.next next accumulated' data')) :
    data'.length * 3 + next.state.rank < data.length * 3 + unpadder.state.rank := by
  obtain ⟨state, firstBlock⟩ := unpadder
  cases state with
  | initial expectedUuid =>
    simp only [VisionUnpadder.pass] at passed
    split_ifs at passed with short mismatch
    · simp at passed
    · simp at passed
    · simp only [Except.ok.injEq, Pass.next.injEq] at passed
      obtain ⟨rfl, -, rfl⟩ := passed
      simp only [List.length_drop, UnpadState.rank]
      omega
  | readingCommand =>
    cases data with
    | nil => simp [VisionUnpadder.pass] at passed
    | cons commandByte data =>
      obtain ⟨command, -, moved⟩ := bind_eq_ok passed
      simp only [Except.ok.injEq, Pass.next.injEq] at moved
      obtain ⟨rfl, -, rfl⟩ := moved
      simp only [List.length_cons, UnpadState.rank]
      omega
  | readingContentLength command firstByte =>
    cases data with
    | nil => simp [VisionUnpadder.pass] at passed
    | cons byte data =>
      cases firstByte <;>
      · simp only [VisionUnpadder.pass, Except.ok.injEq, Pass.next.injEq] at passed
        obtain ⟨rfl, -, rfl⟩ := passed
        simp only [List.length_cons, UnpadState.rank]
        omega
  | readingPaddingLength command contentLen firstByte =>
    cases data with
    | nil => simp [VisionUnpadder.pass] at passed
    | cons byte data =>
      cases firstByte <;>
      · simp only [VisionUnpadder.pass, Except.ok.injEq, Pass.next.injEq] at passed
        obtain ⟨rfl, -, rfl⟩ := passed
        simp only [List.length_cons, UnpadState.rank]
        omega
  | readingContent command partialContent remaining paddingLen =>
    simp only [VisionUnpadder.pass] at passed
    by_cases positive : 0 < remaining
    · by_cases empty : data = []
      · simp [positive, empty] at passed
      · -- some content is read: the input gets shorter
        have long : 0 < data.length := List.length_pos_iff.mpr empty
        have rank : ∀ state : UnpadState, state.rank ≤ 2 := by
          intro state
          cases state <;> simp [UnpadState.rank]
        simp only [positive, empty, if_true, if_false, Except.ok.injEq, Pass.next.injEq] at passed
        obtain ⟨rfl, -, rfl⟩ := passed
        have nextRank := rank (if remaining - min remaining data.length = 0 then
          UnpadState.readingPadding command (partialContent ++ data.take (min remaining data.length))
            paddingLen
          else UnpadState.readingContent command
            (partialContent ++ data.take (min remaining data.length))
            (remaining - min remaining data.length) paddingLen)
        simp only [List.length_drop, UnpadState.rank] at nextRank ⊢
        omega
    · simp only [positive, if_false, Except.ok.injEq, Pass.next.injEq] at passed
      obtain ⟨rfl, -, rfl⟩ := passed
      simp [UnpadState.rank]
  | readingPadding command content remaining =>
    simp only [VisionUnpadder.pass] at passed
    by_cases positive : 0 < remaining
    · by_cases empty : data = []
      · simp [positive, empty] at passed
      · -- some padding is skipped: the input gets shorter
        have long : 0 < data.length := List.length_pos_iff.mpr empty
        simp only [positive, empty, if_true, if_false] at passed
        split_ifs at passed with finished
        · obtain ⟨rfl, rank⟩ := completeBlock_decreases (Except.ok.inj passed)
          rw [rank]
          simp only [List.length_drop, UnpadState.rank]
          omega
        · simp only [Except.ok.injEq, Pass.next.injEq] at passed
          obtain ⟨rfl, -, rfl⟩ := passed
          simp only [List.length_drop, UnpadState.rank]
          omega
    · simp only [positive, if_false] at passed
      obtain ⟨rfl, rank⟩ := completeBlock_decreases (Except.ok.inj passed)
      rw [rank]
      simp only [UnpadState.rank]
      omega
  | done => simp [VisionUnpadder.pass, fail] at passed

-- the name of the pass's result is used only by the termination proof
set_option linter.unusedVariables false in
/-- The loop of `VisionUnpadder::unpad`: passes until one returns. -/
def VisionUnpadder.unpadLoop (unpadder : VisionUnpadder) (accumulated data : List UInt8) :
    Result (UnpadResult × VisionUnpadder) :=
  match passed : unpadder.pass accumulated data with
  | .error fault => .error fault
  | .ok (.ret result unpadder) => .ok (result, unpadder)
  | .ok (.next next accumulated data) => next.unpadLoop accumulated data
termination_by data.length * 3 + unpadder.state.rank
decreasing_by exact pass_decreases passed

def VisionUnpadder.unpad (unpadder : VisionUnpadder) (data : List UInt8) :
    Result (UnpadResult × VisionUnpadder) :=
  unpadder.unpadLoop [] data

/-- `pad`, with the padding bytes it draws at random given: the UUID when there is one, the
command, the content and padding lengths as big-endian `u16`s, the content, then the padding. -/
def pad (data : List UInt8) (uuid : Option Uuid) (command : UInt8) (padding : List UInt8) :
    List UInt8 :=
  (match uuid with
    | some uuid => uuid.bytes
    | none => []) ++
    command :: u16ToBe (UInt16.ofNat data.length) ++ u16ToBe (UInt16.ofNat padding.length) ++
      data ++ padding

def padWithUuidAndCommand (data : List UInt8) (uuid : Uuid) (command : UInt8)
    (padding : List UInt8) : List UInt8 :=
  pad data (some uuid) command padding

def padWithCommand (data : List UInt8) (command : UInt8) (padding : List UInt8) : List UInt8 :=
  pad data none command padding

/-- Where the reading of padding blocks stands between two bytes: the part of a block it is in,
and what is left of it. A count of zero is never stood at: `settleContent` and `settlePadding`
move past it. -/
inductive Cursor
  | command
  | contentLength (command : UnpadCommand) (firstByte : Option UInt8)
  | paddingLength (command : UnpadCommand) (contentLen : Nat) (firstByte : Option UInt8)
  | content (command : UnpadCommand) (remaining paddingLen : Nat)
  | padding (command : UnpadCommand) (remaining : Nat)
  deriving DecidableEq

/-- A cursor, and whether no block has been completed yet. -/
structure Position where
  cursor : Cursor
  firstBlock : Bool
  deriving DecidableEq

/-- The moves that read nothing when a block's padding is all read: after `Continue` the next
block's command follows, and `End` or `Direct` ends the reading. -/
def settlePadding (firstBlock : Bool) (command : UnpadCommand) (remaining : Nat) :
    Position ⊕ UnpadCommand :=
  if remaining = 0 then
    if command = .continue then .inl ⟨.command, false⟩ else .inr command
  else .inl ⟨.padding command remaining, firstBlock⟩

/-- The moves that read nothing when a block's content is all read. -/
def settleContent (firstBlock : Bool) (command : UnpadCommand) (remaining paddingLen : Nat) :
    Position ⊕ UnpadCommand :=
  if remaining = 0 then settlePadding firstBlock command paddingLen
  else .inl ⟨.content command remaining paddingLen, firstBlock⟩

/-- One byte read: where it leads, and the content byte it is. -/
def Position.feedByte (position : Position) (byte : UInt8) :
    Result ((Position ⊕ UnpadCommand) × List UInt8) :=
  let firstBlock := position.firstBlock
  match position.cursor with
  | .command => do
    let command ← UnpadCommand.tryFrom byte
    .ok (.inl ⟨.contentLength command none, firstBlock⟩, [])
  | .contentLength command none => .ok (.inl ⟨.contentLength command (some byte), firstBlock⟩, [])
  | .contentLength command (some highByte) =>
    .ok (.inl ⟨.paddingLength command (u16FromBe [highByte, byte]).toNat none, firstBlock⟩, [])
  | .paddingLength command contentLen none =>
    .ok (.inl ⟨.paddingLength command contentLen (some byte), firstBlock⟩, [])
  | .paddingLength command contentLen (some highByte) =>
    .ok (settleContent firstBlock command contentLen (u16FromBe [highByte, byte]).toNat, [])
  | .content command remaining paddingLen =>
    .ok (settleContent firstBlock command (remaining - 1) paddingLen, [byte])
  | .padding command remaining => .ok (settlePadding firstBlock command (remaining - 1), [])

/-- The unpadder standing at a position, holding nothing. -/
def Position.unpadder (position : Position) : VisionUnpadder :=
  ⟨match position.cursor with
    | .command => .readingCommand
    | .contentLength command firstByte => .readingContentLength command firstByte
    | .paddingLength command contentLen firstByte => .readingPaddingLength command contentLen firstByte
    | .content command remaining paddingLen => .readingContent command [] remaining paddingLen
    | .padding command remaining => .readingPadding command [] remaining,
    position.firstBlock⟩

/-- The content an unpadder holds from the block it is reading. -/
def UnpadState.held : UnpadState → List UInt8
  | .readingContent _ partialContent _ _ => partialContent
  | .readingPadding _ content _ => content
  | _ => []

/-- Where an unpadder stands for the automaton, once the moves that read nothing are made: none
before the UUID and after the last block. -/
def VisionUnpadder.position (unpadder : VisionUnpadder) : Option (Position ⊕ UnpadCommand) :=
  let firstBlock := unpadder.firstBlock
  match unpadder.state with
  | .initial _ => none
  | .readingCommand => some (.inl ⟨.command, firstBlock⟩)
  | .readingContentLength command firstByte => some (.inl ⟨.contentLength command firstByte, firstBlock⟩)
  | .readingPaddingLength command contentLen firstByte =>
    some (.inl ⟨.paddingLength command contentLen firstByte, firstBlock⟩)
  | .readingContent command _ remaining paddingLen =>
    some (settleContent firstBlock command remaining paddingLen)
  | .readingPadding command _ remaining => some (settlePadding firstBlock command remaining)
  | .done => none

/-- What a call returns when the automaton's run over its input stops, with `front` accumulated
or held before the run. -/
def report (front : List UInt8) : Outcome Position UInt8 UInt8 UnpadCommand → UnpadResult × VisionUnpadder
  | .running position content => (outOfDataInBody position.firstBlock (front ++ content), position.unpadder)
  | .ended command content rest => (⟨front ++ content ++ rest, some command⟩, ⟨.done, false⟩)

@[simp] theorem report_prepend (front more : List UInt8)
    (outcome : Outcome Position UInt8 UInt8 UnpadCommand) :
    report front (outcome.prepend more) = report (front ++ more) outcome := by
  cases outcome <;> simp [report, Outcome.prepend]

theorem map_report_prepend (front more : List UInt8)
    (result : Result (Outcome Position UInt8 UInt8 UnpadCommand)) :
    (result.map (·.prepend more)).map (report front) = result.map (report (front ++ more)) := by
  cases result <;> simp [Except.map]

theorem run_content (firstBlock : Bool) (command : UnpadCommand) {remaining : Nat}
    (paddingLen : Nat) {bytes : List UInt8} (rest : List UInt8) (nonempty : bytes ≠ [])
    (fits : bytes.length ≤ remaining) :
    run Position.feedByte ⟨.content command remaining paddingLen, firstBlock⟩ (bytes ++ rest) =
      (resume Position.feedByte (settleContent firstBlock command (remaining - bytes.length) paddingLen)
        rest).map (·.prepend bytes) := by
  induction bytes generalizing remaining with
  | nil => contradiction
  | cons byte bytes induction =>
    have moved : Position.feedByte ⟨.content command remaining paddingLen, firstBlock⟩ byte =
        .ok (settleContent firstBlock command (remaining - 1) paddingLen, [byte]) := rfl
    rw [List.cons_append, run_cons Position.feedByte moved]
    by_cases last : bytes = []
    · subst last
      rfl
    · -- more content follows: the count is not yet zero
      have more : remaining - 1 ≠ 0 := by
        have := List.length_pos_iff.mpr last
        simp only [List.length_cons] at fits
        omega
      have next : settleContent firstBlock command (remaining - 1) paddingLen =
          .inl ⟨.content command (remaining - 1) paddingLen, firstBlock⟩ := if_neg more
      have count : remaining - 1 - bytes.length = remaining - (byte :: bytes).length := by
        simp only [List.length_cons]
        omega
      rw [next, resume_inl, induction last (by simp only [List.length_cons] at fits; omega),
        map_prepend_map_prepend, count]
      rfl

theorem run_padding (firstBlock : Bool) (command : UnpadCommand) {remaining : Nat}
    {bytes : List UInt8} (rest : List UInt8) (nonempty : bytes ≠ []) (fits : bytes.length ≤ remaining) :
    run Position.feedByte ⟨.padding command remaining, firstBlock⟩ (bytes ++ rest) =
      resume Position.feedByte (settlePadding firstBlock command (remaining - bytes.length)) rest := by
  induction bytes generalizing remaining with
  | nil => contradiction
  | cons byte bytes induction =>
    have moved : Position.feedByte ⟨.padding command remaining, firstBlock⟩ byte =
        .ok (settlePadding firstBlock command (remaining - 1), []) := rfl
    rw [List.cons_append, run_cons Position.feedByte moved, map_prepend_nil]
    by_cases last : bytes = []
    · subst last
      rfl
    · have more : remaining - 1 ≠ 0 := by
        have := List.length_pos_iff.mpr last
        simp only [List.length_cons] at fits
        omega
      have next : settlePadding firstBlock command (remaining - 1) =
          .inl ⟨.padding command (remaining - 1), firstBlock⟩ := if_neg more
      have count : remaining - 1 - bytes.length = remaining - (byte :: bytes).length := by
        simp only [List.length_cons]
        omega
      rw [next, resume_inl, induction last (by simp only [List.length_cons] at fits; omega), count]

/-- One pass of the loop agrees with the automaton standing at `position`, with `front` accumulated
or held before it: the pass fails as the run does, returns what the run reports, or goes round
again in a configuration that agrees with the automaton at the position the run reaches. -/
def PassAgrees (front data : List UInt8) (position : Position ⊕ UnpadCommand) : Result Pass → Prop
  | .error fault => resume Position.feedByte position data = .error fault
  | .ok (.ret result next) =>
    (resume Position.feedByte position data).map (report front) = .ok (result, next)
  | .ok (.next next accumulated data') =>
    ∃ position', next.position = some position' ∧ (next.firstBlock = true → accumulated = []) ∧
      (resume Position.feedByte position data).map (report front) =
        (resume Position.feedByte position' data').map (report (accumulated ++ next.state.held))

theorem PassAgrees.congr {front data other : List UInt8} {position start : Position ⊕ UnpadCommand}
    {passed : Result Pass}
    (same : resume Position.feedByte position data = resume Position.feedByte start other)
    (agrees : PassAgrees front other start passed) : PassAgrees front data position passed := by
  rcases passed with fault | ⟨result, next⟩ | ⟨next, accumulated, data'⟩ <;>
    simpa only [PassAgrees, same] using agrees

theorem passAgrees_move {position : Position} {byte : UInt8} {next : Position ⊕ UnpadCommand}
    (moved : position.feedByte byte = .ok (next, [])) {unpadder : VisionUnpadder}
    {accumulated : List UInt8} (data : List UInt8) (standing : unpadder.position = some next)
    (fresh : unpadder.firstBlock = true → accumulated = []) (holding : unpadder.state.held = []) :
    PassAgrees accumulated (byte :: data) (.inl position) (.ok (.next unpadder accumulated data)) := by
  refine ⟨next, standing, fresh, ?_⟩
  rw [resume_inl, run_cons Position.feedByte moved, map_prepend_nil, holding, List.append_nil]

theorem passAgrees_header_out_of_data {cursor : Cursor} {firstBlock : Bool} {accumulated : List UInt8}
    (fresh : firstBlock = true → accumulated = []) (unpadder : VisionUnpadder)
    (same : unpadder = (⟨cursor, firstBlock⟩ : Position).unpadder) :
    PassAgrees accumulated [] (.inl ⟨cursor, firstBlock⟩)
      (.ok (.ret (outOfDataInHeader firstBlock accumulated) unpadder)) := by
  subst same
  cases firstBlock with
  | false => simp [PassAgrees, report, outOfDataInHeader, outOfDataInBody, Except.map]
  | true =>
    rw [fresh rfl]
    simp [PassAgrees, report, outOfDataInHeader, outOfDataInBody, UnpadResult.empty, Except.map]

theorem passAgrees_completeBlock (firstBlock : Bool) (command : UnpadCommand)
    (content accumulated data : List UInt8) :
    PassAgrees (accumulated ++ content) data (settlePadding firstBlock command 0)
      (.ok (completeBlock command content accumulated data)) := by
  cases command with
  | «continue» => exact ⟨.inl ⟨.command, false⟩, rfl, nofun, by simp [UnpadState.held, settlePadding]⟩
  | «end» => simp [PassAgrees, completeBlock, settlePadding, report, Except.map]
  | direct => simp [PassAgrees, completeBlock, settlePadding, report, Except.map]

theorem passAgrees_readingCommand (firstBlock : Bool) (accumulated data : List UInt8)
    (fresh : firstBlock = true → accumulated = []) :
    PassAgrees accumulated data (.inl ⟨.command, firstBlock⟩)
      (VisionUnpadder.pass ⟨.readingCommand, firstBlock⟩ accumulated data) := by
  cases data with
  | nil => exact passAgrees_header_out_of_data fresh _ rfl
  | cons commandByte data =>
    rcases parsed : UnpadCommand.tryFrom commandByte with fault | command
    · -- an unknown command fails the loop and the run alike
      have failed : Position.feedByte ⟨.command, firstBlock⟩ commandByte = .error fault := by
        simp [Position.feedByte, parsed]
      simp [VisionUnpadder.pass, parsed, PassAgrees, run_cons_error Position.feedByte failed]
    · have passed : VisionUnpadder.pass ⟨.readingCommand, firstBlock⟩ accumulated (commandByte :: data) =
          .ok (.next ⟨.readingContentLength command none, firstBlock⟩ accumulated data) := by
        simp [VisionUnpadder.pass, parsed]
      rw [passed]
      exact passAgrees_move (by simp [Position.feedByte, parsed]) data rfl fresh rfl

theorem passAgrees_readingContentLength (firstBlock : Bool) (command : UnpadCommand)
    (firstByte : Option UInt8) (accumulated data : List UInt8)
    (fresh : firstBlock = true → accumulated = []) :
    PassAgrees accumulated data (.inl ⟨.contentLength command firstByte, firstBlock⟩)
      (VisionUnpadder.pass ⟨.readingContentLength command firstByte, firstBlock⟩ accumulated data) := by
  cases data with
  | nil => exact passAgrees_header_out_of_data fresh _ rfl
  | cons byte data =>
    cases firstByte with
    | none => exact passAgrees_move rfl data rfl fresh rfl
    | some highByte => exact passAgrees_move rfl data rfl fresh rfl

theorem passAgrees_readingPaddingLength (firstBlock : Bool) (command : UnpadCommand)
    (contentLen : Nat) (firstByte : Option UInt8) (accumulated data : List UInt8)
    (fresh : firstBlock = true → accumulated = []) :
    PassAgrees accumulated data (.inl ⟨.paddingLength command contentLen firstByte, firstBlock⟩)
      (VisionUnpadder.pass ⟨.readingPaddingLength command contentLen firstByte, firstBlock⟩
        accumulated data) := by
  cases data with
  | nil => exact passAgrees_header_out_of_data fresh _ rfl
  | cons byte data =>
    cases firstByte with
    | none => exact passAgrees_move rfl data rfl fresh rfl
    | some highByte => exact passAgrees_move rfl data rfl fresh rfl

theorem passAgrees_readingContent (firstBlock : Bool) (command : UnpadCommand)
    (partialContent : List UInt8) (remaining paddingLen : Nat) (accumulated data : List UInt8)
    (fresh : firstBlock = true → accumulated = []) :
    PassAgrees (accumulated ++ partialContent) data (settleContent firstBlock command remaining paddingLen)
      (VisionUnpadder.pass ⟨.readingContent command partialContent remaining paddingLen, firstBlock⟩
        accumulated data) := by
  by_cases positive : 0 < remaining
  · have standing : settleContent firstBlock command remaining paddingLen =
        .inl ⟨.content command remaining paddingLen, firstBlock⟩ := if_neg (by omega)
    rw [standing]
    by_cases empty : data = []
    · subst empty
      simp [VisionUnpadder.pass, positive, PassAgrees, report, Position.unpadder, Except.map]
    · -- a run of content is read at once: as many bytes as are left of it, or as there are
      set toRead := min remaining data.length with toRead_eq
      have taken : (data.take toRead).length = toRead := by
        rw [List.length_take]
        omega
      have nonempty : data.take toRead ≠ [] := by
        have long := List.length_pos_iff.mpr empty
        rw [← List.length_pos_iff, taken]
        omega
      have passed : VisionUnpadder.pass ⟨.readingContent command partialContent remaining paddingLen,
          firstBlock⟩ accumulated data =
          .ok (.next ⟨if remaining - toRead = 0 then
              .readingPadding command (partialContent ++ data.take toRead) paddingLen
            else .readingContent command (partialContent ++ data.take toRead) (remaining - toRead)
              paddingLen, firstBlock⟩ accumulated (data.drop toRead)) := by
        simp [VisionUnpadder.pass, positive, empty, toRead_eq]
      rw [passed]
      refine ⟨settleContent firstBlock command (remaining - toRead) paddingLen, ?_, fresh, ?_⟩
      · split_ifs with finished <;> simp [VisionUnpadder.position, finished, settleContent]
      · have held : (if remaining - toRead = 0 then
              UnpadState.readingPadding command (partialContent ++ data.take toRead) paddingLen
            else UnpadState.readingContent command (partialContent ++ data.take toRead)
              (remaining - toRead) paddingLen).held = partialContent ++ data.take toRead := by
          split_ifs <;> rfl
        conv_lhs => rw [← List.take_append_drop toRead data]
        rw [resume_inl, run_content firstBlock command paddingLen _ nonempty (by omega),
          map_report_prepend, taken, held, List.append_assoc]
  · -- all the content is read: the padding follows
    have zero : remaining = 0 := by omega
    subst zero
    exact ⟨settlePadding firstBlock command paddingLen, rfl, fresh, rfl⟩

theorem passAgrees_readingPadding (firstBlock : Bool) (command : UnpadCommand)
    (content : List UInt8) (remaining : Nat) (accumulated data : List UInt8)
    (fresh : firstBlock = true → accumulated = []) :
    PassAgrees (accumulated ++ content) data (settlePadding firstBlock command remaining)
      (VisionUnpadder.pass ⟨.readingPadding command content remaining, firstBlock⟩ accumulated data) := by
  by_cases positive : 0 < remaining
  · have standing : settlePadding firstBlock command remaining =
        .inl ⟨.padding command remaining, firstBlock⟩ := if_neg (by omega)
    rw [standing]
    by_cases empty : data = []
    · subst empty
      simp [VisionUnpadder.pass, positive, PassAgrees, report, Position.unpadder, Except.map]
    · -- a run of padding is skipped at once
      set toSkip := min remaining data.length with toSkip_eq
      have taken : (data.take toSkip).length = toSkip := by
        rw [List.length_take]
        omega
      have nonempty : data.take toSkip ≠ [] := by
        have long := List.length_pos_iff.mpr empty
        rw [← List.length_pos_iff, taken]
        omega
      have same : resume Position.feedByte (.inl ⟨.padding command remaining, firstBlock⟩) data =
          resume Position.feedByte (settlePadding firstBlock command (remaining - toSkip))
            (data.drop toSkip) := by
        conv_lhs => rw [← List.take_append_drop toSkip data]
        rw [resume_inl, run_padding firstBlock command _ nonempty (by omega), taken]
      by_cases finished : remaining - toSkip = 0
      · have passed : VisionUnpadder.pass ⟨.readingPadding command content remaining, firstBlock⟩
            accumulated data = .ok (completeBlock command content accumulated (data.drop toSkip)) := by
          simp [VisionUnpadder.pass, positive, empty, ← toSkip_eq, finished]
        rw [passed]
        exact (passAgrees_completeBlock firstBlock command content accumulated _).congr
          (by rw [same, finished])
      · have passed : VisionUnpadder.pass ⟨.readingPadding command content remaining, firstBlock⟩
            accumulated data = .ok (.next ⟨.readingPadding command content (remaining - toSkip),
              firstBlock⟩ accumulated (data.drop toSkip)) := by
          simp [VisionUnpadder.pass, positive, empty, ← toSkip_eq, finished]
        rw [passed]
        exact ⟨settlePadding firstBlock command (remaining - toSkip), rfl, fresh, by rw [same]; rfl⟩
  · -- no padding is left: the block is complete
    have zero : remaining = 0 := by omega
    subst zero
    have passed : VisionUnpadder.pass ⟨.readingPadding command content 0, firstBlock⟩ accumulated data =
        .ok (completeBlock command content accumulated data) := by
      simp [VisionUnpadder.pass]
    rw [passed]
    exact passAgrees_completeBlock firstBlock command content accumulated data

theorem passAgrees_pass {unpadder : VisionUnpadder} {position : Position ⊕ UnpadCommand}
    (standing : unpadder.position = some position) (accumulated data : List UInt8)
    (fresh : unpadder.firstBlock = true → accumulated = []) :
    PassAgrees (accumulated ++ unpadder.state.held) data position
      (unpadder.pass accumulated data) := by
  obtain ⟨state, firstBlock⟩ := unpadder
  cases state with
  | initial expectedUuid => simp [VisionUnpadder.position] at standing
  | readingCommand =>
    cases standing
    simpa [UnpadState.held] using passAgrees_readingCommand firstBlock accumulated data fresh
  | readingContentLength command firstByte =>
    cases standing
    simpa [UnpadState.held] using
      passAgrees_readingContentLength firstBlock command firstByte accumulated data fresh
  | readingPaddingLength command contentLen firstByte =>
    cases standing
    simpa [UnpadState.held] using
      passAgrees_readingPaddingLength firstBlock command contentLen firstByte accumulated data fresh
  | readingContent command partialContent remaining paddingLen =>
    cases standing
    exact passAgrees_readingContent firstBlock command partialContent remaining paddingLen
      accumulated data fresh
  | readingPadding command content remaining =>
    cases standing
    exact passAgrees_readingPadding firstBlock command content remaining accumulated data fresh
  | done => simp [VisionUnpadder.position] at standing

section Loop

variable {unpadder : VisionUnpadder} {accumulated data : List UInt8}

theorem unpadLoop_of_error {fault : Fault} (passed : unpadder.pass accumulated data = .error fault) :
    unpadder.unpadLoop accumulated data = .error fault := by
  rw [VisionUnpadder.unpadLoop]
  split <;> simp_all

theorem unpadLoop_of_ret {result : UnpadResult} {next : VisionUnpadder}
    (passed : unpadder.pass accumulated data = .ok (.ret result next)) :
    unpadder.unpadLoop accumulated data = .ok (result, next) := by
  rw [VisionUnpadder.unpadLoop]
  split <;> simp_all

theorem unpadLoop_of_next {next : VisionUnpadder} {accumulated' data' : List UInt8}
    (passed : unpadder.pass accumulated data = .ok (.next next accumulated' data')) :
    unpadder.unpadLoop accumulated data = next.unpadLoop accumulated' data' := by
  rw [VisionUnpadder.unpadLoop]
  split <;> simp_all

theorem unpadLoop_eq_resume {position : Position ⊕ UnpadCommand}
    (standing : unpadder.position = some position)
    (fresh : unpadder.firstBlock = true → accumulated = []) :
    unpadder.unpadLoop accumulated data =
      (resume Position.feedByte position data).map (report (accumulated ++ unpadder.state.held)) := by
  -- induction on the loop's measure, each pass by its agreement with the automaton
  obtain ⟨size, sized⟩ : ∃ size, data.length * 3 + unpadder.state.rank = size := ⟨_, rfl⟩
  induction size using Nat.strong_induction_on generalizing unpadder accumulated data position with
  | _ size induction =>
    have agrees := passAgrees_pass standing accumulated data fresh
    rcases passed : unpadder.pass accumulated data with fault | ⟨result, next⟩ | ⟨next, accumulated', data'⟩
    · rw [passed] at agrees
      rw [unpadLoop_of_error passed, show resume Position.feedByte position data = .error fault from agrees]
      rfl
    · rw [passed] at agrees
      exact (unpadLoop_of_ret passed).trans agrees.symm
    · rw [passed] at agrees
      obtain ⟨position', standing', fresh', same⟩ := agrees
      rw [unpadLoop_of_next passed, same]
      exact induction _ (sized ▸ pass_decreases passed) standing' fresh' rfl

end Loop

/-- A position the automaton stands at: some content or padding is left of the part it is in. -/
def Position.Standing (position : Position) : Prop :=
  match position.cursor with
  | .content _ remaining _ => 0 < remaining
  | .padding _ remaining => 0 < remaining
  | _ => True

theorem command_standing (firstBlock : Bool) : (⟨.command, firstBlock⟩ : Position).Standing :=
  trivial

theorem settlePadding_standing {firstBlock : Bool} {command : UnpadCommand} {remaining : Nat}
    {position : Position} (settled : settlePadding firstBlock command remaining = .inl position) :
    position.Standing := by
  unfold settlePadding at settled
  split_ifs at settled with zero <;> cases settled
  · trivial
  · exact Nat.pos_of_ne_zero zero

theorem settleContent_standing {firstBlock : Bool} {command : UnpadCommand} {remaining paddingLen : Nat}
    {position : Position} (settled : settleContent firstBlock command remaining paddingLen = .inl position) :
    position.Standing := by
  unfold settleContent at settled
  split_ifs at settled with zero
  · exact settlePadding_standing settled
  · cases settled
    exact Nat.pos_of_ne_zero zero

theorem feedByte_standing {position next : Position} {byte : UInt8} {content : List UInt8}
    (moved : position.feedByte byte = .ok (.inl next, content)) : next.Standing := by
  obtain ⟨cursor, firstBlock⟩ := position
  cases cursor with
  | command =>
    obtain ⟨command, -, moved⟩ := bind_eq_ok moved
    cases moved
    trivial
  | contentLength command firstByte => cases firstByte <;> (cases moved; trivial)
  | paddingLength command contentLen firstByte =>
    cases firstByte with
    | none => cases moved; trivial
    | some highByte =>
      simp only [Position.feedByte, Except.ok.injEq, Prod.mk.injEq] at moved
      exact settleContent_standing moved.1
  | content command remaining paddingLen =>
    simp only [Position.feedByte, Except.ok.injEq, Prod.mk.injEq] at moved
    exact settleContent_standing moved.1
  | padding command remaining =>
    simp only [Position.feedByte, Except.ok.injEq, Prod.mk.injEq] at moved
    exact settlePadding_standing moved.1

theorem run_standing {position next : Position} {data content : List UInt8}
    (standing : position.Standing)
    (ran : run Position.feedByte position data = .ok (.running next content)) : next.Standing := by
  induction data generalizing position content with
  | nil =>
    cases ran
    exact standing
  | cons byte data induction =>
    rcases moved : position.feedByte byte with fault | ⟨_ | command, emitted⟩
    · simp [run_cons_error Position.feedByte moved] at ran
    · rw [run_cons Position.feedByte moved, resume_inl] at ran
      obtain ⟨outcome, later, prepended⟩ := map_eq_ok ran
      cases outcome with
      | running state outputs =>
        cases prepended
        exact induction (feedByte_standing moved) later
      | ended final outputs rest => cases prepended
    · simp [run_cons Position.feedByte moved, Except.map, Outcome.prepend] at ran

theorem position_unpadder {position : Position} (standing : position.Standing) :
    position.unpadder.position = some (.inl position) := by
  obtain ⟨cursor, firstBlock⟩ := position
  cases cursor with
  | content command remaining paddingLen =>
    have nonzero : remaining ≠ 0 := Nat.pos_iff_ne_zero.mp standing
    simp [Position.unpadder, VisionUnpadder.position, settleContent, nonzero]
  | padding command remaining =>
    have nonzero : remaining ≠ 0 := Nat.pos_iff_ne_zero.mp standing
    simp [Position.unpadder, VisionUnpadder.position, settlePadding, nonzero]
  | _ => rfl

theorem unpad_eq_run {position : Position} (standing : position.Standing) (data : List UInt8) :
    position.unpadder.unpad data = (run Position.feedByte position data).map (report []) := by
  have holding : position.unpadder.state.held = [] := by
    obtain ⟨cursor, firstBlock⟩ := position
    cases cursor <;> rfl
  rw [VisionUnpadder.unpad, unpadLoop_eq_resume (position_unpadder standing) (fun _ => rfl),
    holding, resume_inl, List.append_nil]

/-- `unpad` called on each chunk in order, as a reader calls it: the results, and the unpadder
after the last call or the failure that stopped the calls. -/
def VisionUnpadder.unpadChunks (unpadder : VisionUnpadder) :
    List (List UInt8) → List UnpadResult × Result VisionUnpadder
  | [] => ([], .ok unpadder)
  | chunk :: chunks =>
    match unpadder.unpad chunk with
    | .error fault => ([], .error fault)
    | .ok (result, unpadder) =>
      (result :: (unpadder.unpadChunks chunks).1, (unpadder.unpadChunks chunks).2)

/-- A command that does not end the reading. -/
def UnpadResult.Continues (result : UnpadResult) : Prop :=
  result.command = none ∨ result.command = some .continue

theorem outOfDataInBody_continues (firstBlock : Bool) (content : List UInt8) :
    (outOfDataInBody firstBlock content).Continues := by
  cases firstBlock
  · exact .inr rfl
  · exact .inl rfl

theorem unpadChunks_running {position : Position} (standing : position.Standing)
    {chunks : List (List UInt8)} {next : Position} {content : List UInt8}
    (ran : run Position.feedByte position chunks.flatten = .ok (.running next content)) :
    ∃ results, position.unpadder.unpadChunks chunks = (results, .ok next.unpadder) ∧
      (results.map (·.content)).flatten = content ∧ ∀ result ∈ results, result.Continues := by
  induction chunks generalizing position content with
  | nil =>
    cases ran
    exact ⟨[], rfl, rfl, by simp⟩
  | cons chunk chunks induction =>
    rw [List.flatten_cons, run_append] at ran
    obtain ⟨outcome, first, rest⟩ := bind_eq_ok ran
    cases outcome with
    | ended final outputs unread => cases rest
    | running middle emitted =>
      -- the first call stops inside the run; the rest of the calls go on from there
      obtain ⟨later, laterRan, prepended⟩ := map_eq_ok rest
      cases later with
      | ended final outputs unread => cases prepended
      | running last outputs =>
        cases prepended
        obtain ⟨results, called, contents, continues⟩ :=
          induction (run_standing standing first) laterRan
        refine ⟨outOfDataInBody middle.firstBlock emitted :: results, ?_, ?_, ?_⟩
        · simp [VisionUnpadder.unpadChunks, unpad_eq_run standing, first, Except.map, report, called]
        · simp [contents, outOfDataInBody]
        · intro result member
          rcases List.mem_cons.mp member with rfl | later
          · exact outOfDataInBody_continues _ _
          · exact continues result later

/-- Calls over chunks on which the automaton ends within the last one return its content and
the input left after it, split where the chunks end; only the last call reports the final
command, and it leaves the unpadder done. -/
theorem unpadChunks_ended {position : Position} (standing : position.Standing)
    {front : List (List UInt8)} {last : List UInt8} {command : UnpadCommand} {content rest : List UInt8}
    (ran : run Position.feedByte position (front.flatten ++ last) = .ok (.ended command content rest))
    (within : rest.length < last.length) :
    ∃ results result, position.unpadder.unpadChunks (front ++ [last]) =
        (results ++ [result], .ok ⟨.done, false⟩) ∧
      (results.map (·.content)).flatten ++ result.content = content ++ rest ∧
      (∀ result ∈ results, result.Continues) ∧ result.command = some command := by
  induction front generalizing position content with
  | nil =>
    refine ⟨[], ⟨content ++ rest, some command⟩, ?_, by simp, by simp, rfl⟩
    simp only [List.flatten_nil, List.nil_append] at ran
    simp [VisionUnpadder.unpadChunks, unpad_eq_run standing, ran, Except.map, report]
  | cons chunk front induction =>
    rw [List.flatten_cons, List.append_assoc, run_append] at ran
    obtain ⟨outcome, first, later⟩ := bind_eq_ok ran
    cases outcome with
    | ended final outputs unread =>
      -- ending inside an earlier chunk leaves all of the last chunk unread
      simp only [Outcome.andThen, Except.ok.injEq, Outcome.ended.injEq] at later
      have longer := congrArg List.length later.2.2
      simp only [List.length_append] at longer
      omega
    | running middle emitted =>
      obtain ⟨outcome, laterRan, prepended⟩ := map_eq_ok later
      cases outcome with
      | running state outputs => cases prepended
      | ended final outputs unread =>
        simp only [Outcome.prepend, Outcome.ended.injEq] at prepended
        obtain ⟨rfl, rfl, rfl⟩ := prepended
        obtain ⟨results, result, called, contents, continues, reported⟩ :=
          induction (run_standing standing first) laterRan
        refine ⟨outOfDataInBody middle.firstBlock emitted :: results, result, ?_, ?_, ?_, reported⟩
        · simp [VisionUnpadder.unpadChunks, unpad_eq_run standing, first, Except.map, report, called]
        · simp [← contents, outOfDataInBody]
        · intro result member
          rcases List.mem_cons.mp member with rfl | later
          · exact outOfDataInBody_continues _ _
          · exact continues result later

theorem unpad_done (firstBlock : Bool) (data : List UInt8) :
    VisionUnpadder.unpad ⟨.done, firstBlock⟩ data = fail .invalidData "Already in UnpadState::Done" :=
  unpadLoop_of_error rfl

/-- A padding block: its command, content and padding, each length within a `u16`. -/
structure PaddingBlock where
  command : UnpadCommand
  content : List UInt8
  padding : List UInt8
  content_lt : content.length < 65536
  padding_lt : padding.length < 65536

/-- A block as `pad_with_command` writes it. -/
def PaddingBlock.encode (block : PaddingBlock) : List UInt8 :=
  padWithCommand block.content block.command.toByte block.padding

theorem run_header (firstBlock : Bool) (command : UnpadCommand) (contentLen paddingLen : UInt16)
    (rest : List UInt8) :
    run Position.feedByte ⟨.command, firstBlock⟩
        (command.toByte :: u16ToBe contentLen ++ u16ToBe paddingLen ++ rest) =
      resume Position.feedByte (settleContent firstBlock command contentLen.toNat paddingLen.toNat)
        rest := by
  obtain ⟨high, low, spelled, value⟩ := u16ToBe_pair contentLen
  obtain ⟨high', low', spelled', value'⟩ := u16ToBe_pair paddingLen
  have parsed : Position.feedByte ⟨.command, firstBlock⟩ command.toByte =
      .ok (.inl ⟨.contentLength command none, firstBlock⟩, []) := by
    simp [Position.feedByte]
  rw [spelled, spelled', ← value, ← value']
  simp only [List.cons_append, List.nil_append]
  rw [run_cons _ parsed, resume_inl, run_cons _ rfl, resume_inl, run_cons _ rfl, resume_inl,
    run_cons _ rfl, resume_inl, run_cons _ rfl]
  simp only [map_prepend_nil]

theorem resume_content (firstBlock : Bool) (command : UnpadCommand) (content rest : List UInt8)
    (paddingLen : Nat) :
    resume Position.feedByte (settleContent firstBlock command content.length paddingLen) (content ++ rest) =
      (resume Position.feedByte (settlePadding firstBlock command paddingLen) rest).map
        (·.prepend content) := by
  have past : settleContent firstBlock command 0 paddingLen = settlePadding firstBlock command paddingLen :=
    if_pos rfl
  by_cases empty : content = []
  · subst empty
    rw [List.length_nil, past, List.nil_append, map_prepend_nil]
  · have nonzero : content.length ≠ 0 := by simpa using empty
    rw [settleContent, if_neg nonzero, resume_inl,
      run_content firstBlock command paddingLen rest empty le_rfl, Nat.sub_self, past]

theorem resume_padding (firstBlock : Bool) (command : UnpadCommand) (padding rest : List UInt8) :
    resume Position.feedByte (settlePadding firstBlock command padding.length) (padding ++ rest) =
      resume Position.feedByte (settlePadding firstBlock command 0) rest := by
  by_cases empty : padding = []
  · subst empty
    rfl
  · have nonzero : padding.length ≠ 0 := by simpa using empty
    rw [settlePadding, if_neg nonzero, resume_inl,
      run_padding firstBlock command rest empty le_rfl, Nat.sub_self]

theorem run_encode (block : PaddingBlock) (firstBlock : Bool) (rest : List UInt8) :
    run Position.feedByte ⟨.command, firstBlock⟩ (block.encode ++ rest) =
      (resume Position.feedByte (settlePadding firstBlock block.command 0) rest).map
        (·.prepend block.content) := by
  have contentLen : (UInt16.ofNat block.content.length).toNat = block.content.length :=
    UInt16.toNat_ofNat_of_lt' block.content_lt
  have paddingLen : (UInt16.ofNat block.padding.length).toNat = block.padding.length :=
    UInt16.toNat_ofNat_of_lt' block.padding_lt
  have spelled : block.encode ++ rest =
      block.command.toByte :: u16ToBe (UInt16.ofNat block.content.length) ++
        u16ToBe (UInt16.ofNat block.padding.length) ++ (block.content ++ (block.padding ++ rest)) := by
    simp [PaddingBlock.encode, padWithCommand, pad]
  rw [spelled, run_header, contentLen, paddingLen, resume_content, resume_padding]

theorem run_blocks (blocks : List PaddingBlock) (continued : ∀ block ∈ blocks, block.command = .continue)
    (firstBlock : Bool) (rest : List UInt8) :
    run Position.feedByte ⟨.command, firstBlock⟩ (blocks.flatMap PaddingBlock.encode ++ rest) =
      (run Position.feedByte ⟨.command, firstBlock && blocks.isEmpty⟩ rest).map
        (·.prepend (blocks.map (·.content)).flatten) := by
  induction blocks generalizing firstBlock with
  | nil =>
    simp only [List.flatMap_nil, List.nil_append, List.isEmpty_nil, Bool.and_true, List.map_nil,
      List.flatten_nil, map_prepend_nil]
  | cons block blocks induction =>
    have continues : settlePadding firstBlock block.command 0 = .inl ⟨.command, false⟩ := by
      simp [settlePadding, continued block (by simp)]
    rw [List.flatMap_cons, List.append_assoc, run_encode, continues, resume_inl,
      induction (fun other member => continued other (by simp [member])), map_prepend_map_prepend]
    simp

theorem run_blocks_final (blocks : List PaddingBlock) (continued : ∀ block ∈ blocks, block.command = .continue)
    (final : PaddingBlock) (ending : final.command ≠ .continue) (firstBlock : Bool) (tail : List UInt8) :
    run Position.feedByte ⟨.command, firstBlock⟩ ((blocks ++ [final]).flatMap PaddingBlock.encode ++ tail) =
      .ok (.ended final.command ((blocks ++ [final]).map (·.content)).flatten tail) := by
  have ends : settlePadding (firstBlock && blocks.isEmpty) final.command 0 = .inr final.command := by
    simp [settlePadding, ending]
  rw [List.flatMap_append, List.append_assoc, run_blocks blocks continued, List.flatMap_singleton,
    run_encode, ends]
  simp [Except.map, Outcome.prepend]

theorem unpad_new (uuid : Uuid) (data : List UInt8) :
    (VisionUnpadder.new uuid).unpad (uuid.bytes ++ data) =
      (⟨.command, true⟩ : Position).unpadder.unpad data := by
  have front : (uuid.bytes ++ data).take 16 = uuid.bytes := List.take_left' uuid.length_eq
  have back : (uuid.bytes ++ data).drop 16 = data := List.drop_left' uuid.length_eq
  have long : ¬(uuid.bytes ++ data).length < 16 := by
    simp [uuid.length_eq]
  have passed : (VisionUnpadder.new uuid).pass [] (uuid.bytes ++ data) =
      .ok (.next ⟨.readingCommand, true⟩ [] data) := by
    simp only [VisionUnpadder.pass, VisionUnpadder.new, long, if_false, front, back, ne_eq,
      not_true_eq_false]
  rw [VisionUnpadder.unpad, unpadLoop_of_next passed]
  rfl

theorem unpadChunks_new {uuid : Uuid} {chunks : List (List UInt8)} {stream : List UInt8}
    (firstLong : ∀ first ∈ chunks.head?, 16 ≤ first.length)
    (spelled : chunks.flatten = uuid.bytes ++ stream) :
    ∃ first rest, chunks = (uuid.bytes ++ first) :: rest ∧ (first :: rest).flatten = stream ∧
      (VisionUnpadder.new uuid).unpadChunks chunks =
        (⟨.command, true⟩ : Position).unpadder.unpadChunks (first :: rest) := by
  cases chunks with
  | nil =>
    have empty := congrArg List.length spelled
    simp only [List.flatten_nil, List.length_nil, List.length_append, uuid.length_eq] at empty
    omega
  | cons chunk rest =>
    have long : 16 ≤ chunk.length := firstLong chunk rfl
    have taken : chunk.take 16 = uuid.bytes := by
      have front := congrArg (List.take 16) spelled
      rwa [List.flatten_cons, List.take_append_of_le_length long, List.take_left' uuid.length_eq]
        at front
    have dropped : chunk.drop 16 ++ rest.flatten = stream := by
      have back := congrArg (List.drop 16) spelled
      rwa [List.flatten_cons, List.drop_append_of_le_length long, List.drop_left' uuid.length_eq]
        at back
    have split : chunk = uuid.bytes ++ chunk.drop 16 := by
      rw [← taken, List.take_append_drop]
    refine ⟨chunk.drop 16, rest, by rw [← split], by simpa using dropped, ?_⟩
    conv_lhs => rw [split]
    simp [VisionUnpadder.unpadChunks, unpad_new]

section Stream

variable {uuid : Uuid} {blocks : List PaddingBlock}

theorem unpadChunks_continued (continued : ∀ block ∈ blocks, block.command = .continue)
    (nonempty : blocks ≠ []) {chunks : List (List UInt8)}
    (firstLong : ∀ first ∈ chunks.head?, 16 ≤ first.length)
    (spelled : chunks.flatten = uuid.bytes ++ blocks.flatMap PaddingBlock.encode) :
    ∃ results, (VisionUnpadder.new uuid).unpadChunks chunks = (results, .ok ⟨.readingCommand, false⟩) ∧
      (results.map (·.content)).flatten = (blocks.map (·.content)).flatten ∧
      ∀ result ∈ results, result.Continues := by
  obtain ⟨first, rest, -, stream, called⟩ := unpadChunks_new firstLong spelled
  have ran : run Position.feedByte ⟨.command, true⟩ (first :: rest).flatten =
      .ok (.running ⟨.command, false⟩ (blocks.map (·.content)).flatten) := by
    have whole := run_blocks blocks continued true []
    rw [List.append_nil] at whole
    rw [stream, whole]
    simp [nonempty, Except.map, Outcome.prepend]
  rw [called]
  exact unpadChunks_running (command_standing true) ran

/-- Blocks whose last one ends the reading, fed in chunks of which the last holds that block's
last byte: the calls return the blocks' contents and the bytes after them, and only the last
call reports the final command, leaving the unpadder done. -/
theorem unpadChunks_final (continued : ∀ block ∈ blocks, block.command = .continue)
    {final : PaddingBlock} (ending : final.command ≠ .continue) {front : List (List UInt8)}
    {last tail : List UInt8} (firstLong : ∀ first ∈ (front ++ [last]).head?, 16 ≤ first.length)
    (spelled : (front ++ [last]).flatten =
      uuid.bytes ++ (blocks ++ [final]).flatMap PaddingBlock.encode ++ tail)
    (within : tail.length < last.length) :
    ∃ results result, (VisionUnpadder.new uuid).unpadChunks (front ++ [last]) =
        (results ++ [result], .ok ⟨.done, false⟩) ∧
      (results.map (·.content)).flatten ++ result.content =
        ((blocks ++ [final]).map (·.content)).flatten ++ tail ∧
      (∀ result ∈ results, result.Continues) ∧ result.command = some final.command := by
  rw [List.append_assoc] at spelled
  obtain ⟨first, rest, chunksEq, stream, called⟩ := unpadChunks_new firstLong spelled
  -- after the UUID, the last chunk still holds more than the bytes after the blocks
  obtain ⟨front', last', shape, within'⟩ :
      ∃ front' last', first :: rest = front' ++ [last'] ∧ tail.length < last'.length := by
    cases front with
    | nil =>
      simp only [List.nil_append, List.cons.injEq] at chunksEq
      obtain ⟨rfl, rfl⟩ := chunksEq
      refine ⟨[], first, rfl, ?_⟩
      have lengths := congrArg List.length stream
      have encoded : 0 < (final.encode).length := by
        simp [PaddingBlock.encode, padWithCommand, pad]
      simp only [List.flatten_cons, List.flatten_nil, List.append_nil, List.flatMap_append,
        List.flatMap_singleton, List.length_append] at lengths
      omega
    | cons chunk front =>
      simp only [List.cons_append, List.cons.injEq] at chunksEq
      exact ⟨first :: front, last, by rw [← chunksEq.2]; rfl, within⟩
  have ran : run Position.feedByte ⟨.command, true⟩ (front'.flatten ++ last') =
      .ok (.ended final.command ((blocks ++ [final]).map (·.content)).flatten tail) := by
    have whole : front'.flatten ++ last' = (first :: rest).flatten := by
      rw [shape, List.flatten_append, List.flatten_singleton]
    rw [whole, stream, run_blocks_final blocks continued final ending]
  rw [called, shape]
  exact unpadChunks_ended (command_standing true) ran within'

end Stream

/-- A padded stream fed to `unpad` in chunks whose first holds the UUID: when the last block
continues and nothing follows it, the calls return the blocks' contents and no final command;
when the last block ends the reading and the last chunk holds its last byte, they return the
contents and the bytes after the blocks, and only the last call reports the final command, which
leaves the unpadder done. -/
theorem unpad_padded_stream (uuid : Uuid) (blocks : List PaddingBlock) (final : PaddingBlock)
    (continued : ∀ block ∈ blocks, block.command = .continue) :
    (final.command = .continue → ∀ chunks : List (List UInt8),
      (∀ first ∈ chunks.head?, 16 ≤ first.length) →
      chunks.flatten = uuid.bytes ++ (blocks ++ [final]).flatMap PaddingBlock.encode →
      ∃ results, (VisionUnpadder.new uuid).unpadChunks chunks = (results, .ok ⟨.readingCommand, false⟩) ∧
        (results.map (·.content)).flatten = ((blocks ++ [final]).map (·.content)).flatten ∧
        ∀ result ∈ results, result.Continues) ∧
    (final.command ≠ .continue → ∀ (front : List (List UInt8)) (last tail : List UInt8),
      (∀ first ∈ (front ++ [last]).head?, 16 ≤ first.length) →
      (front ++ [last]).flatten = uuid.bytes ++ (blocks ++ [final]).flatMap PaddingBlock.encode ++ tail →
      tail.length < last.length →
      ∃ results result, (VisionUnpadder.new uuid).unpadChunks (front ++ [last]) =
          (results ++ [result], .ok ⟨.done, false⟩) ∧
        (results.map (·.content)).flatten ++ result.content =
          ((blocks ++ [final]).map (·.content)).flatten ++ tail ∧
        (∀ result ∈ results, result.Continues) ∧ result.command = some final.command) := by
  constructor
  · intro continues chunks firstLong spelled
    have allContinue : ∀ block ∈ blocks ++ [final], block.command = .continue := by
      intro block member
      rcases List.mem_append.mp member with earlier | last
      · exact continued block earlier
      · rw [List.mem_singleton.mp last]
        exact continues
    exact unpadChunks_continued allContinue (by simp) firstLong spelled
  · intro ending front last tail firstLong spelled within
    exact unpadChunks_final continued ending firstLong spelled within

/-- A UUID of zeros. -/
def zeroUuid : Uuid :=
  ⟨List.replicate 16 0, rfl⟩

theorem unpad_padded_stream_sample :
    ∃ results result, (VisionUnpadder.new zeroUuid).unpadChunks
        ([zeroUuid.bytes ++ [0, 0, 1]] ++ [[0, 1, 7, 9, 1, 0, 0, 0, 0, 5]]) =
          (results ++ [result], .ok ⟨.done, false⟩) ∧
      (results.map (·.content)).flatten ++ result.content = [7, 5] ∧
      (∀ result ∈ results, result.Continues) ∧ result.command = some .end :=
  (unpad_padded_stream zeroUuid [⟨.continue, [7], [9], by decide, by decide⟩]
    ⟨.end, [], [], by decide, by decide⟩ (by decide)).2 (by decide)
    [zeroUuid.bytes ++ [0, 0, 1]] [0, 1, 7, 9, 1, 0, 0, 0, 0, 5] [5] (by decide) (by decide) (by decide)

/-- An `End` block whose UUID and block fill the first chunk, and one byte after it in a second
chunk: the first call returns the command, and the second fails, so the byte after the block is
never returned. -/
theorem tail_after_final_block_lost :
    (VisionUnpadder.new zeroUuid).unpadChunks
        [zeroUuid.bytes ++ PaddingBlock.encode ⟨.end, [], [], by decide, by decide⟩, [7]] =
      ([⟨[], some .end⟩], fail .invalidData "Already in UnpadState::Done") := by
  have first : (VisionUnpadder.new zeroUuid).unpad
      (zeroUuid.bytes ++ PaddingBlock.encode ⟨.end, [], [], by decide, by decide⟩) =
        .ok (⟨[], some .end⟩, ⟨.done, false⟩) := by
    rw [unpad_new, unpad_eq_run (command_standing true)]
    rfl
  simp [VisionUnpadder.unpadChunks, first, unpad_done, fail]

end Shoes.Vision
