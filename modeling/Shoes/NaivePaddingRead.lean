import Shoes.NaivePadding
import Shoes.Lib.Residual

/-!
# Reading a padded stream

The reader of `NaivePaddingStream` decodes straight into the caller's `ReadBuf`, handing out a
payload as its bytes come and skipping the padding later. What its state and the bytes it has not
read yet stand for (`expected`) is kept exact by every call: the bytes a call delivers followed by
what the stream after it stands for are what the stream before stood for (`pollRead_step`). Over
any run of calls the bytes delivered are therefore the front of the unpadded stream, whatever the
inner stream's chunks and the caller's buffers, and all of it once a call is pending
(`pollRead_unpads`). A call that needs more bytes leaves fewer than a padding's worth in the
buffer, so the buffer has room for the next read and the reader never reports a false end of
stream (`pollRead_never_ends_early`); at the inner stream's end it reports the end only once it has
handed out everything (`pollRead_ends_after_all`).
-/

namespace Shoes.NaiveProxy

open Wire CopyBidirectional

namespace NaivePaddingStream

/-- The frames still to be decoded as padded frames. -/
def framesLeft (stream : NaivePaddingStream) : Nat :=
  if stream.paddingType = .none then 0 else numFirstPaddings - stream.numReadFrames

/-- What a reader in this state delivers from here on when the inner stream goes on with
`unread`: the rest of the frame being decoded, the frames after it, then the bytes as they are. -/
def expected (stream : NaivePaddingStream) (unread : List UInt8) : List UInt8 :=
  match stream.currentFrame with
  | none => unpadFrames stream.framesLeft (stream.readBuffered ++ unread)
  | some (payloadLen, paddingLen, payloadDelivered) =>
    resumeFrame (stream.framesLeft - 1) (payloadLen - payloadDelivered) paddingLen
      (stream.readBuffered ++ unread)

/-- The invariant of the read side: the undecoded bytes lie within the read buffer, and a frame
being decoded has delivered no more than its payload, has a padding length that a byte holds,
and is one of the padded frames. -/
structure Consistent (stream : NaivePaddingStream) : Prop where
  bounded : stream.readBufferEnd ≤ maxFrameSize
  framed : ∀ {payloadLen paddingLen payloadDelivered}, stream.currentFrame =
    some (payloadLen, paddingLen, payloadDelivered) →
      payloadDelivered ≤ payloadLen ∧ paddingLen < 256 ∧ 0 < stream.framesLeft

theorem shouldPadReads_iff (stream : NaivePaddingStream) :
    stream.shouldPadReads = true ↔ 0 < stream.framesLeft := by
  unfold shouldPadReads framesLeft
  cases stream.paddingType with
  | none => simp
  | variant1 =>
    simp [numFirstPaddings]
    exact decide_eq_true_iff

theorem expected_of_none {stream : NaivePaddingStream} (idle : stream.currentFrame = none)
    (unread : List UInt8) :
    stream.expected unread = unpadFrames stream.framesLeft (stream.readBuffered ++ unread) := by
  simp [expected, idle]

theorem expected_of_some {stream : NaivePaddingStream} {payloadLen paddingLen payloadDelivered : Nat}
    (current : stream.currentFrame = some (payloadLen, paddingLen, payloadDelivered))
    (unread : List UInt8) :
    stream.expected unread = resumeFrame (stream.framesLeft - 1) (payloadLen - payloadDelivered)
      paddingLen (stream.readBuffered ++ unread) := by
  simp [expected, current]

theorem consistent_new (direction : PaddingDirection) (paddingType : PaddingType) :
    Consistent (new direction paddingType) :=
  ⟨by simp [new, readBufferEnd, maxFrameSize], by simp [new]⟩

theorem expected_new (direction : PaddingDirection) (unread : List UInt8) :
    (new direction .variant1).expected unread = unpadFrames numFirstPaddings unread := by
  simp [new, expected, framesLeft]

theorem expected_append (stream : NaivePaddingStream) (bytes unread : List UInt8) :
    { stream with readBuffered := stream.readBuffered ++ bytes }.expected unread =
      stream.expected (bytes ++ unread) := by
  simp only [expected, framesLeft, List.append_assoc]

@[simp] theorem maybeResetReadBuffer_readBuffered (stream : NaivePaddingStream) :
    stream.maybeResetReadBuffer.readBuffered = stream.readBuffered := by
  unfold maybeResetReadBuffer; split <;> rfl

@[simp] theorem maybeResetReadBuffer_currentFrame (stream : NaivePaddingStream) :
    stream.maybeResetReadBuffer.currentFrame = stream.currentFrame := by
  unfold maybeResetReadBuffer; split <;> rfl

@[simp] theorem maybeResetReadBuffer_framesLeft (stream : NaivePaddingStream) :
    stream.maybeResetReadBuffer.framesLeft = stream.framesLeft := by
  unfold maybeResetReadBuffer; split <;> rfl

theorem maybeResetReadBuffer_readBufferEnd (stream : NaivePaddingStream) :
    stream.maybeResetReadBuffer.readBufferEnd ≤ stream.readBufferEnd := by
  unfold maybeResetReadBuffer readBufferEnd
  split <;> simp

theorem resetReadBufferOffset_eq (stream : NaivePaddingStream) :
    stream.resetReadBufferOffset = { stream with readBufferStart := 0 } := by
  unfold resetReadBufferOffset readBufferEnd
  split
  · rfl
  · split
    · next emptied =>
      have empty : stream.readBuffered = [] := List.eq_nil_of_length_eq_zero (by omega)
      simp [empty]
    · next moved stays =>
      have front : stream.readBufferStart = 0 := by omega
      simp [← front]

@[simp] theorem skipPadding_currentFrame (stream : NaivePaddingStream) (paddingLen : Nat) :
    (stream.skipPadding paddingLen).currentFrame = none := by
  simp [skipPadding]

@[simp] theorem skipPadding_readBuffered (stream : NaivePaddingStream) (paddingLen : Nat) :
    (stream.skipPadding paddingLen).readBuffered = stream.readBuffered.drop paddingLen := by
  simp [skipPadding]

theorem skipPadding_framesLeft (stream : NaivePaddingStream) (paddingLen : Nat)
    (padded : 0 < stream.framesLeft) :
    (stream.skipPadding paddingLen).framesLeft = stream.framesLeft - 1 := by
  rw [skipPadding, maybeResetReadBuffer_framesLeft]
  unfold framesLeft at padded ⊢
  split at padded
  · simp at padded
  · simp only [if_neg ‹_›]
    omega

/-- What a call of `try_decode_to_buf` into `remaining` bytes of room does, in terms of what the
reader stands for: it keeps the invariant, what it puts in the `ReadBuf` followed by what the
stream after stands for is what the stream before stood for; when it needs more data it has
delivered all the buffer stands for, with fewer bytes left in it than a padding; and what it
delivers fits the room, nothing being delivered only when a frame ends. -/
structure DecodeStep (stream : NaivePaddingStream) (remaining : Nat) (out : Option (List UInt8))
    (next : NaivePaddingStream) : Prop where
  consistent : Consistent next
  follows : ∀ unread, out.getD [] ++ next.expected unread = stream.expected unread
  waiting : out = none →
    next.readBuffered.length < 256 ∧ next.expected [] = [] ∧ next.framesLeft = stream.framesLeft
  filled : ∀ {bytes}, out = some bytes →
    bytes.length ≤ remaining ∧ (bytes = [] → next.framesLeft < stream.framesLeft)

section Step

variable {stream : NaivePaddingStream} {remaining payloadLen paddingLen payloadDelivered : Nat}

theorem DecodeStep.wait (consistent : Consistent stream) (few : stream.readBuffered.length < 256)
    (drained : stream.expected [] = []) : DecodeStep stream remaining none stream :=
  ⟨consistent, fun _ => rfl, fun _ => ⟨few, drained, rfl⟩, fun absurd => by cases absurd⟩

theorem DecodeStep.deliver (consistent : Consistent stream)
    (current : stream.currentFrame = some (payloadLen, paddingLen, payloadDelivered))
    {count : Nat} (positive : 0 < count) (buffered : count ≤ stream.readBuffered.length)
    (fits : count ≤ remaining) (within : payloadDelivered + count ≤ payloadLen) :
    DecodeStep stream remaining (some (stream.readBuffered.take count))
      { stream with readBufferStart := stream.readBufferStart + count,
                    readBuffered := stream.readBuffered.drop count,
                    currentFrame := some (payloadLen, paddingLen, payloadDelivered + count) } := by
  obtain ⟨_, padding, padded⟩ := consistent.framed current
  refine ⟨⟨?_, ?_⟩, ?_, fun absurd => (by cases absurd), ?_⟩
  · have bound := consistent.bounded
    simp only [readBufferEnd, List.length_drop] at bound ⊢
    omega
  · intro _ _ _ reframed
    cases reframed
    exact ⟨within, padding, padded⟩
  · intro unread
    have left : payloadLen - (payloadDelivered + count) = payloadLen - payloadDelivered - count := by
      omega
    have front : stream.readBuffered.take count = (stream.readBuffered ++ unread).take count :=
      (List.take_append_of_le_length buffered).symm
    have back : stream.readBuffered.drop count ++ unread =
        (stream.readBuffered ++ unread).drop count :=
      (List.drop_append_of_le_length buffered).symm
    rw [expected_of_some rfl, expected_of_some current, Option.getD_some, left, front, back]
    exact resumeFrame_drop _ _ _ _ (by omega)
  · intro bytes handed
    cases handed
    refine ⟨by simp; omega, fun empty => ?_⟩
    rcases List.take_eq_nil_iff.mp empty with zero | nil
    · omega
    · simp [nil] at buffered
      omega

theorem DecodeStep.finish (consistent : Consistent stream)
    (current : stream.currentFrame = some (payloadLen, paddingLen, payloadDelivered))
    {count : Nat} (buffered : count ≤ stream.readBuffered.length) (fits : count ≤ remaining)
    (ends : payloadDelivered + count = payloadLen)
    (padded : paddingLen ≤ (stream.readBuffered.drop count).length) :
    DecodeStep stream remaining (some (stream.readBuffered.take count))
      (skipPadding { stream with readBufferStart := stream.readBufferStart + count,
                                 readBuffered := stream.readBuffered.drop count } paddingLen) := by
  obtain ⟨_, _, framed⟩ := consistent.framed current
  have fewer : (skipPadding { stream with readBufferStart := stream.readBufferStart + count,
                                           readBuffered := stream.readBuffered.drop count }
      paddingLen).framesLeft = stream.framesLeft - 1 :=
    skipPadding_framesLeft _ paddingLen framed
  refine ⟨⟨?_, ?_⟩, ?_, fun absurd => (by cases absurd), ?_⟩
  · refine le_trans (maybeResetReadBuffer_readBufferEnd _) ?_
    have bound := consistent.bounded
    simp only [readBufferEnd, List.length_drop] at bound padded ⊢
    omega
  · intro _ _ _ reframed
    simp at reframed
  · intro unread
    have left : payloadLen - payloadDelivered = count := by omega
    have front : stream.readBuffered.take count = (stream.readBuffered ++ unread).take count :=
      (List.take_append_of_le_length buffered).symm
    have back : (stream.readBuffered.drop count).drop paddingLen ++ unread =
        (stream.readBuffered ++ unread).drop (count + paddingLen) := by
      rw [List.drop_drop, List.drop_append_of_le_length (by simp at padded; omega)]
    rw [expected_of_none (skipPadding_currentFrame _ _), skipPadding_readBuffered, fewer,
      expected_of_some current, left, resumeFrame, Option.getD_some, front, back]
  · intro bytes handed
    cases handed
    refine ⟨by simp; omega, fun _ => ?_⟩
    rw [fewer]
    exact Nat.sub_lt framed Nat.one_pos

theorem DecodeStep.congr {header : NaivePaddingStream} {out : Option (List UInt8)}
    {next : NaivePaddingStream} (step : DecodeStep header remaining out next)
    (same : ∀ unread, header.expected unread = stream.expected unread)
    (sameFrames : header.framesLeft = stream.framesLeft) : DecodeStep stream remaining out next := by
  refine ⟨step.consistent, fun unread => (step.follows unread).trans (same unread), ?_, ?_⟩
  · intro waits
    obtain ⟨few, drained, frames⟩ := step.waiting waits
    exact ⟨few, drained, frames.trans sameFrames⟩
  · intro bytes handed
    obtain ⟨fits, ends⟩ := step.filled handed
    exact ⟨fits, fun empty => sameFrames ▸ ends empty⟩

theorem continueFrame_step (consistent : Consistent stream)
    (current : stream.currentFrame = some (payloadLen, paddingLen, payloadDelivered))
    (roomy : 0 < remaining) :
    DecodeStep stream remaining
      (stream.continueFrame remaining payloadLen paddingLen payloadDelivered).1
      (stream.continueFrame remaining payloadLen paddingLen payloadDelivered).2 := by
  obtain ⟨delivered, padding, _⟩ := consistent.framed current
  unfold continueFrame
  dsimp only
  split
  · split
    · next empty =>
      -- payload is still to come and nothing is buffered
      apply DecodeStep.wait consistent (by omega)
      rw [expected_of_some current, List.eq_nil_of_length_eq_zero empty]
      simp
    · split
      · exact DecodeStep.deliver consistent current (by omega) (by omega) (by omega) (by omega)
      · split
        · exact DecodeStep.deliver consistent current (by omega) (by omega) (by omega) (by omega)
        · next _ _ buffered =>
          exact DecodeStep.finish consistent current (by omega) (by omega) (by omega)
            (by simpa using buffered)
  · split
    · next _ short =>
      -- the payload is out and the padding is not all buffered yet
      apply DecodeStep.wait consistent (by omega)
      have nothingLeft : payloadLen - payloadDelivered = 0 := by omega
      rw [expected_of_some current, nothingLeft, resumeFrame_zero,
        List.drop_eq_nil_of_le (by simpa using short.le)]
      simp
    · next done buffered =>
      exact DecodeStep.finish consistent current (Nat.zero_le _) (Nat.zero_le _) (by omega)
        (by simpa using buffered)

theorem tryDecodeToBuf_step (consistent : Consistent stream) (padded : 0 < stream.framesLeft)
    (roomy : 0 < remaining) :
    DecodeStep stream remaining (stream.tryDecodeToBuf remaining).1
      (stream.tryDecodeToBuf remaining).2 := by
  unfold tryDecodeToBuf
  split
  · next current => exact continueFrame_step consistent current roomy
  · next idle =>
    split
    · next high low padding rest buffered =>
      have header : Consistent { stream with
          readBufferStart := stream.readBufferStart + paddingHeaderSize, readBuffered := rest,
          currentFrame := some ((u16FromBe [high, low]).toNat, padding.toNat, 0) } := by
        refine ⟨?_, ?_⟩
        · have bound := consistent.bounded
          simp only [readBufferEnd, buffered, List.length_cons] at bound ⊢
          simp only [paddingHeaderSize]
          omega
        · intro _ _ _ reframed
          cases reframed
          exact ⟨Nat.zero_le _, padding.toNat_lt, padded⟩
      dsimp only
      refine (continueFrame_step header rfl roomy).congr (fun unread => ?_) rfl
      -- the header's frame stands for the first of the frames the stream stood for
      show resumeFrame (stream.framesLeft - 1) ((u16FromBe [high, low]).toNat - 0) padding.toNat
        (rest ++ unread) = _
      obtain ⟨frames, count⟩ := Nat.exists_eq_add_of_lt padded
      rw [expected_of_none idle, buffered, count]
      simp only [Nat.sub_zero, Nat.zero_add, Nat.add_sub_cancel, List.cons_append,
        unpadFrames_succ_cons]
    · next notHeader =>
      have short : stream.readBuffered.length < paddingHeaderSize := by
        rcases buffered : stream.readBuffered with _ | ⟨high, _ | ⟨low, _ | ⟨padding, rest⟩⟩⟩
        · simp [paddingHeaderSize]
        · simp [paddingHeaderSize]
        · simp [paddingHeaderSize]
        · exact absurd buffered (notHeader high low padding rest)
      apply DecodeStep.wait consistent (by simp only [paddingHeaderSize] at short; omega)
      rw [expected_of_none idle, List.append_nil]
      exact unpadFrames_short padded short

end Step

theorem readIncoming_stillLive {room : Nat} {incoming rest : Incoming} {bytes : List UInt8}
    (read : readIncoming room incoming = some (bytes, rest))
    (live : ∀ chunk ∈ incoming, chunk ≠ []) : ∀ chunk ∈ rest, chunk ≠ [] := by
  cases incoming with
  | nil => cases read
  | cons first chunks =>
    simp only [readIncoming] at read
    split at read
    · next cut =>
      cases read
      intro chunk member
      rcases List.mem_cons.mp member with rfl | later
      · simpa [List.drop_eq_nil_iff] using cut
      · exact live chunk (List.mem_cons_of_mem _ later)
    · cases read
      exact fun chunk member => live chunk (List.mem_cons_of_mem _ member)

/-- The inner stream's reads have bytes until the last, which may be its end. -/
def EndsAtLast (incoming : Incoming) : Prop := ∀ chunk ∈ incoming.dropLast, chunk ≠ []

instance : DecidablePred EndsAtLast := fun incoming =>
  inferInstanceAs (Decidable (∀ chunk ∈ incoming.dropLast, chunk ≠ []))

theorem EndsAtLast.of_cons {first : List UInt8} {chunks : Incoming}
    (endsAtLast : EndsAtLast (first :: chunks)) : EndsAtLast chunks := by
  intro chunk member
  have nonempty : chunks ≠ [] := by rintro rfl; simp at member
  exact endsAtLast chunk (by rw [List.dropLast_cons_of_ne_nil nonempty]; exact List.mem_cons_of_mem _ member)

theorem readIncoming_endsAtLast {room : Nat} {incoming rest : Incoming} {bytes : List UInt8}
    (read : readIncoming room incoming = some (bytes, rest)) (endsAtLast : EndsAtLast incoming) :
    EndsAtLast rest := by
  cases incoming with
  | nil => cases read
  | cons first chunks =>
    simp only [readIncoming] at read
    split at read
    · next cut =>
      -- the cut chunk keeps bytes, and the reads after it are those of the stream before
      cases read
      have left : first.drop room ≠ [] := by simpa [List.drop_eq_nil_iff] using cut
      intro chunk member
      cases chunks with
      | nil => simp at member
      | cons second later =>
        rw [List.dropLast_cons_of_ne_nil (List.cons_ne_nil _ _)] at member
        rcases List.mem_cons.mp member with rfl | member
        · exact left
        · exact endsAtLast.of_cons chunk member
    · cases read
      exact endsAtLast.of_cons

theorem readIncoming_end {room : Nat} (roomy : 0 < room) {incoming rest : Incoming}
    (read : readIncoming room incoming = some ([], rest)) (endsAtLast : EndsAtLast incoming) :
    incoming.flatten = [] := by
  cases incoming with
  | nil => cases read
  | cons first chunks =>
    simp only [readIncoming] at read
    have taken : first.take room = [] := by
      split at read <;> (simp only [Option.some.injEq, Prod.mk.injEq] at read; exact read.1)
    have empty : first = [] := by
      simpa [List.take_eq_nil_iff, Nat.pos_iff_ne_zero.mp roomy] using taken
    subst empty
    -- an empty read is the last one
    cases chunks with
    | nil => rfl
    | cons second later => exact absurd rfl (endsAtLast [] (by simp))

/-- The bytes a `poll_read` put in the `ReadBuf`. -/
def filledBytes : Poll (List UInt8) → List UInt8
  | .ready (.ok filled) => filled
  | _ => []

/-- What a `poll_read` into `remaining` bytes of room does, in terms of what the reader stands
for. It keeps the invariant; the bytes it puts in the `ReadBuf`, no more than the room, followed
by what the stream after and the inner stream's chunks left stand for, are what the stream and
the chunks stood for before; when it is pending, nothing the bytes read stand for is left
undelivered; and on an inner stream whose reads all have bytes, a call with room is pending or
delivers a byte at least, and the reads it leaves all have bytes. On an inner stream that ends at
its last read, a call with room reports the end only once the stream and the reads stand for
nothing more, and the reads it leaves end at their last. -/
structure ReadStep (stream : NaivePaddingStream) (remaining : Nat) (incoming : Incoming)
    (result : Poll (List UInt8) × NaivePaddingStream × Incoming) : Prop where
  consistent : Consistent result.2.1
  follows : filledBytes result.1 ++ result.2.1.expected result.2.2.flatten =
    stream.expected incoming.flatten
  fits : (filledBytes result.1).length ≤ remaining
  drained : result.1 = .pending → result.2.1.expected result.2.2.flatten = []
  progress : 0 < remaining → (∀ chunk ∈ incoming, chunk ≠ []) →
    result.1 = .pending ∨ filledBytes result.1 ≠ []
  stillLive : (∀ chunk ∈ incoming, chunk ≠ []) → ∀ chunk ∈ result.2.2, chunk ≠ []
  ended : 0 < remaining → result.1 = .ready (.ok []) → EndsAtLast incoming →
    stream.expected incoming.flatten = []
  stillEndsAtLast : EndsAtLast incoming → EndsAtLast result.2.2

section Call

variable {stream : NaivePaddingStream} {remaining : Nat} {incoming : Incoming}

theorem ReadStep.inner (consistent : Consistent stream)
    (raw : ∀ unread, stream.expected unread = unread) :
    ReadStep stream remaining incoming
      (match readIncoming remaining incoming with
        | none => (.pending, stream, incoming)
        | some (filled, incoming) => (.ready (.ok filled), stream, incoming)) := by
  cases read : readIncoming remaining incoming with
  | none =>
    have nothing := readIncoming_eq_none.mp read
    exact ⟨consistent, rfl, by simp [filledBytes], fun _ => by simp [nothing, raw],
      fun _ _ => .inl rfl, fun live => live, fun _ ended => (by cases ended),
      fun endsAtLast => endsAtLast⟩
  | some taken =>
    obtain ⟨filled, rest⟩ := taken
    obtain ⟨front, _⟩ := readIncoming_flatten read
    refine ⟨consistent, by simp [filledBytes, raw, front], readIncoming_length_le read,
      fun pending => (by cases pending), ?_, readIncoming_stillLive read, ?_,
      readIncoming_endsAtLast read⟩
    rotate_left
    · -- with room, a read of nothing is the end of the stream
      intro roomy ended endsAtLast
      cases ended
      rw [raw, readIncoming_end roomy read endsAtLast]
    intro roomy live
    cases incoming with
    | nil => cases read
    | cons chunk chunks =>
      obtain ⟨bytes, later, again, nonempty, _⟩ := readIncoming_live roomy live
      rw [read] at again
      cases again
      exact .inr nonempty

theorem drainReadBuffer_spec (stream : NaivePaddingStream) (remaining : Nat) :
    (stream.drainReadBuffer remaining).1 ++ (stream.drainReadBuffer remaining).2.readBuffered =
        stream.readBuffered ∧
      (stream.drainReadBuffer remaining).1.length = min stream.readBuffered.length remaining ∧
      (stream.drainReadBuffer remaining).2.currentFrame = stream.currentFrame ∧
      (stream.drainReadBuffer remaining).2.framesLeft = stream.framesLeft ∧
      (stream.drainReadBuffer remaining).2.readBufferEnd ≤ stream.readBufferEnd := by
  unfold drainReadBuffer
  dsimp only
  split
  · next past =>
    -- the room takes the whole buffer, whose offsets go back to zero
    have whole : stream.readBuffered.drop (min stream.readBuffered.length remaining) = [] := by
      simp only [readBufferEnd] at past
      exact List.drop_eq_nil_of_le (by omega)
    refine ⟨?_, by simp, rfl, rfl, by simp [readBufferEnd]⟩
    rw [← List.take_append_drop (min stream.readBuffered.length remaining) stream.readBuffered,
      whole]
    simp
  · refine ⟨List.take_append_drop _ _, by simp, rfl, rfl, ?_⟩
    simp only [readBufferEnd, List.length_drop]
    omega

theorem passThrough_step (consistent : Consistent stream) (raw : stream.framesLeft = 0) :
    ReadStep stream remaining incoming (stream.passThrough remaining incoming) := by
  have idle : stream.currentFrame = none := by
    cases current : stream.currentFrame with
    | none => rfl
    | some frame =>
      obtain ⟨payloadLen, paddingLen, payloadDelivered⟩ := frame
      have := (consistent.framed current).2.2
      omega
  unfold passThrough
  split
  · next buffered =>
    -- what is left of the padded phase in the buffer goes out first
    obtain ⟨parts, taken, sameFrame, sameFrames, within⟩ := stream.drainReadBuffer_spec remaining
    generalize stream.drainReadBuffer remaining = drained at parts taken sameFrame sameFrames within
    obtain ⟨filled, next⟩ := drained
    dsimp only at parts taken sameFrame sameFrames within ⊢
    have nextIdle : next.currentFrame = none := sameFrame.trans idle
    refine ⟨⟨le_trans within consistent.bounded, fun current => ?_⟩, ?_, ?_,
      fun pending => (by cases pending), ?_, fun live => live, ?_, fun endsAtLast => endsAtLast⟩
    · rw [nextIdle] at current
      cases current
    · rw [expected_of_none nextIdle, expected_of_none idle, sameFrames, raw, unpadFrames_zero,
        unpadFrames_zero, filledBytes, ← List.append_assoc, parts]
    · simp only [filledBytes, taken]
      exact min_le_right _ _
    · intro roomy _
      refine .inr (List.ne_nil_of_length_pos ?_)
      simp only [filledBytes, taken]
      exact lt_min buffered roomy
    · -- with room, a buffer that is not empty hands out a byte at least
      intro roomy ended _
      cases ended
      simp only [List.length_nil] at taken
      omega
  · next nothing =>
    have empty : stream.readBuffered = [] := List.eq_nil_of_length_eq_zero (by omega)
    refine ReadStep.inner consistent (fun unread => ?_)
    rw [expected_of_none idle, raw, unpadFrames_zero, empty, List.nil_append]

theorem ReadStep.congr {other : NaivePaddingStream} {others : Incoming}
    {result : Poll (List UInt8) × NaivePaddingStream × Incoming}
    (step : ReadStep other remaining others result)
    (same : other.expected others.flatten = stream.expected incoming.flatten)
    (stillLive : (∀ chunk ∈ incoming, chunk ≠ []) → ∀ chunk ∈ others, chunk ≠ [])
    (stillEndsAtLast : EndsAtLast incoming → EndsAtLast others) :
    ReadStep stream remaining incoming result :=
  ⟨step.consistent, step.follows.trans same, step.fits, step.drained,
    fun roomy live => step.progress roomy (stillLive live),
    fun live => step.stillLive (stillLive live),
    fun roomy ended endsAtLast => same ▸ step.ended roomy ended (stillEndsAtLast endsAtLast),
    fun endsAtLast => step.stillEndsAtLast (stillEndsAtLast endsAtLast)⟩

theorem Consistent.append {stream : NaivePaddingStream} (consistent : Consistent stream)
    {bytes : List UInt8} (fits : bytes.length ≤ maxFrameSize - stream.readBufferEnd) :
    Consistent { stream with readBuffered := stream.readBuffered ++ bytes } := by
  refine ⟨?_, consistent.framed⟩
  have bound := consistent.bounded
  simp only [readBufferEnd, List.length_append] at bound fits ⊢
  omega

theorem room_after_reset {stream : NaivePaddingStream} (consistent : Consistent stream)
    (few : stream.readBuffered.length < 256) :
    let reset := if maxFrameSize ≤ stream.readBufferEnd then stream.resetReadBufferOffset else stream
    Consistent reset ∧ reset.readBufferEnd < maxFrameSize ∧
      (∀ unread, reset.expected unread = stream.expected unread) ∧
      reset.readBuffered = stream.readBuffered ∧ reset.framesLeft = stream.framesLeft := by
  have bound := consistent.bounded
  dsimp only
  split
  · next full =>
    rw [resetReadBufferOffset_eq]
    refine ⟨⟨?_, consistent.framed⟩, ?_, fun _ => rfl, rfl, rfl⟩ <;>
    · simp only [readBufferEnd, maxFrameSize_eq]
      omega
  · next roomy =>
    exact ⟨consistent, by omega, fun _ => rfl, rfl, rfl⟩

theorem decodeLoop_step (roomy : 0 < remaining) :
    ∀ (fuel : Nat) {stream : NaivePaddingStream} {incoming : Incoming}
      {result : Poll (List UInt8) × NaivePaddingStream × Incoming}, Consistent stream →
      0 < stream.framesLeft → decodeLoop remaining fuel stream incoming = some result →
      ReadStep stream remaining incoming result := by
  intro fuel
  induction fuel with
  | zero => intro _ _ _ _ _ returned; cases returned
  | succ fuel ih =>
    intro stream incoming result consistent padded returned
    have step := tryDecodeToBuf_step consistent padded roomy
    rw [decodeLoop] at returned
    generalize stream.tryDecodeToBuf remaining = decoded at step returned
    obtain ⟨out, next⟩ := decoded
    cases out with
    | some filled =>
      obtain ⟨fits, ends⟩ := step.filled rfl
      have same : ∀ unread, filled ++ next.expected unread = stream.expected unread := step.follows
      dsimp only at returned
      split at returned
      · next delivered =>
        -- the decoding step delivered bytes, which `poll_read` returns
        cases returned
        exact ⟨step.consistent, same _, fits, fun pending => (by cases pending),
          fun _ _ => .inr (List.ne_nil_of_length_pos delivered), fun live => live,
          fun _ ended _ => (by cases ended; simp at delivered), fun endsAtLast => endsAtLast⟩
      · next nothing =>
        -- a frame of padding only ended
        have empty : filled = [] := List.eq_nil_of_length_eq_zero (by omega)
        have fewer := ends empty
        subst empty
        split at returned
        · next raw =>
          cases returned
          have done : next.framesLeft = 0 := by
            have := (next.shouldPadReads_iff).not.mp (by simpa using raw)
            omega
          exact (passThrough_step step.consistent done).congr (same _) id id
        · next stillPadded =>
          have goesOn : 0 < next.framesLeft := (next.shouldPadReads_iff).mp (by simpa using stillPadded)
          exact (ih step.consistent goesOn returned).congr (same _) id id
    | none =>
      obtain ⟨few, drained, sameFrames⟩ := step.waiting rfl
      have same : ∀ unread, next.expected unread = stream.expected unread := step.follows
      obtain ⟨resetConsistent, room, resetSame, resetBuffered, resetFrames⟩ :=
        room_after_reset step.consistent few
      dsimp only at returned
      generalize (if maxFrameSize ≤ next.readBufferEnd then next.resetReadBufferOffset
        else next) = reset at resetConsistent room resetSame resetBuffered resetFrames returned
      split at returned
      · next pending =>
        -- nothing to read: `Pending`, with everything the buffer stands for delivered
        cases returned
        have nothing := readIncoming_eq_none.mp pending
        refine ⟨resetConsistent, ?_, by simp [filledBytes], fun _ => ?_, fun _ _ => .inl rfl,
          fun live => live, fun _ ended => (by cases ended), fun endsAtLast => endsAtLast⟩
        · simp [filledBytes, resetSame, same]
        · simp [nothing, resetSame, drained]
      · next bytes rest read =>
        obtain ⟨front, shorter⟩ := readIncoming_flatten read
        -- with room in the buffer, a read of a stream whose reads have bytes is not empty
        have nonempty : (∀ chunk ∈ incoming, chunk ≠ []) → bytes ≠ [] := by
          intro live
          cases incoming with
          | nil => cases read
          | cons chunk chunks =>
            obtain ⟨taken, later, again, nonempty, _⟩ :=
              readIncoming_live (Nat.sub_pos_of_lt room) live
            rw [read] at again
            cases again
            exact nonempty
        split at returned
        · next ended =>
          -- an empty read is the end of the inner stream
          cases returned
          have empty : bytes = [] := List.eq_nil_of_length_eq_zero ended
          subst empty
          refine ⟨resetConsistent, ?_, by simp [filledBytes], fun pending => (by cases pending),
            fun _ live => absurd rfl (nonempty live), readIncoming_stillLive read,
            fun _ _ endsAtLast => ?_, readIncoming_endsAtLast read⟩
          · simp only [filledBytes, List.nil_append, resetSame, same, ← front]
          · rw [readIncoming_end (Nat.sub_pos_of_lt room) read endsAtLast, ← same, drained]
        · next arrived =>
          have grown := resetConsistent.append (readIncoming_length_le read)
          have goesOn : 0 < reset.framesLeft := by
            rw [resetFrames]
            exact sameFrames ▸ padded
          refine (ih grown goesOn returned).congr ?_ (readIncoming_stillLive read)
            (readIncoming_endsAtLast read)
          rw [expected_append, front, resetSame, same]

theorem pollRead_step (consistent : Consistent stream)
    {result : Poll (List UInt8) × NaivePaddingStream × Incoming}
    (returned : stream.pollRead remaining incoming = some result) :
    ReadStep stream remaining incoming result := by
  unfold pollRead at returned
  split at returned
  · cases returned
    refine ⟨consistent, rfl, by simp [filledBytes], fun pending => (by cases pending), ?_,
      fun live => live, ?_, fun endsAtLast => endsAtLast⟩
    · intro roomy
      omega
    · intro roomy
      omega
  · split at returned
    · next raw =>
      cases returned
      have done : stream.framesLeft = 0 := by
        have := (stream.shouldPadReads_iff).not.mp (by simpa using raw)
        omega
      exact passThrough_step consistent done
    · next padded =>
      exact decodeLoop_step (Nat.pos_of_ne_zero ‹_›) _ consistent
        ((stream.shouldPadReads_iff).mp (by simpa using padded)) returned

theorem framesLeft_le (stream : NaivePaddingStream) : stream.framesLeft ≤ numFirstPaddings := by
  unfold framesLeft
  split <;> omega

theorem decodeLoop_isSome (roomy : 0 < remaining) :
    ∀ (fuel : Nat) {stream : NaivePaddingStream} {incoming : Incoming}, Consistent stream →
      0 < stream.framesLeft → (incoming.map List.length).sum + stream.framesLeft < fuel →
      (decodeLoop remaining fuel stream incoming).isSome := by
  intro fuel
  induction fuel with
  | zero => intro _ _ _ _ enough; omega
  | succ fuel ih =>
    intro stream incoming consistent padded enough
    have step := tryDecodeToBuf_step consistent padded roomy
    rw [decodeLoop]
    generalize stream.tryDecodeToBuf remaining = decoded at step
    obtain ⟨out, next⟩ := decoded
    cases out with
    | some filled =>
      dsimp only
      split
      · rfl
      · have fewer := (step.filled rfl).2 (List.eq_nil_of_length_eq_zero (by omega))
        split
        · rfl
        · next stillPadded =>
          exact ih step.consistent ((next.shouldPadReads_iff).mp (by simpa using stillPadded))
            (by dsimp only at fewer; omega)
    | none =>
      obtain ⟨few, _, sameFrames⟩ := step.waiting rfl
      obtain ⟨resetConsistent, room, _, _, resetFrames⟩ := room_after_reset step.consistent few
      dsimp only
      generalize (if maxFrameSize ≤ next.readBufferEnd then next.resetReadBufferOffset
        else next) = reset at resetConsistent room resetFrames
      split
      · rfl
      · next bytes rest read =>
        obtain ⟨_, shorter⟩ := readIncoming_flatten read
        split
        · rfl
        · next arrived =>
          have goesOn : 0 < reset.framesLeft := by
            rw [resetFrames]
            exact sameFrames ▸ padded
          refine ih (resetConsistent.append (readIncoming_length_le read)) goesOn ?_
          have sameLeft : reset.framesLeft = stream.framesLeft := resetFrames.trans sameFrames
          show (rest.map List.length).sum + reset.framesLeft < fuel
          omega

theorem pollRead_isSome (consistent : Consistent stream) :
    (stream.pollRead remaining incoming).isSome := by
  unfold pollRead
  split
  · rfl
  · split
    · rfl
    · next padded =>
      refine decodeLoop_isSome (Nat.pos_of_ne_zero ‹_›) _ consistent
        ((stream.shouldPadReads_iff).mp (by simpa using padded)) ?_
      have := stream.framesLeft_le
      unfold decodeFuel
      omega

end Call

/-- One `poll_read` as a call of a reader: the bytes it puts in the `ReadBuf`, and the stream
with the inner stream's chunks left. -/
def readCall (remaining : Nat) (state : NaivePaddingStream × Incoming) :
    Option (List UInt8 × (NaivePaddingStream × Incoming)) :=
  (state.1.pollRead remaining state.2).map fun result => (filledBytes result.1, result.2)

/-- `poll_read` calls with `ReadBuf`s of room `sizes`, one after another. -/
def readRun (sizes : List Nat) (stream : NaivePaddingStream) (incoming : Incoming) :
    List UInt8 × (NaivePaddingStream × Incoming) :=
  Residual.run readCall sizes (stream, incoming)

theorem readCall_faithful :
    Residual.Faithful readCall (fun state => state.1.expected state.2.flatten)
      (fun state => Consistent state.1) := by
  constructor
  · intro remaining state out next consistent returned
    obtain ⟨result, polled, made⟩ := Option.map_eq_some_iff.mp returned
    cases made
    exact (pollRead_step consistent polled).consistent
  · intro remaining state out next consistent returned
    obtain ⟨result, polled, made⟩ := Option.map_eq_some_iff.mp returned
    cases made
    exact (pollRead_step consistent polled).follows

theorem readCall_faithful_keeping (keeping : Incoming → Prop)
    (keeps : ∀ {stream : NaivePaddingStream} {remaining : Nat} {incoming : Incoming}
      {result : Poll (List UInt8) × NaivePaddingStream × Incoming},
      ReadStep stream remaining incoming result → keeping incoming → keeping result.2.2) :
    Residual.Faithful readCall (fun state => state.1.expected state.2.flatten)
      (fun state => Consistent state.1 ∧ keeping state.2) := by
  constructor
  · intro remaining state out next kept returned
    obtain ⟨result, polled, made⟩ := Option.map_eq_some_iff.mp returned
    cases made
    have step := pollRead_step kept.1 polled
    exact ⟨step.consistent, keeps step kept.2⟩
  · intro remaining state out next kept returned
    exact readCall_faithful.follows kept.1 returned

/-- The padded reader delivers the unpadded stream, however the inner stream splits it and
whatever room the caller gives each read. After any run of `poll_read` calls on a new reader, the
bytes delivered followed by what the reader still stands for are the payloads of the first eight
frames and then the bytes after them; the next call returns, and if it is pending, everything
has been delivered. -/
theorem pollRead_unpads (direction : PaddingDirection) (sizes : List Nat) (incoming : Incoming) :
    let run := readRun sizes (new direction .variant1) incoming
    run.1 ++ run.2.1.expected run.2.2.flatten = unpadFrames numFirstPaddings incoming.flatten ∧
      ∀ remaining, ∃ result, run.2.1.pollRead remaining run.2.2 = some result ∧
        (result.1 = .pending → run.1 = unpadFrames numFirstPaddings incoming.flatten) := by
  intro run
  have runFacts : Consistent run.2.1 ∧
      run.1 ++ run.2.1.expected run.2.2.flatten = (new direction .variant1).expected incoming.flatten :=
    Residual.run_follows readCall_faithful sizes
      (show Consistent (new direction .variant1, incoming).1 from consistent_new direction .variant1)
  obtain ⟨consistent, follows⟩ := runFacts
  have whole : run.1 ++ run.2.1.expected run.2.2.flatten =
      unpadFrames numFirstPaddings incoming.flatten := by
    rw [follows, expected_new]
  refine ⟨whole, fun remaining => ?_⟩
  obtain ⟨result, returned⟩ := Option.isSome_iff_exists.mp (pollRead_isSome consistent)
  refine ⟨result, returned, fun pending => ?_⟩
  -- a pending call delivers nothing and leaves nothing the bytes read stand for
  have step := pollRead_step consistent returned
  have nothingLeft : run.2.1.expected run.2.2.flatten = [] := by
    rw [← step.follows, step.drained pending, pending]
    rfl
  rw [← whole, nothingLeft, List.append_nil]

/-- On an inner stream whose reads all carry bytes, a padded reader never reports a false end of
stream: after any run of `poll_read` calls on a new reader, a call with room delivers a byte at
least or is pending. When the decoder needs more bytes it holds fewer than a padding's worth, so
the read buffer, moved to its front when full, always has room for the next read. -/
theorem pollRead_never_ends_early (direction : PaddingDirection) (sizes : List Nat)
    (incoming : Incoming) (live : ∀ chunk ∈ incoming, chunk ≠ []) (remaining : Nat)
    (roomy : 0 < remaining) :
    let run := readRun sizes (new direction .variant1) incoming
    ∃ result, run.2.1.pollRead remaining run.2.2 = some result ∧
      (result.1 = .pending ∨ filledBytes result.1 ≠ []) := by
  intro run
  have runFacts : (Consistent run.2.1 ∧ ∀ chunk ∈ run.2.2, chunk ≠ []) ∧
      run.1 ++ run.2.1.expected run.2.2.flatten = (new direction .variant1).expected incoming.flatten :=
    Residual.run_follows (readCall_faithful_keeping _ fun step => step.stillLive) sizes
      (show Consistent (new direction .variant1, incoming).1 ∧
        ∀ chunk ∈ (new direction .variant1, incoming).2, chunk ≠ [] from
        ⟨consistent_new direction .variant1, live⟩)
  obtain ⟨⟨consistent, stillLive⟩, _⟩ := runFacts
  obtain ⟨result, returned⟩ := Option.isSome_iff_exists.mp (pollRead_isSome consistent)
  exact ⟨result, returned, (pollRead_step consistent returned).progress roomy stillLive⟩

theorem pollRead_never_ends_early_sample :
    (∀ chunk ∈ [[(0 : UInt8), 1, 0, 7]], chunk ≠ []) ∧ 0 < 1 ∧
      ∃ result, (readRun [] (new .client .variant1) [[0, 1, 0, 7]]).2.1.pollRead 1
          (readRun [] (new .client .variant1) [[0, 1, 0, 7]]).2.2 = some result ∧
        (result.1 = .pending ∨ filledBytes result.1 ≠ []) :=
  ⟨by decide, by decide, pollRead_never_ends_early .client [] [[0, 1, 0, 7]] (by decide) 1 (by decide)⟩

/-- A padded reader reports the end of the stream only once it has handed out everything: on an
inner stream whose reads have bytes until the last, after any run of `poll_read` calls on a new
reader, the next call returns, and if it has room and reports the end, the bytes delivered are
the whole unpadded stream. -/
theorem pollRead_ends_after_all (direction : PaddingDirection) (sizes : List Nat)
    (incoming : Incoming) (endsAtLast : EndsAtLast incoming) (remaining : Nat)
    (roomy : 0 < remaining) :
    let run := readRun sizes (new direction .variant1) incoming
    ∃ result, run.2.1.pollRead remaining run.2.2 = some result ∧
      (result.1 = .ready (.ok []) → run.1 = unpadFrames numFirstPaddings incoming.flatten) := by
  intro run
  have runFacts : (Consistent run.2.1 ∧ EndsAtLast run.2.2) ∧
      run.1 ++ run.2.1.expected run.2.2.flatten = (new direction .variant1).expected incoming.flatten :=
    Residual.run_follows (readCall_faithful_keeping _ fun step => step.stillEndsAtLast) sizes
      (show Consistent (new direction .variant1, incoming).1 ∧
        EndsAtLast (new direction .variant1, incoming).2 from
        ⟨consistent_new direction .variant1, endsAtLast⟩)
  obtain ⟨⟨consistent, stillEnds⟩, follows⟩ := runFacts
  obtain ⟨result, returned⟩ := Option.isSome_iff_exists.mp (pollRead_isSome consistent)
  refine ⟨result, returned, fun ended => ?_⟩
  -- the call that reports the end leaves nothing that the bytes read stand for
  have nothingLeft := (pollRead_step consistent returned).ended roomy ended stillEnds
  calc run.1 = run.1 ++ run.2.1.expected run.2.2.flatten := by rw [nothingLeft, List.append_nil]
    _ = (new direction .variant1).expected incoming.flatten := follows
    _ = unpadFrames numFirstPaddings incoming.flatten := expected_new direction _

theorem pollRead_ends_after_all_sample :
    EndsAtLast [[(0 : UInt8), 1, 0, 7], []] ∧ 0 < 1 ∧
      ∃ result, (readRun [1] (new .client .variant1) [[0, 1, 0, 7], []]).2.1.pollRead 1
          (readRun [1] (new .client .variant1) [[0, 1, 0, 7], []]).2.2 = some result ∧
        (result.1 = .ready (.ok []) → (readRun [1] (new .client .variant1) [[0, 1, 0, 7], []]).1 =
          unpadFrames numFirstPaddings [[(0 : UInt8), 1, 0, 7], []].flatten) :=
  ⟨by decide, by decide,
    pollRead_ends_after_all .client [1] [[0, 1, 0, 7], []] (by decide) 1 (by decide)⟩

-- after the frame's one payload byte, a call with room reports the end
example : ((readRun [1] (new .client .variant1) [[0, 1, 0, 7], []]).2.1.pollRead 1
    (readRun [1] (new .client .variant1) [[0, 1, 0, 7], []]).2.2).map (·.1) =
      some (.ready (.ok [])) := by
  rfl

end NaivePaddingStream

end Shoes.NaiveProxy
