import Shoes.NaivePadding
import Shoes.Lib.Residual

/-!
# Writing a padded stream

The writer of `NaivePaddingStream` encodes one frame per `poll_write` and reports the payload's
length once the whole frame is written. Every write of the pending frame takes bytes off its
front (`Moves`), so whatever the caller does and however the inner stream takes the bytes, what
the writer has sent followed by the frame it holds is at most eight padded frames and then bytes
passed through (`writeRun_frames`).

A caller that writes data out as `write_all` does, offering the same bytes again after `Pending`
and not flushing in between, is sent exactly what it is told is written, followed by the payload
of the frame held (`writeAll_roundTrip`). A flush breaks this: a frame left half written when
`poll_write` returns `Pending` is finished by `poll_flush`, which reports no count for it, and a
caller that then writes the same bytes again, as it must after `Pending`, has them sent in a
second frame (`pollFlush_resends_payload`).
-/

namespace Shoes.NaiveProxy

open Wire CopyBidirectional

namespace NaivePaddingStream

theorem frameHeader_eq (value : UInt16) :
    [(value >>> 8).toUInt8, (value &&& 0xff).toUInt8] = u16ToBe value := by
  rw [u16ToBe_eq]
  have high : (value >>> 8).toUInt8 = UInt8.ofNat (value.toNat / 256) := by
    apply UInt8.toNat_inj.mp
    simp [UInt16.toNat_shiftRight]
    omega
  have low : (value &&& 0xff).toUInt8 = UInt8.ofNat value.toNat := by
    apply UInt8.toNat_inj.mp
    simp only [UInt16.toNat_toUInt8, UInt16.toNat_and, UInt8.toNat_ofNat']
    rw [show (UInt16.toNat 0xff) = 2 ^ 8 - 1 from rfl, Nat.and_two_pow_sub_one_eq_mod]
    omega
  rw [high, low]

theorem encodeFrame_eq (stream : NaivePaddingStream) {payload : List UInt8}
    (fits : payload.length ≤ maxPayloadSize) (paddingSize : UInt8) :
    stream.encodeFrame payload paddingSize =
      .ok { stream with pendingWrite := paddedFrame payload paddingSize,
                        writePayloadLen := payload.length } := by
  unfold encodeFrame
  rw [if_neg (by omega), paddedFrame, ← frameHeader_eq]
  simp

/-- What a write of the pending frame leaves: the bytes the inner stream took come off the front
of the frame, which is counted once none of it is left. -/
structure Moves (stream next : NaivePaddingStream) (writer after : Writer) : Prop where
  sent : after.accepted ++ next.pendingWrite = writer.accepted ++ stream.pendingWrite
  shrinks : next.pendingWrite <:+ stream.pendingWrite
  counted : next.numWrittenFrames + (if next.pendingWrite = [] then 0 else 1) =
    stream.numWrittenFrames + (if stream.pendingWrite = [] then 0 else 1)
  same : next.paddingType = stream.paddingType

theorem Moves.refl (stream : NaivePaddingStream) (writer : Writer) :
    Moves stream stream writer writer :=
  ⟨rfl, List.suffix_refl _, rfl, rfl⟩

theorem Moves.trans {stream middle next : NaivePaddingStream} {writer between after : Writer}
    (first : Moves stream middle writer between) (second : Moves middle next between after) :
    Moves stream next writer after :=
  ⟨second.sent.trans first.sent, second.shrinks.trans first.shrinks,
    second.counted.trans first.counted, second.same.trans first.same⟩

theorem pollWriteBuffered_moves (stream : NaivePaddingStream) (limit : Nat) (writer : Writer) :
    Moves stream (stream.pollWriteBuffered limit writer).2.1 writer
      (stream.pollWriteBuffered limit writer).2.2 := by
  unfold pollWriteBuffered
  dsimp only
  split
  · exact Moves.refl stream writer
  · next started =>
    have pending : stream.pendingWrite ≠ [] := fun empty => started (by simp [empty])
    split
    · next written after taken =>
      -- the inner stream took `written` bytes of the fragment it was offered
      obtain ⟨within, accepted⟩ := pollWrite_taken taken
      have front : (stream.pendingWrite.take (computeFragmentLimit stream.direction
          stream.writePayloadLen stream.pendingWrite.length limit)).take written =
          stream.pendingWrite.take written := by
        have fragment : written ≤ computeFragmentLimit stream.direction stream.writePayloadLen
            stream.pendingWrite.length limit := by
          simp only [List.length_take] at within
          omega
        rw [List.take_take, Nat.min_eq_left fragment]
      have sent : after.accepted ++ stream.pendingWrite.drop written =
          writer.accepted ++ stream.pendingWrite := by
        rw [accepted, front, List.append_assoc, List.take_append_drop]
      split
      · next out =>
        have done : stream.pendingWrite.drop written = [] := by simpa using out
        refine ⟨sent, List.drop_suffix _ _, ?_, rfl⟩
        simp [done, pending]
      · next rest =>
        have left : stream.pendingWrite.drop written ≠ [] := by simpa using rest
        exact ⟨sent, List.drop_suffix _ _, by simp [left, pending], rfl⟩
    · next err after failed =>
      have kept := pollWrite_untaken failed (fun _ => by simp)
      exact ⟨by rw [kept], List.suffix_refl _, rfl, rfl⟩
    · next after waiting =>
      have kept := pollWrite_untaken waiting (fun _ => by simp)
      exact ⟨by rw [kept], List.suffix_refl _, rfl, rfl⟩

theorem finishWrite_snd (result : Poll (Option Nat) × NaivePaddingStream × Writer) :
    (finishWrite result).2 = result.2 := by
  unfold finishWrite
  split <;> rfl

theorem flushLoop_moves (limit : Nat) :
    ∀ (fuel : Nat) {stream : NaivePaddingStream} {writer : Writer}
      {result : Poll Unit × NaivePaddingStream × Writer},
      flushLoop limit fuel stream writer = some result →
      Moves stream result.2.1 writer result.2.2 := by
  intro fuel
  induction fuel with
  | zero => intro _ _ _ returned; cases returned
  | succ fuel ih =>
    intro stream writer result returned
    have moved := pollWriteBuffered_moves stream limit writer
    rw [flushLoop] at returned
    split at returned
    · generalize stream.pollWriteBuffered limit writer = written at moved returned
      obtain ⟨poll, next, after⟩ := written
      rcases poll with ((err | value) | _) <;> dsimp only at moved returned
      · cases returned
        exact moved
      · exact moved.trans (ih returned)
      · cases returned
        exact moved
    · -- nothing pending: the inner stream's flush, which takes no bytes
      cases returned
      exact ⟨rfl, List.suffix_refl _, rfl, rfl⟩

/-- The bytes a padded writer has sent and still holds: well-formed padded frames, one for each
frame written and one for the frame pending, at most eight, then the bytes passed through once
eight frames were written. -/
structure Sends (stream : NaivePaddingStream) (writer : Writer)
    (frames : List (List UInt8 × UInt8)) (raw : List UInt8) : Prop where
  sent : writer.accepted ++ stream.pendingWrite =
    (frames.map fun frame => paddedFrame frame.1 frame.2).flatten ++ raw
  counted : frames.length = stream.numWrittenFrames + (if stream.pendingWrite = [] then 0 else 1)
  atMost : frames.length ≤ numFirstPaddings
  fits : ∀ frame ∈ frames, frame.1.length ≤ maxPayloadPerFrame
  passed : raw ≠ [] → numFirstPaddings ≤ stream.numWrittenFrames
  padded : stream.paddingType = .variant1

section Sends

variable {stream : NaivePaddingStream} {writer : Writer} {frames : List (List UInt8 × UInt8)}
  {raw : List UInt8}

theorem Sends.idle (sends : Sends stream writer frames raw)
    (written : numFirstPaddings ≤ stream.numWrittenFrames) : stream.pendingWrite = [] := by
  by_contra pending
  have := sends.counted
  have := sends.atMost
  simp only [pending, if_false] at *
  omega

theorem Sends.moves {next : NaivePaddingStream} {after : Writer}
    (sends : Sends stream writer frames raw) (moved : Moves stream next writer after) :
    Sends next after frames raw := by
  refine ⟨moved.sent.trans sends.sent, sends.counted.trans moved.counted.symm, sends.atMost, sends.fits,
    fun more => ?_, moved.same.trans sends.padded⟩
  -- the frames were all written before bytes were passed through, and stay so
  have written := sends.passed more
  have idle := sends.idle written
  have nextIdle : next.pendingWrite = [] := List.suffix_nil.mp (idle ▸ moved.shrinks)
  have counted := moved.counted
  simp only [idle, nextIdle, if_true] at counted
  omega

theorem Sends.passThrough {after : Writer} (sends : Sends stream writer frames raw)
    (written : numFirstPaddings ≤ stream.numWrittenFrames) {more : List UInt8}
    (accepted : after.accepted = writer.accepted ++ more) :
    Sends stream after frames (raw ++ more) := by
  have idle := sends.idle written
  refine ⟨?_, sends.counted, sends.atMost, sends.fits, fun _ => written, sends.padded⟩
  have sent := sends.sent
  rw [idle, List.append_nil] at sent
  rw [accepted, idle, List.append_nil, sent, List.append_assoc]

theorem Sends.padding_iff (sends : Sends stream writer frames raw) :
    stream.shouldPadWrites = true ↔ stream.numWrittenFrames < numFirstPaddings := by
  simp [shouldPadWrites, sends.padded]

theorem Sends.raw_eq_nil (sends : Sends stream writer frames raw)
    (early : stream.numWrittenFrames < numFirstPaddings) : raw = [] := by
  by_contra more
  have := sends.passed more
  omega

theorem Sends.encode (sends : Sends stream writer frames raw) (idle : stream.pendingWrite = [])
    (early : stream.numWrittenFrames < numFirstPaddings) {payload : List UInt8}
    (fits : payload.length ≤ maxPayloadPerFrame) (paddingSize : UInt8) :
    Sends { stream with pendingWrite := paddedFrame payload paddingSize,
                        writePayloadLen := payload.length }
      writer (frames ++ [(payload, paddingSize)]) raw := by
  have noRaw := sends.raw_eq_nil early
  have counted := sends.counted
  simp only [idle, if_true, Nat.add_zero] at counted
  refine ⟨?_, ?_, ?_, ?_, fun more => absurd noRaw more, sends.padded⟩
  · have sent := sends.sent
    rw [idle, noRaw, List.append_nil, List.append_nil] at sent
    simp [sent, noRaw]
  · simp [paddedFrame, counted]
  · simp only [List.length_append, List.length_singleton]
    omega
  · intro frame member
    rcases List.mem_append.mp member with earlier | last
    · exact sends.fits frame earlier
    · rw [List.mem_singleton.mp last]
      exact fits

theorem payload_length_le (buf : List UInt8) :
    (if maxPayloadPerFrame < buf.length then buf.take maxPayloadPerFrame else buf).length ≤
      maxPayloadPerFrame := by
  split
  · simp
  · omega

theorem take_payload (buf : List UInt8) :
    buf.take (if maxPayloadPerFrame < buf.length then buf.take maxPayloadPerFrame else buf).length =
      if maxPayloadPerFrame < buf.length then buf.take maxPayloadPerFrame else buf := by
  split
  · next long => rw [List.length_take, Nat.min_eq_left long.le]
  · exact List.take_length

theorem pollWrite_of_idle (padding : stream.shouldPadWrites = true) (idle : stream.pendingWrite = [])
    (paddingSize : UInt8) (limit : Nat) (writer : Writer) (buf : List UInt8) :
    let payload := if maxPayloadPerFrame < buf.length then buf.take maxPayloadPerFrame else buf
    stream.pollWrite paddingSize limit writer buf =
      finishWrite ({ stream with pendingWrite := paddedFrame payload paddingSize,
                                 writePayloadLen := payload.length }.pollWriteBuffered limit writer) := by
  intro payload
  unfold pollWrite
  rw [if_neg (by simp [padding]), if_neg (by simp [idle])]
  dsimp only
  rw [encodeFrame_eq stream (le_trans (payload_length_le buf) (by simp [maxPayloadPerFrame,
    maxPayloadSize, paddingHeaderSize, maxPaddingSize])) paddingSize]

theorem pollWrite_of_pending (padding : stream.shouldPadWrites = true)
    (pending : stream.pendingWrite ≠ []) (paddingSize : UInt8) (limit : Nat) (writer : Writer)
    (buf : List UInt8) :
    stream.pollWrite paddingSize limit writer buf = finishWrite (stream.pollWriteBuffered limit writer) := by
  unfold pollWrite
  rw [if_neg (by simp [padding]), if_pos (List.length_pos_of_ne_nil pending)]

theorem pollWrite_encodes (padding : stream.shouldPadWrites = true) (idle : stream.pendingWrite = [])
    (paddingSize : UInt8) (limit : Nat) (writer : Writer) (buf : List UInt8) :
    let payload := if maxPayloadPerFrame < buf.length then buf.take maxPayloadPerFrame else buf
    payload.length ≤ maxPayloadPerFrame ∧
      Moves { stream with pendingWrite := paddedFrame payload paddingSize,
                          writePayloadLen := payload.length }
        (stream.pollWrite paddingSize limit writer buf).2.1 writer
        (stream.pollWrite paddingSize limit writer buf).2.2 := by
  refine ⟨payload_length_le buf, ?_⟩
  rw [pollWrite_of_idle padding idle, finishWrite_snd]
  exact pollWriteBuffered_moves _ limit writer

theorem pollWrite_sends (sends : Sends stream writer frames raw) (paddingSize : UInt8)
    (limit : Nat) (buf : List UInt8) :
    ∃ frames raw, Sends (stream.pollWrite paddingSize limit writer buf).2.1
      (stream.pollWrite paddingSize limit writer buf).2.2 frames raw := by
  by_cases padding : stream.shouldPadWrites = true
  · have early := sends.padding_iff.mp padding
    by_cases idle : stream.pendingWrite = []
    · -- the front of the buffer goes in a new frame
      obtain ⟨fits, moved⟩ := pollWrite_encodes padding idle paddingSize limit writer buf
      exact ⟨_, raw, (sends.encode idle early fits paddingSize).moves moved⟩
    · -- the pending frame is written first
      rw [pollWrite_of_pending padding idle, finishWrite_snd]
      exact ⟨frames, raw, sends.moves (pollWriteBuffered_moves stream limit writer)⟩
  · -- eight frames are written: the bytes go through
    have written : numFirstPaddings ≤ stream.numWrittenFrames :=
      Nat.le_of_not_lt (mt sends.padding_iff.mpr padding)
    unfold pollWrite
    rw [if_pos (by simpa using padding)]
    dsimp only
    cases reply : writer.pollWrite buf with
    | mk poll after =>
      rcases poll with ((err | count) | _)
      · exact ⟨frames, _, sends.passThrough written (show after.accepted = writer.accepted ++ [] by
          rw [pollWrite_untaken reply (fun _ => by simp), List.append_nil])⟩
      · exact ⟨frames, _, sends.passThrough written (pollWrite_taken reply).2⟩
      · exact ⟨frames, _, sends.passThrough written (show after.accepted = writer.accepted ++ [] by
          rw [pollWrite_untaken reply (fun _ => by simp), List.append_nil])⟩

theorem pollFlush_sends (sends : Sends stream writer frames raw) (limit : Nat)
    {result : Poll Unit × NaivePaddingStream × Writer}
    (returned : stream.pollFlush limit writer = some result) :
    Sends result.2.1 result.2.2 frames raw :=
  sends.moves (flushLoop_moves limit _ returned)

theorem Sends.unpadded (sends : Sends stream writer frames raw) :
    unpadFrames numFirstPaddings (writer.accepted ++ stream.pendingWrite) =
      (frames.map Prod.fst).flatten ++ raw := by
  have short : ∀ frame ∈ frames, frame.1.length < 2 ^ 16 := by
    intro frame member
    have := sends.fits frame member
    simp only [maxPayloadPerFrame, paddingHeaderSize, maxPaddingSize] at this
    simp at this
    omega
  rw [sends.sent, unpadFrames_frames frames short sends.atMost]
  by_cases more : raw = []
  · simp [more]
  · -- bytes pass through only after the eighth frame, with nothing pending
    have idle := sends.idle (sends.passed more)
    have counted := sends.counted
    have atMost := sends.atMost
    have written := sends.passed more
    simp only [idle, if_true] at counted
    rw [show numFirstPaddings - frames.length = 0 by omega, unpadFrames_zero]

end Sends

/-- A call on the write side: `poll_write` of a buffer, with the padding size and the fragment
limit `rng` draws, or `poll_flush`, with the fragment limit drawn. -/
inductive WriteCall
  | write (buf : List UInt8) (paddingSize : UInt8) (limit : Nat)
  | flush (limit : Nat)

/-- The stream and its inner stream after a call. -/
def WriteCall.apply : WriteCall → NaivePaddingStream × Writer → NaivePaddingStream × Writer
  | .write buf paddingSize limit, state => (state.1.pollWrite paddingSize limit state.2 buf).2
  | .flush limit, state => ((state.1.pollFlush limit state.2).map Prod.snd).getD state

/-- Calls one after another. -/
def writeRun (calls : List WriteCall) (state : NaivePaddingStream × Writer) :
    NaivePaddingStream × Writer :=
  calls.foldl (fun state call => call.apply state) state

theorem sends_new (direction : PaddingDirection) (writeReplies : List (Poll Nat))
    (pingReplies : List (Poll Bool)) (flushReplies : List (Poll Unit)) :
    Sends (new direction .variant1) ⟨writeReplies, pingReplies, flushReplies, []⟩ [] [] :=
  ⟨rfl, by simp [new], by simp, by simp, fun more => absurd rfl more, rfl⟩

theorem writeRun_sends (calls : List WriteCall) (state : NaivePaddingStream × Writer)
    {frames : List (List UInt8 × UInt8)} {raw : List UInt8} (sends : Sends state.1 state.2 frames raw) :
    ∃ (frames : List (List UInt8 × UInt8)) (raw : List UInt8),
      Sends (writeRun calls state).1 (writeRun calls state).2 frames raw := by
  induction calls generalizing state frames raw with
  | nil => exact ⟨frames, raw, sends⟩
  | cons call calls ih =>
    have applied : ∃ (frames : List (List UInt8 × UInt8)) (raw : List UInt8),
        Sends (call.apply state).1 (call.apply state).2 frames raw := by
      cases call with
      | write buf paddingSize limit => exact pollWrite_sends sends paddingSize limit buf
      | flush limit =>
        cases flushed : state.1.pollFlush limit state.2 with
        | none => exact ⟨frames, raw, by simpa [WriteCall.apply, flushed] using sends⟩
        | some result =>
          have flushedSends := pollFlush_sends sends limit flushed
          exact ⟨frames, raw, by simpa [WriteCall.apply, flushed] using flushedSends⟩
    obtain ⟨frames, raw, applied⟩ := applied
    exact ih (call.apply state) applied

/-- Whatever the caller writes and flushes, with whatever padding and fragment sizes the random
draws give and however the inner stream takes the bytes, what a new padded writer has sent,
followed by the frame it still holds, is at most eight padded frames with payloads of at most
`MAX_PAYLOAD_PER_FRAME` bytes, then bytes passed through only once the eight frames are out; a
reader takes it back to the frames' payloads followed by those bytes. -/
theorem writeRun_frames (direction : PaddingDirection) (calls : List WriteCall)
    (writeReplies : List (Poll Nat)) (pingReplies : List (Poll Bool))
    (flushReplies : List (Poll Unit)) :
    let state := writeRun calls (new direction .variant1, ⟨writeReplies, pingReplies, flushReplies, []⟩)
    ∃ (frames : List (List UInt8 × UInt8)) (raw : List UInt8),
      state.2.accepted ++ state.1.pendingWrite =
        (frames.map fun frame => paddedFrame frame.1 frame.2).flatten ++ raw ∧
      frames.length ≤ numFirstPaddings ∧ (∀ frame ∈ frames, frame.1.length ≤ maxPayloadPerFrame) ∧
      (raw ≠ [] → frames.length = numFirstPaddings ∧ state.1.pendingWrite = []) ∧
      unpadFrames numFirstPaddings (state.2.accepted ++ state.1.pendingWrite) =
        (frames.map Prod.fst).flatten ++ raw := by
  intro state
  have reached : ∃ (frames : List (List UInt8 × UInt8)) (raw : List UInt8),
      Sends state.1 state.2 frames raw :=
    writeRun_sends calls (new direction .variant1, ⟨writeReplies, pingReplies, flushReplies, []⟩)
      (sends_new direction writeReplies pingReplies flushReplies)
  obtain ⟨frames, raw, sends⟩ := reached
  -- bytes pass through only after the eighth frame, with nothing pending
  have passed : raw ≠ [] → frames.length = numFirstPaddings ∧ state.1.pendingWrite = [] := by
    intro more
    have written := sends.passed more
    have idle := sends.idle written
    have counted := sends.counted
    have atMost := sends.atMost
    simp only [idle, if_true] at counted
    exact ⟨by omega, idle⟩
  exact ⟨frames, raw, sends.sent, sends.atMost, sends.fits, passed, sends.unpadded⟩

theorem flushLoop_ready (limit : Nat) :
    ∀ (fuel : Nat) {stream : NaivePaddingStream} {writer : Writer}
      {result : Poll Unit × NaivePaddingStream × Writer},
      flushLoop limit fuel stream writer = some result → result.1 = .ready (.ok ()) →
      result.2.1.pendingWrite = [] := by
  intro fuel
  induction fuel with
  | zero => intro _ _ _ returned; cases returned
  | succ fuel ih =>
    intro stream writer result returned ready
    rw [flushLoop] at returned
    split at returned
    · generalize stream.pollWriteBuffered limit writer = written at returned
      obtain ⟨poll, next, after⟩ := written
      rcases poll with ((err | value) | _) <;> dsimp only at returned
      · cases returned
        cases ready
      · exact ih returned ready
      · cases returned
        cases ready
    · next idle =>
      cases returned
      show stream.pendingWrite = []
      exact List.eq_nil_of_length_eq_zero (by omega)

theorem shouldPadWrites_iff (stream : NaivePaddingStream) :
    stream.shouldPadWrites = true ↔
      stream.paddingType ≠ .none ∧ stream.numWrittenFrames < numFirstPaddings := by
  simp [shouldPadWrites]

/-- `poll_flush` finishes a frame that `poll_write` left half written when it returned `Pending`,
and reports no count for it. A caller that offers the same buffer again, as it must after
`Pending` (and as `copy_bidirectional` does after flushing), has its bytes encoded in a second
frame: the inner stream is sent the payload twice. -/
theorem pollFlush_resends_payload {stream halfWritten flushed : NaivePaddingStream}
    {writer halfWriter flushedWriter : Writer} {buf : List UInt8}
    {paddingSize nextPaddingSize : UInt8} {limit : Nat}
    (padded : stream.shouldPadWrites = true) (idle : stream.pendingWrite = [])
    (roomForTwo : stream.numWrittenFrames + 1 < numFirstPaddings)
    (first : stream.pollWrite paddingSize limit writer buf = (.pending, halfWritten, halfWriter))
    (flush : halfWritten.pollFlush limit halfWriter =
      some (.ready (.ok ()), flushed, flushedWriter)) :
    let payload := if maxPayloadPerFrame < buf.length then buf.take maxPayloadPerFrame else buf
    let second := flushed.pollWrite nextPaddingSize limit flushedWriter buf
    flushed.pendingWrite = [] ∧
      second.2.2.accepted ++ second.2.1.pendingWrite =
        writer.accepted ++ paddedFrame payload paddingSize ++ paddedFrame payload nextPaddingSize := by
  intro payload second
  obtain ⟨_, encoded⟩ := pollWrite_encodes padded idle paddingSize limit writer buf
  rw [first] at encoded
  have flushedOut : flushed.pendingWrite = [] := flushLoop_ready limit _ flush rfl
  -- the frame the first call encoded is all out, and counted
  have sentOnce := encoded.trans (flushLoop_moves limit _ flush)
  dsimp only at sentOnce
  have counted := sentOnce.counted
  simp only [flushedOut, if_true, Nat.add_zero] at counted
  simp [paddedFrame] at counted
  have again : flushed.shouldPadWrites = true := by
    rw [shouldPadWrites_iff] at padded ⊢
    exact ⟨sentOnce.same ▸ padded.1, by omega⟩
  obtain ⟨_, resent⟩ := pollWrite_encodes again flushedOut nextPaddingSize limit flushedWriter buf
  refine ⟨flushedOut, ?_⟩
  have sent := sentOnce.sent
  rw [flushedOut, List.append_nil] at sent
  rw [resent.sent, sent, List.append_assoc]

/-- A client writer whose inner stream takes two bytes of a four-byte frame and then the rest. -/
def halfTakingWriter : Writer :=
  ⟨[.ready (.ok 2), .ready (.ok 10)], [], [.ready (.ok ())], []⟩

theorem pollFlush_resends_payload_sample :
    (new .client .variant1).shouldPadWrites = true ∧ (new .client .variant1).pendingWrite = [] ∧
      (new .client .variant1).numWrittenFrames + 1 < numFirstPaddings ∧
      (new .client .variant1).pollWrite 0 0 halfTakingWriter [7] =
        (.pending, { new .client .variant1 with pendingWrite := [0, 7], writePayloadLen := 1 },
          ⟨[.ready (.ok 10)], [], [.ready (.ok ())], [0, 1]⟩) ∧
      ({ new .client .variant1 with pendingWrite := [0, 7], writePayloadLen := 1 }).pollFlush 0
          ⟨[.ready (.ok 10)], [], [.ready (.ok ())], [0, 1]⟩ =
        some (.ready (.ok ()), { new .client .variant1 with numWrittenFrames := 1, writePayloadLen := 1 },
          ⟨[], [], [], [0, 1, 0, 7]⟩) ∧
      ((({ new .client .variant1 with numWrittenFrames := 1, writePayloadLen := 1 }).pollWrite 0 0
          ⟨[], [], [], [0, 1, 0, 7]⟩ [7]).2.2.accepted ++
        (({ new .client .variant1 with numWrittenFrames := 1, writePayloadLen := 1 }).pollWrite 0 0
          ⟨[], [], [], [0, 1, 0, 7]⟩ [7]).2.1.pendingWrite =
        halfTakingWriter.accepted ++ paddedFrame [7] 0 ++ paddedFrame [7] 0) :=
  ⟨rfl, rfl, by decide, rfl, rfl,
    (@pollFlush_resends_payload (new .client .variant1)
      { new .client .variant1 with pendingWrite := [0, 7], writePayloadLen := 1 }
      { new .client .variant1 with numWrittenFrames := 1, writePayloadLen := 1 }
      halfTakingWriter ⟨[.ready (.ok 10)], [], [.ready (.ok ())], [0, 1]⟩ ⟨[], [], [], [0, 1, 0, 7]⟩
      [7] 0 0 0 rfl rfl (by decide) rfl rfl).2⟩

/-- What a caller writing data out does with a reply of `poll_write`: a count takes that many
bytes off the front of the data and is what the call reports written, `Pending` leaves the
data to be offered again, and an error ends the writes. -/
def reportWrite (data : List UInt8) :
    Poll Nat × NaivePaddingStream × Writer → Option (List UInt8 × (List UInt8 × NaivePaddingStream × Writer))
  | (.ready (.ok count), stream, writer) => some (data.take count, (data.drop count, stream, writer))
  | (.pending, stream, writer) => some ([], (data, stream, writer))
  | (.ready (.error _), _, _) => none

/-- One `poll_write` of a caller writing data out as `write_all` does, offered what is left
of the data, with the padding size and the fragment limit drawn. -/
def writeAllCall (draw : UInt8 × Nat) (state : List UInt8 × NaivePaddingStream × Writer) :
    Option (List UInt8 × (List UInt8 × NaivePaddingStream × Writer)) :=
  reportWrite state.1 (state.2.1.pollWrite draw.1 draw.2 state.2.2 state.1)

/-- `poll_write` calls of a caller writing `data` out, one for each draw: the bytes reported
written, and the data left, the stream and the inner stream after. -/
def writeAll (draws : List (UInt8 × Nat)) (data : List UInt8) (stream : NaivePaddingStream)
    (writer : Writer) : List UInt8 × (List UInt8 × NaivePaddingStream × Writer) :=
  Residual.run writeAllCall draws (data, stream, writer)

/-- The payload of the frame the writer holds, as the front of the data left to write. -/
def heldPayload (state : List UInt8 × NaivePaddingStream × Writer) : List UInt8 :=
  if state.2.1.pendingWrite = [] then [] else state.1.take state.2.1.writePayloadLen

/-- What a padded writer has sent and holds while data is written out: well-formed frames whose
payloads, followed by the bytes passed through, are the bytes reported written and then the
payload of the frame held. -/
def WritesOut (reported : List UInt8) (state : List UInt8 × NaivePaddingStream × Writer) : Prop :=
  ∃ frames raw, Sends state.2.1 state.2.2 frames raw ∧
    (frames.map Prod.fst).flatten ++ raw = reported ++ heldPayload state

theorem finishWrite_pollWriteBuffered {stream : NaivePaddingStream}
    (pending : stream.pendingWrite ≠ []) (limit : Nat) (writer : Writer) :
    (finishWrite (stream.pollWriteBuffered limit writer)).2.1.writePayloadLen = stream.writePayloadLen ∧
      (∀ count, (finishWrite (stream.pollWriteBuffered limit writer)).1 = .ready (.ok count) →
        count = stream.writePayloadLen ∧
          (finishWrite (stream.pollWriteBuffered limit writer)).2.1.pendingWrite = []) ∧
      ((finishWrite (stream.pollWriteBuffered limit writer)).1 = .pending →
        (finishWrite (stream.pollWriteBuffered limit writer)).2.1.pendingWrite ≠ []) := by
  unfold pollWriteBuffered
  dsimp only
  rw [if_neg (by simpa using pending)]
  split
  · split
    · next out =>
      refine ⟨rfl, fun count ready => ?_, fun waiting => (by cases waiting)⟩
      cases ready
      exact ⟨rfl, by simpa [finishWrite] using out⟩
    · next rest =>
      exact ⟨rfl, fun count ready => (by cases ready), fun _ => (by simpa [finishWrite] using rest)⟩
  · exact ⟨rfl, fun count ready => (by cases ready), fun waiting => (by cases waiting)⟩
  · exact ⟨rfl, fun count ready => (by cases ready), fun _ => pending⟩

section WritesOut

variable {reported data : List UInt8} {stream : NaivePaddingStream} {writer : Writer}

theorem WritesOut.moves {next : NaivePaddingStream} {after : Writer}
    (writes : WritesOut reported (data, stream, writer)) (moved : Moves stream next writer after)
    (pending : stream.pendingWrite ≠ []) (held : next.pendingWrite ≠ [])
    (samePayload : next.writePayloadLen = stream.writePayloadLen) :
    WritesOut reported (data, next, after) := by
  obtain ⟨frames, raw, (sends : Sends stream writer frames raw), payloads⟩ := writes
  refine ⟨frames, raw, sends.moves moved, ?_⟩
  simpa [heldPayload, pending, held, samePayload] using payloads

theorem WritesOut.finish {next : NaivePaddingStream} {after : Writer}
    (writes : WritesOut reported (data, stream, writer)) (moved : Moves stream next writer after)
    (pending : stream.pendingWrite ≠ []) (done : next.pendingWrite = []) :
    WritesOut (reported ++ data.take stream.writePayloadLen)
      (data.drop stream.writePayloadLen, next, after) := by
  obtain ⟨frames, raw, (sends : Sends stream writer frames raw), payloads⟩ := writes
  refine ⟨frames, raw, sends.moves moved, ?_⟩
  simpa [heldPayload, pending, done] using payloads

theorem WritesOut.encode (writes : WritesOut reported (data, stream, writer))
    (idle : stream.pendingWrite = []) (early : stream.numWrittenFrames < numFirstPaddings)
    {payload : List UInt8} (front : data.take payload.length = payload)
    (fits : payload.length ≤ maxPayloadPerFrame) (paddingSize : UInt8) :
    WritesOut reported (data, { stream with pendingWrite := paddedFrame payload paddingSize,
                                            writePayloadLen := payload.length }, writer) := by
  obtain ⟨frames, raw, (sends : Sends stream writer frames raw), payloads⟩ := writes
  refine ⟨_, raw, sends.encode idle early fits paddingSize, ?_⟩
  have framed : paddedFrame payload paddingSize ≠ [] := by simp [paddedFrame]
  simp only [heldPayload, idle, if_true, List.append_nil, sends.raw_eq_nil early] at payloads
  simp [heldPayload, framed, front, sends.raw_eq_nil early, payloads]

theorem WritesOut.passThrough {after : Writer} (writes : WritesOut reported (data, stream, writer))
    (written : numFirstPaddings ≤ stream.numWrittenFrames) {count : Nat}
    (accepted : after.accepted = writer.accepted ++ data.take count) :
    WritesOut (reported ++ data.take count) (data.drop count, stream, after) := by
  obtain ⟨frames, raw, (sends : Sends stream writer frames raw), payloads⟩ := writes
  have idle := sends.idle written
  refine ⟨frames, _, sends.passThrough written accepted, ?_⟩
  simp only [heldPayload, idle, if_true, List.append_nil] at payloads ⊢
  rw [← List.append_assoc, payloads]

theorem WritesOut.writeHeld (writes : WritesOut reported (data, stream, writer))
    (pending : stream.pendingWrite ≠ []) (limit : Nat) {out : List UInt8}
    {next : List UInt8 × NaivePaddingStream × Writer}
    (returned : reportWrite data (finishWrite (stream.pollWriteBuffered limit writer)) = some (out, next)) :
    WritesOut (reported ++ out) next := by
  obtain ⟨samePayload, ready, waiting⟩ := finishWrite_pollWriteBuffered pending limit writer
  have moved : Moves stream (finishWrite (stream.pollWriteBuffered limit writer)).2.1 writer
      (finishWrite (stream.pollWriteBuffered limit writer)).2.2 := by
    rw [finishWrite_snd]
    exact pollWriteBuffered_moves stream limit writer
  generalize finishWrite (stream.pollWriteBuffered limit writer) = result
    at samePayload ready waiting moved returned
  obtain ⟨poll, after, afterWriter⟩ := result
  rcases poll with ((err | count) | _)
  · cases returned
  · -- the whole frame is written: its payload is what the call reports
    obtain ⟨counted, done⟩ := ready count rfl
    cases returned
    rw [counted]
    exact writes.finish moved pending done
  · cases returned
    simpa using writes.moves moved pending (waiting rfl) samePayload

end WritesOut

theorem writeAllCall_tracks : Residual.Tracks writeAllCall WritesOut := by
  constructor
  intro reported draw state out next writes returned
  obtain ⟨data, stream, writer⟩ := state
  obtain ⟨paddingSize, limit⟩ := draw
  obtain ⟨frames, raw, (sends : Sends stream writer frames raw), _⟩ := id writes
  unfold writeAllCall at returned
  dsimp only at returned
  by_cases padding : stream.shouldPadWrites = true
  · have early := sends.padding_iff.mp padding
    by_cases idle : stream.pendingWrite = []
    · -- the front of the data goes in a new frame, held until it is written
      rw [pollWrite_of_idle padding idle] at returned
      exact (writes.encode idle early (take_payload data) (payload_length_le data) paddingSize).writeHeld
        (by simp [paddedFrame]) limit returned
    · -- the frame held is written first
      rw [pollWrite_of_pending padding idle] at returned
      exact writes.writeHeld idle limit returned
  · -- eight frames are written: the data goes through
    have written : numFirstPaddings ≤ stream.numWrittenFrames :=
      Nat.le_of_not_lt (mt sends.padding_iff.mpr padding)
    unfold pollWrite at returned
    rw [if_pos (by simpa using padding)] at returned
    cases reply : writer.pollWrite data with
    | mk poll after =>
      rw [reply] at returned
      rcases poll with ((err | count) | _)
      · cases returned
      · cases returned
        exact writes.passThrough written (pollWrite_taken reply).2
      · cases returned
        have kept : after.accepted = writer.accepted ++ data.take 0 := by
          rw [pollWrite_untaken reply (fun _ => by simp), List.take_zero, List.append_nil]
        simpa using writes.passThrough written kept

theorem writeAllCall_front (data : List UInt8) :
    Residual.Tracks writeAllCall (fun reported state => reported ++ state.1 = data) := by
  constructor
  intro reported draw state out next front returned
  unfold writeAllCall at returned
  generalize state.2.1.pollWrite draw.1 draw.2 state.2.2 state.1 = result at returned
  obtain ⟨poll, stream, writer⟩ := result
  rcases poll with ((err | count) | _)
  · cases returned
  · cases returned
    rw [List.append_assoc, List.take_append_drop, front]
  · cases returned
    rw [List.append_nil, front]

/-- A caller that writes data out as `write_all` does, offering what is left after each count it
is given and the same bytes again after `Pending`, with no flush in between, is sent exactly what
it is told is written. Whatever the padding sizes and fragment limits drawn and however the inner
stream takes the bytes, the bytes reported written are the front of the data, and a reader takes
what a new padded writer has sent and holds back to those bytes followed by the payload of the
frame it holds, the front of the data left. -/
theorem writeAll_roundTrip (direction : PaddingDirection) (draws : List (UInt8 × Nat))
    (data : List UInt8) (writeReplies : List (Poll Nat)) (pingReplies : List (Poll Bool))
    (flushReplies : List (Poll Unit)) :
    let run := writeAll draws data (new direction .variant1) ⟨writeReplies, pingReplies, flushReplies, []⟩
    run.1 ++ run.2.1 = data ∧
      unpadFrames numFirstPaddings (run.2.2.2.accepted ++ run.2.2.1.pendingWrite) =
        run.1 ++ heldPayload run.2 := by
  intro run
  have start : WritesOut [] (data, new direction .variant1, ⟨writeReplies, pingReplies, flushReplies, []⟩) :=
    ⟨[], [], sends_new direction writeReplies pingReplies flushReplies, by simp [heldPayload, new]⟩
  have front := Residual.run_tracks (writeAllCall_front data) draws
    (show [] ++ (data, new direction .variant1, (⟨writeReplies, pingReplies, flushReplies, []⟩ : Writer)).1 = data
      from rfl)
  obtain ⟨frames, raw, sends, payloads⟩ := Residual.run_tracks writeAllCall_tracks draws start
  rw [List.nil_append] at front payloads
  exact ⟨front, sends.unpadded.trans payloads⟩

-- the first write is pending with the frame half sent; the retry finishes it and reports it
example : (writeAll [(0, 300), (0, 300)] [1, 2, 3] (new .client .variant1)
    ⟨[.ready (.ok 2), .ready (.ok 100)], [], [], []⟩).1 = [1, 2, 3] := by
  rfl

end NaivePaddingStream

end Shoes.NaiveProxy
