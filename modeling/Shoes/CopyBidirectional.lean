import Shoes.Wire
import Shoes.Lib.RingBuffer

/-!
# The circular copy buffer

`CopyBuffer::poll_copy` of `copy_bidirectional.rs` moves bytes from a reader to a writer through
a buffer of `size` bytes, holding `cache_length` of them from `start_index` on and wrapping past
the end. Each pass of its loop reads into the free run after the held bytes while the reader has
not ended and there is room, writes a ping if one is due, writes from `start_index` while bytes
are held, flushes, and then returns when the reader has ended and the buffer is empty, or when a
read or a write was pending.

The streams are scripted: each call takes the next reply of its kind, and a call with no reply
left is pending. A reader's reply of bytes fills the `ReadBuf` with as many of them as fit, none
being the end of the stream; a writer's reply of a count takes that many bytes from the front of
what it is offered, at most all of them, as `poll_write` promises. Both record the bytes that
passed.

From any state a buffer of at least one byte reaches, whatever the replies, `poll_copy` returns
without a panic, keeps its indices in range, and the bytes read are the bytes written followed by
the bytes held, so that when it returns `Ready(Ok)` every byte read has been written once, in
order (`pollCopy_fifo`).
-/

namespace Shoes.CopyBidirectional

open Wire RingBuffer

inductive Poll (α : Type) where
  | ready (result : Except IoError α)
  | pending

/-- The next reply of a script; with none left, the call is pending. -/
def nextReply {α : Type} : List (Poll α) → Poll α × List (Poll α)
  | [] => (.pending, [])
  | reply :: replies => (reply, replies)

/-- The reading stream: its replies to `poll_read`, and the bytes it has put in read buffers. -/
structure Reader where
  replies : List (Poll (List UInt8))
  delivered : List UInt8

/-- `poll_read` into a `ReadBuf` of `capacity` bytes. -/
def Reader.pollRead (reader : Reader) (capacity : Nat) : Poll (List UInt8) × Reader :=
  match nextReply reader.replies with
  | (.ready (.ok bytes), replies) =>
    (.ready (.ok (bytes.take capacity)), ⟨replies, reader.delivered ++ bytes.take capacity⟩)
  | (reply, replies) => (reply, { reader with replies })

/-- The writing stream: its replies to `poll_write`, `poll_write_ping` and `poll_flush`, and
the bytes it has taken. -/
structure Writer where
  writeReplies : List (Poll Nat)
  pingReplies : List (Poll Bool)
  flushReplies : List (Poll Unit)
  accepted : List UInt8

/-- `poll_write` of `offered`, reporting how many bytes were taken. -/
def Writer.pollWrite (writer : Writer) (offered : List UInt8) : Poll Nat × Writer :=
  match nextReply writer.writeReplies with
  | (.ready (.ok count), replies) =>
    (.ready (.ok (offered.take count).length),
      { writer with writeReplies := replies, accepted := writer.accepted ++ offered.take count })
  | (reply, replies) => (reply, { writer with writeReplies := replies })

/-- `poll_write_ping`, reporting whether a ping was written. -/
def Writer.pollWritePing (writer : Writer) : Poll Bool × Writer :=
  let (reply, replies) := nextReply writer.pingReplies
  (reply, { writer with pingReplies := replies })

def Writer.pollFlush (writer : Writer) : Poll Unit × Writer :=
  let (reply, replies) := nextReply writer.flushReplies
  (reply, { writer with flushReplies := replies })

structure CopyBuffer where
  readDone : Bool
  needFlush : Bool
  needWritePing : Bool
  startIndex : Nat
  cacheLength : Nat
  size : Nat
  buf : List UInt8

/-- `CopyBuffer::new`. `allocate_vec` leaves the bytes unset; they are zeros here, and nothing
reads them before they are set. -/
def CopyBuffer.new (size : Nat) (needInitialFlush : Bool) : CopyBuffer :=
  ⟨false, needInitialFlush, false, 0, 0, size, List.replicate size 0⟩

/-- A buffer with the two streams it copies between. -/
structure Transfer where
  copy : CopyBuffer
  reader : Reader
  writer : Writer

/-- How a part of the loop body ends: the loop goes on with a value, or `poll_copy` returns. -/
inductive Flow (α : Type) where
  | next (value : α)
  | done (result : Poll Unit)

theorem pollRead_shorter {reader next : Reader} {capacity : Nat}
    {result : Except IoError (List UInt8)} (read : reader.pollRead capacity = (.ready result, next)) :
    next.replies.length < reader.replies.length := by
  obtain ⟨replies, delivered⟩ := reader
  unfold Reader.pollRead at read
  cases replies with
  | nil => cases read
  | cons reply rest =>
    have taken : next.replies = rest := by
      rcases reply with (_ | _) | _ <;> simp only [nextReply] at read <;> cases read <;> rfl
    rw [taken]
    exact Nat.lt_succ_self _

theorem pollWrite_shorter {writer next : Writer} {offered : List UInt8}
    {result : Except IoError Nat} (written : writer.pollWrite offered = (.ready result, next)) :
    next.writeReplies.length < writer.writeReplies.length := by
  obtain ⟨replies, pings, flushes, accepted⟩ := writer
  unfold Writer.pollWrite at written
  cases replies with
  | nil => cases written
  | cons reply rest =>
    have taken : next.writeReplies = rest := by
      rcases reply with (_ | _) | _ <;> simp only [nextReply] at written <;> cases written <;> rfl
    rw [taken]
    exact Nat.lt_succ_self _

/-- The read loop: while the reader has not ended and there is room, read into the free run
after the held bytes, up to the end of the buffer or, once the held bytes wrap, up to
`start_index`. Goes on with whether a read was pending. -/
def readLoop (transfer : Transfer) : Result (Flow Bool × Transfer) :=
  if !transfer.copy.readDone && transfer.copy.cacheLength < transfer.copy.size then do
    let unusedStartIndex ←
      usizeRem (transfer.copy.startIndex + transfer.copy.cacheLength) transfer.copy.size
    let unusedEndIndexExclusive :=
      if unusedStartIndex < transfer.copy.startIndex then transfer.copy.startIndex
      else transfer.copy.size
    let unused ← slice transfer.copy.buf unusedStartIndex unusedEndIndexExclusive
    match _read : transfer.reader.pollRead unused.length with
    | (.ready (.ok filled), reader) =>
      if filled.length = 0 then
        readLoop ⟨{ transfer.copy with readDone := true }, reader, transfer.writer⟩
      else
        readLoop ⟨{ transfer.copy with
            buf := fill transfer.copy.buf unusedStartIndex filled,
            cacheLength := transfer.copy.cacheLength + filled.length }, reader, transfer.writer⟩
    | (.ready (.error err), reader) =>
      .ok (.done (.ready (.error err)), ⟨transfer.copy, reader, transfer.writer⟩)
    | (.pending, reader) => .ok (.next true, ⟨transfer.copy, reader, transfer.writer⟩)
  else .ok (.next false, transfer)
termination_by transfer.reader.replies.length
decreasing_by all_goals exact pollRead_shorter _read

/-- The ping: when one is due and nothing is held, `poll_write_ping`, and a ping written needs a
flush; with bytes held, the write that follows stands for it. Goes on with whether the ping was
pending. -/
def pingStep (transfer : Transfer) : Flow Bool × Transfer :=
  if transfer.copy.needWritePing then
    if transfer.copy.cacheLength = 0 then
      match transfer.writer.pollWritePing with
      | (.ready (.ok written), writer) =>
        (.next false, ⟨{ transfer.copy with
            needWritePing := false,
            needFlush := if written then true else transfer.copy.needFlush }, transfer.reader, writer⟩)
      | (.ready (.error err), writer) =>
        (.done (.ready (.error err)), ⟨transfer.copy, transfer.reader, writer⟩)
      | (.pending, writer) => (.next true, ⟨transfer.copy, transfer.reader, writer⟩)
    else (.next false, ⟨{ transfer.copy with needWritePing := false }, transfer.reader, transfer.writer⟩)
  else (.next false, transfer)

/-- The write loop: while bytes are held, offer the writer those from `start_index` up to the
end of the buffer, and move `start_index` past what it takes, back to zero once none are held.
Goes on with whether a write was pending. -/
def writeLoop (transfer : Transfer) : Result (Flow Bool × Transfer) :=
  if 0 < transfer.copy.cacheLength then do
    let usedStartIndex := transfer.copy.startIndex
    let usedEndIndexExclusive :=
      min (transfer.copy.startIndex + transfer.copy.cacheLength) transfer.copy.size
    let used ← slice transfer.copy.buf usedStartIndex usedEndIndexExclusive
    match _written : transfer.writer.pollWrite used with
    | (.ready (.ok written), writer) =>
      if written = 0 then
        .ok (.done (.ready (.error ⟨.writeZero, "write zero byte into writer"⟩)),
          ⟨transfer.copy, transfer.reader, writer⟩)
      else do
        let cacheLength ← usizeSub transfer.copy.cacheLength written
        if cacheLength = 0 then
          writeLoop ⟨{ transfer.copy with cacheLength, startIndex := 0, needFlush := true },
            transfer.reader, writer⟩
        else do
          let startIndex ← usizeRem (transfer.copy.startIndex + written) transfer.copy.size
          writeLoop ⟨{ transfer.copy with cacheLength, startIndex, needFlush := true },
            transfer.reader, writer⟩
    | (.ready (.error err), writer) =>
      .ok (.done (.ready (.error err)), ⟨transfer.copy, transfer.reader, writer⟩)
    | (.pending, writer) => .ok (.next true, ⟨transfer.copy, transfer.reader, writer⟩)
  else .ok (.next false, transfer)
termination_by transfer.writer.writeReplies.length
decreasing_by all_goals exact pollWrite_shorter _written

/-- The flush, when one is needed; `ready!` returns from `poll_copy` while it is pending. -/
def flushStep (transfer : Transfer) : Flow Unit × Transfer :=
  if transfer.copy.needFlush then
    match transfer.writer.pollFlush with
    | (.ready (.ok ()), writer) =>
      (.next (), ⟨{ transfer.copy with needFlush := false }, transfer.reader, writer⟩)
    | (.ready (.error err), writer) =>
      (.done (.ready (.error err)), ⟨transfer.copy, transfer.reader, writer⟩)
    | (.pending, writer) => (.done .pending, ⟨transfer.copy, transfer.reader, writer⟩)
  else (.next (), transfer)

/-- One pass of the loop of `poll_copy`. -/
def pass (transfer : Transfer) : Result (Flow Unit × Transfer) := do
  let (read, transfer) ← readLoop transfer
  match read with
  | .done result => .ok (.done result, transfer)
  | .next readPending =>
    match pingStep transfer with
    | (.done result, transfer) => .ok (.done result, transfer)
    | (.next pingPending, transfer) => do
      let (write, transfer) ← writeLoop transfer
      match write with
      | .done result => .ok (.done result, transfer)
      | .next writePending =>
        match flushStep transfer with
        | (.done result, transfer) => .ok (.done result, transfer)
        | (.next (), transfer) =>
          if transfer.copy.readDone && transfer.copy.cacheLength = 0 then
            .ok (.done (.ready (.ok ())), transfer)
          else if readPending || pingPending || writePending then .ok (.done .pending, transfer)
          else .ok (.next (), transfer)

/-- The loop of `poll_copy` for at most `fuel` passes; `none` while it has not returned. -/
def loop : Nat → Transfer → Result (Option (Poll Unit × Transfer))
  | 0, _ => .ok none
  | fuel + 1, transfer => do
    let (flow, transfer) ← pass transfer
    match flow with
    | .done result => .ok (some (result, transfer))
    | .next () => loop fuel transfer

/-- The replies the two streams have left. -/
def Transfer.replies (transfer : Transfer) : Nat :=
  transfer.reader.replies.length + transfer.writer.writeReplies.length +
    transfer.writer.pingReplies.length + transfer.writer.flushReplies.length

/-- `poll_copy`: pending at once when the task's budget is spent (`poll_proceed`), and otherwise
its loop, given one pass more than there are replies left; `none` if the loop has still not
returned, which `pollCopy_fifo` shows does not happen. -/
def pollCopy (budget : Bool) (transfer : Transfer) : Result (Option (Poll Unit × Transfer)) :=
  if budget then loop (transfer.replies + 1) transfer else .ok (some (.pending, transfer))

theorem nextReply_length {α : Type} (replies : List (Poll α)) :
    (nextReply replies).2.length ≤ replies.length := by
  cases replies with
  | nil => exact Nat.le_refl 0
  | cons reply replies => exact Nat.le_succ _

theorem pollRead_replies {reader next : Reader} {capacity : Nat} {reply : Poll (List UInt8)}
    (read : reader.pollRead capacity = (reply, next)) :
    next.replies = (nextReply reader.replies).2 := by
  unfold Reader.pollRead at read
  split at read <;> rename_i taken <;> rw [taken] <;> cases read <;> rfl

theorem pollRead_filled {reader next : Reader} {capacity : Nat} {filled : List UInt8}
    (read : reader.pollRead capacity = (.ready (.ok filled), next)) :
    filled.length ≤ capacity ∧ next.delivered = reader.delivered ++ filled := by
  obtain ⟨replies, delivered⟩ := reader
  unfold Reader.pollRead at read
  cases replies with
  | nil => cases read
  | cons reply rest =>
    rcases reply with (err | bytes) | _ <;> simp only [nextReply] at read <;> cases read
    exact ⟨by simp only [List.length_take]; omega, rfl⟩

theorem pollRead_unfilled {reader next : Reader} {capacity : Nat} {reply : Poll (List UInt8)}
    (read : reader.pollRead capacity = (reply, next)) (unfilled : ∀ filled, reply ≠ .ready (.ok filled)) :
    next.delivered = reader.delivered := by
  obtain ⟨replies, delivered⟩ := reader
  unfold Reader.pollRead at read
  split at read
  · cases read
    exact absurd rfl (unfilled _)
  · cases read
    rfl

theorem pollWrite_replies {writer next : Writer} {offered : List UInt8} {reply : Poll Nat}
    (written : writer.pollWrite offered = (reply, next)) :
    next.writeReplies = (nextReply writer.writeReplies).2 ∧ next.pingReplies = writer.pingReplies ∧
      next.flushReplies = writer.flushReplies := by
  unfold Writer.pollWrite at written
  split at written <;> rename_i taken <;> rw [taken] <;> cases written <;> exact ⟨rfl, rfl, rfl⟩

theorem pollWrite_taken {writer next : Writer} {offered : List UInt8} {written : Nat}
    (taken : writer.pollWrite offered = (.ready (.ok written), next)) :
    written ≤ offered.length ∧ next.accepted = writer.accepted ++ offered.take written := by
  obtain ⟨replies, pings, flushes, accepted⟩ := writer
  unfold Writer.pollWrite at taken
  cases replies with
  | nil => cases taken
  | cons reply rest =>
    rcases reply with (err | count) | _ <;> simp only [nextReply] at taken <;> cases taken
    refine ⟨by simp only [List.length_take]; omega, ?_⟩
    rw [List.length_take, ← List.take_eq_take_min]

theorem pollWrite_untaken {writer next : Writer} {offered : List UInt8} {reply : Poll Nat}
    (taken : writer.pollWrite offered = (reply, next)) (untaken : ∀ written, reply ≠ .ready (.ok written)) :
    next.accepted = writer.accepted := by
  obtain ⟨replies, pings, flushes, accepted⟩ := writer
  unfold Writer.pollWrite at taken
  split at taken
  · cases taken
    exact absurd rfl (untaken _)
  · cases taken
    rfl

/-- The buffer's indices are in range, its bytes are `size` long, and the reader's bytes are the
writer's followed by the bytes the buffer holds. -/
structure Consistent (transfer : Transfer) : Prop where
  size_pos : 0 < transfer.copy.size
  start_lt : transfer.copy.startIndex < transfer.copy.size
  cache_le : transfer.copy.cacheLength ≤ transfer.copy.size
  buf_length : transfer.copy.buf.length = transfer.copy.size
  fifo : transfer.reader.delivered = transfer.writer.accepted ++
    ringContents transfer.copy.buf transfer.copy.startIndex transfer.copy.cacheLength

theorem Consistent.fill {transfer : Transfer} (consistent : Consistent transfer)
    (room : transfer.copy.cacheLength < transfer.copy.size) {filled : List UInt8}
    (fits : filled.length ≤ (if (transfer.copy.startIndex + transfer.copy.cacheLength) % transfer.copy.size <
        transfer.copy.startIndex then transfer.copy.startIndex else transfer.copy.size) -
      (transfer.copy.startIndex + transfer.copy.cacheLength) % transfer.copy.size)
    {reader : Reader} (delivered : reader.delivered = transfer.reader.delivered ++ filled) :
    Consistent ⟨{ transfer.copy with
        buf := fill transfer.copy.buf
          ((transfer.copy.startIndex + transfer.copy.cacheLength) % transfer.copy.size) filled,
        cacheLength := transfer.copy.cacheLength + filled.length }, reader, transfer.writer⟩ := by
  obtain ⟨⟨readDone, needFlush, needWritePing, start, cache, size, buf⟩, _, writer⟩ := transfer
  obtain ⟨positive, inside, bounded, length, fifo⟩ := consistent
  dsimp only at *
  obtain ⟨starts, ends, free⟩ := freeRun_bounds inside room
  subst length
  refine ⟨positive, inside, ?_, ?_, ?_⟩
  all_goals dsimp only
  · omega
  · exact length_fill (by omega)
  · rw [delivered, fifo, List.append_assoc, ringContents_fill filled inside (by omega) fits]

/-- The read loop returns and keeps the buffer consistent, and leaves the writer alone. It goes
on only once the reader has ended or the buffer is full, and changes the buffer only by taking a
reply. The induction follows the loop. -/
theorem readLoop_spec {transfer : Transfer} (consistent : Consistent transfer) :
    ∃ flow after, readLoop transfer = .ok (flow, after) ∧ Consistent after ∧
      after.writer = transfer.writer ∧
      after.reader.replies.length ≤ transfer.reader.replies.length ∧
      (flow = .next false → after.copy.readDone = true ∨ after.copy.size ≤ after.copy.cacheLength) ∧
      (after.reader.replies.length = transfer.reader.replies.length → after.copy = transfer.copy) ∧
      flow ≠ .done (.ready (.ok ())) := by
  induction transfer using readLoop.induct with
  | case2 transfer stops =>
    refine ⟨.next false, transfer, by rw [readLoop, if_neg stops], consistent, rfl, Nat.le_refl _,
      fun _ => ?_, fun _ => rfl, nofun⟩
    simp only [Bool.and_eq_true, Bool.not_eq_true', decide_eq_true_eq, not_and, Nat.not_lt] at stops
    cases done : transfer.copy.readDone
    · exact Or.inr (stops done)
    · exact Or.inl rfl
  | case1 transfer reads ended filledMore =>
    have guard := reads
    simp only [Bool.and_eq_true, Bool.not_eq_true', decide_eq_true_eq] at reads
    obtain ⟨notDone, room⟩ := reads
    obtain ⟨starts, ends, free⟩ := freeRun_bounds consistent.start_lt room
    rw [readLoop, if_pos guard, usizeRem_of_pos consistent.size_pos, ok_bind]
    dsimp only
    rw [slice_of_le starts (consistent.buf_length ▸ ends), ok_bind]
    split
    · rename_i filled reader read
      obtain ⟨fits, delivered⟩ := pollRead_filled read
      have fewer := pollRead_shorter read
      simp only [List.length_take, List.length_drop, consistent.buf_length] at fits
      split_ifs with empty
      · -- the end of the stream
        have next : Consistent ⟨{ transfer.copy with readDone := true }, reader, transfer.writer⟩ := by
          obtain ⟨positive, inside, bounded, length, fifo⟩ := consistent
          refine ⟨positive, inside, bounded, length, ?_⟩
          rw [delivered, List.eq_nil_of_length_eq_zero empty, List.append_nil]
          exact fifo
        obtain ⟨flow, after, run, kept, writer, taken, exits, same, notOk⟩ :=
          ended _ filled reader read next
        dsimp only at taken
        exact ⟨flow, after, run, kept, writer, by omega, exits, fun equal => by omega, notOk⟩
      · have next := consistent.fill room (by omega) delivered
        obtain ⟨flow, after, run, kept, writer, taken, exits, same, notOk⟩ :=
          filledMore _ _ filled reader read next
        dsimp only at taken
        exact ⟨flow, after, run, kept, writer, by omega, exits, fun equal => by omega, notOk⟩
    · rename_i err reader read
      have fewer := pollRead_shorter read
      have unchanged := pollRead_unfilled read nofun
      refine ⟨_, _, rfl, ?_, rfl, Nat.le_of_lt fewer, nofun,
        fun equal => absurd equal (Nat.ne_of_lt fewer), nofun⟩
      obtain ⟨positive, inside, bounded, length, fifo⟩ := consistent
      exact ⟨positive, inside, bounded, length, unchanged.trans fifo⟩
    · rename_i reader read
      have unchanged := pollRead_unfilled read nofun
      have taken := pollRead_replies read
      refine ⟨_, _, rfl, ?_, rfl, ?_, (fun pending => by cases pending), fun _ => rfl, nofun⟩
      · obtain ⟨positive, inside, bounded, length, fifo⟩ := consistent
        exact ⟨positive, inside, bounded, length, unchanged.trans fifo⟩
      · rw [taken]
        exact nextReply_length _

theorem pingStep_spec (transfer : Transfer) :
    ∃ flow ping flush pings, pingStep transfer =
        (flow, ⟨{ transfer.copy with needWritePing := ping, needFlush := flush }, transfer.reader,
          { transfer.writer with pingReplies := pings }⟩) ∧
      pings.length ≤ transfer.writer.pingReplies.length ∧ flow ≠ .done (.ready (.ok ())) := by
  unfold pingStep
  split_ifs with due empty
  · rcases taken : nextReply transfer.writer.pingReplies with ⟨reply, pings⟩
    have fewer : pings.length ≤ transfer.writer.pingReplies.length := by
      have := nextReply_length transfer.writer.pingReplies
      rwa [taken] at this
    rcases reply with (err | written) | _ <;> simp only [Writer.pollWritePing, taken]
    · exact ⟨_, _, _, pings, rfl, fewer, nofun⟩
    · exact ⟨_, false, _, pings, rfl, fewer, nofun⟩
    · exact ⟨_, _, _, pings, rfl, fewer, nofun⟩
  · exact ⟨_, false, _, _, rfl, Nat.le_refl _, nofun⟩
  · exact ⟨_, _, _, _, rfl, Nat.le_refl _, nofun⟩

theorem flushStep_spec (transfer : Transfer) :
    ∃ flow flush flushes, flushStep transfer =
        (flow, ⟨{ transfer.copy with needFlush := flush }, transfer.reader,
          { transfer.writer with flushReplies := flushes }⟩) ∧
      flushes.length ≤ transfer.writer.flushReplies.length ∧ flow ≠ .done (.ready (.ok ())) := by
  unfold flushStep
  split_ifs with due
  · rcases taken : nextReply transfer.writer.flushReplies with ⟨reply, flushes⟩
    have fewer : flushes.length ≤ transfer.writer.flushReplies.length := by
      have := nextReply_length transfer.writer.flushReplies
      rwa [taken] at this
    rcases reply with (err | _) | _ <;> simp only [Writer.pollFlush, taken]
    all_goals exact ⟨_, _, flushes, rfl, fewer, nofun⟩
  · exact ⟨_, _, _, rfl, Nat.le_refl _, nofun⟩

theorem Consistent.flags {transfer : Transfer} (consistent : Consistent transfer)
    (ping flush : Bool) (pings : List (Poll Bool)) (flushes : List (Poll Unit)) :
    Consistent ⟨{ transfer.copy with needWritePing := ping, needFlush := flush }, transfer.reader,
      { transfer.writer with pingReplies := pings, flushReplies := flushes }⟩ :=
  ⟨consistent.size_pos, consistent.start_lt, consistent.cache_le, consistent.buf_length,
    consistent.fifo⟩

theorem Consistent.advance {transfer : Transfer} (consistent : Consistent transfer) {written : Nat}
    (fits : written ≤ min (transfer.copy.startIndex + transfer.copy.cacheLength) transfer.copy.size -
      transfer.copy.startIndex)
    {writer : Writer}
    (accepted : writer.accepted =
      transfer.writer.accepted ++ (transfer.copy.buf.drop transfer.copy.startIndex).take written)
    {startIndex : Nat}
    (moved : transfer.copy.cacheLength - written = 0 ∧ startIndex = 0 ∨
      startIndex = (transfer.copy.startIndex + written) % transfer.copy.size)
    (flush : Bool) :
    Consistent ⟨{ transfer.copy with
      cacheLength := transfer.copy.cacheLength - written, startIndex := startIndex,
      needFlush := flush }, transfer.reader, writer⟩ := by
  obtain ⟨⟨readDone, needFlush, needWritePing, start, cache, size, buf⟩, reader, _⟩ := transfer
  obtain ⟨positive, inside, bounded, length, fifo⟩ := consistent
  dsimp only at *
  subst length
  have advanced : ringContents buf start cache = (buf.drop start).take written ++
      ringContents buf ((start + written) % buf.length) (cache - written) :=
    ringContents_advance inside bounded (by omega) (by omega)
  refine ⟨positive, ?_, ?_, rfl, ?_⟩
  all_goals dsimp only
  · rcases moved with ⟨_, rfl⟩ | rfl
    · exact positive
    · exact Nat.mod_lt _ positive
  · omega
  · rw [fifo, accepted, advanced, List.append_assoc]
    rcases moved with ⟨empty, rfl⟩ | rfl
    · rw [empty, ringContents_zero (Nat.zero_le _),
        ringContents_zero (Nat.le_of_lt (Nat.mod_lt _ positive))]
    · rfl

/-- The write loop returns and keeps the buffer consistent, and leaves the reader and the other
replies alone. It goes on only once the buffer is empty, and changes the buffer only by taking a
reply. The induction follows the loop. -/
theorem writeLoop_spec {transfer : Transfer} (consistent : Consistent transfer) :
    ∃ flow after, writeLoop transfer = .ok (flow, after) ∧ Consistent after ∧
      after.reader = transfer.reader ∧ after.copy.readDone = transfer.copy.readDone ∧
      after.writer.pingReplies = transfer.writer.pingReplies ∧
      after.writer.flushReplies = transfer.writer.flushReplies ∧
      after.writer.writeReplies.length ≤ transfer.writer.writeReplies.length ∧
      (flow = .next false → after.copy.cacheLength = 0) ∧
      (after.writer.writeReplies.length = transfer.writer.writeReplies.length →
        after.copy = transfer.copy) ∧
      flow ≠ .done (.ready (.ok ())) := by
  induction transfer using writeLoop.induct with
  | case2 transfer idle =>
    exact ⟨.next false, transfer, by rw [writeLoop, if_neg idle], consistent, rfl, rfl, rfl, rfl,
      Nat.le_refl _, fun _ => by omega, fun _ => rfl, nofun⟩
  | case1 transfer held emptied moved =>
    have inside := consistent.start_lt
    have bounded := consistent.cache_le
    rw [writeLoop, if_pos held]
    dsimp only
    rw [slice_of_le (by omega) (by rw [consistent.buf_length]; omega), ok_bind]
    split
    · rename_i written writer wrote
      obtain ⟨fits, accepted⟩ := pollWrite_taken wrote
      obtain ⟨-, pings, flushes⟩ := pollWrite_replies wrote
      have fewer := pollWrite_shorter wrote
      simp only [List.length_take, List.length_drop, consistent.buf_length] at fits
      rw [List.take_take, Nat.min_eq_left (by omega)] at accepted
      split_ifs with nothing
      · -- nothing taken: `WriteZero`
        refine ⟨_, _, rfl, ?_, rfl, rfl, pings, flushes, Nat.le_of_lt fewer, nofun,
          fun equal => absurd equal (Nat.ne_of_lt fewer), nofun⟩
        obtain ⟨positive, start, cache, length, fifo⟩ := consistent
        refine ⟨positive, start, cache, length, ?_⟩
        rw [fifo, accepted, nothing, List.take_zero, List.append_nil]
      · rw [usizeSub_of_le (by omega), ok_bind]
        split_ifs with empty
        · obtain ⟨flow, after, run, kept, reader, done, pings', flushes', taken, exits, same, notOk⟩ :=
            emptied _ written writer wrote _
              (consistent.advance (by omega) accepted (Or.inl ⟨empty, rfl⟩) true)
          dsimp only at reader done pings' flushes' taken
          exact ⟨flow, after, run, kept, reader, done, pings'.trans pings, flushes'.trans flushes,
            by omega, exits, fun equal => by omega, notOk⟩
        · rw [usizeRem_of_pos consistent.size_pos, ok_bind]
          obtain ⟨flow, after, run, kept, reader, done, pings', flushes', taken, exits, same, notOk⟩ :=
            moved _ written writer wrote _ _ (consistent.advance (by omega) accepted (Or.inr rfl) true)
          dsimp only at reader done pings' flushes' taken
          exact ⟨flow, after, run, kept, reader, done, pings'.trans pings, flushes'.trans flushes,
            by omega, exits, fun equal => by omega, notOk⟩
    · rename_i err writer wrote
      obtain ⟨-, pings, flushes⟩ := pollWrite_replies wrote
      have fewer := pollWrite_shorter wrote
      have unchanged := pollWrite_untaken wrote nofun
      refine ⟨_, _, rfl, ?_, rfl, rfl, pings, flushes, Nat.le_of_lt fewer, nofun,
        fun equal => absurd equal (Nat.ne_of_lt fewer), nofun⟩
      obtain ⟨positive, start, cache, length, fifo⟩ := consistent
      exact ⟨positive, start, cache, length, by rw [fifo, unchanged]⟩
    · rename_i writer wrote
      obtain ⟨replies, pings, flushes⟩ := pollWrite_replies wrote
      have unchanged := pollWrite_untaken wrote nofun
      refine ⟨_, _, rfl, ?_, rfl, rfl, pings, flushes, ?_, (fun pending => by cases pending),
        fun _ => rfl, nofun⟩
      · obtain ⟨positive, start, cache, length, fifo⟩ := consistent
        exact ⟨positive, start, cache, length, by rw [fifo, unchanged]⟩
      · rw [replies]
        exact nextReply_length _

/-- A pass returns and keeps the buffer consistent. It returns `Ready(Ok)` only with the buffer
empty, and goes on only after taking a reply: with none taken, the reader has ended or the
buffer is full, and then it is empty, so it has ended. -/
theorem pass_spec {transfer : Transfer} (consistent : Consistent transfer) :
    ∃ flow after, pass transfer = .ok (flow, after) ∧ Consistent after ∧
      after.replies ≤ transfer.replies ∧
      (flow = .next () → after.replies < transfer.replies) ∧
      (flow = .done (.ready (.ok ())) → after.copy.cacheLength = 0) := by
  obtain ⟨read, readAfter, readRun, readKept, readWriter, readFewer, readExits, readSame, readNotOk⟩ :=
    readLoop_spec consistent
  have readReplies : readAfter.replies ≤ transfer.replies := by
    unfold Transfer.replies
    rw [readWriter]
    omega
  rw [pass, readRun, ok_bind]
  cases read with
  | done result => exact ⟨_, _, rfl, readKept, readReplies, nofun, fun ok => by cases ok; exact absurd rfl readNotOk⟩
  | next readPending =>
  obtain ⟨ping, pingFlag, pingFlush, pings, pingRun, pingFewer, pingNotOk⟩ := pingStep_spec readAfter
  dsimp only
  rw [pingRun]
  set pingAfter : Transfer := ⟨{ readAfter.copy with needWritePing := pingFlag, needFlush := pingFlush },
    readAfter.reader, { readAfter.writer with pingReplies := pings }⟩ with pingAfter_eq
  have pingKept : Consistent pingAfter :=
    readKept.flags pingFlag pingFlush pings readAfter.writer.flushReplies
  have pingReplies : pingAfter.replies ≤ readAfter.replies := by
    simp only [pingAfter_eq, Transfer.replies]
    omega
  cases ping with
  | done result =>
    exact ⟨_, _, rfl, pingKept, pingReplies.trans readReplies, nofun, fun ok => by cases ok; exact absurd rfl pingNotOk⟩
  | next pingPending =>
  obtain ⟨write, writeAfter, writeRun, writeKept, writeReader, writeDone, writePings, writeFlushes,
    writeFewer, writeExits, writeSame, writeNotOk⟩ := writeLoop_spec pingKept
  have writeReplies : writeAfter.replies ≤ pingAfter.replies := by
    unfold Transfer.replies
    rw [writeReader, writePings, writeFlushes]
    omega
  dsimp only
  rw [writeRun, ok_bind]
  cases write with
  | done result =>
    exact ⟨_, _, rfl, writeKept, writeReplies.trans (pingReplies.trans readReplies), nofun,
      fun ok => by cases ok; exact absurd rfl writeNotOk⟩
  | next writePending =>
  obtain ⟨flush, flushFlag, flushes, flushRun, flushFewer, flushNotOk⟩ := flushStep_spec writeAfter
  dsimp only
  rw [flushRun]
  set flushAfter : Transfer := ⟨{ writeAfter.copy with needFlush := flushFlag }, writeAfter.reader,
    { writeAfter.writer with flushReplies := flushes }⟩ with flushAfter_eq
  have flushKept : Consistent flushAfter := writeKept.flags writeAfter.copy.needWritePing flushFlag
    writeAfter.writer.pingReplies flushes
  have flushReplies : flushAfter.replies ≤ writeAfter.replies := by
    simp only [flushAfter_eq, Transfer.replies]
    omega
  have total := flushReplies.trans (writeReplies.trans (pingReplies.trans readReplies))
  cases flush with
  | done result =>
    exact ⟨_, _, rfl, flushKept, total, nofun, fun ok => by cases ok; exact absurd rfl flushNotOk⟩
  | next =>
  dsimp only
  split_ifs with ended pending
  · simp only [Bool.and_eq_true, decide_eq_true_eq] at ended
    exact ⟨_, _, rfl, flushKept, total, nofun, fun _ => ended.2⟩
  · exact ⟨_, _, rfl, flushKept, total, nofun, nofun⟩
  · -- going on: some reply was taken, or the loop would have ended
    refine ⟨_, _, rfl, flushKept, total, fun _ => ?_, nofun⟩
    simp only [Bool.or_eq_true, not_or, Bool.not_eq_true] at pending
    obtain ⟨⟨rfl, rfl⟩, rfl⟩ := pending
    by_contra stuck
    -- each of the four scripts is no longer than before, so none was taken from
    have counts : flushAfter.replies = writeAfter.reader.replies.length +
        writeAfter.writer.writeReplies.length + pings.length + flushes.length := by
      simp only [flushAfter_eq, Transfer.replies, writePings, pingAfter_eq]
    have readerCount : writeAfter.reader.replies.length = readAfter.reader.replies.length := by
      rw [writeReader, pingAfter_eq]
    have writesBefore : pingAfter.writer.writeReplies = transfer.writer.writeReplies := by
      rw [pingAfter_eq, ← readWriter]
    have pingsBefore : pings.length ≤ transfer.writer.pingReplies.length := by
      rw [← readWriter]
      exact pingFewer
    have flushesBefore : flushes.length ≤ transfer.writer.flushReplies.length := by
      rw [writeFlushes, pingAfter_eq, readWriter] at flushFewer
      exact flushFewer
    rw [counts] at stuck
    unfold Transfer.replies at stuck
    rw [writesBefore] at writeFewer writeSame
    have readNone := readSame (by omega)
    have writeNone := writeSame (by omega)
    have empty := writeExits rfl
    rcases readExits rfl with done | full
    · apply ended
      simp only [Bool.and_eq_true, decide_eq_true_eq]
      exact ⟨by rw [writeDone]; exact done, empty⟩
    · have positive := consistent.size_pos
      rw [writeNone, pingAfter_eq] at empty
      dsimp only at empty
      rw [readNone] at empty full
      omega

theorem loop_spec (fuel : Nat) {transfer : Transfer} (consistent : Consistent transfer)
    (enough : transfer.replies < fuel) :
    ∃ result after, loop fuel transfer = .ok (some (result, after)) ∧ Consistent after ∧
      (result = .ready (.ok ()) → after.copy.cacheLength = 0) := by
  induction fuel generalizing transfer with
  | zero => exact absurd enough (Nat.not_lt_zero _)
  | succ fuel more =>
    obtain ⟨flow, after, run, kept, fewer, progress, emptied⟩ := pass_spec consistent
    rw [loop, run, ok_bind]
    cases flow with
    | done result => exact ⟨result, after, rfl, kept, fun ok => emptied (by rw [ok])⟩
    | next value =>
      cases value
      have took := progress rfl
      exact more kept (by omega)

theorem pollCopy_spec (budget : Bool) {transfer : Transfer} (consistent : Consistent transfer) :
    ∃ result after, pollCopy budget transfer = .ok (some (result, after)) ∧ Consistent after ∧
      (result = .ready (.ok ()) → after.copy.cacheLength = 0) := by
  unfold pollCopy
  cases budget with
  | false => exact ⟨.pending, transfer, rfl, consistent, nofun⟩
  | true => exact loop_spec _ consistent (Nat.lt_succ_self _)

/-- The states of a transfer: a new buffer of at least one byte between streams that have passed
no bytes yet, then polls, and the ping timer of `CopyBidirectional` marking a ping due. -/
inductive Reachable : Transfer → Prop
  | new (size : Nat) (positive : 0 < size) (needInitialFlush : Bool)
      (replies : List (Poll (List UInt8))) (writeReplies : List (Poll Nat))
      (pingReplies : List (Poll Bool)) (flushReplies : List (Poll Unit)) :
      Reachable ⟨CopyBuffer.new size needInitialFlush, ⟨replies, []⟩,
        ⟨writeReplies, pingReplies, flushReplies, []⟩⟩
  | poll {transfer after : Transfer} {result : Poll Unit} (budget : Bool) :
      Reachable transfer → pollCopy budget transfer = .ok (some (result, after)) → Reachable after
  | ping {transfer : Transfer} (supportsPing : Bool) :
      Reachable transfer →
        Reachable ⟨{ transfer.copy with needWritePing := supportsPing }, transfer.reader,
          transfer.writer⟩

theorem Reachable.consistent {transfer : Transfer} (reachable : Reachable transfer) :
    Consistent transfer := by
  induction reachable with
  | new size positive needInitialFlush replies writeReplies pingReplies flushReplies =>
    refine ⟨positive, positive, Nat.zero_le _, List.length_replicate, ?_⟩
    change [] = [] ++ ringContents (List.replicate size 0) 0 0
    rw [ringContents_zero (Nat.zero_le _)]
    rfl
  | poll budget _ polled consistent =>
    obtain ⟨result, after, run, kept, -⟩ := pollCopy_spec budget consistent
    rw [run] at polled
    cases polled
    exact kept
  | ping supportsPing _ consistent =>
    exact consistent.flags supportsPing _ _ _

/-- Whatever the replies of the reader and the writer, `poll_copy` on a state a buffer of at
least one byte reaches returns, keeps `start_index` below the size and `cache_length` at most the
size, and the bytes read are the bytes written followed by the `cache_length` bytes held; when it
returns `Ready(Ok)`, every byte read has been written once, in order. -/
theorem pollCopy_fifo {transfer : Transfer} (reachable : Reachable transfer) (budget : Bool) :
    ∃ result after, pollCopy budget transfer = .ok (some (result, after)) ∧
      after.copy.startIndex < after.copy.size ∧ after.copy.cacheLength ≤ after.copy.size ∧
      (ringContents after.copy.buf after.copy.startIndex after.copy.cacheLength).length =
        after.copy.cacheLength ∧
      after.reader.delivered = after.writer.accepted ++
        ringContents after.copy.buf after.copy.startIndex after.copy.cacheLength ∧
      (result = .ready (.ok ()) → after.reader.delivered = after.writer.accepted) := by
  obtain ⟨result, after, run, kept, emptied⟩ := pollCopy_spec budget reachable.consistent
  have held : (ringContents after.copy.buf after.copy.startIndex after.copy.cacheLength).length =
      after.copy.cacheLength := by
    apply length_ringContents
    · rw [kept.buf_length]
      exact Nat.le_of_lt kept.start_lt
    · rw [kept.buf_length]
      exact kept.cache_le
  refine ⟨result, after, run, kept.start_lt, kept.cache_le, held, kept.fifo, fun ok => ?_⟩
  rw [kept.fifo, List.eq_nil_of_length_eq_zero (held.trans (emptied ok)), List.append_nil]

/-- A copy through a buffer of four bytes, whose reader delivers three bytes and ends, and whose
writer takes two bytes and then one. -/
def sampleTransfer : Transfer :=
  ⟨CopyBuffer.new 4 false, ⟨[.ready (.ok [1, 2, 3]), .ready (.ok [])], []⟩,
    ⟨[.ready (.ok 2), .ready (.ok 1)], [], [.ready (.ok ())], []⟩⟩

theorem pollCopy_fifo_sample :
    ∃ result after, pollCopy true sampleTransfer = .ok (some (result, after)) ∧
      after.copy.startIndex < after.copy.size ∧ after.copy.cacheLength ≤ after.copy.size ∧
      (ringContents after.copy.buf after.copy.startIndex after.copy.cacheLength).length =
        after.copy.cacheLength ∧
      after.reader.delivered = after.writer.accepted ++
        ringContents after.copy.buf after.copy.startIndex after.copy.cacheLength ∧
      (result = .ready (.ok ()) → after.reader.delivered = after.writer.accepted) :=
  pollCopy_fifo (.new 4 (by decide) false _ _ _ _) true

end Shoes.CopyBidirectional
