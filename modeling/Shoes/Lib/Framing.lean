import Mathlib

/-!
# Incremental decoding of a framed stream

A decoder that reads frames from a byte stream keeps what it has received in a buffer. Each
call decodes from the front of the buffer: it produces an output, fails, or stops because the
next frame is not complete yet, and the caller then appends the next chunk of the stream.
Frames that produce no output are consumed and the call goes on to the next one.

The decoder's state is abstract here, and its buffer is reached through a lens. Under
per-frame hypotheses (`Decodes`: a complete frame at the front is decoded as a frame-level
specification says, and a strict prefix of a frame is left alone), feeding any split of a
stream of frames produces what the specification produces frame by frame
(`feed_eq_specRun`), so the result does not depend on where the chunks end.
-/

namespace Framing

/-- A state with a buffer inside it, reached through a lawful lens. -/
structure Lens (σ β : Type) where
  buffer : σ → List β
  withBuffer : σ → List β → σ
  buffer_withBuffer : ∀ state bytes, buffer (withBuffer state bytes) = bytes
  withBuffer_withBuffer :
    ∀ state bytes bytes', withBuffer (withBuffer state bytes) bytes' = withBuffer state bytes'

attribute [simp] Lens.buffer_withBuffer Lens.withBuffer_withBuffer

variable {σ β φ ω ε : Type}

/-- A run that has not failed goes on with `rest`, whose outputs follow the first part's. -/
def andThen (first : List ω × Except ε σ) (rest : σ → List ω × Except ε σ) :
    List ω × Except ε σ :=
  match first with
  | (outputs, .error err) => (outputs, .error err)
  | (outputs, .ok state) => (outputs ++ (rest state).1, (rest state).2)

@[simp] theorem andThen_error (outputs : List ω) (err : ε) (rest : σ → List ω × Except ε σ) :
    andThen (outputs, .error err) rest = (outputs, .error err) :=
  rfl

@[simp] theorem andThen_ok (outputs : List ω) (state : σ) (rest : σ → List ω × Except ε σ) :
    andThen (outputs, .ok state) rest = (outputs ++ (rest state).1, (rest state).2) :=
  rfl

theorem andThen_assoc (first : List ω × Except ε σ) (second third : σ → List ω × Except ε σ) :
    andThen (andThen first second) third = andThen first fun state => andThen (second state) third := by
  obtain ⟨outputs, _ | state⟩ := first
  · rfl
  · rcases continued : second state with ⟨more, _ | next⟩ <;> simp [continued]

/-- Calls the decoder until one stops: on an error, when it needs more bytes, or after `fuel`
outputs. -/
def drain (call : σ → Except ε (Option ω × σ)) : Nat → σ → List ω × Except ε σ
  | 0, state => ([], .ok state)
  | fuel + 1, state =>
    match call state with
    | .error err => ([], .error err)
    | .ok (none, state) => ([], .ok state)
    | .ok (some output, state) => andThen ([output], .ok state) (drain call fuel)

/-- The caller's loop: each chunk is appended to the buffer, and the decoder is called until it
needs more bytes. Each output consumes a byte at least, so a call per byte is enough. -/
def feed (lens : Lens σ β) (call : σ → Except ε (Option ω × σ)) :
    List (List β) → σ → List ω × Except ε σ
  | [], state => ([], .ok state)
  | chunk :: chunks, state =>
    let state := lens.withBuffer state (lens.buffer state ++ chunk)
    andThen (drain call ((lens.buffer state).length + 1) state) (feed lens call chunks)

/-- The specification: the frames' effects one after another, until one fails. -/
def specRun (apply : φ → σ → Except ε (Option ω × σ)) : List φ → σ → List ω × Except ε σ
  | [], state => ([], .ok state)
  | frame :: frames, state =>
    match apply frame state with
    | .error err => ([], .error err)
    | .ok (output, state) => andThen (output.toList, .ok state) (specRun apply frames)

theorem specRun_append (apply : φ → σ → Except ε (Option ω × σ)) (first second : List φ)
    (state : σ) :
    specRun apply (first ++ second) state =
      andThen (specRun apply first state) (specRun apply second) := by
  induction first generalizing state with
  | nil => simp [specRun]
  | cons frame first induction =>
    simp only [List.cons_append, specRun]
    rcases apply frame state with err | ⟨output, next⟩
    · rfl
    · dsimp only
      rw [andThen_assoc]
      congr 1
      funext next
      exact induction next

/-- The bytes a decoder may be left with between frames: nothing, or a strict prefix of the
next frame. -/
def Partial (encode : φ → List β) (frames : List φ) (front : List β) : Prop :=
  front = [] ∨ ∃ frame others back, frames = frame :: others ∧ front ++ back = encode frame ∧ back ≠ []

theorem split_prefix (encode : φ → List β) (frames : List φ) (front back : List β)
    (stream : front ++ back = frames.flatMap encode) :
    ∃ done rest tail, frames = done ++ rest ∧ front = done.flatMap encode ++ tail ∧
      Partial encode rest tail := by
  induction frames generalizing front with
  | nil =>
    have empty : front = [] := (List.append_eq_nil_iff.mp stream).1
    exact ⟨[], [], [], rfl, by simp [empty], .inl rfl⟩
  | cons frame frames induction =>
    rw [List.flatMap_cons, List.append_eq_append_iff] at stream
    rcases stream with ⟨middle, within, _⟩ | ⟨middle, beyond, more⟩
    · -- the prefix ends inside the first frame, or exactly at its end
      by_cases whole : middle = []
      · subst whole
        exact ⟨[frame], frames, [], rfl, by simpa using within.symm, .inl rfl⟩
      · exact ⟨[], frame :: frames, front, rfl, by simp,
          .inr ⟨frame, frames, middle, rfl, within.symm, whole⟩⟩
    · -- the prefix holds the first frame: split the rest of it
      obtain ⟨done, rest, tail, framesEq, frontEq, partialTail⟩ := induction middle more.symm
      exact ⟨frame :: done, rest, tail, by simp [framesEq], by simp [beyond, frontEq], partialTail⟩

theorem length_le_flatMap (encode : φ → List β) (nonempty : ∀ frame, encode frame ≠ [])
    (frames : List φ) : frames.length ≤ (frames.flatMap encode).length := by
  induction frames with
  | nil => simp
  | cons frame frames induction =>
    have long : 0 < (encode frame).length := List.length_pos_iff.mpr (nonempty frame)
    simp only [List.length_cons, List.flatMap_cons, List.length_append]
    omega

/-- What a decoder must do for `feed_eq_specRun`: a complete frame at the front of the buffer
is decoded as the specification says, and the decoder goes on to the next frame when it
produces nothing; a strict prefix of a frame, or nothing, is left in the buffer; and the
specification neither reads nor writes the buffer. -/
structure Decodes (lens : Lens σ β) (encode : φ → List β) (call : σ → Except ε (Option ω × σ))
    (apply : φ → σ → Except ε (Option ω × σ)) : Prop where
  encode_ne_nil : ∀ frame, encode frame ≠ []
  call_empty : ∀ state, call (lens.withBuffer state []) = .ok (none, lens.withBuffer state [])
  call_prefix : ∀ frame front back state, front ++ back = encode frame → back ≠ [] →
    call (lens.withBuffer state front) = .ok (none, lens.withBuffer state front)
  call_frame : ∀ frame state rest, call (lens.withBuffer state (encode frame ++ rest)) =
    match apply frame (lens.withBuffer state rest) with
    | .error err => .error err
    | .ok (none, next) => call next
    | .ok (some output, next) => .ok (some output, next)
  apply_withBuffer : ∀ frame state bytes, apply frame (lens.withBuffer state bytes) =
    (apply frame state).map fun (output, next) => (output, lens.withBuffer next bytes)

section Decodes

variable {lens : Lens σ β} {encode : φ → List β} {call : σ → Except ε (Option ω × σ)}
  {apply : φ → σ → Except ε (Option ω × σ)}

theorem specRun_withBuffer (decodes : Decodes lens encode call apply) (frames : List φ)
    (state : σ) (bytes : List β) :
    specRun apply frames (lens.withBuffer state bytes) =
      ((specRun apply frames state).1,
        (specRun apply frames state).2.map fun next => lens.withBuffer next bytes) := by
  induction frames generalizing state with
  | nil => rfl
  | cons frame frames induction =>
    simp only [specRun, decodes.apply_withBuffer]
    rcases apply frame state with err | ⟨output, next⟩
    · rfl
    · simp [Except.map, induction]

theorem drain_partial (decodes : Decodes lens encode call apply) (frames : List φ)
    {front : List β} (partialFront : Partial encode frames front) (state : σ) (fuel : Nat) :
    drain call (fuel + 1) (lens.withBuffer state front) = ([], .ok (lens.withBuffer state front)) := by
  rcases partialFront with empty | ⟨frame, others, back, _, spelled, nonempty⟩
  · subst empty
    simp [drain, decodes.call_empty]
  · simp [drain, decodes.call_prefix frame front back state spelled nonempty]

theorem drain_frames (decodes : Decodes lens encode call apply) (frames rest : List φ)
    {front : List β} (partialFront : Partial encode rest front) (state : σ) (fuel : Nat)
    (enough : frames.length < fuel) :
    drain call fuel (lens.withBuffer state (frames.flatMap encode ++ front)) =
      specRun apply frames (lens.withBuffer state front) := by
  induction frames generalizing state fuel with
  | nil =>
    obtain ⟨fuel, rfl⟩ : ∃ less, fuel = less + 1 := ⟨fuel - 1, by simp at enough; omega⟩
    simpa [specRun] using drain_partial decodes rest partialFront state fuel
  | cons frame frames induction =>
    obtain ⟨fuel, rfl⟩ : ∃ less, fuel = less + 1 := ⟨fuel - 1, by simp at enough; omega⟩
    have first := decodes.call_frame frame state (frames.flatMap encode ++ front)
    rw [decodes.apply_withBuffer] at first
    rw [List.flatMap_cons, List.append_assoc]
    simp only [specRun, decodes.apply_withBuffer]
    rcases applied : apply frame state with err | ⟨_ | output, next⟩
    · -- the frame fails: so does the call
      simp [drain, first, applied, Except.map]
    · -- a frame with no output: the same call goes on to the next frame
      have again : drain call (fuel + 1) (lens.withBuffer state (encode frame ++ (frames.flatMap encode ++ front))) =
          drain call (fuel + 1) (lens.withBuffer next (frames.flatMap encode ++ front)) := by
        simp only [drain, first, applied, Except.map]
      rw [again, induction next (fuel + 1) (by simp at enough; omega)]
      simp [Except.map]
    · -- an output ends the call; the next call starts at the next frame
      simp only [drain, first, applied, Except.map, andThen_ok]
      rw [induction next fuel (by simpa using enough)]
      simp

theorem feed_partial (decodes : Decodes lens encode call apply) (chunks : List (List β))
    (frames : List φ) (front : List β) (partialFront : Partial encode frames front)
    (stream : front ++ chunks.flatten = frames.flatMap encode) (state : σ) :
    feed lens call chunks (lens.withBuffer state front) =
      specRun apply frames (lens.withBuffer state []) := by
  induction chunks generalizing frames front state with
  | nil =>
    -- all of the stream is in the buffer, which holds no whole frame: nothing is left
    rcases partialFront with empty | ⟨frame, others, back, framesEq, spelled, nonempty⟩
    · subst empty
      have noFrames : frames = [] := by
        cases frames with
        | nil => rfl
        | cons frame others =>
          have := decodes.encode_ne_nil frame
          simp_all
      subst noFrames
      rfl
    · subst framesEq
      simp only [List.flatten_nil, List.append_nil, List.flatMap_cons] at stream
      have long := congrArg List.length spelled
      have longer := congrArg List.length stream
      have backLong : 0 < back.length := List.length_pos_iff.mpr nonempty
      simp only [List.length_append] at long longer
      omega
  | cons chunk chunks induction =>
    obtain ⟨done, rest, tail, framesEq, frontEq, partialTail⟩ :=
      split_prefix encode frames (front ++ chunk) chunks.flatten (by simpa using stream)
    have restStream : tail ++ chunks.flatten = rest.flatMap encode := by
      have whole : (front ++ chunk) ++ chunks.flatten = frames.flatMap encode := by simpa using stream
      rw [frontEq, framesEq, List.flatMap_append, List.append_assoc] at whole
      exact List.append_cancel_left whole
    have enough : done.length < (front ++ chunk).length + 1 := by
      have := length_le_flatMap encode decodes.encode_ne_nil done
      have := congrArg List.length frontEq
      simp only [List.length_append] at *
      omega
    simp only [feed, Lens.buffer_withBuffer, Lens.withBuffer_withBuffer]
    rw [frontEq, drain_frames decodes done rest partialTail state _ (by rw [← frontEq]; exact enough),
      framesEq, specRun_append, specRun_withBuffer decodes, specRun_withBuffer decodes]
    obtain ⟨outputs, _ | next⟩ := specRun apply done state
    · rfl
    · simp only [Except.map, andThen_ok, induction rest tail partialTail restStream next]

theorem feed_eq_specRun (decodes : Decodes lens encode call apply) (chunks : List (List β))
    (frames : List φ) (stream : chunks.flatten = frames.flatMap encode) (state : σ) :
    feed lens call chunks (lens.withBuffer state []) = specRun apply frames (lens.withBuffer state []) :=
  feed_partial decodes chunks frames [] (.inl rfl) (by simpa using stream) state

end Decodes

end Framing
