import Mathlib.Data.List.Basic

/-!
# Readers that follow a residual specification

A reader hands out the meaning of its input a piece at a time: each call returns some output and
leaves a state from which the rest follows. When what is still to come is given by a function of
the state, the *residual*, a call is faithful if its output followed by the residual of the state
after it is the residual of the state before it. Faithful calls compose: the outputs of any run of
them followed by the residual of the last state are the residual of the first (`run_follows`).

A writer is the other way round: what its state stands for, the bytes it has sent and holds as a
reader would take them, grows by the output of each call, here the bytes the call reports written.
Over a run it has grown by the outputs of all the calls (`run_appends`). A writer that holds back
part of what it was given stands for what it reported up to that part; an invariant of the outputs
so far and the state that each call keeps holds of the whole run (`run_tracks`).
-/

namespace Residual

variable {α σ γ : Type}

/-- Calls of a reader from states that keep `inv`: each call that returns keeps the invariant,
and its output followed by the residual after it is the residual before it. -/
structure Faithful (call : α → σ → Option (List γ × σ)) (residual : σ → List γ)
    (inv : σ → Prop) : Prop where
  keeps : ∀ {arg state out next}, inv state → call arg state = some (out, next) → inv next
  follows : ∀ {arg state out next}, inv state → call arg state = some (out, next) →
    out ++ residual next = residual state

/-- Calls one after another with the arguments `args`: the outputs in order and the last state.
A call that does not return ends the run where it is. -/
def run (call : α → σ → Option (List γ × σ)) : List α → σ → List γ × σ
  | [], state => ([], state)
  | arg :: args, state =>
    match call arg state with
    | none => ([], state)
    | some (out, next) => ((out ++ (run call args next).1), (run call args next).2)

@[simp] theorem run_nil (call : α → σ → Option (List γ × σ)) (state : σ) :
    run call [] state = ([], state) :=
  rfl

theorem run_cons_some {call : α → σ → Option (List γ × σ)} {arg : α} {state next : σ}
    {out : List γ} (args : List α) (returned : call arg state = some (out, next)) :
    run call (arg :: args) state = (out ++ (run call args next).1, (run call args next).2) := by
  simp only [run, returned]

theorem run_cons_none {call : α → σ → Option (List γ × σ)} {arg : α} {state : σ}
    (args : List α) (stuck : call arg state = none) :
    run call (arg :: args) state = ([], state) := by
  simp only [run, stuck]

section Faithful

variable {call : α → σ → Option (List γ × σ)} {residual : σ → List γ} {inv : σ → Prop}

theorem run_follows (faithful : Faithful call residual inv) (args : List α) {state : σ}
    (start : inv state) :
    inv (run call args state).2 ∧ (run call args state).1 ++ residual (run call args state).2 =
      residual state := by
  induction args generalizing state with
  | nil => exact ⟨start, rfl⟩
  | cons arg args ih =>
    cases returned : call arg state with
    | none => simpa [run_cons_none args returned] using start
    | some result =>
      obtain ⟨out, next⟩ := result
      obtain ⟨kept, rest⟩ := ih (faithful.keeps start returned)
      rw [run_cons_some args returned]
      refine ⟨kept, ?_⟩
      rw [List.append_assoc, rest]
      exact faithful.follows start returned

end Faithful

/-- Calls of a writer from states that keep `inv`: each call that returns keeps the invariant, and
what the state after it stands for is what the state before stood for followed by its output. -/
structure Appends (call : α → σ → Option (List γ × σ)) (meaning : σ → List γ)
    (inv : σ → Prop) : Prop where
  keeps : ∀ {arg state out next}, inv state → call arg state = some (out, next) → inv next
  appends : ∀ {arg state out next}, inv state → call arg state = some (out, next) →
    meaning next = meaning state ++ out

section Appends

variable {call : α → σ → Option (List γ × σ)} {meaning : σ → List γ} {inv : σ → Prop}

theorem run_appends (appending : Appends call meaning inv) (args : List α) {state : σ}
    (start : inv state) :
    inv (run call args state).2 ∧ meaning (run call args state).2 = meaning state ++ (run call args state).1 := by
  induction args generalizing state with
  | nil => exact ⟨start, by simp⟩
  | cons arg args ih =>
    cases returned : call arg state with
    | none => simpa [run_cons_none args returned] using start
    | some result =>
      obtain ⟨out, next⟩ := result
      obtain ⟨kept, rest⟩ := ih (appending.keeps start returned)
      rw [run_cons_some args returned]
      refine ⟨kept, ?_⟩
      rw [rest, appending.appends start returned, List.append_assoc]

end Appends

/-- Calls that keep an invariant of the outputs so far and the state, for a writer whose state
stands for what it reported written only up to a part it still holds. -/
structure Tracks (call : α → σ → Option (List γ × σ)) (inv : List γ → σ → Prop) : Prop where
  keeps : ∀ {done arg state out next}, inv done state → call arg state = some (out, next) →
    inv (done ++ out) next

theorem run_tracks {call : α → σ → Option (List γ × σ)} {inv : List γ → σ → Prop}
    (tracking : Tracks call inv) (args : List α) {done : List γ} {state : σ}
    (start : inv done state) : inv (done ++ (run call args state).1) (run call args state).2 := by
  induction args generalizing done state with
  | nil => simpa using start
  | cons arg args ih =>
    cases returned : call arg state with
    | none => simpa [run_cons_none args returned] using start
    | some result =>
      obtain ⟨out, next⟩ := result
      rw [run_cons_some args returned, ← List.append_assoc]
      exact ih (tracking.keeps start returned)

end Residual
