import Mathlib

/-!
# Parsers that keep only their position

A parser that keeps none of its input between calls, only where it stands in the grammar, is an
automaton over the input symbols: each symbol moves it to a new state, emitting some outputs, or
ends it with a final value. A run over a concatenation is the run over the first part continued
over the second (`run_append`), so a caller that feeds the input in chunks sees the outputs of
one run over the whole input, split where the chunks end.

The state the automaton stands in between calls may have to be reached first by moves that read
nothing; `resume` starts a run from the result of such moves, a state or a final value.
-/

namespace Automaton

/-- Where a run stops: in a state, with the outputs emitted, when the input runs out; or at a
final value, with the outputs emitted and the input it did not read. -/
inductive Outcome (σ α ω ρ : Type)
  | running (state : σ) (outputs : List ω)
  | ended (final : ρ) (outputs : List ω) (rest : List α)
  deriving DecidableEq

variable {σ α ω ρ ε : Type}

namespace Outcome

/-- The outcome with `front` emitted before its outputs. -/
def prepend (front : List ω) : Outcome σ α ω ρ → Outcome σ α ω ρ
  | running state outputs => running state (front ++ outputs)
  | ended final outputs rest => ended final (front ++ outputs) rest

@[simp] theorem prepend_nil (outcome : Outcome σ α ω ρ) : outcome.prepend [] = outcome := by
  cases outcome <;> rfl

@[simp] theorem prepend_prepend (front back : List ω) (outcome : Outcome σ α ω ρ) :
    (outcome.prepend back).prepend front = outcome.prepend (front ++ back) := by
  cases outcome <;> simp [prepend]

end Outcome

@[simp] theorem map_prepend_nil (result : Except ε (Outcome σ α ω ρ)) :
    result.map (·.prepend []) = result := by
  cases result <;> simp [Except.map]

@[simp] theorem map_prepend_map_prepend (front back : List ω) (result : Except ε (Outcome σ α ω ρ)) :
    (result.map (·.prepend back)).map (·.prepend front) = result.map (·.prepend (front ++ back)) := by
  cases result <;> simp [Except.map]

section Run

variable (step : σ → α → Except ε ((σ ⊕ ρ) × List ω))

/-- The run of an automaton whose step takes a state and a symbol to the next state or a final
value, with the outputs of the move. -/
def run : σ → List α → Except ε (Outcome σ α ω ρ)
  | state, [] => .ok (.running state [])
  | state, symbol :: input =>
    match step state symbol with
    | .error err => .error err
    | .ok (.inl next, outputs) => (run next input).map (·.prepend outputs)
    | .ok (.inr final, outputs) => .ok (.ended final outputs input)

/-- A run from a state, or from a final value, which reads nothing. -/
def resume : σ ⊕ ρ → List α → Except ε (Outcome σ α ω ρ)
  | .inl state, input => run step state input
  | .inr final, input => .ok (.ended final [] input)

/-- How a run goes on over more input: from the state it stopped in, or, once ended, leaving
the input unread. -/
def Outcome.andThen (more : List α) : Outcome σ α ω ρ → Except ε (Outcome σ α ω ρ)
  | .running state outputs => (run step state more).map (·.prepend outputs)
  | .ended final outputs rest => .ok (.ended final outputs (rest ++ more))

@[simp] theorem run_nil (state : σ) : run step state [] = .ok (.running state []) :=
  rfl

@[simp] theorem resume_inl (state : σ) (input : List α) :
    resume step (.inl state) input = run step state input :=
  rfl

@[simp] theorem resume_inr (final : ρ) (input : List α) :
    resume step (.inr final) input = .ok (.ended final [] input) :=
  rfl

theorem run_cons {state : σ} {symbol : α} {next : σ ⊕ ρ} {outputs : List ω}
    (moved : step state symbol = .ok (next, outputs)) (input : List α) :
    run step state (symbol :: input) = (resume step next input).map (·.prepend outputs) := by
  cases next with
  | inl next => simp [run, moved]
  | inr final => simp [run, moved, Except.map, Outcome.prepend]

theorem run_cons_error {state : σ} {symbol : α} {err : ε} (failed : step state symbol = .error err)
    (input : List α) : run step state (symbol :: input) = .error err := by
  simp [run, failed]

theorem andThen_prepend (more : List α) (front : List ω) (outcome : Outcome σ α ω ρ) :
    (outcome.prepend front).andThen step more = (outcome.andThen step more).map (·.prepend front) := by
  cases outcome with
  | running state outputs =>
    rcases ran : run step state more with err | later
    · simp [Outcome.andThen, Outcome.prepend, ran, Except.map]
    · cases later <;> simp [Outcome.andThen, Outcome.prepend, ran, Except.map]
  | ended final outputs rest => rfl

theorem run_append (state : σ) (first second : List α) :
    run step state (first ++ second) = (run step state first).bind (·.andThen step second) := by
  induction first generalizing state with
  | nil =>
    rcases ran : run step state second with err | outcome <;>
      simp [Outcome.andThen, Except.bind, Except.map, ran]
  | cons symbol first induction =>
    rcases moved : step state symbol with err | ⟨_ | final, outputs⟩
    · simp [run_cons_error step moved, Except.bind]
    · rw [List.cons_append, run_cons step moved, run_cons step moved, resume_inl, induction,
        resume_inl]
      rcases run step _ first with err | outcome
      · rfl
      · simp [Except.map, Except.bind, andThen_prepend]
    · simp [run_cons step moved, Except.map, Except.bind, Outcome.prepend, Outcome.andThen]

end Run

end Automaton
