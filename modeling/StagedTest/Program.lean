/-!
# Programs

A program is what remains to be done when each thing that it asks for is answered by somebody
else. It asks one thing at a time, and goes on as the answer says, so all that surroundings can
do to a program is in their answers. Programs are put together one after the other, run against
a handler that answers from a state, and carried over to other things to ask for.
-/
namespace StagedTest

/-- What may be asked for, and what answers look like. -/
structure Interface where
  /-- What may be asked for. -/
  Call : Type
  /-- The answers to a call. -/
  Answer : Call → Type

/-- What remains to be done. -/
inductive Program (I : Interface) (α : Type)
  /-- Nothing remains. -/
  | done (value : α)
  /-- A call is made, and its answer says how to go on. -/
  | call (asked : I.Call) (next : I.Answer asked → Program I α)

/-- Answers calls from a state that each call may change. -/
abbrev Handler (I : Interface) (σ : Type) : Type := (asked : I.Call) → σ → I.Answer asked × σ

namespace Program

variable {I J : Interface} {α β γ σ : Type}

/-- One program after the other. -/
def bind (first : Program I α) (second : α → Program I β) : Program I β :=
  match first with
  | .done value => second value
  | .call asked next => .call asked fun answer => (next answer).bind second

instance : Monad (Program I) where
  pure := .done
  bind := bind

/-- A single call. -/
def ask (asked : I.Call) : Program I (I.Answer asked) := .call asked .done

/-- The value and the state in which a program ends. -/
def run (handler : Handler I σ) : Program I α → σ → α × σ
  | .done value, state => (value, state)
  | .call asked next, state =>
    let (answer, state) := handler asked state
    (next answer).run handler state

/-- The calls that a program makes, in order, with the answers that it gets. -/
def trace (handler : Handler I σ) : Program I α → σ → List ((asked : I.Call) × I.Answer asked)
  | .done _, _ => []
  | .call asked next, state =>
    let (answer, state) := handler asked state
    ⟨asked, answer⟩ :: (next answer).trace handler state

/-- The same program where each call is itself answered by a program. -/
def through (inner : (asked : I.Call) → Program J (I.Answer asked)) : Program I α → Program J α
  | .done value => .done value
  | .call asked next => (inner asked).bind fun answer => (next answer).through inner

/-- Runs a program where each call has an effect of its own. -/
def perform {m : Type → Type} [Monad m] (effect : (asked : I.Call) → m (I.Answer asked)) :
    Program I α → m α
  | .done value => pure value
  | .call asked next => do (next (← effect asked)).perform effect

@[simp] theorem done_bind (value : α) (second : α → Program I β) :
    (Program.done value).bind second = second value := rfl

@[simp] theorem call_bind (asked : I.Call) (next : I.Answer asked → Program I α)
    (second : α → Program I β) :
    (Program.call asked next).bind second = .call asked fun answer => (next answer).bind second :=
  rfl

@[simp] theorem pure_eq (value : α) : (pure value : Program I α) = .done value := rfl

@[simp] theorem bind_eq (first : Program I α) (second : α → Program I β) :
    first >>= second = first.bind second := rfl

/-- Ending a program with its own value changes nothing. -/
@[simp] theorem bind_done (program : Program I α) : program.bind .done = program := by
  induction program with
  | done => rfl
  | call asked next ih => simp [ih]

/-- It does not matter how programs that follow each other are put together. -/
theorem bind_assoc (first : Program I α) (second : α → Program I β) (third : β → Program I γ) :
    (first.bind second).bind third = first.bind fun value => (second value).bind third := by
  induction first with
  | done => rfl
  | call asked next ih => simp [ih]

instance : LawfulMonad (Program I) :=
  LawfulMonad.mk' _ (fun program => bind_done program) (fun _ _ => rfl)
    (fun first second third => bind_assoc first second third)

/-- Running one program after the other hands the state over. -/
theorem run_bind (handler : Handler I σ) (first : Program I α) (second : α → Program I β)
    (state : σ) :
    (first.bind second).run handler state =
      (second (first.run handler state).1).run handler (first.run handler state).2 := by
  induction first generalizing state with
  | done => rfl
  | call asked next ih => simp [run, ih]

/-- The calls of one program after the other are those of the first and then those of the
second. -/
theorem trace_bind (handler : Handler I σ) (first : Program I α) (second : α → Program I β)
    (state : σ) :
    (first.bind second).trace handler state =
      first.trace handler state ++
        (second (first.run handler state).1).trace handler (first.run handler state).2 := by
  induction first generalizing state with
  | done => rfl
  | call asked next ih => simp [run, trace, ih]

end Program

end StagedTest
