import StagedTest.Program

/-!
# Histories of programs

A history lists what a program asked for and how it was answered. `Program.Ends` says which
histories a program can have when nothing is assumed of whoever answers, and with which values it
ends; every run against a handler is one of them. What answers do to a state is told apart from
the program, by `Program.Follows`, so that a fact about the calls of a program and a fact about
what answers them meet only in the history.
-/
namespace StagedTest

/-- What a program asked for, in order, with the answers. -/
abbrev History (I : Interface) : Type := List ((asked : I.Call) × I.Answer asked)

namespace Program

variable {I : Interface} {α β σ : Type}

/-- A program can end with a value after a history. -/
inductive Ends : Program I α → History I → α → Prop
  /-- A program with nothing left to do has ended. -/
  | done (value : α) : Ends (.done value) [] value
  /-- Any answer to a call is followed by what the program does about it. -/
  | call {asked : I.Call} {next : I.Answer asked → Program I α} {rest : History I} {value : α}
      (answer : I.Answer asked) (later : Ends (next answer) rest value) :
      Ends (.call asked next) (⟨asked, answer⟩ :: rest) value

/-- A program with nothing left to do has asked for nothing. -/
@[simp] theorem ends_done_iff {value ended : α} {history : History I} :
    (Program.done value).Ends history ended ↔ history = [] ∧ ended = value := by
  constructor
  · intro ends
    cases ends
    exact ⟨rfl, rfl⟩
  · rintro ⟨rfl, rfl⟩
    exact .done _

/-- The history of a call begins with its answer. -/
@[simp] theorem ends_call_iff {asked : I.Call} {next : I.Answer asked → Program I α}
    {history : History I} {value : α} :
    (Program.call asked next).Ends history value ↔
      ∃ answer rest, history = ⟨asked, answer⟩ :: rest ∧ (next answer).Ends rest value := by
  constructor
  · intro ends
    cases ends with
    | call answer later => exact ⟨answer, _, rfl, later⟩
  · rintro ⟨answer, rest, rfl, later⟩
    exact .call answer later

/-- The history of a single call is its answer. -/
@[simp] theorem ends_ask_iff {asked : I.Call} {history : History I} {answer : I.Answer asked} :
    (Program.ask asked).Ends history answer ↔ history = [⟨asked, answer⟩] := by
  simp only [ask, ends_call_iff, ends_done_iff]
  constructor
  · rintro ⟨_, _, rfl, rfl, rfl⟩
    rfl
  · rintro rfl
    exact ⟨answer, [], rfl, rfl, rfl⟩

/-- The history of one program after the other is that of the first and then that of the
second. -/
theorem ends_bind_iff {first : Program I α} {second : α → Program I β} {history : History I}
    {value : β} :
    (first.bind second).Ends history value ↔
      ∃ early late middle, history = early ++ late ∧ first.Ends early middle ∧
        (second middle).Ends late value := by
  induction first generalizing history with
  | done middle =>
    simp only [done_bind, ends_done_iff]
    constructor
    · intro ends
      exact ⟨[], history, middle, rfl, ⟨rfl, rfl⟩, ends⟩
    · rintro ⟨_, late, _, rfl, ⟨rfl, rfl⟩, ends⟩
      exact ends
  | call asked next ih =>
    simp only [call_bind, ends_call_iff]
    constructor
    · rintro ⟨answer, rest, rfl, ends⟩
      obtain ⟨early, late, middle, rfl, head, tail⟩ := (ih answer).1 ends
      exact ⟨⟨asked, answer⟩ :: early, late, middle, rfl, ⟨answer, early, rfl, head⟩, tail⟩
    · rintro ⟨_, late, middle, rfl, ⟨answer, early, rfl, head⟩, tail⟩
      exact ⟨answer, early ++ late, rfl, (ih answer).2 ⟨early, late, middle, rfl, head, tail⟩⟩

/-- The calls of a run against a handler, with their answers, are a history of the program. -/
theorem ends_run (handler : Handler I σ) (program : Program I α) (state : σ) :
    program.Ends (program.trace handler state) (program.run handler state).1 := by
  induction program generalizing state with
  | done value => exact .done value
  | call asked next ih => exact .call _ (ih _ _)

/-- A history leaves a program one value to end with. -/
theorem Ends.unique {program : Program I α} {history : History I} {value other : α}
    (ends : program.Ends history value) (again : program.Ends history other) : value = other := by
  induction ends with
  | done value =>
    exact (ends_done_iff.1 again).2.symm
  | call answer later ih =>
    cases again with
    | call _ goesOn => exact ih goesOn

/-! ## Loops -/

section Loops

variable {Turn Decision : Type}

/-- A loop has a number of turns to go. Each time it is decided, or it takes a turn and goes on with
what it has seen by then, and without a turn to go it is given up. -/
structure IsLoop (loop : Nat → σ → Program I α) (turn : Turn → History I) (see : σ → Turn → σ)
    (decision : Decision → History I) (settle : σ → Decision → α) (giveUp : σ → α) : Prop where
  /-- Without a turn to go the loop is given up. -/
  zero : ∀ seen, loop 0 seen = .done (giveUp seen)
  /-- With a turn to go the loop is decided, or goes on after a turn. -/
  succ : ∀ turns seen history value, (loop (turns + 1) seen).Ends history value ↔
    (∃ decided, history = decision decided ∧ value = settle seen decided) ∨
    ∃ taken rest, history = turn taken ++ rest ∧ (loop turns (see seen taken)).Ends rest value

variable {loop : Nat → σ → Program I α} {turn : Turn → History I} {see : σ → Turn → σ}
  {decision : Decision → History I} {settle : σ → Decision → α} {giveUp : σ → α}

/-- A loop takes turns until it is decided, or until it is given up because it has taken them
all. -/
theorem IsLoop.ends_iff (isLoop : IsLoop loop turn see decision settle giveUp) (turns : Nat)
    (seen : σ) {history : History I} {value : α} :
    (loop turns seen).Ends history value ↔ ∃ taken : List Turn,
      (taken.length = turns ∧ history = taken.flatMap turn ∧
        value = giveUp (taken.foldl see seen)) ∨
      ∃ decided, taken.length < turns ∧ history = taken.flatMap turn ++ decision decided ∧
        value = settle (taken.foldl see seen) decided := by
  induction turns generalizing seen history with
  | zero =>
    rw [isLoop.zero, ends_done_iff]
    constructor
    · rintro ⟨rfl, rfl⟩
      exact ⟨[], .inl ⟨rfl, rfl, rfl⟩⟩
    · rintro ⟨taken, ⟨none, rfl, rfl⟩ | ⟨_, fewer, -⟩⟩
      · obtain rfl := List.eq_nil_of_length_eq_zero none
        exact ⟨rfl, rfl⟩
      · exact absurd fewer (Nat.not_lt_zero _)
  | succ turns ih =>
    rw [isLoop.succ]
    constructor
    · rintro (⟨decided, rfl, rfl⟩ | ⟨first, rest, rfl, later⟩)
      · exact ⟨[], .inr ⟨decided, Nat.succ_pos turns, rfl, rfl⟩⟩
      · obtain ⟨taken, ⟨all, rfl, rfl⟩ | ⟨decided, fewer, rfl, rfl⟩⟩ := (ih _).1 later
        · exact ⟨first :: taken, .inl ⟨congrArg (· + 1) all, rfl, rfl⟩⟩
        · refine ⟨first :: taken, .inr ⟨decided, Nat.succ_lt_succ fewer, ?_, rfl⟩⟩
          rw [List.flatMap_cons, List.append_assoc]
    · rintro ⟨taken, ended⟩
      cases taken with
      | nil =>
        rcases ended with ⟨none, -⟩ | ⟨decided, -, rfl, rfl⟩
        · cases none
        · exact .inl ⟨decided, rfl, rfl⟩
      | cons first taken =>
        rw [List.flatMap_cons] at ended
        rcases ended with ⟨all, rfl, rfl⟩ | ⟨decided, fewer, rfl, rfl⟩
        · refine .inr ⟨first, _, rfl, (ih _).2 ⟨taken, .inl ⟨Nat.succ.inj all, rfl, rfl⟩⟩⟩
        · rw [List.append_assoc]
          have less : taken.length < turns := Nat.lt_of_succ_lt_succ fewer
          exact .inr ⟨first, _, rfl, (ih _).2 ⟨taken, .inr ⟨decided, less, rfl, rfl⟩⟩⟩

end Loops

/-! ## What a history does to a state -/

/-- What an answer to a call may do to a state: the call, its answer, and the states before and
after. -/
abbrev Effect (I : Interface) (σ : Type) : Type :=
  (asked : I.Call) → I.Answer asked → σ → σ → Prop

/-- A history may lead from one state to another when each of its answers has one of its
effects. -/
inductive Follows (effect : Effect I σ) : σ → History I → σ → Prop
  /-- Without calls the state stays. -/
  | nil (state : σ) : Follows effect state [] state
  /-- One answer after the other has its effect. -/
  | cons {asked : I.Call} {answer : I.Answer asked} {before middle after : σ} {rest : History I}
      (now : effect asked answer before middle) (later : Follows effect middle rest after) :
      Follows effect before (⟨asked, answer⟩ :: rest) after

variable {effect : Effect I σ} {before after : σ}

/-- Without calls the state stays. -/
@[simp] theorem follows_nil_iff : Follows effect before [] after ↔ after = before := by
  constructor
  · intro follows
    cases follows
    rfl
  · rintro rfl
    exact .nil _

/-- The first answer has its effect before all others. -/
@[simp] theorem follows_cons_iff {asked : I.Call} {answer : I.Answer asked} {rest : History I} :
    Follows effect before (⟨asked, answer⟩ :: rest) after ↔
      ∃ middle, effect asked answer before middle ∧ Follows effect middle rest after := by
  constructor
  · intro follows
    cases follows with
    | cons now later => exact ⟨_, now, later⟩
  · rintro ⟨middle, now, later⟩
    exact .cons now later

/-- Between the two parts of a history there is a state. -/
theorem follows_append_iff {early late : History I} :
    Follows effect before (early ++ late) after ↔
      ∃ middle, Follows effect before early middle ∧ Follows effect middle late after := by
  induction early generalizing before with
  | nil => simp
  | cons event early ih =>
    obtain ⟨asked, answer⟩ := event
    simp only [List.cons_append, follows_cons_iff, ih]
    constructor
    · rintro ⟨next, now, middle, head, tail⟩
      exact ⟨middle, ⟨next, now, head⟩, tail⟩
    · rintro ⟨middle, ⟨next, now, head⟩, tail⟩
      exact ⟨next, now, middle, head, tail⟩

/-- What holds of a state, and is kept by every answer of a history, holds after it. -/
theorem Follows.invariant {history : History I} {holds : σ → Prop}
    (follows : Follows effect before history after) (start : holds before)
    (kept : ∀ event ∈ history, ∀ early late, effect event.1 event.2 early late →
      holds early → holds late) : holds after := by
  induction follows with
  | nil => exact start
  | cons now _ ih =>
    exact ih (kept _ List.mem_cons_self _ _ now start)
      fun event member => kept event (List.mem_cons_of_mem _ member)

/-- Answers with fewer effects lead to fewer states. -/
theorem Follows.mono {other : Effect I σ} {history : History I}
    (follows : Follows effect before history after)
    (wider : ∀ asked answer early late, effect asked answer early late →
      other asked answer early late) : Follows other before history after := by
  induction follows with
  | nil => exact .nil _
  | cons now _ ih => exact .cons (wider _ _ _ _ now) ih

/-- The calls of a run against a handler lead to the state in which the run ends, when the
handler's answers have their effects on a view of its state as long as something holds of it. -/
theorem follows_run {τ : Type} {holds : τ → Prop} (handler : Handler I τ) (view : τ → σ)
    (serves : ∀ asked state, holds state →
      effect asked (handler asked state).1 (view state) (view (handler asked state).2) ∧
        holds (handler asked state).2)
    (program : Program I α) {state : τ} (start : holds state) :
    Follows effect (view state) (program.trace handler state)
      (view (program.run handler state).2) := by
  induction program generalizing state with
  | done value => exact .nil _
  | call asked next ih =>
    obtain ⟨now, kept⟩ := serves asked state start
    exact .cons now (ih _ kept)

/-! ## Where a program leads -/

/-- From states of which something is required, and whatever answers with certain effects are
given, a program ends only with values and in states of which something is ensured. -/
def Leads (effect : Effect I σ) (required : σ → Prop) (program : Program I α)
    (ensured : α → σ → Prop) : Prop :=
  ∀ ⦃before history value after⦄, required before → program.Ends history value →
    Follows effect before history after → ensured value after

variable {required : σ → Prop}

/-- A program with nothing left to do stays where it is. -/
theorem leads_done {ensured : α → σ → Prop} {value : α}
    (already : ∀ state, required state → ensured value state) :
    (Program.done value : Program I α).Leads effect required ensured := by
  intro before history ended after start ends follows
  obtain ⟨rfl, rfl⟩ := ends_done_iff.1 ends
  obtain rfl := follows_nil_iff.1 follows
  exact already after start

/-- A single call leads to where its answers do. -/
theorem leads_ask {asked : I.Call} {ensured : I.Answer asked → σ → Prop}
    (now : ∀ before answer after, required before → effect asked answer before after →
      ensured answer after) :
    (Program.ask asked).Leads effect required ensured := by
  intro before history answer after start ends follows
  obtain rfl := ends_ask_iff.1 ends
  obtain ⟨middle, served, rest⟩ := follows_cons_iff.1 follows
  obtain rfl := follows_nil_iff.1 rest
  exact now before answer after start served

/-- One program after the other leads to where the second one does. -/
theorem Leads.bind {middle : α → σ → Prop} {ensured : β → σ → Prop} {first : Program I α}
    {second : α → Program I β} (head : first.Leads effect required middle)
    (tail : ∀ value, (second value).Leads effect (middle value) ensured) :
    (first.bind second).Leads effect required ensured := by
  intro before history value after start ends follows
  obtain ⟨early, late, result, rfl, begun, ended⟩ := ends_bind_iff.1 ends
  obtain ⟨between, led, leading⟩ := follows_append_iff.1 follows
  exact tail result (head start begun led) ended leading

/-- A program leads from several states to where it leads from each of them. -/
theorem leads_of_each {ensured : α → σ → Prop} {program : Program I α}
    (each : ∀ start, required start → program.Leads effect (· = start) ensured) :
    program.Leads effect required ensured :=
  fun before _ _ _ start ends follows => each before start rfl ends follows

/-- A program leads to states of which less is ensured. -/
theorem Leads.weaken {ensured promised : α → σ → Prop} {program : Program I α}
    (leads : program.Leads effect required ensured)
    (less : ∀ value state, ensured value state → promised value state) :
    program.Leads effect required promised := by
  intro before history value after start ends follows
  exact less value after (leads start ends follows)

/-! ## What a program may ask for -/

/-- Whatever the answers are, a program only makes calls that are allowed, and ends only with
values of which something is ensured. -/
def Obeys (allowed : I.Call → Prop) (ensured : α → Prop) (program : Program I α) : Prop :=
  ∀ ⦃history value⦄, program.Ends history value →
    (∀ event ∈ history, allowed event.1) ∧ ensured value

variable {allowed : I.Call → Prop}

/-- A program with nothing left to do makes no calls. -/
theorem obeys_done {ensured : α → Prop} {value : α} (good : ensured value) :
    (Program.done value : Program I α).Obeys allowed ensured := by
  intro history ended ends
  obtain ⟨rfl, rfl⟩ := ends_done_iff.1 ends
  exact ⟨by simp, good⟩

/-- A single call ends with any answer. -/
theorem obeys_ask {asked : I.Call} (may : allowed asked) :
    (Program.ask asked).Obeys allowed fun _ => True := by
  intro history answer ends
  obtain rfl := ends_ask_iff.1 ends
  exact ⟨by simpa using may, trivial⟩

/-- Of one program after the other, the second has to obey only after the values that the first
one ends with. -/
theorem Obeys.bind {ensured : α → Prop} {promised : β → Prop} {first : Program I α}
    {second : α → Program I β} (head : first.Obeys allowed ensured)
    (tail : ∀ value, ensured value → (second value).Obeys allowed promised) :
    (first.bind second).Obeys allowed promised := by
  intro history value ends
  obtain ⟨early, late, middle, rfl, begun, ended⟩ := ends_bind_iff.1 ends
  obtain ⟨earlyCalls, good⟩ := head begun
  obtain ⟨lateCalls, better⟩ := tail middle good ended
  refine ⟨fun event member => ?_, better⟩
  rcases List.mem_append.1 member with member | member
  · exact earlyCalls event member
  · exact lateCalls event member

end Program

end StagedTest
