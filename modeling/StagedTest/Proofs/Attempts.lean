import StagedTest.SharedEnvironment
import StagedTest.Proofs.History

/-!
# Attempts

Rules for programs that may end early because the run has failed: what their histories look like,
where they lead, and when they go well. Each rule is about one way to put attempts together, so
that what holds of a large attempt follows its text.
-/
namespace StagedTest

open Program

namespace Attempt

variable {α β : Type}

/-! ## What an attempt's history looks like -/

/-- Of one attempt after the other, either the first one fails, or the second one follows it. -/
theorem ends_bind_iff {first : Attempt α} {second : α → Attempt β} {history : History Cluster}
    {result : Except RunError β} :
    (first >>= second).run.Ends history result ↔
      (∃ error, first.run.Ends history (.error error) ∧ result = .error error) ∨
      ∃ early late value, history = early ++ late ∧ first.run.Ends early (.ok value) ∧
        (second value).run.Ends late result := by
  rw [ExceptT.run_bind, bind_eq, Program.ends_bind_iff]
  constructor
  · rintro ⟨early, late, outcome, rfl, head, tail⟩
    cases outcome with
    | error error =>
      obtain ⟨rfl, rfl⟩ := ends_done_iff.1 tail
      rw [List.append_nil]
      exact .inl ⟨error, head, rfl⟩
    | ok value => exact .inr ⟨early, late, value, rfl, head, tail⟩
  · rintro (⟨error, head, rfl⟩ | ⟨early, late, value, rfl, head, tail⟩)
    · exact ⟨history, [], .error error, by simp, head, .done _⟩
    · exact ⟨early, late, .ok value, rfl, head, tail⟩

/-- One attempt after the other goes well when both do. -/
theorem ends_bind_ok {first : Attempt α} {second : α → Attempt β} {history : History Cluster}
    {value : β} (ends : (first >>= second).run.Ends history (.ok value)) :
    ∃ early late middle, history = early ++ late ∧ first.run.Ends early (.ok middle) ∧
      (second middle).run.Ends late (.ok value) := by
  rcases ends_bind_iff.1 ends with ⟨error, _, failed⟩ | went
  · cases failed
  · exact went

/-- An attempt with nothing left to do asks for nothing. -/
theorem ends_pure_iff {value : α} {history : History Cluster} {result : Except RunError α} :
    (pure value : Attempt α).run.Ends history result ↔ history = [] ∧ result = .ok value := by
  rw [ExceptT.run_pure]
  exact ends_done_iff

/-- Going on with a result asks for nothing. -/
theorem ends_ofExcept_iff {made : Except RunError α} {history : History Cluster}
    {result : Except RunError α} :
    (ofExcept made).run.Ends history result ↔ history = [] ∧ result = made := by
  cases made with
  | ok value => exact ends_pure_iff
  | error error => exact ends_done_iff

/-- Going on with an answer asks for what the answer needs, and puts the blame for a failure. -/
theorem ends_orFail_iff {blame : ClientError → RunError}
    {program : Program Cluster (Except ClientError α)} {history : History Cluster}
    {result : Except RunError α} :
    (orFail blame program).run.Ends history result ↔
      ∃ answer, program.Ends history answer ∧ result = answer.mapError blame := by
  change (program.bind _).Ends history result ↔ _
  rw [Program.ends_bind_iff]
  constructor
  · rintro ⟨early, late, answer, rfl, head, tail⟩
    refine ⟨answer, ?_⟩
    cases answer <;>
      obtain ⟨rfl, rfl⟩ := ends_done_iff.1 tail <;>
      exact ⟨by simpa using head, rfl⟩
  · rintro ⟨answer, head, rfl⟩
    refine ⟨history, [], answer, by simp, head, ?_⟩
    cases answer <;> exact .done _

/-! ## Where an attempt leads -/

section Leads

variable {σ : Type} {effect : Effect Cluster σ} {required : σ → Prop}

/-- One attempt after the other leads to where the first one fails, or to where the second one
leads. -/
theorem leads_bind {middle : Except RunError α → σ → Prop} {ensured : Except RunError β → σ → Prop}
    {first : Attempt α} {second : α → Attempt β} (head : first.run.Leads effect required middle)
    (stopped : ∀ error state, middle (.error error) state → ensured (.error error) state)
    (tail : ∀ value, (second value).run.Leads effect (middle (.ok value)) ensured) :
    (first >>= second).run.Leads effect required ensured := by
  intro before history result after start ends follows
  rcases ends_bind_iff.1 ends with ⟨error, failed, rfl⟩ | ⟨early, late, value, rfl, begun, ended⟩
  · exact stopped error after (head start failed follows)
  · obtain ⟨between, led, leading⟩ := follows_append_iff.1 follows
    exact tail value (head start begun led) ended leading

/-- Going on with an answer leads to where the answer does. -/
theorem leads_orFail {ensured : Except RunError α → σ → Prop} {blame : ClientError → RunError}
    {program : Program Cluster (Except ClientError α)}
    (answered : program.Leads effect required fun answer => ensured (answer.mapError blame)) :
    (orFail blame program).run.Leads effect required ensured := by
  intro before history result after start ends follows
  obtain ⟨answer, asked, rfl⟩ := ends_orFail_iff.1 ends
  exact answered start asked follows

/-- Wherever an attempt stops, something is always ensured, and more is ensured when it goes
well. -/
def Ensures (effect : Effect Cluster σ) (required : σ → Prop) (attempt : Attempt α)
    (always : σ → Prop) (success : α → σ → Prop) : Prop :=
  attempt.run.Leads effect required fun result state =>
    always state ∧ ∀ value, result = .ok value → success value state

variable {always later : σ → Prop} {success : α → σ → Prop}

/-- Of one attempt after the other, the second one begins where the first one went well. -/
theorem Ensures.bind {promised : β → σ → Prop} {first : Attempt α} {second : α → Attempt β}
    (head : first.Ensures effect required always success)
    (wider : ∀ state, always state → later state)
    (tail : ∀ value start, always start → success value start →
      (second value).Ensures effect (· = start) later promised) :
    (first >>= second).Ensures effect required later promised := by
  refine leads_bind head (fun error state stopped => ?_) fun value =>
    leads_of_each fun start reached => tail value start reached.1 (reached.2 value rfl)
  exact ⟨wider state stopped.1, fun value failed => by cases failed⟩

/-- An attempt with nothing left to do ensures what is already there. -/
theorem ensures_pure {value : α}
    (already : ∀ state, required state → always state ∧ success value state) :
    (pure value : Attempt α).Ensures effect required always success := by
  refine leads_done fun state start => ⟨(already state start).1, fun other same => ?_⟩
  cases same
  exact (already state start).2

/-- Going on with a result ensures what is already there. -/
theorem ensures_ofExcept {made : Except RunError α} (already : ∀ state, required state →
      always state ∧ ∀ value, made = .ok value → success value state) :
    (ofExcept made).Ensures effect required always success := by
  intro before history result after start ends follows
  obtain ⟨rfl, rfl⟩ := ends_ofExcept_iff.1 ends
  obtain rfl := follows_nil_iff.1 follows
  exact already after start

/-- Going on with an answer ensures what the answer ensures. -/
theorem ensures_orFail {blame : ClientError → RunError}
    {program : Program Cluster (Except ClientError α)}
    (answered : program.Leads effect required fun answer state =>
      always state ∧ ∀ value, answer = .ok value → success value state) :
    (orFail blame program).Ensures effect required always success := by
  refine leads_orFail (answered.weaken fun answer state reached => ⟨reached.1, ?_⟩)
  intro value same
  cases answer with
  | error error => cases same
  | ok value =>
    cases same
    exact reached.2 value rfl

/-- Less can be ensured instead. -/
theorem Ensures.weaken {promised : α → σ → Prop} {attempt : Attempt α}
    (ensures : attempt.Ensures effect required always success)
    (wider : ∀ state, always state → later state)
    (less : ∀ value state, always state → success value state → promised value state) :
    attempt.Ensures effect required later promised :=
  Leads.weaken ensures fun _ state reached =>
    ⟨wider state reached.1, fun value same => less value state reached.1 (reached.2 value same)⟩

/-! ## Attempts that go well -/

/-- From states of which something is required, an attempt goes well and ends in states of which
something is ensured. -/
def Succeeds (effect : Effect Cluster σ) (required : σ → Prop) (attempt : Attempt α)
    (ensured : σ → Prop) : Prop :=
  attempt.run.Leads effect required fun result state =>
    (∃ value, result = .ok value) ∧ ensured state

/-- One attempt after the other goes well if both do. -/
theorem Succeeds.bind {middle ensured : σ → Prop} {first : Attempt α} {second : α → Attempt β}
    (head : first.Succeeds effect required middle)
    (tail : ∀ value, (second value).Succeeds effect middle ensured) :
    (first >>= second).Succeeds effect required ensured := by
  refine leads_bind head (fun error state stopped => ?_) fun value => ?_
  · obtain ⟨⟨value, succeeded⟩, _⟩ := stopped
    cases succeeded
  · intro before history result after start ends follows
    exact tail value start.2 ends follows

/-- An attempt with nothing left to do goes well. -/
theorem succeeds_pure (value : α) : (pure value : Attempt α).Succeeds effect required required :=
  leads_done fun _ start => ⟨⟨value, rfl⟩, start⟩

/-- Going on with a result goes well if the result does. -/
theorem succeeds_ofExcept {made : Except RunError α} (good : ∃ value, made = .ok value) :
    (ofExcept made).Succeeds effect required required := by
  obtain ⟨value, rfl⟩ := good
  exact succeeds_pure value

/-- Going on with an answer goes well if the answer does. -/
theorem succeeds_orFail {ensured : σ → Prop} {blame : ClientError → RunError}
    {program : Program Cluster (Except ClientError α)}
    (answered : program.Leads effect required fun answer state =>
      (∃ value, answer = .ok value) ∧ ensured state) :
    (orFail blame program).Succeeds effect required ensured := by
  refine leads_orFail (answered.weaken fun answer state good => ?_)
  obtain ⟨⟨value, rfl⟩, ensures⟩ := good
  exact ⟨⟨value, rfl⟩, ensures⟩

end Leads

end Attempt

end StagedTest
