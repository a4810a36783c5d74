import Mathlib.Data.List.Induction
import Mathlib.Logic.Function.Basic
import Mathlib.Logic.Function.Iterate
import StagedTest.Proofs.Apart

/-!
# Runs side by side

Several runs share an in-memory cluster in which no failures are scripted, and take turns, each of
which is a single call. The main statement is that tests which get along with each other
(`Apart`) do not notice: in whatever order the runs take their turns, each of them ends as it ends
alone, and whatever it changes ends as it ends alone. It is proved by letting the runs alone go
along, turn by turn: a run that shares the cluster sees what it sees alone, except that a copy may
already be there that it is yet to make.
-/
namespace StagedTest

/-! ## One call after the other -/

namespace Program

variable {I : Interface} {α σ : Type} (handler : Handler I σ)

/-- Makes the next call, if there is one left. -/
def step : Program I α × σ → Program I α × σ
  | (.done value, state) => (.done value, state)
  | (.call asked next, state) =>
    let (answer, after) := handler asked state
    (next answer, after)

/-- After as many calls as it makes, a program is at its end. -/
theorem iterate_step (program : Program I α) (state : σ) {count : Nat}
    (enough : (program.trace handler state).length ≤ count) :
    (step handler)^[count] (program, state) =
      (.done (program.run handler state).1, (program.run handler state).2) := by
  induction program generalizing state count with
  | done value => exact Function.iterate_fixed rfl count
  | call asked next ih =>
    cases count with
    | zero => cases enough
    | succ count => exact ih _ _ (Nat.le_of_succ_le_succ enough)

/-- Calls that have been made make no difference for the end. -/
theorem run_iterate_step (point : Program I α × σ) (count : Nat) :
    ((step handler)^[count] point).1.run handler ((step handler)^[count] point).2 =
      point.1.run handler point.2 := by
  induction count generalizing point with
  | zero => rfl
  | succ count ih =>
    rw [Function.iterate_succ_apply, ih]
    obtain ⟨_ | _, _⟩ := point <;> rfl

end Program

/-! ## Sharing a cluster -/

/-- A cluster that several runs share. Each run is called off by itself. -/
structure SharedCluster (ι : Type) where
  /-- What the runs share. -/
  common : Rehearsal
  /-- Which runs are called off. -/
  cancelled : ι → Token → Bool

namespace SharedCluster

variable {ι : Type} [DecidableEq ι]

/-- The cluster as one of the runs sees it. -/
def view (cluster : SharedCluster ι) (run : ι) : Rehearsal :=
  { cluster.common with
    callerCancelled := cluster.cancelled run .caller
    detachedCancelled := cluster.cancelled run .detached }

/-- The cluster after one of the runs has changed what it sees. -/
def update (cluster : SharedCluster ι) (run : ι) (seen : Rehearsal) : SharedCluster ι where
  common := seen
  cancelled := Function.update cluster.cancelled run fun
    | .caller => seen.callerCancelled
    | .detached => seen.detachedCancelled

/-- A run sees what it has changed. -/
theorem view_update (cluster : SharedCluster ι) (run : ι) (seen : Rehearsal) :
    (cluster.update run seen).view run = seen := by
  simp [view, update]

/-- Who else is called off is not changed. -/
theorem cancelled_update (cluster : SharedCluster ι) {run other : ι} (differ : other ≠ run)
    (seen : Rehearsal) : (cluster.update run seen).cancelled other = cluster.cancelled other :=
  Function.update_of_ne differ _ _

/-- Nobody sees a change where there is none. -/
theorem view_update_view (cluster : SharedCluster ι) {run other : ι} (differ : other ≠ run) :
    (cluster.update run (cluster.view run)).view other = cluster.view other := by
  simp only [view, cancelled_update cluster differ]
  rfl

end SharedCluster

/-- Runs that share a cluster, and what each of them has left to do. -/
structure SideBySide (ι α : Type) where
  /-- The cluster. -/
  cluster : SharedCluster ι
  /-- What the runs have left to do. -/
  programs : ι → Program Direct α

namespace SideBySide

variable {ι α : Type}

/-- Runs of tests at their beginning. -/
def ofPlans (plans : ι → Plan) (progress : ι → Progress) (cluster : SharedCluster ι) :
    SideBySide ι (Progress × Except RunError Unit) where
  cluster
  programs run := ((plans run).run (progress run)).through Direct.parts

/-- What is stored at a place. -/
def stored (session : SideBySide ι α) (key : ObjectKey) : Option Object :=
  session.cluster.common.store.get? key

/-- How far a run comes alone with so many calls. -/
def alone (session : SideBySide ι α) (run : ι) (count : Nat) : Program Direct α × Rehearsal :=
  (Program.step Direct.handler)^[count] (session.programs run, session.cluster.view run)

/-- With another call a run alone has made one step more. -/
theorem alone_succ (session : SideBySide ι α) (run : ι) (count : Nat) :
    session.alone run (count + 1) = Program.step Direct.handler (session.alone run count) :=
  Function.iterate_succ_apply' _ _ _

/-- Calls that have been made alone make no difference for the end. -/
theorem run_alone (session : SideBySide ι α) (run : ι) (count : Nat) :
    (session.alone run count).1.run Direct.handler (session.alone run count).2 =
      (session.programs run).run Direct.handler (session.cluster.view run) :=
  Program.run_iterate_step _ _ _

variable [DecidableEq ι]

/-- One of the runs makes its next call, if it has one left. -/
def turn (session : SideBySide ι α) (run : ι) : SideBySide ι α :=
  let (program, seen) :=
    Program.step Direct.handler (session.programs run, session.cluster.view run)
  { cluster := session.cluster.update run seen
    programs := Function.update session.programs run program }

/-- The runs make calls in a certain order. -/
def turns (session : SideBySide ι α) (schedule : List ι) : SideBySide ι α :=
  schedule.foldl turn session

/-- Another turn comes after the turns before. -/
theorem turns_concat (session : SideBySide ι α) (schedule : List ι) (run : ι) :
    session.turns (schedule ++ [run]) = (session.turns schedule).turn run := by
  rw [turns, List.foldl_append]
  rfl

end SideBySide

/-! ## What stays true of the cluster -/

variable {ι : Type} {plans : ι → Plan} {start : Store}

/-- A cluster that is shared by runs that get along: what belongs to none of them is as it was at
the beginning. -/
structure Peaceful (plans : ι → Plan) (start : Store) (state : Rehearsal) : Prop where
  /-- No call is scripted to fail, and nothing is stored twice. -/
  calm : state.Calm
  /-- Pods with the label of a test are in places that its run touches. -/
  marked : ∀ run key object, state.store.get? key = some object →
    Store.isPodWith (plans run).ns (Access.labels (plans run).test) key object = true →
      (plans run).Touches start key
  /-- What no run touches is as it was. -/
  untouched : ∀ key, (∀ run, ¬(plans run).Touches start key) →
    state.store.get? key = start.get? key

namespace Peaceful

open Direct

variable {state : Rehearsal} {run : ι} {asked : DirectCall}

/-- A run changes nothing in places that it does not touch. -/
theorem frame (peaceful : Peaceful plans start state)
    (makes : Makes (plans run) (Known plans start) asked) {key : ObjectKey}
    (untouched : ¬(plans run).Touches start key) :
    (handler asked state).2.store.get? key = state.store.get? key := by
  rw [cell_handler peaceful.calm makes.isSingle]
  refine makes.cell_eq (fun writes => untouched (.writes writes)) fun object stored => ?_
  cases marked : Store.isPodWith (plans run).ns (Access.labels (plans run).test) key object with
  | false => rfl
  | true => exact absurd (peaceful.marked run key object stored marked) untouched

/-- The calls of runs that get along keep the peace. -/
theorem handler (peaceful : Peaceful plans start state) (apart : Apart plans start)
    (makes : Makes (plans run) (Known plans start) asked) :
    Peaceful plans start (handler asked state).2 where
  calm := calm_handler peaceful.calm makes.isSingle
  marked := by
    intro owner key object stored marked
    rw [cell_handler peaceful.calm makes.isSingle] at stored
    rcases makes.marks stored marked with ⟨before, there, earlier⟩ | ⟨writes, same⟩
    · exact peaceful.marked owner key before there earlier
    · obtain rfl : owner = run :=
        Classical.byContradiction fun differ => apart.tests owner run differ same
      exact .writes writes
  untouched key nobody :=
    (peaceful.frame makes (nobody run)).trans (peaceful.untouched key nobody)

/-- Calls are answered as it is known of the beginning. -/
theorem possible (peaceful : Peaceful plans start state) (asked : DirectCall) :
    Possible (Known plans start) asked (Direct.handler asked state).1 := by
  cases asked with
  | deletePod => exact trivial
  | ofRun asked =>
    cases asked with
    | readSecret ns name =>
      have answer := (Rehearsal.read_calm peaceful.calm.failures ⟨.secret, ns, name⟩).2.2
      change Plan.Possible (Known plans start) (.readSecret ns name)
        ((Rehearsal.read ⟨.secret, ns, name⟩ state).1.map fun object => object.secret?.getD {})
      rw [answer]
      cases found : state.store.get? ⟨.secret, ns, name⟩ with
      | none => exact trivial
      | some object =>
        intro nobody
        rw [peaceful.untouched _ nobody] at found
        rw [Store.secretAt, found]
        rfl
    | create | deleteSecret | deletePods | submitPod | awaitPod | pullSpec | isCancelled =>
      exact trivial

/-- What a run sees is as peaceful as what the runs share. -/
theorem view {cluster : SharedCluster ι} (peaceful : Peaceful plans start cluster.common)
    (run : ι) : Peaceful plans start (cluster.view run) :=
  ⟨⟨peaceful.calm.failures, peaceful.calm.distinct⟩, peaceful.marked, peaceful.untouched⟩

end Peaceful

/-! ## What a run sees -/

/-- What a run sees that shares a cluster, and what it sees at the same point alone: the same,
except for copies that other runs have already made. -/
structure InStep (plans : ι → Plan) (start : Store) (run : ι) (alone shared : Rehearsal) : Prop
    extends Direct.Agree alone shared where
  /-- Alone, too, no call is scripted to fail, and nothing is stored twice. -/
  calm : alone.Calm
  /-- The pods of the run were watched equally often. -/
  waits : ∀ step ∈ (plans run).config.steps,
    alone.waits.get? (Naming.pod (plans run).test step.name) =
      shared.waits.get? (Naming.pod (plans run).test step.name)
  /-- Where no other run touches anything, the same is stored. -/
  own : ∀ key, (∀ other, other ≠ run → ¬(plans other).Touches start key) →
    alone.store.get? key = shared.store.get? key
  /-- Where another run touches something, the same is stored, or the copy of another run is there
  and this one has not made its own. -/
  common : ∀ key other, other ≠ run → (plans run).Touches start key →
    (plans other).Touches start key →
      alone.store.get? key = shared.store.get? key ∨
        alone.store.get? key = none ∧ ∃ maker, maker ≠ run ∧ ∃ object,
          shared.store.get? key = some object ∧ (plans maker).IsCopy start key object

namespace InStep

open Direct

variable {run : ι} {alone shared : Rehearsal} {asked : DirectCall}

/-- Where a run sees what it sees alone, it gets the same answer, and stays in step. -/
theorem of_place (inStep : InStep plans start run alone shared)
    (peaceful : Peaceful plans start shared)
    (makes : Makes (plans run) (Known plans start) asked)
    (place : ∀ key, place? asked = some key →
      alone.store.get? key = shared.store.get? key) :
    (handler asked alone).1 = (handler asked shared).1 ∧
      InStep plans start run (handler asked alone).2 (handler asked shared).2 := by
  have single := makes.isSingle
  have agree : AgreeOn asked alone shared := by
    refine ⟨inStep.toAgree, place, fun name watched => ?_⟩
    obtain ⟨step, ofTest, rfl⟩ := makes.watched watched
    exact inStep.waits step ofTest
  obtain ⟨agreeAfter, objects, waits⟩ := agree.after inStep.calm peaceful.calm single
  refine ⟨agree.answer inStep.calm peaceful.calm single, agreeAfter,
    calm_handler inStep.calm single, fun step ofTest => waits _ (inStep.waits step ofTest),
    fun key nobody => objects key (inStep.own key nobody), ?_⟩
  intro key other differ first second
  rcases inStep.common key other differ first second with same | ⟨absent, maker, foreign, object,
    there, copy⟩
  · exact .inl (objects key same)
  · -- The run does not look at the place, so it does nothing there.
    have elsewhere : place? asked ≠ some key := by
      intro looked
      rw [place key looked, there] at absent
      cases absent
    have unmarked : ∀ object,
        Store.isPodWith (plans run).ns (Access.labels (plans run).test) key object = false := by
      obtain ⟨_, _, _, rfl, _⟩ := copy
      exact fun _ => rfl
    refine .inr ⟨?_, maker, foreign, object, ?_, copy⟩
    · rw [cell_handler inStep.calm single,
        makes.cell_of_place elsewhere fun object _ => unmarked object, absent]
    · rw [cell_handler peaceful.calm single,
        makes.cell_of_place elsewhere fun object _ => unmarked object, there]

/-- Where a run finds the copy of another run, which it makes itself when it is alone, it gets an
answer that is as good, and stays in step. -/
theorem of_copy (inStep : InStep plans start run alone shared) (apart : Apart plans start)
    (peaceful : Peaceful plans start shared) {object found : Object} {key : ObjectKey} {maker : ι}
    (makes : Makes (plans run) (Known plans start) (.ofRun (.create (plans run).ns object)))
    (place : Store.keyOf (plans run).ns object = key)
    (own : (plans run).IsCopy start key object) (absent : alone.store.get? key = none)
    (foreign : maker ≠ run) (there : shared.store.get? key = some found)
    (copy : (plans maker).IsCopy start key found) :
    let asked := DirectCall.ofRun (.create (plans run).ns object)
    Alike (plans run) asked (handler asked alone).1 (handler asked shared).1 ∧
      InStep plans start run (handler asked alone).2 (handler asked shared).2 := by
  intro asked
  subst place
  obtain ⟨rest, created⟩ :=
    Rehearsal.create_calm inStep.calm.failures (plans run).ns object
  obtain ⟨restToo, refused⟩ :=
    Rehearsal.create_calm peaceful.calm.failures (plans run).ns object
  simp only [absent] at created
  simp only [there] at refused
  have put : (handler asked alone).2.store =
      alone.store.put (Store.keyOf (plans run).ns object) object := created.2
  have kept : (handler asked shared).2.store = shared.store := refused.2
  have touches : (plans maker).Touches start (Store.keyOf (plans run).ns object) := by
    obtain ⟨credential, listed, _, place, _⟩ := copy
    rw [place]
    exact .writes (.copy listed)
  have elsewhere : ∀ key, key ≠ Store.keyOf (plans run).ns object →
      (handler asked alone).2.store.get? key = alone.store.get? key ∧
        (handler asked shared).2.store.get? key = shared.store.get? key := by
    intro key differ
    rw [put, kept, Store.get?_put, if_neg differ]
    exact ⟨rfl, rfl⟩
  constructor
  · change Plan.Alike (plans run) (.create (plans run).ns object)
      (Rehearsal.create (plans run).ns object alone).1
      (Rehearsal.create (plans run).ns object shared).1
    rw [created.1, refused.1]
    obtain ⟨_, _, _, _, _, rfl⟩ := own
    exact ⟨nofun, (apart.not_reads foreign touches).1, ⟨_, rfl⟩, ⟨_, rfl⟩⟩
  refine ⟨inStep.toAgree.congr rest restToo, calm_handler inStep.calm makes.isSingle, ?_, ?_, ?_⟩
  · intro step ofTest
    have waited := (script_handler inStep.calm makes.isSingle).2.2.2
    have waitedToo := (script_handler peaceful.calm makes.isSingle).2.2.2
    rw [waited _ nofun, waitedToo _ nofun]
    exact inStep.waits step ofTest
  · intro key nobody
    have differ : key ≠ Store.keyOf (plans run).ns object := by
      rintro rfl
      exact nobody maker foreign touches
    rw [(elsewhere key differ).1, (elsewhere key differ).2]
    exact inStep.own key nobody
  · intro key other differ first second
    by_cases here : key = Store.keyOf (plans run).ns object
    · -- Now the run has made its copy alone, and it is the same as the one that it has found.
      subst here
      rw [put, kept, Store.get?_put, if_pos rfl, there]
      exact .inl <| congrArg some (apart.copy_unique foreign copy own).symm
    · rw [(elsewhere key here).1, (elsewhere key here).2]
      exact inStep.common key other differ first second

/-- With each of its own calls a run goes on as it goes on alone, and stays in step. -/
theorem own_call (inStep : InStep plans start run alone shared) (apart : Apart plans start)
    (peaceful : Peaceful plans start shared)
    (makes : Makes (plans run) (Known plans start) asked) :
    ((handler asked alone).1 = (handler asked shared).1 ∨
        Alike (plans run) asked (handler asked alone).1 (handler asked shared).1) ∧
      InStep plans start run (handler asked alone).2 (handler asked shared).2 := by
  by_cases agreed : ∀ key, place? asked = some key →
      alone.store.get? key = shared.store.get? key
  · exact (inStep.of_place peaceful makes agreed).imp_left .inl
  · simp only [Classical.not_forall] at agreed
    obtain ⟨key, place, differs⟩ := agreed
    obtain ⟨other, foreign, second⟩ : ∃ other, other ≠ run ∧ (plans other).Touches start key := by
      refine Classical.byContradiction fun nobody => differs (inStep.own key ?_)
      exact fun other foreign touches => nobody ⟨other, foreign, touches⟩
    obtain ⟨object, own, rfl⟩ := apart.creates_copy foreign.symm second makes place
    have first : (plans run).Touches start key := by
      obtain ⟨credential, listed, _, rfl, _⟩ := own
      exact .writes (.copy listed)
    rcases inStep.common key other foreign first second with same | ⟨absent, maker, foreign, found,
      there, copy⟩
    · exact absurd same differs
    · exact (inStep.of_copy apart peaceful makes (Option.some.inj place) own absent foreign there
        copy).imp_left .inr

end InStep

/-- With each call of another run a run stays in step. -/
theorem InStep.other_call [DecidableEq ι] {cluster : SharedCluster ι} {run mover : ι}
    {alone : Rehearsal} {asked : DirectCall}
    (inStep : InStep plans start run alone (cluster.view run)) (apart : Apart plans start)
    (differ : run ≠ mover) (peaceful : Peaceful plans start (cluster.view mover))
    (makes : Direct.Makes (plans mover) (Known plans start) asked) :
    InStep plans start run alone
      ((cluster.update mover (Direct.handler asked (cluster.view mover)).2).view run) := by
  obtain ⟨images, scripts, _, waits⟩ := Direct.script_handler peaceful.calm makes.isSingle
  have cancelled := cluster.cancelled_update differ (Direct.handler asked (cluster.view mover)).2
  have moved : ∀ key,
      ((cluster.update mover (Direct.handler asked (cluster.view mover)).2).view run).store.get? key
        = Direct.cell (Direct.script (cluster.view mover) asked) key
          ((cluster.view run).store.get? key) asked :=
    fun key => Direct.cell_handler peaceful.calm makes.isSingle key
  refine ⟨⟨inStep.images.trans images.symm, inStep.scripts.trans scripts.symm,
    inStep.caller.trans (congrFun cancelled .caller).symm,
    inStep.detached.trans (congrFun cancelled .detached).symm⟩, inStep.calm, ?_, ?_, ?_⟩
  · intro step ofTest
    refine (inStep.waits step ofTest).trans (waits _ fun watched => ?_).symm
    obtain ⟨same, ofMover, named⟩ := makes.watched watched
    exact apart.pods run mover differ step ofTest same ofMover named
  · intro key nobody
    exact (inStep.own key nobody).trans (peaceful.frame makes (nobody mover differ.symm)).symm
  · intro key other foreign first second
    by_cases meets : (plans mover).Touches start key
    · rw [moved]
      rcases apart.cell_meeting differ.symm meets first makes with kept | ⟨object, copy, created⟩
      · rw [kept]
        exact inStep.common key other foreign first second
      · rw [created]
        cases there : (cluster.view run).store.get? key with
        | some found =>
          rw [← there]
          exact there ▸ inStep.common key other foreign first second
        | none =>
          rcases inStep.common key other foreign first second with same |
            ⟨_, _, _, found, stored, _⟩
          · exact .inr ⟨same.trans there, mover, differ.symm, object, rfl, copy⟩
          · rw [there] at stored
            cases stored
    · have same : ((cluster.update mover (Direct.handler asked (cluster.view mover)).2).view
          run).store.get? key = (cluster.view run).store.get? key := peaceful.frame makes meets
      rw [same]
      exact inStep.common key other foreign first second

/-! ## Turn by turn -/

section Turns

variable [DecidableEq ι] {α : Type} {session : SideBySide ι α}

/-- Runs that share a cluster have come as far as the same runs alone. -/
structure Lockstep (plans : ι → Plan) (start : Store) (session : SideBySide ι α)
    (alones : ι → Program Direct α × Rehearsal) : Prop where
  /-- What belongs to none of the runs is as it was. -/
  peaceful : Peaceful plans start session.cluster.common
  /-- Each run has the same left to do. -/
  programs : ∀ run, session.programs run = (alones run).1
  /-- Each run keeps to its rules. -/
  conforms : ∀ run, (alones run).1.Conforms (Direct.rules (plans run) (Known plans start))
    fun _ => True
  /-- Each run sees what it sees alone, apart from copies that others have made. -/
  inStep : ∀ run, InStep plans start run (alones run).2 (session.cluster.view run)

namespace Lockstep

variable {alones : ι → Program Direct α × Rehearsal} {mover : ι}

/-- It is enough to look at the run whose turn it is, and at what the other runs see. -/
theorem update (lockstep : Lockstep plans start session alones)
    (next : Program Direct α × Rehearsal) {seen : Rehearsal} (peaceful : Peaceful plans start seen)
    (conforms : next.1.Conforms (Direct.rules (plans mover) (Known plans start)) fun _ => True)
    (inStep : InStep plans start mover next.2 seen)
    (others : ∀ run, run ≠ mover →
      InStep plans start run (alones run).2 ((session.cluster.update mover seen).view run)) :
    Lockstep plans start
      { cluster := session.cluster.update mover seen
        programs := Function.update session.programs mover next.1 }
      (Function.update alones mover next) where
  peaceful := peaceful
  programs := by
    intro run
    by_cases same : run = mover
    · subst same
      simp only [Function.update_self]
    · simpa only [Function.update_of_ne same] using lockstep.programs run
  conforms := by
    intro run
    by_cases same : run = mover
    · subst same
      simpa only [Function.update_self] using conforms
    · simpa only [Function.update_of_ne same] using lockstep.conforms run
  inStep := by
    intro run
    by_cases same : run = mover
    · subst same
      simpa only [Function.update_self, SharedCluster.view_update] using inStep
    · simpa only [Function.update_of_ne same] using others run same

/-- In each turn the run whose turn it is goes on as it goes on alone. -/
theorem turn (lockstep : Lockstep plans start session alones) (apart : Apart plans start)
    (mover : ι) :
    Lockstep plans start (session.turn mover)
      (Function.update alones mover (Program.step Direct.handler (alones mover))) := by
  have left := lockstep.programs mover
  have conforms := lockstep.conforms mover
  have inStep := lockstep.inStep mover
  have peaceful := lockstep.peaceful.view mover
  generalize alones mover = point at left conforms inStep ⊢
  obtain ⟨program, state⟩ := point
  obtain rfl : session.programs mover = program := left
  rw [SideBySide.turn]
  cases left : session.programs mover with
  | done value =>
    rw [left] at conforms
    exact lockstep.update (.done value, state) peaceful conforms inStep
      fun run differ => session.cluster.view_update_view differ ▸ lockstep.inStep run
  | call asked next =>
    rw [left] at conforms
    obtain ⟨makes, alike, later⟩ := conforms
    obtain ⟨answers, after⟩ := inStep.own_call apart peaceful makes
    have same : next (Direct.handler asked state).1 =
        next (Direct.handler asked (session.cluster.view mover)).1 := by
      rcases answers with same | same
      · rw [same]
      · exact alike _ _ same
    have kept := later _ (peaceful.possible asked)
    rw [← same] at kept
    have updated := lockstep.update
      (next (Direct.handler asked state).1, (Direct.handler asked state).2)
      (peaceful.handler apart makes) kept after
      fun run differ => (lockstep.inStep run).other_call apart differ peaceful makes
    rw [same] at updated
    simpa only [Program.step, same] using updated

/-- In whatever order runs that get along take their turns, each of them has come as far as it
comes alone in as many turns as it had. -/
theorem turns
    (lockstep : Lockstep plans start session fun run => session.alone run 0)
    (apart : Apart plans start) (schedule : List ι) :
    Lockstep plans start (session.turns schedule) fun run =>
      session.alone run (schedule.count run) := by
  induction schedule using List.reverseRecOn with
  | nil => exact lockstep
  | append_singleton schedule mover ih =>
    rw [SideBySide.turns_concat]
    convert ih.turn apart mover using 1
    funext run
    by_cases same : run = mover
    · subst same
      rw [Function.update_self, ← SideBySide.alone_succ, List.count_append,
        List.count_singleton_self]
    · rw [Function.update_of_ne same, List.count_append, List.count_singleton,
        if_neg (by simpa using Ne.symm same), Nat.add_zero]

/-- In its turn a run has nothing left to do, or it makes a call that it may make and makes alone,
too. -/
theorem moves (lockstep : Lockstep plans start session alones) (mover : ι) :
    (session.turn mover).stored = session.stored ∧
        Program.step Direct.handler (alones mover) = alones mover ∨
      ∃ asked, Direct.Makes (plans mover) (Known plans start) asked ∧
        (session.turn mover).cluster.common =
          (Direct.handler asked (session.cluster.view mover)).2 ∧
        (Program.step Direct.handler (alones mover)).2 =
          (Direct.handler asked (alones mover).2).2 := by
  have left := lockstep.programs mover
  have conforms := lockstep.conforms mover
  generalize alones mover = point at left conforms ⊢
  obtain ⟨program, state⟩ := point
  obtain rfl : session.programs mover = program := left
  rw [SideBySide.turn]
  cases left : session.programs mover with
  | done value => exact .inl ⟨rfl, rfl⟩
  | call asked next =>
    rw [left] at conforms
    exact .inr ⟨asked, conforms.1, rfl, rfl⟩

/-- What a run changes belongs to it. -/
theorem touches_of_changed (lockstep : Lockstep plans start session alones) {key : ObjectKey}
    (changed : (session.turn mover).stored key ≠ session.stored key) :
    (plans mover).Touches start key := by
  rcases lockstep.moves mover with ⟨same, _⟩ | ⟨asked, makes, moved, _⟩
  · exact absurd (congrFun same key) changed
  · rw [SideBySide.stored, moved] at changed
    exact Classical.byContradiction fun untouched =>
      changed ((lockstep.peaceful.view mover).frame makes untouched)

/-- What a run changes where it meets another one is there afterwards when it is alone, too. -/
theorem exists_of_changed (lockstep : Lockstep plans start session alones)
    (apart : Apart plans start) {other : ι} (differ : mover ≠ other) {key : ObjectKey}
    (second : (plans other).Touches start key)
    (changed : (session.turn mover).stored key ≠ session.stored key) :
    ∃ object, (Program.step Direct.handler (alones mover)).2.store.get? key = some object := by
  have first := lockstep.touches_of_changed changed
  rcases lockstep.moves mover with ⟨same, _⟩ | ⟨asked, makes, moved, alone⟩
  · exact absurd (congrFun same key) changed
  · have calm := (lockstep.inStep mover).calm
    have peaceful := lockstep.peaceful.view mover
    rw [SideBySide.stored, moved, Direct.cell_handler peaceful.calm makes.isSingle] at changed
    rw [alone, Direct.cell_handler calm makes.isSingle]
    rcases apart.cell_meeting differ first second makes with kept | ⟨object, _, created⟩
    · exact absurd (kept _ _) changed
    · exact ⟨_, created _ _⟩

/-- What is there where a run meets another one stays there when the run is alone. -/
theorem alone_keeps (lockstep : Lockstep plans start session fun run => session.alone run 0)
    (apart : Apart plans start) {run other : ι} (differ : run ≠ other) {key : ObjectKey}
    (first : (plans run).Touches start key) (second : (plans other).Touches start key)
    {object : Object} {early late : Nat} (later : early ≤ late)
    (there : (session.alone run early).2.store.get? key = some object) :
    (session.alone run late).2.store.get? key = some object := by
  induction later with
  | refl => exact there
  | @step count _ ih =>
    -- The run keeps to its rules alone, because it does so where nobody else takes a turn.
    have whole := lockstep.turns apart (List.replicate count run)
    have calm := (whole.inStep run).calm
    have moves := whole.moves run
    simp only [List.count_replicate_self] at calm moves
    rw [SideBySide.alone_succ]
    rcases moves with ⟨_, same⟩ | ⟨asked, makes, _, alone⟩
    · rw [same]
      exact ih
    · rw [alone, Direct.cell_handler calm makes.isSingle]
      rcases apart.cell_meeting differ first second makes with kept | ⟨copy, _, created⟩
      · rw [kept]
        exact ih
      · rw [created, ih]
        rfl

omit [DecidableEq ι] in
/-- Runs begin in step with the same runs alone. -/
theorem ofPlans {cluster : SharedCluster ι} (calm : cluster.common.Calm)
    (progress : ι → Progress) :
    Lockstep plans cluster.common.store (.ofPlans plans progress cluster) fun run =>
      (SideBySide.ofPlans plans progress cluster).alone run 0 where
  peaceful := ⟨calm, fun _ _ _ stored marked => .leftOver stored marked, fun _ _ => rfl⟩
  programs _ := rfl
  conforms run := Direct.conforms_through ((plans run).conforms_run _ (progress run))
  inStep _ := ⟨⟨rfl, rfl, rfl, rfl⟩, ⟨calm.failures, calm.distinct⟩, fun _ _ => rfl,
    fun _ _ => rfl, fun _ _ _ _ _ => .inl rfl⟩

end Lockstep

/-! ## Runs that share a cluster -/

/-- Tests that get along do not notice each other. Their runs may take turns in any order, call by
call. A run that has had as many turns as it makes calls alone has ended; and a run that has ended
has ended as it ends alone, with the same result, states of phases and ends of containers, and at
every place that it has changed there is what is there at its end alone. -/
theorem SideBySide.same_as_alone {cluster : SharedCluster ι} (calm : cluster.common.Calm)
    (apart : Apart plans cluster.common.store) (progress : ι → Progress) (schedule : List ι)
    (run : ι) :
    let program := (plans run).run (progress run)
    let alone := program.run Rehearsal.handler (cluster.view run)
    let after := (ofPlans plans progress cluster).turns
    (((program.through Direct.parts).trace Direct.handler (cluster.view run)).length ≤
        schedule.count run → (after schedule).programs run = .done alone.1) ∧
      ∀ value, (after schedule).programs run = .done value →
        value = alone.1 ∧ ∀ early late key, schedule = early ++ run :: late →
          (after (early ++ [run])).stored key ≠ (after early).stored key →
            (after schedule).stored key = alone.2.store.get? key := by
  intro program alone after
  let session := ofPlans plans progress cluster
  have lockstep : Lockstep plans cluster.common.store session fun run => session.alone run 0 :=
    .ofPlans calm progress
  have whole := lockstep.turns apart schedule
  have same : (session.programs run).run Direct.handler (session.cluster.view run) = alone :=
    Direct.run_through _ _
  refine ⟨fun enough => ?_, fun value ended => ?_⟩
  · refine (whole.programs run).trans ?_
    have ended := Program.iterate_step Direct.handler _ _ enough
    exact (congrArg Prod.fst ended).trans (congrArg (Program.done ·.1) same)
  · -- Alone, the run has ended by now, too.
    have left : (session.alone run (schedule.count run)).1 = .done value :=
      (whole.programs run).symm.trans ended
    have ending := session.run_alone run (schedule.count run)
    rw [left, same] at ending
    refine ⟨congrArg Prod.fst ending, fun early late key split changed => ?_⟩
    have final : (session.alone run (schedule.count run)).2 = alone.2 := congrArg Prod.snd ending
    have before := lockstep.turns apart early
    have step : after (early ++ [run]) = (session.turns early).turn run :=
      session.turns_concat early run
    rw [step] at changed
    have first := before.touches_of_changed changed
    rw [← final]
    by_cases foreign : ∃ other, other ≠ run ∧ (plans other).Touches cluster.common.store key
    · obtain ⟨other, differ, second⟩ := foreign
      obtain ⟨object, there⟩ := before.exists_of_changed apart differ.symm second changed
      rw [← SideBySide.alone_succ] at there
      have later : early.count run + 1 ≤ schedule.count run := by
        rw [split, List.count_append, List.count_cons_self]
        omega
      have kept := lockstep.alone_keeps apart differ.symm first second later there
      rcases (whole.inStep run).common key other differ first second with same | ⟨absent, _⟩
      · exact same.symm
      · rw [kept] at absent
        cases absent
    · exact ((whole.inStep run).own key fun other differ second =>
        foreign ⟨other, differ, second⟩).symm

/-- The small test, and a test with the same steps under another name. -/
def Plan.pair (second : Bool) : Plan :=
  { Plan.small with
    config := { Plan.small.config with name := if second then "smoke" else "e2e" } }

/-- Two tests that copy the same secret take turns, and both end well. -/
theorem SideBySide.same_as_alone_pair :
    let cluster : SharedCluster Bool := ⟨.small [], fun _ _ => false⟩
    ∀ second, ∃ progress,
      ((ofPlans Plan.pair (fun _ => .initial) cluster).turns
        (List.replicate 20 [false, true]).flatten).programs second = .done (progress, .ok ()) := by
  intro cluster second
  have calm : cluster.common.Calm := ⟨rfl, Store.distinct_empty.put _ _⟩
  have apart : Apart Plan.pair cluster.common.store := by
    refine ⟨by decide, by decide, by decide, by decide, ?_⟩
    intro one other _ step _ object stored
    change (Store.put _ _ _).get? _ = _ at stored
    rw [Store.get?_put, if_neg nofun] at stored
    cases stored
  have enough : ∀ second, ((((Plan.pair second).run .initial).through Direct.parts).trace
      Direct.handler (cluster.view second)).length ≤
        (List.replicate 20 [false, true]).flatten.count second := by
    decide +kernel
  have well : ∀ second, (((Plan.pair second).run .initial).run Rehearsal.handler
      (cluster.view second)).1.2.toOption = some () := by
    decide +kernel
  have ended := (SideBySide.same_as_alone calm apart (fun _ => .initial) _ second).1 (enough second)
  have good := well second
  generalize ((Plan.pair second).run .initial).run Rehearsal.handler (cluster.view second) = alone
    at ended good
  obtain ⟨⟨progress, result⟩, _⟩ := alone
  cases result with
  | ok value => exact ⟨progress, ended⟩
  | error error => cases good

end Turns

end StagedTest
