import StagedTest.PodRecord

/-!
# What is on the record of pods

While a pod is watched it is seen again and again. Its containers end one after the other, some of
them start again and end in another way, and some have a name in common. The main statement tells
what is on the record after any number of looks: of all ends that were seen, in the order in which
they were seen, the first one of each name.
-/
namespace StagedTest

/-! ## The first entry of each name -/

/-- The entries whose name no earlier one has. -/
def firstOfEach {α : Type} : List (String × α) → List (String × α)
  | [] => []
  | entry :: later => entry :: (firstOfEach later).filter (·.1 ≠ entry.1)

section

variable {α : Type}

/-- The first entries have the names that all entries have. -/
theorem mem_names_firstOfEach (entries : List (String × α)) (name : String) :
    name ∈ (firstOfEach entries).map (·.1) ↔ name ∈ entries.map (·.1) := by
  induction entries with
  | nil => rfl
  | cons entry later ih =>
    rw [firstOfEach, List.map_cons, List.map_cons, List.mem_cons, List.mem_cons, ← ih]
    by_cases same : name = entry.1
    · exact ⟨fun _ => .inl same, fun _ => .inl same⟩
    · -- An entry with another name than the first one is not dropped because of it.
      refine or_congr_right ?_
      simp only [List.mem_map, List.mem_filter]
      constructor
      · rintro ⟨first, ⟨member, _⟩, rfl⟩
        exact ⟨first, member, rfl⟩
      · rintro ⟨first, member, rfl⟩
        exact ⟨first, ⟨member, decide_eq_true same⟩, rfl⟩

/-- No two of the first entries have the same name. -/
theorem nodup_names_firstOfEach (entries : List (String × α)) :
    ((firstOfEach entries).map (·.1)).Nodup := by
  induction entries with
  | nil => exact List.nodup_nil
  | cons entry later ih =>
    rw [firstOfEach, List.map_cons, List.nodup_cons]
    refine ⟨fun again => ?_, ih.sublist (List.filter_sublist.map _)⟩
    obtain ⟨other, member, same⟩ := List.mem_map.1 again
    have differ := (List.mem_filter.1 member).2
    simp [same] at differ

/-- Of the first entries, the one with a name is what the name leads to among all entries. -/
theorem filter_firstOfEach (entries : List (String × α)) (name : String) :
    (firstOfEach entries).filter (·.1 == name) =
      ((entries.lookup name).map (name, ·)).toList := by
  induction entries with
  | nil => rfl
  | cons entry later ih =>
    obtain ⟨key, value⟩ := entry
    rw [firstOfEach, List.filter_cons, List.filter_filter, List.lookup_cons]
    by_cases named : key = name
    · subst named
      simp
    · have unnamed : (name == key) = false := beq_false_of_ne (Ne.symm named)
      have same : ∀ other : String × α,
          (other.1 == name && decide (other.1 ≠ key)) = (other.1 == name) := by
        intro other
        by_cases found : other.1 = name <;> simp [found, Ne.symm named]
      simp only [same, ih, unnamed, beq_false_of_ne named, Bool.false_eq_true, if_false]

end

/-! ## What is seen -/

/-- The name of a container that has ended, with how it did. -/
def ContainerStatus.ended? (status : ContainerStatus) : Option (String × Termination) :=
  (status.state.bind (·.terminated)).map (status.name, ·)

/-- The containers of a pod that have ended, with how they did. Those that run first come before the
others. -/
def Pod.ended (pod : Pod) : List (String × Termination) :=
  ((pod.status.bind (·.initContainerStatuses)).getD [] ++
    (pod.status.bind (·.containerStatuses)).getD []).filterMap ContainerStatus.ended?

/-- How long a container ran that has ended; nothing where its start or its end is not known. -/
def Termination.duration (termination : Termination) : Decimal :=
  match termination.startedAt, termination.finishedAt with
  | some started, some finished => .ofThousandths (started.millisecondsUntil finished)
  | _, _ => .ofThousandths 0

/-- What is written down of a container by its name and how it ended. -/
def ContainerResult.ofEnd (entry : String × Termination) : ContainerResult :=
  { name := entry.1
    started := entry.2.startedAt
    finished := entry.2.finishedAt
    failure := failureOf entry.1 entry.2 }

/-- What is written down of a container that is seen is what is written down of its end. -/
theorem ContainerResult.ofStatus?_eq (status : ContainerStatus) :
    ofStatus? status = status.ended?.map ofEnd := by
  rw [ofStatus?, ContainerStatus.ended?, Option.map_map]
  rfl

/-- The ends that are seen of a pod are those of its containers. -/
theorem Pod.ended_eq (pod : Pod) :
    pod.ended = pod.containerStatuses.filterMap ContainerStatus.ended? := by
  rw [ended, containerStatuses]
  cases pod.status <;> rfl

/-- The name of an end is that of the container. -/
theorem ContainerStatus.name_of_ended? {status : ContainerStatus} {entry : String × Termination}
    (seen : status.ended? = some entry) : entry.1 = status.name := by
  obtain ⟨termination, _, rfl⟩ := Option.map_eq_some_iff.1 seen
  rfl

namespace PodRecord

/-! ## What is written down -/

variable {record : PodRecord} {status : ContainerStatus} {entry : String × Termination}

/-- A container is on the record if its name is. -/
theorem holds_iff (record : PodRecord) (name : String) :
    record.holds name = true ↔ name ∈ record.results.map (·.name) := by
  rw [holds, List.any_eq_true, List.mem_map]
  exact exists_congr fun result => and_congr_right fun _ => beq_iff_eq

/-- A container whose end is not seen adds nothing to the record. -/
theorem observeStatus_of_none (running : status.ended? = none) :
    record.observeStatus status = record := by
  rw [observeStatus, ContainerResult.ofStatus?_eq, running]
  split <;> simp

/-- A container whose name is there adds nothing to the record. -/
theorem observeStatus_of_holds (there : record.holds status.name = true) :
    record.observeStatus status = record := by
  rw [observeStatus, if_pos there]

/-- A container whose name is not there adds its end to the record. -/
theorem results_observeStatus (seen : status.ended? = some entry)
    (absent : record.holds status.name = false) :
    (record.observeStatus status).results = record.results ++ [.ofEnd entry] := by
  rw [observeStatus, if_neg (Bool.eq_false_iff.1 absent), ContainerResult.ofStatus?_eq, seen]
  rfl

/-- An end that is added to the record is there, with all that was there before. -/
theorem holds_of_results_eq {after : PodRecord}
    (added : after.results = record.results ++ [.ofEnd entry]) (name : String) :
    after.holds name = (record.holds name || entry.1 == name) := by
  rw [holds, added, List.any_append]
  simp [holds, ContainerResult.ofEnd]

/-- Containers that are seen add to the record the first end of each name that is not there. -/
theorem results_foldl (record : PodRecord) (statuses : List ContainerStatus) :
    (statuses.foldl observeStatus record).results = record.results ++
      ((firstOfEach (statuses.filterMap ContainerStatus.ended?)).filter
        fun entry => !record.holds entry.1).map .ofEnd := by
  induction statuses generalizing record with
  | nil => exact (List.append_nil _).symm
  | cons status rest ih =>
    rw [List.foldl_cons, ih, List.filterMap_cons]
    cases seen : status.ended? with
    | none => rw [observeStatus_of_none seen]
    | some entry =>
      have named := ContainerStatus.name_of_ended? seen
      rw [firstOfEach, List.filter_cons, List.filter_filter]
      cases there : record.holds status.name with
      | true =>
        -- Later ends of this name are not added in any case, as there is one on the record.
        have same : ∀ other : String × Termination,
            (!record.holds other.1 && decide (other.1 ≠ entry.1)) = !record.holds other.1 := by
          intro other
          by_cases again : other.1 = entry.1
          · rw [again, named, there]
            rfl
          · simp [again]
        rw [observeStatus_of_holds there, named, there]
        simp only [← named, same]
        rfl
      | false =>
        have added := results_observeStatus seen there
        have same : ∀ other : String × Termination,
            (!record.holds other.1 && decide (other.1 ≠ entry.1)) =
              !(record.observeStatus status).holds other.1 := by
          intro other
          rw [holds_of_results_eq added, Bool.not_or]
          by_cases again : entry.1 = other.1 <;> simp [again, Ne.symm]
        rw [added, named, there]
        simp only [← named, same]
        simp

/-- A pod that is seen adds to the record the first end of each name that is not there. -/
theorem results_observe (record : PodRecord) (pod : Pod) :
    (record.observe pod).results = record.results ++
      ((firstOfEach pod.ended).filter fun entry => !record.holds entry.1).map .ofEnd := by
  rw [observe, results_foldl, Pod.ended_eq]

/-- Pods that are seen leave on a new record the first end of each name. -/
theorem results_observeAll (pods : List Pod) :
    (empty.observeAll pods).results = (firstOfEach (pods.flatMap Pod.ended)).map .ofEnd := by
  have together : empty.observeAll pods =
      (pods.flatMap Pod.containerStatuses).foldl observeStatus empty :=
    List.foldl_flatMap.symm
  have ends : (pods.flatMap Pod.containerStatuses).filterMap ContainerStatus.ended? =
      pods.flatMap Pod.ended := by
    rw [List.filterMap_flatMap]
    exact congrArg (pods.flatMap ·) (funext fun pod => pod.ended_eq.symm)
  have nothing : ∀ entry ∈ firstOfEach (pods.flatMap Pod.ended),
      (!empty.holds entry.1) = true := fun _ _ => rfl
  rw [together, results_foldl, ends, List.filter_eq_self.2 nothing]
  rfl

/-- The names on the record are those of the ends that were seen. -/
theorem holds_observeAll_iff (pods : List Pod) (name : String) :
    (empty.observeAll pods).holds name = true ↔ name ∈ (pods.flatMap Pod.ended).map (·.1) := by
  rw [holds_iff, results_observeAll, List.map_map, ← mem_names_firstOfEach]
  rfl

/-- A pod that was seen before adds nothing to the record. -/
theorem observe_observeAll {pods : List Pod} {pod : Pod} (before : pod ∈ pods) :
    (empty.observeAll pods).observe pod = empty.observeAll pods := by
  have known : ∀ entry ∈ firstOfEach pod.ended,
      (empty.observeAll pods).holds entry.1 = true := by
    intro entry member
    have named := (mem_names_firstOfEach _ _).1 (List.mem_map_of_mem member)
    obtain ⟨first, ended, same⟩ := List.mem_map.1 named
    refine (holds_observeAll_iff pods entry.1).2 (List.mem_map.2 ⟨first, ?_, same⟩)
    exact List.mem_flatMap.2 ⟨pod, before, ended⟩
  have none : ((firstOfEach pod.ended).filter fun entry =>
      !(empty.observeAll pods).holds entry.1) = [] := by
    rw [List.filter_eq_nil_iff]
    intro entry member
    simp [known entry member]
  have same := results_observe (empty.observeAll pods) pod
  rw [none, List.map_nil, List.append_nil] at same
  exact congrArg PodRecord.mk same

/-- Of a name there is on the record the end that was seen first. -/
theorem filter_observeAll (pods : List Pod) (name : String) :
    (empty.observeAll pods).results.filter (·.name == name) =
      ((pods.flatMap Pod.ended).lookup name).toList.map fun termination =>
        .ofEnd (name, termination) := by
  rw [results_observeAll, List.filter_map]
  change ((firstOfEach _).filter (·.1 == name)).map _ = _
  rw [filter_firstOfEach]
  cases (pods.flatMap Pod.ended).lookup name <;> rfl

/-- An end that was not seen in earlier pods is not on the record, and is the one that counts as
soon as it is seen, whatever is seen later. -/
theorem filter_observeAll_of_first {early : List Pod} (late : List Pod) {pod : Pod} {name : String}
    {termination : Termination} (unseen : ∀ before ∈ early, before.ended.lookup name = none)
    (seen : pod.ended.lookup name = some termination) :
    (empty.observeAll early).holds name = false ∧
      (empty.observeAll (early ++ pod :: late)).results.filter (·.name == name) =
        [.ofEnd (name, termination)] := by
  have notBefore : (early.flatMap Pod.ended).lookup name = none := by
    rw [List.lookup_eq_none_iff]
    intro entry member
    obtain ⟨before, among, ended⟩ := List.mem_flatMap.1 member
    exact List.lookup_eq_none_iff.1 (unseen before among) entry ended
  constructor
  · refine Bool.eq_false_iff.2 fun there => ?_
    obtain ⟨entry, ended, named⟩ := List.mem_map.1 ((holds_observeAll_iff early name).1 there)
    have differ := List.lookup_eq_none_iff.1 notBefore entry ended
    simp [named] at differ
  · rw [filter_observeAll, List.flatMap_append, List.lookup_append, notBefore, List.flatMap_cons,
      List.lookup_append, seen]
    rfl

/-- Whatever pods are seen on a new record, it holds of all ends that are seen, in the order in
which they are, the first one of each name. So no name is there twice, a pod that is seen adds at
the end of the record, and nothing if it was seen before. A container that has not ended in earlier
pods is put down when its end is first seen, and stays as it is seen then. -/
theorem record_of_pods (pods : List Pod) :
    let record := empty.observeAll pods
    record.results = (firstOfEach (pods.flatMap Pod.ended)).map .ofEnd ∧
    (record.results.map (·.name)).Nodup ∧
    (∀ pod, record.results <+: (record.observe pod).results) ∧
    (∀ pod ∈ pods, record.observe pod = record) ∧
    ∀ early pod late name termination, pods = early ++ pod :: late →
      (∀ before ∈ early, before.ended.lookup name = none) →
      pod.ended.lookup name = some termination →
      (empty.observeAll early).holds name = false ∧
      ∃ result, record.results.filter (·.name == name) = [result] ∧
        ∀ lead, result.testCase lead =
          { name := lead ++ "container " ++ name
            timestamp := termination.startedAt
            durationSeconds := termination.duration
            failure := ContainerResult.failureOf name termination } := by
  intro record
  refine ⟨results_observeAll pods, ?_, fun pod => ?_, fun pod => observe_observeAll, ?_⟩
  · have names : record.results.map (·.name) =
        (firstOfEach (pods.flatMap Pod.ended)).map (·.1) := by
      rw [results_observeAll, List.map_map]
      rfl
    rw [names]
    exact nodup_names_firstOfEach _
  · rw [results_observe]
    exact List.prefix_append _ _
  · rintro early pod late name termination whole unseen seen
    obtain ⟨absent, first⟩ := filter_observeAll_of_first late unseen seen
    rw [← whole] at first
    exact ⟨absent, _, first, fun lead => rfl⟩

/-- A pod as it is seen while its container runs, or after it has ended with an exit code. -/
def podAfter (exitCode : Option Int32) : Pod :=
  { status := some
      { containerStatuses := some
          [ { name := "test"
              state := some { terminated := exitCode.map fun code => { exitCode := code } } } ] } }

/-- A container that is first seen running, then to have failed, and after a restart to have ended
well, is on the record as failed. -/
theorem record_of_pods_restarted :
    let pods := [podAfter none, podAfter (some 1), podAfter (some 0)]
    (empty.observeAll [podAfter none]).holds "test" = false ∧
      ∃ result, (empty.observeAll pods).results.filter (·.name == "test") = [result] ∧
        (result.testCase "").failure = some "container test exited with code 1" := by
  intro pods
  have running : ∀ before ∈ [podAfter none], before.ended.lookup "test" = none := by
    intro before member
    obtain rfl := List.mem_singleton.1 member
    rfl
  obtain ⟨absent, result, only, written⟩ := (record_of_pods pods).2.2.2.2 [podAfter none]
    (podAfter (some 1)) [podAfter (some 0)] "test" { exitCode := 1 } rfl running rfl
  exact ⟨absent, result, only, by rw [written]; rfl⟩

end PodRecord

end StagedTest
