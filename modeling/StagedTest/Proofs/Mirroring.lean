import StagedTest.Proofs.Attempts
import StagedTest.Proofs.ByteOrder
import StagedTest.Proofs.Credentials

/-!
# Copying secrets

The secrets that steps ask for are copied into the namespace of the test, each under a name that is
made of the name of its namespace and its own. Two different secrets may get the same name in that
way, and then none is copied. The main statement tells what is asked of the cluster otherwise,
whatever it answers: all secrets are read before the first copy is made, so where one of them cannot
be read there is no copy at all.
-/
namespace StagedTest

open Program

/-! ## The secrets to copy -/

/-- The secrets to copy, in the order of the names of their copies in bytes. As no two of these
names are the same, each secret is there once. -/
structure Credential.Listing (asked donors : List Credential) : Prop where
  /-- Nothing else is copied. -/
  listed : ∀ donor ∈ donors, donor ∈ asked
  /-- Nothing is left out. -/
  complete : ∀ credential ∈ asked, ∃ donor ∈ donors, donor.Same credential
  /-- Their order. -/
  ordered : donors.Pairwise fun donor later =>
    Text.bytes donor.mirrorName < Text.bytes later.mirrorName

namespace Provision

open Credential

/-! ## Reading and copying -/

/-- A secret to copy, and what was read of it. -/
structure Donor where
  /-- The secret. -/
  credential : Credential
  /-- What was read. -/
  source : Secret

namespace Donor

/-- The copy. -/
def mirror (ns : String) (donor : Donor) : Secret :=
  donor.source.mirrored ns donor.credential.mirrorName

/-- How the secret was read. -/
def reading (donor : Donor) : (asked : Cluster.Call) × Cluster.Answer asked :=
  ⟨ClusterCall.readSecret donor.credential.ns donor.credential.name, .ok donor.source⟩

/-- How the copy was made, or not. -/
def copying (ns : String) (donor : Donor) (answer : Except ClientError Unit) :
    (asked : Cluster.Call) × Cluster.Answer asked :=
  ⟨ClusterCall.create ns (.secret (donor.mirror ns)), answer⟩

end Donor

/-- A copy is there after an answer: it was made, or it was there already. -/
def Accepted (answer : Except ClientError Unit) : Prop :=
  ∀ error, answer = .error error → error.kind = .alreadyExists

/-- The ways in which certain secrets can come to be read and copied, one after the other, with
what was asked for and the result. -/
inductive Mirroring (ns : String) (asked : List Credential) :
    History Cluster → Except RunError Unit → Prop
  /-- A secret cannot be read, and nothing is copied. -/
  | unread {read : List Donor} {next : Credential} {rest : List Credential} {error : ClientError}
      (order : asked = read.map (·.credential) ++ next :: rest) :
      Mirroring ns asked
        (read.map (·.reading) ++ [⟨ClusterCall.readSecret next.ns next.name, .error error⟩])
        (.error (.readCredential next.ns next.name error))
  /-- All secrets are read, and a copy cannot be made. -/
  | uncopied {made rest : List Donor} {next : Donor} {answers : List (Except ClientError Unit)}
      {error : ClientError} (order : asked = (made ++ next :: rest).map (·.credential))
      (fits : answers.length = made.length) (accepted : ∀ answer ∈ answers, Accepted answer)
      (refused : ¬Accepted (.error error)) :
      Mirroring ns asked
        ((made ++ next :: rest).map (·.reading) ++
          (made.zipWith (Donor.copying ns) answers ++ [next.copying ns (.error error)]))
        (.error (.createCredential next.credential.mirrorName error))
  /-- All secrets are read, and then all copies are there. -/
  | copied {made : List Donor} {answers : List (Except ClientError Unit)}
      (order : asked = made.map (·.credential)) (fits : answers.length = made.length)
      (accepted : ∀ answer ∈ answers, Accepted answer) :
      Mirroring ns asked
        (made.map (·.reading) ++ made.zipWith (Donor.copying ns) answers) (.ok ())

/-- Reading a secret asks for it once. -/
theorem ends_readSource {credential : Credential} {history : History Cluster}
    {result : Except RunError Secret}
    (ends : (Attempt.orFail (.readCredential credential.ns credential.name)
      (Cluster.readSecret credential.ns credential.name)).run.Ends history result) :
    ∃ answer, history = [⟨ClusterCall.readSecret credential.ns credential.name, answer⟩] ∧
      result = answer.mapError (.readCredential credential.ns credential.name) := by
  obtain ⟨answer, asked, rfl⟩ := Attempt.ends_orFail_iff.1 ends
  exact ⟨answer, ends_ask_iff.1 asked, rfl⟩

/-- All secrets are read in order, or those up to the first one that cannot be read. -/
theorem ends_readAll {ns : String} {asked : List Credential} {history : History Cluster}
    {result : Except RunError (List (String × Secret))}
    (ends : (readAll ns (asked.map fun credential => (credential.mirrorName, credential))).run.Ends
      history result) :
    (∃ read : List Donor, asked = read.map (·.credential) ∧ history = read.map (·.reading) ∧
        result = .ok (read.map fun donor => (donor.credential.mirrorName, donor.mirror ns))) ∨
      ∃ (read : List Donor) (next : Credential) (rest : List Credential) (error : ClientError),
        asked = read.map (·.credential) ++ next :: rest ∧
        history = read.map (·.reading) ++
          [⟨ClusterCall.readSecret next.ns next.name, .error error⟩] ∧
        result = .error (.readCredential next.ns next.name error) := by
  induction asked generalizing history result with
  | nil =>
    obtain ⟨rfl, rfl⟩ := Attempt.ends_pure_iff.1 ends
    exact .inl ⟨[], rfl, rfl, rfl⟩
  | cons credential rest ih =>
    rw [List.map_cons, readAll] at ends
    rcases Attempt.ends_bind_iff.1 ends with ⟨error, failed, rfl⟩ |
      ⟨early, late, source, rfl, reading, goesOn⟩
    · obtain ⟨_ | error, rfl, blamed⟩ := ends_readSource failed
      · cases blamed
        exact .inr ⟨[], credential, rest, _, rfl, rfl, rfl⟩
      · cases blamed
    · obtain ⟨_ | answer, rfl, same⟩ := ends_readSource reading
      · cases same
      · obtain rfl := Except.ok.inj same
        rcases Attempt.ends_bind_iff.1 goesOn with ⟨error, failed, rfl⟩ |
          ⟨later, last, copies, rfl, others, done⟩
        · rcases ih failed with ⟨_, _, _, wrong⟩ | ⟨read, next, rest, error, rfl, rfl, blamed⟩
          · cases wrong
          · cases blamed
            exact .inr ⟨⟨credential, source⟩ :: read, next, rest, error, rfl, rfl, rfl⟩
        · obtain ⟨rfl, rfl⟩ := Attempt.ends_pure_iff.1 done
          rcases ih others with ⟨read, rfl, rfl, made⟩ | ⟨_, _, _, _, _, _, wrong⟩
          · obtain rfl := Except.ok.inj made
            exact .inl
              ⟨⟨credential, source⟩ :: read, rfl, congrArg (_ :: ·) (List.append_nil _), rfl⟩
          · cases wrong

/-- Of an answer that is tolerated nothing more is known, and any other is passed on. -/
theorem tolerate_cases (answer : Except ClientError Unit) :
    (Accepted answer ∧ ∃ value, ClientError.tolerate .alreadyExists answer = .ok value) ∨
      ∃ error, answer = .error error ∧ ¬Accepted answer ∧
        ClientError.tolerate .alreadyExists answer = .error error := by
  cases answer with
  | ok value => exact .inl ⟨(fun _ wrong => by cases wrong), _, rfl⟩
  | error error =>
    by_cases there : error.kind = .alreadyExists
    · exact .inl ⟨fun _ same => Except.error.inj same ▸ there, none, if_pos there⟩
    · exact .inr ⟨error, rfl, fun accepted => there (accepted error rfl), if_neg there⟩

/-- Asking for an object that may be there asks for it once. -/
theorem ends_createTolerantly {ns : String} {object : Object} {history : History Cluster}
    {judged : Except ClientError (Option Unit)}
    (ends : ((Cluster.create ns object).bind fun answer =>
      .done (ClientError.tolerate .alreadyExists answer)).Ends history judged) :
    ∃ answer, history = [⟨ClusterCall.create ns object, answer⟩] ∧
      judged = ClientError.tolerate .alreadyExists answer := by
  obtain ⟨_, _, answer, rfl, created, told⟩ := Program.ends_bind_iff.1 ends
  obtain rfl := ends_ask_iff.1 created
  obtain ⟨rfl, rfl⟩ := ends_done_iff.1 told
  exact ⟨answer, rfl, rfl⟩

/-- Making a copy asks for it once, and goes well if the copy is there afterwards. -/
theorem ends_createCopy {ns name : String} {copy : Secret} {history : History Cluster}
    {result : Except RunError Unit}
    (ends : (createIfAbsent (.createCredential name) ns (.secret copy)).run.Ends history result) :
    ∃ answer, history = [⟨ClusterCall.create ns (.secret copy), answer⟩] ∧
      (Accepted answer ∧ result = .ok () ∨
        ∃ error, answer = .error error ∧ ¬Accepted answer ∧
          result = .error (.createCredential name error)) := by
  rcases Attempt.ends_bind_iff.1 ends with ⟨error, made, rfl⟩ | ⟨_, _, value, rfl, made, done⟩
  · obtain ⟨_, asked, same⟩ := Attempt.ends_orFail_iff.1 made
    obtain ⟨answer, rfl, rfl⟩ := ends_createTolerantly asked
    rcases tolerate_cases answer with ⟨_, _, tolerated⟩ | ⟨cause, rfl, refused, passed⟩
    · rw [tolerated] at same
      cases same
    · rw [passed] at same
      cases same
      exact ⟨_, rfl, .inr ⟨cause, rfl, refused, rfl⟩⟩
  · obtain ⟨rfl, rfl⟩ := Attempt.ends_pure_iff.1 done
    obtain ⟨_, asked, same⟩ := Attempt.ends_orFail_iff.1 made
    obtain ⟨answer, rfl, rfl⟩ := ends_createTolerantly asked
    rcases tolerate_cases answer with ⟨accepted, _⟩ | ⟨cause, rfl, _, passed⟩
    · exact ⟨answer, rfl, .inl ⟨accepted, rfl⟩⟩
    · rw [passed] at same
      cases same

/-- Copies are made in order, all of them or those up to the first one that cannot be made. -/
theorem ends_createAll {ns : String} {donors : List Donor} {history : History Cluster}
    {result : Except RunError Unit}
    (ends : (createAll ns (donors.map fun donor =>
      (donor.credential.mirrorName, donor.mirror ns))).run.Ends history result) :
    (∃ answers : List (Except ClientError Unit), answers.length = donors.length ∧
        (∀ answer ∈ answers, Accepted answer) ∧
        history = donors.zipWith (Donor.copying ns) answers ∧ result = .ok ()) ∨
      ∃ (made : List Donor) (next : Donor) (rest : List Donor)
        (answers : List (Except ClientError Unit)) (error : ClientError),
        donors = made ++ next :: rest ∧ answers.length = made.length ∧
        (∀ answer ∈ answers, Accepted answer) ∧ ¬Accepted (.error error) ∧
        history = made.zipWith (Donor.copying ns) answers ++ [next.copying ns (.error error)] ∧
        result = .error (.createCredential next.credential.mirrorName error) := by
  induction donors generalizing history result with
  | nil =>
    obtain ⟨rfl, rfl⟩ := Attempt.ends_pure_iff.1 ends
    exact .inl ⟨[], rfl, by simp, rfl, rfl⟩
  | cons donor others ih =>
    rw [List.map_cons, createAll] at ends
    rcases Attempt.ends_bind_iff.1 ends with ⟨error, made, rfl⟩ |
        ⟨_, late, _, rfl, made, goesOn⟩ <;>
      obtain ⟨answer, rfl, ⟨accepted, same⟩ | ⟨cause, rfl, refused, same⟩⟩ :=
        ends_createCopy made <;>
      cases same
    · exact .inr ⟨[], donor, others, [], cause, rfl, rfl, by simp, refused, rfl, rfl⟩
    · rcases ih goesOn with ⟨answers, fits, all, rfl, rfl⟩ |
        ⟨copied, next, rest, answers, error, rfl, fits, all, refused, rfl, rfl⟩
      · exact .inl ⟨answer :: answers, congrArg (· + 1) fits,
          List.forall_mem_cons.2 ⟨accepted, all⟩, rfl, rfl⟩
      · exact .inr ⟨donor :: copied, next, rest, answer :: answers, error, rfl,
          congrArg (· + 1) fits, List.forall_mem_cons.2 ⟨accepted, all⟩, refused, rfl, rfl⟩

/-- Secrets without conflict are read and copied in one of the ways in which that can come. -/
theorem mirroring_of_ends {ns : String} {asked : List Credential} {history : History Cluster}
    {result : Except RunError Unit}
    (ends : (readAll ns (asked.map fun credential => (credential.mirrorName, credential)) >>=
      createAll ns).run.Ends history result) : Mirroring ns asked history result := by
  rcases Attempt.ends_bind_iff.1 ends with ⟨error, failed, rfl⟩ |
    ⟨_, _, copies, rfl, reading, copying⟩
  · rcases ends_readAll failed with ⟨_, _, _, wrong⟩ | ⟨_, _, _, _, order, rfl, same⟩
    · cases wrong
    · cases same
      exact .unread order
  · rcases ends_readAll reading with ⟨_, order, rfl, same⟩ | ⟨_, _, _, _, _, _, wrong⟩
    · obtain rfl := Except.ok.inj same
      rcases ends_createAll copying with ⟨_, fits, accepted, rfl, rfl⟩ |
        ⟨_, _, _, _, _, rfl, fits, accepted, refused, rfl, rfl⟩
      · exact .copied order fits accepted
      · exact .uncopied order fits accepted refused
    · cases wrong

/-- The values of the map by which secrets are listed are the secrets to copy. -/
theorem listing_values {asked : List Credential} {known : StringMap Credential}
    (found : references ∅ asked = .ok known) :
    known.entries = known.values.map (fun credential => (credential.mirrorName, credential)) ∧
      Listing asked known.values := by
  have whole : known.entries =
      known.values.map (fun credential => (credential.mirrorName, credential)) := by
    rw [StringMap.values, List.map_map]
    refine (List.map_id' _).symm.trans (List.map_congr_left fun entry member => ?_)
    exact Prod.ext (asked_of_mem_entries found member).2.symm rfl
  refine ⟨whole, ?_, ?_, ?_⟩
  · intro donor member
    obtain ⟨entry, listed, rfl⟩ := List.mem_map.1 member
    exact (asked_of_mem_entries found listed).1
  · intro credential member
    obtain ⟨first, listed, same⟩ := mem_entries_of_asked found member
    exact ⟨first, List.mem_map.2 ⟨_, listed, rfl⟩, same⟩
  · have sorted := known.sorted
    rw [whole, List.pairwise_map] at sorted
    exact sorted.imp Text.bytes_lt

/-- However secrets come to be read and copied, no conflict is reported. -/
theorem Mirroring.result_ne {ns : String} {asked : List Credential} {history : History Cluster}
    {result : Except RunError Unit} (mirroring : Mirroring ns asked history result)
    (name first second : String) : result ≠ .error (.mirrorNameCollision name first second) := by
  rintro rfl
  cases mirroring

/-- The copies of a test's secrets are made unless two of the secrets are in conflict. -/
theorem ends_mirrorCredentials {plan : Plan} {history : History Cluster}
    {result : Except RunError Unit} (ends : (mirrorCredentials plan).run.Ends history result) :
    (∃ early credential late first, credentials plan.config = early ++ credential :: late ∧
        ¬Conflicting early ∧ first? early credential.mirrorName = some first ∧
        first.Conflicts credential ∧ history = [] ∧
        result = .error
          (.mirrorNameCollision credential.mirrorName first.source credential.source)) ∨
      ¬Conflicting (credentials plan.config) ∧ ∃ donors,
        Listing (credentials plan.config) donors ∧ Mirroring plan.ns donors history result := by
  have outcome := listed_all (credentials plan.config)
  rw [mirrorCredentials] at ends
  cases found : references ∅ (credentials plan.config) with
  | error error =>
    rw [found] at outcome ends
    rcases Attempt.ends_bind_iff.1 ends with ⟨_, failed, rfl⟩ | ⟨_, _, _, _, went, _⟩
    · obtain ⟨rfl, same⟩ := Attempt.ends_ofExcept_iff.1 failed
      obtain rfl := Except.error.inj same
      cases outcome with
      | collision cut clear earlier conflict =>
        exact .inl ⟨_, _, _, _, cut, clear, earlier, conflict, rfl, rfl⟩
    · cases (Attempt.ends_ofExcept_iff.1 went).2
  | ok known =>
    rw [found] at outcome ends
    rcases Attempt.ends_bind_iff.1 ends with ⟨_, failed, _⟩ | ⟨_, _, _, rfl, went, goesOn⟩
    · cases (Attempt.ends_ofExcept_iff.1 failed).2
    · obtain ⟨rfl, same⟩ := Attempt.ends_ofExcept_iff.1 went
      obtain rfl := Except.ok.inj same
      obtain ⟨whole, listing⟩ := listing_values found
      rw [whole] at goesOn
      cases outcome with
      | all lists clear => exact .inr ⟨clear, _, listing, mirroring_of_ends goesOn⟩

/-- Whatever the cluster answers, the copies of a test's secrets come to one of these ends. If two
secrets are in conflict, nothing is asked of the cluster, and the first one that is in conflict with
an earlier one is named, together with the first one that has the same copy. Otherwise each secret
is read once, in the order of the names of the copies, and only when all of them are read the copies
are made, in the same order. -/
theorem mirrorCredentials_run {σ : Type} (plan : Plan) (handler : Handler Cluster σ) (state : σ) :
    let asked := credentials plan.config
    let history := (mirrorCredentials plan).run.trace handler state
    let result := ((mirrorCredentials plan).run.run handler state).1
    ((∃ name first second, result = .error (.mirrorNameCollision name first second)) ↔
        Conflicting asked) ∧
      ((∃ early credential late first, asked = early ++ credential :: late ∧
          ¬Conflicting early ∧ first? early credential.mirrorName = some first ∧
          first.Conflicts credential ∧ history = [] ∧
          result = .error
            (.mirrorNameCollision credential.mirrorName first.source credential.source)) ∨
        ¬Conflicting asked ∧ ∃ donors, Listing asked donors ∧
          Mirroring plan.ns donors history result) := by
  intro asked history result
  have outcome := ends_mirrorCredentials (ends_run handler (mirrorCredentials plan).run state)
  refine ⟨⟨?_, fun conflicting => ?_⟩, outcome⟩
  · rintro ⟨name, first, second, wrong⟩
    rcases outcome with ⟨early, credential, late, first, cut, _, found, conflict, _⟩ |
      ⟨_, _, _, mirroring⟩
    · refine ⟨first, ?_, credential, ?_, conflict⟩ <;> simp only [asked, cut]
      · exact List.mem_append_left _ (mem_of_first? found).1
      · exact List.mem_append_right _ List.mem_cons_self
    · exact absurd wrong (mirroring.result_ne _ _ _)
  · rcases outcome with ⟨_, _, _, _, _, _, _, _, _, wrong⟩ | ⟨clear, _⟩
    · exact ⟨_, _, _, wrong⟩
    · exact absurd conflicting clear

end Provision

end StagedTest
