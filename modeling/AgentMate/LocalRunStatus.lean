import AgentMate.LocalRunStore
import Mathlib.Logic.Relation

/-! # The status of a local Run -/

namespace AgentMate.LocalRuns

open Table Interleaving TransitionSystem Relation List Option

variable {store next : RunStore} {timeJson : Time → Json}

def RunRow.Follows (old run : RunRow) : Prop :=
  run.status = old.status ∨ run.status ∈ runTransitions old.status

theorem follows_refl (run : RunRow) : run.Follows run := Or.inl rfl

def RunStore.AcceptedWhole (store : RunStore) : Prop :=
  ∀ run ∈ store.runs, run.status = .accepted →
    ∀ artifact ∈ store.artifacts, artifact.runId = run.id → artifact.acceptanceStatus = .accepted

structure RunStore.Sound (store : RunStore) : Prop where
  unique : UniqueKey RunRow.id store.runs
  issued : ∀ run ∈ store.runs, run.id ∈ store.issued
  whole : store.AcceptedWhole

structure StatusStep (store next : RunStore) : Prop where
  runs : ∀ run ∈ next.runs,
    (∃ old ∈ store.runs, old.id = run.id ∧ old.Follows run) ∨ run.id ∉ store.issued
  issued : ∀ runId ∈ store.issued, runId ∈ next.issued
  sound : next.Sound

theorem rewritten_step (sound : store.Sound)
    (rewritten : Rewritten RunRow.id RunRow.Follows store.runs next.runs)
    (issued : next.issued = store.issued) (whole : next.AcceptedWhole) :
    StatusStep store next := by
  constructor
  · intro run mem
    obtain ⟨old, oldMem, same, follows⟩ := rewritten.rows run mem
    exact Or.inl ⟨old, oldMem, same.symm, follows⟩
  · intro runId drawn
    rw [issued]
    exact drawn
  · constructor
    · exact rewritten_unique rewritten sound.unique
    · intro run mem
      obtain ⟨old, oldMem, same, -⟩ := rewritten.rows run mem
      rw [issued, same]
      exact sound.issued old oldMem
    · exact whole

theorem unchanged_step (sound : store.Sound) : StatusStep store store :=
  rewritten_step sound (rewritten_refl follows_refl store.runs) rfl sound.whole

theorem artifact_step (sound : store.Sound) (runs : next.runs = store.runs)
    (issued : next.issued = store.issued) (whole : next.AcceptedWhole) :
    StatusStep store next := by
  refine rewritten_step sound ?_ issued whole
  rw [runs]
  exact rewritten_refl follows_refl store.runs

variable {now : Time} {status : RunStatus} {request : NewArtifact} {ticket : RunTicket}

theorem create_run_step {request : NewRun} (sound : store.Sound)
    (created : createRun store request now = some next) : StatusStep store next := by
  obtain ⟨⟨fresh, -⟩, same⟩ := ite_none_right_eq_some.mp created
  cases same
  have initial : request.initial ≠ .accepted := by
    rw [NewRun.initial]
    split
    · decide
    · split <;> decide
  constructor
  · intro run mem
    rcases mem_append.mp mem with old | new
    · exact Or.inl ⟨run, old, rfl, follows_refl run⟩
    · rw [mem_singleton.mp new]
      exact Or.inr fresh
  · intro runId drawn
    exact mem_cons_of_mem _ drawn
  · constructor
    · apply unique_key_append sound.unique
      intro other mem same
      have drawn := sound.issued other mem
      rw [same] at drawn
      exact fresh drawn
    · intro run mem
      rcases mem_append.mp mem with old | new
      · exact mem_cons_of_mem _ (sound.issued run old)
      · rw [mem_singleton.mp new]
        exact mem_cons_self
    · intro run mem accepted
      rcases mem_append.mp mem with old | new
      · exact sound.whole run old accepted
      · rw [mem_singleton.mp new] at accepted
        exact absurd accepted initial

theorem delete_session_step (sound : store.Sound) (sessionId : String) :
    StatusStep store (deleteSession store sessionId) := by
  constructor
  · intro run mem
    exact Or.inl ⟨run, mem_of_mem_filter mem, rfl, follows_refl run⟩
  · exact fun _ drawn => drawn
  · constructor
    · exact sound.unique.sublist (filter_sublist.map RunRow.id)
    · intro run mem
      exact sound.issued run (mem_of_mem_filter mem)
    · intro run mem accepted artifact listed
      exact sound.whole run (mem_of_mem_filter mem) accepted artifact (mem_of_mem_filter listed)

theorem active_may_pause
    (active : status = .planning ∨ status = .waitingApproval ∨ status = .running) :
    .paused ∈ runTransitions status := by
  rcases active with rfl | rfl | rfl <;> decide

theorem recover_runs_step (sound : store.Sound) (now : Time) :
    StatusStep store (recoverStaleRuns store timeJson now) := by
  apply rewritten_step sound
  · refine rewritten_update (fun _ => rfl) follows_refl ?_
    rintro run - ⟨active, -⟩
    exact Or.inr (active_may_pause active)
  · rfl
  · intro run mem accepted
    obtain ⟨old, oldMem, rfl⟩ := mem_update_where.mp mem
    split at accepted
    · cases accepted
    · next other =>
      rw [if_neg other]
      exact sound.whole old oldMem accepted

def RunStore.Open (store : RunStore) (runId : String) : Prop :=
  ∀ run ∈ store.runs, run.id = runId → run.status ≠ .accepted

/-- A status is written over the one that was read, and an acceptance over accepted
artifacts. -/
structure WritesOver (store : RunStore) (seen : RunRow) (call : StatusCall) : Prop where
  status : ∀ run ∈ store.runs, run.id = call.runId → run.status = seen.status
  artifacts : call.status = .accepted → ∀ artifact ∈ store.artifacts,
    artifact.runId = call.runId → artifact.acceptanceStatus = .accepted

theorem write_status_step {seen : RunRow} {call : StatusCall} (sound : store.Sound)
    (allowed : transitionAllowed seen.status call.status = true)
    (settled : WritesOver store seen call) (now : Time) :
    StatusStep store (writeStatus store seen call now) := by
  rw [transitionAllowed, Bool.or_eq_true, decide_eq_true_eq, decide_eq_true_eq] at allowed
  apply rewritten_step sound
  · refine rewritten_update (fun _ => rfl) follows_refl ?_
    intro run mem chosen
    rw [RunRow.Follows, settled.status run mem chosen]
    exact allowed
  · rfl
  · intro run mem accepted artifact listed own
    obtain ⟨old, oldMem, rfl⟩ := mem_update_where.mp mem
    by_cases chosen : old.id = call.runId
    · rw [if_pos chosen] at accepted own
      exact settled.artifacts accepted artifact listed (own.trans chosen)
    · rw [if_neg chosen] at accepted own
      exact sound.whole old oldMem accepted artifact listed own

theorem write_review_step {artifactId actorId : String} {status : AcceptanceStatus}
    (sound : store.Sound) (settled : status ≠ .accepted → ∀ artifact ∈ store.artifacts,
      artifact.id = artifactId → store.Open artifact.runId) (now : Time) :
    StatusStep store (writeReview store artifactId status actorId now) := by
  apply artifact_step sound
  · rfl
  · rfl
  · intro run mem accepted artifact listed own
    obtain ⟨old, oldMem, rfl⟩ := mem_update_where.mp listed
    by_cases chosen : old.id = artifactId
    · rw [if_pos chosen] at own ⊢
      by_cases good : status = .accepted
      · exact good
      · exact absurd accepted (settled good old oldMem chosen run mem own.symm)
    · rw [if_neg chosen] at own ⊢
      exact sound.whole run mem accepted old oldMem own

theorem accept_delivery_step {call : DeliveryCall} (sound : store.Sound)
    (done : acceptDelivery store call now = some next) : StatusStep store next := by
  obtain ⟨item, -, rest⟩ := bind_eq_some_iff.mp done
  obtain ⟨run, found, written⟩ := bind_eq_some_iff.mp rest
  obtain ⟨⟨-, -, -, status, -, -⟩, same⟩ := ite_none_right_eq_some.mp written
  cases same
  have mem : run ∈ store.runs := lookup_mem found
  apply rewritten_step sound
  · refine rewritten_update (fun _ => rfl) follows_refl ?_
    rintro other otherMem ⟨completed, same⟩
    have one := unique_key_eq sound.unique otherMem mem same
    have listed : RunStatus.accepted ∈ runTransitions .completed := by decide
    right
    rw [one, completed]
    exact listed
  · rfl
  · intro other listed accepted artifact kept own
    obtain ⟨old, oldMem, rfl⟩ := mem_update_where.mp listed
    obtain ⟨before, beforeMem, rfl⟩ := mem_update_where.mp kept
    have same : (if run.status = .completed ∧ old.id = run.id then
        ({ old with
          status := .accepted, endedAt := old.endedAt.orElse fun _ => some now
          updatedAt := now } : RunRow) else old).id = old.id := by
      split <;> rfl
    rw [same] at own
    by_cases chosen : before.runId = run.id
    · rw [if_pos chosen]
    · rw [if_neg chosen] at own ⊢
      have unchosen : old.id ≠ run.id := own ▸ chosen
      rw [if_neg fun both => unchosen both.2] at accepted
      exact sound.whole old oldMem accepted before beforeMem own

theorem upsert_runs (store : RunStore) (request : NewArtifact) (artifactId : String) (now : Time) :
    (upsertArtifact store request artifactId now).runs = store.runs ∧
      (upsertArtifact store request artifactId now).issued = store.issued := by
  rw [upsertArtifact]
  split
  · exact ⟨rfl, rfl⟩
  dsimp only
  split <;> exact ⟨rfl, rfl⟩

theorem upsert_others {artifactId : String} {artifact : ArtifactRow}
    (listed : artifact ∈ (upsertArtifact store request artifactId now).artifacts)
    (other : artifact.runId ≠ request.runId) : artifact ∈ store.artifacts := by
  have demoted : ∀ primary : Bool, artifact ∈ updateWhere
      (fun artifact : ArtifactRow => primary ∧ artifact.runId = request.runId)
      (fun artifact => { artifact with isPrimary := false }) store.artifacts →
        artifact ∈ store.artifacts := by
    intro primary mem
    obtain ⟨old, oldMem, rfl⟩ := mem_update_where.mp mem
    split at other
    · next chosen => exact absurd chosen.2 other
    · next chosen =>
      rw [if_neg chosen]
      exact oldMem
  rw [upsertArtifact] at listed
  split at listed
  · exact listed
  dsimp only at listed
  split at listed
  · obtain ⟨old, oldMem, rfl⟩ := mem_update_where.mp listed
    split at other
    · next chosen => exact absurd chosen.1 other
    · next chosen =>
      rw [if_neg chosen] at demoted ⊢
      exact demoted _ oldMem
  · rcases mem_append.mp listed with old | new
    · exact demoted _ old
    · rw [mem_singleton.mp new] at other
      exact absurd rfl other

theorem upsert_step (sound : store.Sound) (settled : store.Open request.runId) (artifactId : String)
    (now : Time) :
    StatusStep store (upsertArtifact store request artifactId now) := by
  obtain ⟨runs, issued⟩ := upsert_runs store request artifactId now
  apply artifact_step sound runs issued
  intro run mem accepted artifact listed own
  rw [runs] at mem
  have other : artifact.runId ≠ request.runId :=
    fun same => settled run mem (own.symm.trans same) accepted
  exact sound.whole run mem accepted artifact (upsert_others listed other) own

def RunTicket.Checked (_ : RunStore) : RunTicket → Prop
  | .write seen call => transitionAllowed seen.status call.status = true
  | _ => True

def RunTicket.Settled (store : RunStore) : RunTicket → Prop
  | .write seen call => WritesOver store seen call
  | .upsert request => store.Open request.runId
  | _ => True

def RunRequest.Settled (store : RunStore) : RunRequest → Prop
  | .reviewArtifact artifactId status _ => status ≠ .accepted →
      ∀ artifact ∈ store.artifacts, artifact.id = artifactId → store.Open artifact.runId
  | _ => True

def Settles (system : System RunStore RunTicket) : Event TimedRequest RunInput → Prop
  | .call timed => timed.request.Settled system.data
  | .resume index _ => ∀ ticket ∈ system.pending[index]?, ticket.Settled system.data
  | .crash _ => True

theorem read_status_checked {call : StatusCall} (read : readStatus store call = some ticket) :
    ticket.Checked store := by
  obtain ⟨run, -, checked⟩ := bind_eq_some_iff.mp read
  obtain ⟨allowed, same⟩ := ite_none_right_eq_some.mp checked
  cases same
  exact allowed

variable {system after : System RunStore RunTicket} {later : Option RunTicket}

theorem call_step {timed : TimedRequest} (sound : system.data.Sound)
    (settled : Settles system (.call timed))
    (called : callRuns timeJson system.data timed = some (next, later)) :
    StatusStep system.data next ∧ ∀ own ∈ later, own.Checked next := by
  obtain ⟨now, request⟩ := timed
  cases request with
  | createSession id kind =>
    cases called
    exact ⟨rewritten_step sound (rewritten_refl follows_refl _) rfl sound.whole, by simp⟩
  | createRun request =>
    obtain ⟨created, inserted, same⟩ := map_eq_some_iff.mp called
    cases same
    exact ⟨create_run_step sound inserted, by simp⟩
  | deleteSession sessionId =>
    cases called
    exact ⟨delete_session_step sound sessionId, by simp⟩
  | setStatus expected call direct =>
    cases expected with
    | none =>
      cases called
      exact ⟨unchanged_step sound, fun own read => read_status_checked read⟩
    | some expected =>
      simp only [callRuns] at called
      split at called
      · cases called
        refine ⟨unchanged_step sound, fun own asked => ?_⟩
        obtain ⟨-, same⟩ := ite_none_right_eq_some.mp asked
        cases same
        trivial
      · cases called
        exact ⟨unchanged_step sound, by simp⟩
  | recoverStaleRuns =>
    cases called
    exact ⟨recover_runs_step sound now, by simp⟩
  | upsertArtifact request =>
    cases called
    refine ⟨unchanged_step sound, fun own asked => ?_⟩
    obtain ⟨-, same⟩ := ite_none_right_eq_some.mp asked
    cases same
    trivial
  | reviewArtifact artifactId status actorId =>
    cases called
    refine ⟨write_review_step sound settled now, ?_⟩
    rintro own ⟨⟩
    trivial
  | acceptDelivery call =>
    obtain ⟨delivered, written, same⟩ := map_eq_some_iff.mp called
    cases same
    exact ⟨accept_delivery_step sound written, by simp⟩

theorem resume_step {index : Nat} {input : RunInput} (sound : system.data.Sound)
    (checked : ticket.Checked system.data) (settled : Settles system (.resume index input))
    (found : system.pending[index]? = some ticket)
    (resumed : resumeRuns system.data ticket input = some (next, later)) :
    StatusStep system.data next ∧ ∀ own ∈ later, own.Checked next := by
  have guarded := settled ticket found
  cases ticket with
  | read call =>
    cases resumed
    exact ⟨unchanged_step sound, fun own read => read_status_checked read⟩
  | write seen call =>
    cases resumed
    exact ⟨write_status_step sound checked guarded input.now, by simp⟩
  | upsert request =>
    cases resumed
    exact ⟨upsert_step sound guarded input.artifactId input.now, by simp⟩
  | reviewed artifactId status =>
    cases resumed
    refine ⟨unchanged_step sound, fun own asked => ?_⟩
    split at asked
    · obtain ⟨-, same⟩ := ite_none_right_eq_some.mp asked
      cases same
      trivial
    · cases asked
  | counting runId =>
    cases resumed
    refine ⟨unchanged_step sound, ?_⟩
    rintro own ⟨⟩
    trivial
  | judging runId remaining =>
    cases resumed
    refine ⟨unchanged_step sound, fun own asked => ?_⟩
    split at asked
    · obtain ⟨-, same⟩ := ite_none_right_eq_some.mp asked
      cases same
      trivial
    · cases asked

theorem routine_keeps (timeJson : Time → Json) :
    Keeps (runRoutine timeJson) Settles RunStore.Sound (fun store ticket => ticket.Checked store) := by
  constructor
  · intro system request data ticket sound settled called
    obtain ⟨step, own⟩ := call_step sound settled called
    exact ⟨step.sound, own, fun _ _ checked => checked⟩
  · intro system index input ticket data later sound checked settled found resumed
    obtain ⟨step, own⟩ := resume_step sound checked settled found resumed
    exact ⟨step.sound, own, fun _ _ checked => checked⟩

theorem move_status_step {event : Event TimedRequest RunInput}
    (holds : Holds RunStore.Sound (fun store ticket => ticket.Checked store) system)
    (settled : Settles system event) (move : Move (runRoutine timeJson) system event after) :
    StatusStep system.data after.data := by
  cases move with
  | call request data ticket taken => exact (call_step holds.data settled taken).1
  | resume index input ticket data later found taken =>
    have checked := holds.pending ticket (mem_of_getElem? found)
    exact (resume_step holds.data checked settled found taken).1
  | crash index => exact unchanged_step holds.data

def noRuns (store : RunStore) : Prop := store.runs = [] ∧ store.artifacts = []

def runMachine (timeJson : Time → Json) :
    Machine (System RunStore RunTicket) (Event TimedRequest RunInput) :=
  (runRoutine timeJson).machine noRuns

theorem no_runs_sound {store : RunStore} (initial : noRuns store) : store.Sound := by
  obtain ⟨runs, artifacts⟩ := initial
  constructor
  · simp [UniqueKey, runs]
  · simp [runs]
  · simp [RunStore.AcceptedWhole, runs]

def Onwards (old new : RunStatus) : Prop :=
  ReflTransGen (fun before later => later ∈ runTransitions before) old new

def CameFrom (runId : String) (status : RunStatus) (store : RunStore) : Prop :=
  runId ∈ store.issued ∧ ∀ run ∈ store.runs, run.id = runId → Onwards status run.status

theorem came_from_step {runId : String} (step : StatusStep store next)
    (from_ : CameFrom runId status store) : CameFrom runId status next := by
  refine ⟨step.issued runId from_.1, ?_⟩
  rintro run mem rfl
  rcases step.runs run mem with ⟨old, oldMem, same, follows⟩ | fresh
  · have before := from_.2 old oldMem same
    rcases follows with kept | moved
    · rw [kept]
      exact before
    · exact before.tail moved
  · exact absurd from_.1 fresh

theorem onwards_end {old new : RunStatus} (ended : runTransitions old = [])
    (onwards : Onwards old new) : new = old := by
  rcases onwards.cases_head with same | ⟨middle, moved, -⟩
  · exact same.symm
  · rw [ended] at moved
    cases moved

theorem onwards_completed {new : RunStatus} (onwards : Onwards .completed new) :
    new = .completed ∨ new = .accepted := by
  rcases onwards.cases_head with same | ⟨middle, moved, later⟩
  · exact Or.inl same.symm
  · rw [mem_singleton.mp moved] at later
    exact Or.inr (onwards_end rfl later)

/-- Every change of a status is a listed transition, so that a Run stays failed, cancelled or
accepted and a completed one is at most accepted later; the artifacts of an accepted Run are
accepted. -/
theorem run_statuses_follow_transitions {timeJson : Time → Json}
    {system : System RunStore RunTicket}
    (reachable : (runMachine timeJson).Reachable Settles system) :
    (∀ run ∈ system.data.runs, run.status = .accepted → ∀ artifact ∈ system.data.artifacts,
        artifact.runId = run.id → artifact.acceptanceStatus = .accepted) ∧
      (∀ event after, Settles system event → (runMachine timeJson).Step system event after →
        ∀ old ∈ system.data.runs, ∀ run ∈ after.data.runs, run.id = old.id →
          run.status = old.status ∨ run.status ∈ runTransitions old.status) ∧
      ∀ finish, (runMachine timeJson).Path Settles system finish →
        ∀ old ∈ system.data.runs, ∀ run ∈ finish.data.runs, run.id = old.id →
          (old.status ∈ [.failed, .cancelled, .accepted] → run.status = old.status) ∧
            (old.status = .completed → run.status = .completed ∨ run.status = .accepted) := by
  have holds : Holds RunStore.Sound (fun store ticket => ticket.Checked store) system :=
    reachable_holds (routine_keeps timeJson) (fun _ => no_runs_sound) reachable
  refine ⟨holds.data.whole, ?_, ?_⟩
  · intro event after settled step old oldMem run mem same
    have moved := move_status_step holds settled (next_move step)
    rcases moved.runs run mem with ⟨before, beforeMem, its, follows⟩ | fresh
    · have one := unique_key_eq holds.data.unique beforeMem oldMem (its.trans same)
      rw [← one]
      exact follows
    · rw [same] at fresh
      exact absurd (holds.data.issued old oldMem) fresh
  · intro finish path old oldMem run mem same
    have start : CameFrom old.id old.status system.data := by
      refine ⟨holds.data.issued old oldMem, fun other otherMem its => ?_⟩
      rw [unique_key_eq holds.data.unique otherMem oldMem its]
      exact .refl
    have onwards := (path_keeps (CameFrom old.id old.status) (routine_keeps timeJson)
      (fun state event next held settled move => came_from_step
        (move_status_step held settled move)) holds start path).2.2 run mem same
    constructor
    · intro final
      refine onwards_end ?_ onwards
      simp only [mem_cons, not_mem_nil, or_false] at final
      rcases final with failed | cancelled | accepted
      · rw [failed, runTransitions]
      · rw [cancelled, runTransitions]
      · rw [accepted, runTransitions]
    · intro completed
      rw [completed] at onwards
      exact onwards_completed onwards

section

variable (store : RunStore)

instance (seen : RunRow) (call : StatusCall) : Decidable (WritesOver store seen call) :=
  decidable_of_iff ((∀ run ∈ store.runs, run.id = call.runId → run.status = seen.status) ∧
      (call.status = .accepted → ∀ artifact ∈ store.artifacts, artifact.runId = call.runId →
        artifact.acceptanceStatus = .accepted))
    ⟨fun both => ⟨both.1, both.2⟩, fun writes => ⟨writes.status, writes.artifacts⟩⟩

instance (runId : String) : Decidable (store.Open runId) := by
  unfold RunStore.Open
  infer_instance

instance (ticket : RunTicket) : Decidable (ticket.Settled store) := by
  cases ticket <;> unfold RunTicket.Settled <;> infer_instance

instance (request : RunRequest) : Decidable (request.Settled store) := by
  cases request <;> unfold RunRequest.Settled <;> infer_instance

instance (system : System RunStore RunTicket) (event : Event TimedRequest RunInput) :
    Decidable (Settles system event) := by
  cases event <;> unfold Settles <;> infer_instance

end

def noStore : RunStore := ⟨[], [], [], [], []⟩

theorem no_store_initial : noRuns noStore := ⟨rfl, rfl⟩

def sentAt (now : Time) (request : RunRequest) : Event TimedRequest RunInput := .call ⟨now, request⟩

def goesOn (now : Time) : Event TimedRequest RunInput := .resume 0 ⟨now, "artifact"⟩

theorem completed_direct : RunStatus.completed ≠ .accepted := by decide

def askFor (status : RunStatus) : StatusCall := ⟨"run", status, none, none, none⟩

def startedRun : List (Event TimedRequest RunInput) :=
  [sentAt 0 (.createSession "session" "chat"),
    sentAt 1 (.createRun ⟨"run", "session", none, none, .chat, false⟩),
    sentAt 2 (.upsertArtifact ⟨"run", "report.md", "write_file", none, false, none⟩), goesOn 2]

def acceptedRun : List (Event TimedRequest RunInput) :=
  startedRun ++ [sentAt 3 (.setStatus none (askFor .completed) completed_direct), goesOn 3,
    sentAt 4 (.reviewArtifact "artifact" .accepted "user"), goesOn 4, goesOn 4, goesOn 4, goesOn 4,
    goesOn 4]

def statuses (system : System RunStore RunTicket) : List (RunStatus × List AcceptanceStatus) :=
  system.data.runs.map fun run =>
    (run.status, (system.data.artifactsOf run.id).map ArtifactRow.acceptanceStatus)

theorem accepted_run_stays : ∃ system,
    (runRoutine fun _ => .null).run (fun system event => decide (Settles system event)) noStore
        acceptedRun = some system ∧
      (∃ run ∈ system.data.runs, run.status = .accepted) ∧
      ∀ finish, (runMachine fun _ => .null).Path Settles system finish →
        ∀ run ∈ finish.data.runs, run.id = "run" → run.status = .accepted := by
  have ran : ((runRoutine fun _ => .null).run (fun system event => decide (Settles system event))
      noStore acceptedRun).map (fun system => system.data.runs.any fun run =>
        run.id = "run" && run.status = .accepted) = some true := by decide +kernel
  obtain ⟨system, done, accepted⟩ := map_eq_some_iff.mp ran
  obtain ⟨run, mem, found⟩ := List.any_eq_true.mp accepted
  rw [Bool.and_eq_true, decide_eq_true_eq, decide_eq_true_eq] at found
  have reachable := reachable_weaken (fun _ _ settled => of_decide_eq_true settled)
    (run_reachable (fun system event => decide (Settles system event)) no_store_initial done)
  refine ⟨system, done, ⟨run, mem, found.2⟩, fun finish path other listed same => ?_⟩
  have stays := (run_statuses_follow_transitions reachable).2.2 finish path run mem other
    listed (same.trans found.1.symm)
  rw [stays.1 (by simp [found.2]), found.2]

def crossingCalls : List (Event TimedRequest RunInput) :=
  startedRun ++ [sentAt 3 (.setStatus none (askFor .failed) failed_direct),
    sentAt 3 (.setStatus none (askFor .completed) completed_direct), goesOn 4]

def lateReview : List (Event TimedRequest RunInput) :=
  acceptedRun ++ [sentAt 5 (.reviewArtifact "artifact" .rejected "user")]

theorem crossing_calls_and_late_review :
    (((runRoutine fun _ => .null).run (fun _ _ => true) noStore crossingCalls).map statuses =
        some [(.failed, [.pending])] ∧
      ((runRoutine fun _ => .null).run (fun _ _ => true) noStore
          (crossingCalls ++ [goesOn 5])).map statuses = some [(.completed, [.pending])] ∧
      RunStatus.completed ∉ runTransitions .failed) ∧
    ((runRoutine fun _ => .null).run (fun _ _ => true) noStore lateReview).map statuses =
      some [(.accepted, [.rejected])] := by
  decide +kernel

end AgentMate.LocalRuns
