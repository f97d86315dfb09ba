import AgentMate.AutomationRows

/-! # Attempts of fires -/

namespace AgentMate

open Interleaving List Option

section

variable {host : AutomationHost} {store next : AutomationStore} {automation : AutomationRow}
  {fire : FireRow} {fireKey : String} {plannedAt : Time} {payload : Option Json}
  {draw : FireDraw} {result : EnqueueResult}

variable {automationId : String}

theorem fire_by_key_ok (found : store.fireByKey? automationId fireKey = some fire) :
    fire ∈ store.fires ∧ fire.automationId = automationId ∧ fire.fireKey = fireKey := by
  have matched := find?_some found
  rw [Bool.and_eq_true, decide_eq_true_eq, decide_eq_true_eq] at matched
  exact ⟨mem_of_find?_eq_some found, matched⟩

theorem fire_by_key_none (absent : store.fireByKey? automationId fireKey = none) :
    ∀ other ∈ store.fires, other.automationId = automationId → other.fireKey ≠ fireKey := by
  intro other mem same key
  have unmatched := find?_eq_none.mp absent other mem
  simp [same, key] at unmatched

theorem active_fire_ok (found : store.activeFire? automationId = some fire) :
    fire ∈ store.fires ∧ fire.automationId = automationId ∧ fire.status.isActive = true := by
  have listed := (mem_insertionSort _).mp (mem_of_mem_head? found)
  simpa using listed

theorem active_fire_none (absent : store.activeFire? automationId = none) :
    ∀ other ∈ store.fires, other.automationId = automationId → other.status.isActive = false := by
  intro other mem same
  rw [AutomationStore.activeFire?, head?_eq_none_iff] at absent
  cases active : other.status.isActive with
  | false => rfl
  | true =>
    have chosen : (other.automationId = automationId && other.status.isActive) = true := by
      simp [same, active]
    have kept : other ∈ store.fires.filter fun fire =>
        fire.automationId = automationId && fire.status.isActive :=
      mem_filter.mpr ⟨mem, chosen⟩
    have listed := (mem_insertionSort (fun left right : FireRow =>
      right.createdAt < left.createdAt ∨
        (right.createdAt = left.createdAt ∧ right.id ≤ left.id))).mpr kept
    rw [absent] at listed
    cases listed

theorem insert_fire_ok (done : store.insertFire fire = .ok next) :
    next = { store with fires := store.fires ++ [fire] } ∧
      (∀ other ∈ store.fires, other.id ≠ fire.id) ∧
      (∀ other ∈ store.fires, other.automationId = fire.automationId →
        other.fireKey ≠ fire.fireKey) ∧
      ∃ row ∈ store.automations, row.id = fire.automationId := by
  rw [AutomationStore.insertFire] at done
  split at done
  · cases done
  · next fresh =>
    split at done
    · cases done
    · next free =>
      split at done
      · cases done
      · next stored =>
        cases done
        refine ⟨rfl, ?_, ?_, ?_⟩
        · intro other mem same
          exact fresh (List.any_eq_true.mpr ⟨other, mem, decide_eq_true same⟩)
        · exact fire_by_key_none (not_isSome_iff_eq_none.mp free)
        · simpa using stored

structure NewAttempt (automation : AutomationRow) (fire : FireRow) (run : BusinessRun) : Prop where
  given : run.id ≠ ""
  status : run.status = .queued
  owner : run.ownerId = automation.ownerId
  key : run.clientRequestId = attemptKey fire.id (fire.attempt + 1)
  fire : run.requestSnapshot.get? "automation_fire_id" = some (.str fire.id)
  automation : run.requestSnapshot.get? "automation_id" = some (.str automation.id)

/-- What starting an attempt leaves. The Run is a new one unless its key was taken. -/
structure Started (store : AutomationStore) (automation : AutomationRow) (fire : FireRow)
    (next : AutomationStore) (result : EnqueueResult) : Prop where
  budget : fire.attempt + 1 ≤ if fire.maxAttempts = 0 then 1 else fire.maxAttempts
  business : BusinessInv store.business → BusinessInv next.business
  automations : AutomationsKept store.automations next.automations
  ledger : next.ledger = store.ledger
  skipped : result.skipped = false
  fires : ∃ sessionId runId now, result.fire = fire.started sessionId runId now ∧
      next.fires = Table.updateWhere (fun row => row.id = fire.id)
        (FireRow.started sessionId runId now) store.fires ∧
      (store.business.runByKey? automation.ownerId (attemptKey fire.id (fire.attempt + 1)) = none →
        ∃ run, runColumns.insert store.business.runs run = .ok next.business.runs ∧
          NewAttempt automation fire run ∧ run.id = runId)

theorem start_fire_ok
    (done : store.startFire host automation fire plannedAt payload draw = .ok (next, result)) :
    Started store automation fire next result := by
  rw [AutomationStore.startFire] at done
  by_cases spent : fire.attempt + 1 > if fire.maxAttempts = 0 then 1 else fire.maxAttempts
  · rw [if_pos spent] at done
    cases done
  · rw [if_neg spent] at done
    dsimp only at done
    split at done
    · cases done
    · next business turn created =>
      cases done
      constructor
      · exact Nat.le_of_not_lt spent
      · intro inv
        rcases create_turn_ok created with written | ⟨rfl, -⟩
        · exact written_inv inv written
        · exact inv
      · exact automations_updated _ fun _ => rfl
      · rfl
      · rfl
      · refine ⟨_, _, _, rfl, rfl, fun absent => ⟨turn.run, ?_⟩⟩
        have written : TurnWritten store.business (automation.turn host fire plannedAt
            (payloadObject (payload.getD fire.triggerPayload))) draw.turn business turn := by
          rcases create_turn_ok created with written | ⟨-, -, found, -⟩
          · exact written
          · exact absurd (absent.symm.trans found) nofun
        refine ⟨written.runs, ?_, rfl⟩
        rw [written.run]
        exact ⟨draw.runGiven, rfl, rfl, rfl, rfl, rfl⟩

inductive Enqueued (store : AutomationStore) (automation : AutomationRow) (fireKey : String) :
    AutomationStore → EnqueueResult → Prop
  | found (result : EnqueueResult) :
      store.fireByKey? automation.id fireKey = some result.fire → result.skipped = false →
      Enqueued store automation fireKey store result
  | skipped (result : EnqueueResult) : store.fireByKey? automation.id fireKey = none →
      store.activeFire? automation.id = some result.fire → result.skipped = true →
      Enqueued store automation fireKey store result
  | retried (fire : FireRow) (next : AutomationStore) (result : EnqueueResult) :
      store.fireByKey? automation.id fireKey = some fire →
      (fire.runId = "" ∨ fire.status = .retryWait) → Started store automation fire next result →
      Enqueued store automation fireKey next result
  | fired (fire : FireRow) (inserted next : AutomationStore) (result : EnqueueResult) :
      (automation.skips = true → store.activeFire? automation.id = none) →
      fire.automationId = automation.id → fire.ownerId = automation.ownerId →
      fire.fireKey = fireKey → fire.attempt = 0 → 1 ≤ fire.maxAttempts → fire.runId = "" →
      store.insertFire fire = .ok inserted → Started inserted automation fire next result →
      Enqueued store automation fireKey next result

theorem enqueue_ok (done : enqueueAutomation host store automation fireKey plannedAt payload draw =
      .ok (next, result)) : Enqueued store automation fireKey next result := by
  rw [enqueueAutomation] at done
  split at done
  · next fire found =>
    by_cases current : fire.runId ≠ "" ∧ fire.status ≠ .retryWait
    · rw [if_pos current] at done
      cases done
      exact .found _ found rfl
    · rw [if_neg current] at done
      refine .retried fire next result found ?_ (start_fire_ok done)
      tauto
  · next absent =>
    split at done
    · next active busy =>
      cases done
      refine .skipped _ absent ?_ rfl
      split at busy
      · exact busy
      · cases busy
    · next idle =>
      obtain ⟨newPayload, -, done⟩ := Rollback.bind_ok done
      obtain ⟨inserted, stored, done⟩ := Rollback.bind_ok done
      refine .fired (automation.newFire fireKey plannedAt newPayload draw) inserted next result
        ?_ rfl rfl rfl rfl (Nat.le_max_left _ _) rfl stored (start_fire_ok done)
      intro skips
      rw [if_pos skips] at idle
      exact idle

end

structure AutomationsFollow (rows next : List AutomationRow) : Prop where
  inv : AutomationsInv next
  stored : ∀ row ∈ rows, ∃ after ∈ next, after.id = row.id ∧ after.ownerId = row.ownerId

def SchedulesKept (rows next : List AutomationRow) : Prop :=
  ∀ row ∈ rows, ∃ after ∈ next, after.id = row.id ∧ after.nextRunAt = row.nextRunAt

/-- The transactions on Runs and the writes that ignore a fire that may happen, and whether
a schedule may be set. -/
structure FireRules where
  signals : List RunSignal → Prop
  ignored : String → Prop
  scheduled : Prop

inductive FireChange (host : AutomationHost) (rules : FireRules) (store : AutomationStore) :
    AutomationStore → Prop
  | rest (next : AutomationStore) : next.business = store.business → next.fires = store.fires →
      AutomationsFollow store.automations next.automations →
      (rules.scheduled ∨ SchedulesKept store.automations next.automations) →
      FireChange host rules store next
  | signals (runId : String) (signals : List RunSignal) (now : Time) : rules.signals signals →
      FireChange host rules store (store.signals host.toPyText runId signals now)
  | ignored (fireId : String) (now : Time) : rules.ignored fireId →
      FireChange host rules store (store.ignoreFire now fireId)
  | enqueued (automation : AutomationRow) (fireKey : String) (next : AutomationStore)
      (result : EnqueueResult) : store.Known automation →
      Enqueued store automation fireKey next result →
      FireChange host rules store next

def AutomationTicket.Known (store : AutomationStore) : AutomationTicket → Prop
  | .patch _ _ fields _ => ∀ policy ∈ fields.concurrencyPolicy, policy = "skip"
  | .runNow automation => store.Known automation
  | .scan _ due => ∀ automation ∈ due, store.Known automation
  | .advance _ automation _ due => store.Known automation ∧ ∀ other ∈ due, store.Known other
  | .retry _ automation _ _ => store.Known automation
  | .replay automation _ _ => store.Known automation
  | .register _ automation _ => store.Known automation
  | .registered _ automation _ _ => store.Known automation
  | .forward _ automation _ _ _ => store.Known automation
  | .enqueue _ automation _ _ _ => store.Known automation
  | .retries _ _ | .ignore _ | .replayOf _ _ | .verified _ _ _ | .settle _ _ _ _ => True

def AutomationTicket.schedules : AutomationTicket → Bool
  | .patch _ _ _ _ | .advance _ _ _ _ => true
  | _ => false

section

variable {host : AutomationHost} {rules : FireRules} {store next : AutomationStore}

theorem rewritten_follow (inv : AutomationsInv store.automations)
    (rewritten : AutomationsRewritten store.automations next.automations) :
    AutomationsFollow store.automations next.automations :=
  ⟨automations_rewritten_inv rewritten inv,
    fun row mem => stored_rewritten rewritten inv ⟨row, mem, rfl, rfl⟩⟩

theorem automations_follow (inv : AutomationsInv store.automations)
    (kept : AutomationsKept store.automations next.automations) :
    AutomationsFollow store.automations next.automations :=
  rewritten_follow inv (kept_rewritten kept)

theorem schedules_kept (inv : AutomationsInv store.automations)
    (kept : AutomationsKept store.automations next.automations) :
    SchedulesKept store.automations next.automations := by
  intro row mem
  obtain ⟨after, afterMem, same, stays⟩ := Table.rewritten_forward kept inv.ids mem
  exact ⟨after, afterMem, same, stays.schedule⟩

variable {automation row : AutomationRow} {fireKey : String} {result : EnqueueResult}
  {ticket : AutomationTicket} {deviceReady : Bool} {now : Time} {payload : Option Json}

theorem enqueued_automations (enqueued : Enqueued store automation fireKey next result) :
    AutomationsKept store.automations next.automations ∧ next.ledger = store.ledger := by
  cases enqueued with
  | found => exact ⟨automations_kept _, rfl⟩
  | skipped => exact ⟨automations_kept _, rfl⟩
  | retried fire _ _ _ _ started => exact ⟨started.automations, started.ledger⟩
  | fired fire inserted _ _ _ _ _ _ _ _ _ stored started =>
    obtain ⟨rfl, -⟩ := insert_fire_ok stored
    exact ⟨started.automations, started.ledger⟩

theorem change_automations (inv : AutomationsInv store.automations)
    (change : FireChange host rules store next) :
    AutomationsFollow store.automations next.automations := by
  cases change with
  | rest _ _ _ follow _ => exact follow
  | signals => exact automations_follow inv signals_follows.automations
  | ignored => exact automations_follow inv (automations_kept _)
  | enqueued _ _ _ _ _ enqueued => exact automations_follow inv (enqueued_automations enqueued).1

theorem known_follow (follow : AutomationsFollow store.automations next.automations)
    (known : store.Known automation) : next.Known automation := by
  obtain ⟨row, mem, same, owner⟩ := known.stored
  obtain ⟨after, afterMem, still, sameOwner⟩ := follow.stored row mem
  exact ⟨known.given, known.skips, after, afterMem, still.trans same, sameOwner.trans owner⟩

theorem ticket_known_follow (follow : AutomationsFollow store.automations next.automations)
    (known : ticket.Known store) : ticket.Known next := by
  cases ticket with
  | scan now due => exact fun automation mem => known_follow follow (known automation mem)
  | advance now automation skipped due =>
    exact ⟨known_follow follow known.1, fun other mem => known_follow follow (known.2 other mem)⟩
  | patch => exact known
  | runNow | retry | replay | register | registered | forward | enqueue =>
    exact known_follow follow known
  | retries | ignore | replayOf | verified | settle => trivial

theorem kept_change (inv : AutomationsInv store.automations)
    (business : next.business = store.business) (fires : next.fires = store.fires)
    (kept : AutomationsKept store.automations next.automations) :
    FireChange host rules store next :=
  .rest next business fires (automations_follow inv kept) (Or.inr (schedules_kept inv kept))

theorem unchanged (inv : AutomationsInv store.automations) : FireChange host rules store store :=
  kept_change inv rfl rfl (automations_kept _)

theorem valid_skips (valid : row.valid host deviceReady = true) :
    row.concurrencyPolicy = "skip" := by
  rw [AutomationRow.valid] at valid
  simp only [Bool.and_eq_true, decide_eq_true_eq] at valid
  exact valid.1.2

theorem schedule_ok {row scheduled : AutomationRow} (done : row.schedule host now = .ok scheduled) :
    scheduled.id = row.id ∧ scheduled.ownerId = row.ownerId ∧
      scheduled.concurrencyPolicy = row.concurrencyPolicy := by
  rw [AutomationRow.schedule] at done
  split at done
  · split at done
    · cases done
    · cases done
      exact ⟨rfl, rfl, rfl⟩
  · cases done
    exact ⟨rfl, rfl, rfl⟩

theorem create_automation_change (inv : AutomationsInv store.automations) (given : row.id ≠ "")
    (done : store.createAutomation host row deviceReady now = .ok next) :
    FireChange host rules store next := by
  rw [AutomationStore.createAutomation] at done
  split at done
  · cases done
  · next checked =>
    split at done
    · cases done
    · next scheduled schedules =>
      split at done
      · cases done
      · next fresh =>
        cases done
        obtain ⟨same, -, policy⟩ := schedule_ok schedules
        have valid : row.valid host deviceReady = true := by simpa using checked
        refine .rest _ rfl rfl ⟨⟨?_, ?_⟩, ?_⟩ (Or.inr ?_)
        · apply Table.unique_key_append inv.ids
          intro other mem equal
          exact fresh (List.any_eq_true.mpr ⟨other, mem, decide_eq_true (Eq.trans equal same)⟩)
        · intro other mem
          rcases mem_append.mp mem with old | new
          · exact inv.given other old
          · rw [mem_singleton.mp new, AutomationRow.skips, policy, valid_skips valid]
            exact ⟨fun empty => given (same.symm.trans empty), by decide⟩
        · exact fun other mem => ⟨other, mem_append_left _ mem, rfl, rfl⟩
        · exact fun other mem => ⟨other, mem_append_left _ mem, rfl, rfl⟩

theorem merge_patch_policy {automationId : String} {patch : AutomationPatch}
    {following : Option (Option Time)}
    (done : store.mergePatch host automationId patch deviceReady now = .ok following) :
    ∀ policy ∈ patch.concurrencyPolicy, policy = "skip" := by
  rw [AutomationStore.mergePatch] at done
  split at done
  · cases done
  · next item _ =>
    split at done
    · cases done
    · next checked =>
      have valid : (item.patch patch).valid host deviceReady = true := by simpa using checked
      intro policy named
      have skip := valid_skips valid
      rw [AutomationRow.patch, show patch.concurrencyPolicy = some policy from named] at skip
      exact skip

theorem call_change {request : AutomationRequest} {ticket : Option AutomationTicket}
    (inv : AutomationsInv store.automations)
    (signalsOk : ∀ runId signals now, request = .signals runId signals now → rules.signals signals)
    (done : callAutomation host store request = some (next, ticket)) :
    FireChange host rules store next ∧ ∀ own ∈ ticket, own.Known next := by
  have nothing : ∀ {known : AutomationTicket → Prop}, ∀ own ∈ (none : Option AutomationTicket),
      known own := fun _ mem => absurd mem (not_mem_none _)
  cases request with
  | createAutomation automationId ownerId fields deviceReady now given =>
    rw [callAutomation, finishedWith] at done
    cases created : store.createAutomation host
        ((newAutomation automationId ownerId now).patch fields) deviceReady now with
    | error error =>
      rw [created] at done
      cases done
      exact ⟨unchanged inv, nothing⟩
    | ok after =>
      rw [created] at done
      cases done
      exact ⟨create_automation_change inv given created, nothing⟩
  | updateAutomation automationId expectedVersion patch deviceReady now =>
    rw [callAutomation] at done
    split at done
    · cases done
      exact ⟨unchanged inv, nothing⟩
    · next merged =>
      cases done
      refine ⟨unchanged inv, fun own mem => ?_⟩
      cases mem
      exact merge_patch_policy merged
  | deleteAutomation automationId expectedVersion now =>
    cases done
    exact ⟨kept_change inv rfl rfl (automations_updated _ fun _ => rfl), nothing⟩
  | runNow automationId accountId allowed =>
    cases done
    refine ⟨unchanged inv, fun own mem => ?_⟩
    obtain ⟨automation, read, rfl⟩ := map_eq_some_iff.mp mem
    exact read_automation_known inv (filter_eq_some_iff.mp read).1
  | scan now =>
    cases done
    refine ⟨unchanged inv, fun own mem => ?_⟩
    cases mem
    intro automation due
    have listed := (mem_insertionSort _).mp (mem_of_mem_take due)
    have stored := (mem_filter.mp listed).1
    exact ⟨(inv.given automation stored).1, (inv.given automation stored).2, automation, stored,
      rfl, rfl⟩
  | signals runId signals now =>
    cases done
    exact ⟨.signals runId signals now (signalsOk runId signals now rfl), nothing⟩
  | ignore fireId accountId =>
    cases done
    refine ⟨unchanged inv, fun own mem => ?_⟩
    obtain ⟨fire, read, rfl⟩ := map_eq_some_iff.mp mem
    trivial
  | replay fireId accountId replayKey =>
    cases done
    refine ⟨unchanged inv, fun own mem => ?_⟩
    obtain ⟨fire, read, rfl⟩ := map_eq_some_iff.mp mem
    trivial
  | createWebhook token automationId ownerId secret now =>
    cases done
    refine ⟨?_, nothing⟩
    rw [AutomationStore.createWebhook]
    split
    · exact unchanged inv
    · split
      · exact unchanged inv
      · exact kept_change inv rfl rfl (automations_kept _)
  | rotateWebhook automationId ownerId secret now =>
    cases done
    exact ⟨kept_change inv rfl rfl (automations_kept _), nothing⟩
  | deleteWebhook automationId ownerId =>
    cases done
    exact ⟨kept_change inv rfl rfl (automations_kept _), nothing⟩
  | deliver request =>
    cases done
    refine ⟨unchanged inv, fun own mem => ?_⟩
    obtain ⟨verified, read, rfl⟩ := map_eq_some_iff.mp mem
    trivial

theorem enqueued_change {plannedAt : Time} {draw : FireDraw} (known : store.Known automation)
    (done : enqueueAutomation host store automation fireKey plannedAt payload draw =
      .ok (next, result)) : FireChange host rules store next :=
  .enqueued automation fireKey next result known (enqueue_ok done)

theorem enqueue_last_change {plannedAt : Time} {draw : FireDraw} {ticket : Option AutomationTicket}
    (inv : AutomationsInv store.automations) (known : store.Known automation)
    (done : finishedWith store ((enqueueAutomation host store automation fireKey plannedAt payload
      draw).map Prod.fst) = some (next, ticket)) :
    FireChange host rules store next ∧ ticket = none := by
  rw [finishedWith] at done
  cases enqueued : enqueueAutomation host store automation fireKey plannedAt payload draw with
  | error error =>
    rw [enqueued] at done
    cases done
    exact ⟨unchanged inv, rfl⟩
  | ok value =>
    obtain ⟨after, result⟩ := value
    rw [enqueued] at done
    cases done
    exact ⟨enqueued_change known enqueued, rfl⟩

theorem insert_delivery_rest (host : AutomationHost) (store : AutomationStore)
    (request : WebhookRequest) (automation : AutomationRow) (deliveryId : String) (now : Time) :
    (store.insertDelivery host request automation deliveryId now).1.business = store.business ∧
      (store.insertDelivery host request automation deliveryId now).1.fires = store.fires ∧
      (store.insertDelivery host request automation deliveryId now).1.automations =
        store.automations := by
  rw [AutomationStore.insertDelivery]
  split <;> exact ⟨rfl, rfl, rfl⟩

theorem resume_change {input : AutomationInput} {later : Option AutomationTicket}
    (inv : AutomationsInv store.automations) (known : ticket.Known store)
    (ignoreOk : ∀ fireId, ticket = .ignore fireId → rules.ignored fireId)
    (scheduleOk : ticket.schedules = true → rules.scheduled)
    (done : resumeAutomation host store ticket input = some (next, later)) :
    FireChange host rules store next ∧ ∀ own ∈ later, own.Known next := by
  have nothing : ∀ {known : AutomationTicket → Prop}, ∀ own ∈ (none : Option AutomationTicket),
      known own := fun _ mem => absurd mem (not_mem_none _)
  cases ticket with
  | patch automationId expectedVersion patch following =>
    cases done
    refine ⟨.rest _ rfl rfl (rewritten_follow inv ?_) (Or.inl (scheduleOk rfl)), nothing⟩
    apply Table.rewritten_update
    · exact fun _ => rfl
    · exact automation_keeps_self
    · refine fun row _ _ => ⟨rfl, fun skips => ?_⟩
      cases policy : patch.concurrencyPolicy with
      | none =>
        rw [AutomationRow.skips, AutomationRow.patch, policy]
        exact skips
      | some policy' =>
        rw [AutomationRow.skips, AutomationRow.patch, policy, known policy' policy]
        rfl
  | runNow automation =>
    obtain ⟨change, rfl⟩ := enqueue_last_change inv known done
    exact ⟨change, nothing⟩
  | scan now due =>
    cases due with
    | nil =>
      cases done
      refine ⟨unchanged inv, fun own mem => ?_⟩
      cases mem
      trivial
    | cons automation rest =>
      rw [resumeAutomation] at done
      split at done
      · cases done
        refine ⟨unchanged inv, fun own mem => ?_⟩
        cases mem
        exact fun other listed => known other (mem_cons_of_mem _ listed)
      · next enqueued result taken =>
        cases done
        have change : FireChange host rules store next :=
          enqueued_change (known automation mem_cons_self) taken
        have follow := change_automations inv change
        refine ⟨change, fun own mem => ?_⟩
        cases mem
        exact ⟨known_follow follow (known automation mem_cons_self), fun other listed =>
          known_follow follow (known other (mem_cons_of_mem _ listed))⟩
  | advance now automation skipped due =>
    rw [resumeAutomation] at done
    split at done
    · cases done
      exact ⟨unchanged inv, nothing⟩
    · next following _ =>
      cases done
      have change : FireChange host rules store
          (store.advance now automation.id (automation.plannedAt now) following) := by
        refine .rest _ rfl rfl (rewritten_follow inv ?_) (Or.inl (scheduleOk rfl))
        exact Table.rewritten_update (fun _ => rfl) automation_keeps_self fun _ _ _ =>
          same_policy_keeps rfl rfl
      refine ⟨change, fun own mem => ?_⟩
      cases mem
      exact fun other listed => known_follow (change_automations inv change) (known.2 other listed)
  | retries now fires =>
    cases fires with
    | nil =>
      cases done
      exact ⟨unchanged inv, nothing⟩
    | cons fire rest =>
      rw [resumeAutomation] at done
      split at done
      · cases done
        refine ⟨unchanged inv, fun own mem => ?_⟩
        cases mem
        trivial
      · next automation read =>
        cases done
        refine ⟨unchanged inv, fun own mem => ?_⟩
        cases mem
        exact read_automation_known inv read
  | retry now automation fire fires =>
    rw [resumeAutomation] at done
    split at done
    · cases done
      refine ⟨unchanged inv, fun own mem => ?_⟩
      cases mem
      trivial
    · next enqueued result taken =>
      cases done
      refine ⟨enqueued_change known taken, fun own mem => ?_⟩
      cases mem
      trivial
  | ignore fireId =>
    cases done
    exact ⟨.ignored fireId input.draw.now (ignoreOk fireId rfl), nothing⟩
  | replayOf fire replayKey =>
    cases done
    refine ⟨unchanged inv, fun own mem => ?_⟩
    obtain ⟨automation, read, rfl⟩ := map_eq_some_iff.mp mem
    exact read_automation_known inv (filter_eq_some_iff.mp read).1
  | replay automation fire replayKey =>
    obtain ⟨change, rfl⟩ := enqueue_last_change inv known done
    exact ⟨change, nothing⟩
  | verified request config payload =>
    cases done
    refine ⟨unchanged inv, fun own mem => ?_⟩
    obtain ⟨automation, read, rfl⟩ := map_eq_some_iff.mp mem
    exact read_automation_known inv (filter_eq_some_iff.mp read).1
  | register request automation payload =>
    cases done
    obtain ⟨business, fires, automations⟩ :=
      insert_delivery_rest host store request automation input.identifier input.draw.now
    have change : FireChange host rules store (store.insertDelivery host request automation
        input.identifier input.draw.now).1 := by
      apply kept_change inv business fires
      rw [automations]
      exact automations_kept _
    refine ⟨change, fun own mem => ?_⟩
    cases mem
    exact known_follow (change_automations inv change) known
  | registered request automation payload created =>
    cases done
    refine ⟨unchanged inv, fun own mem => ?_⟩
    obtain ⟨delivery, read, rfl⟩ := map_eq_some_iff.mp mem
    exact known
  | forward request automation payload created delivery =>
    rw [resumeAutomation] at done
    split at done
    · cases done
      exact ⟨kept_change inv rfl rfl (automations_kept _), nothing⟩
    · cases done
      refine ⟨unchanged inv, fun own mem => ?_⟩
      cases mem
      exact known
  | enqueue request automation payload created delivery =>
    rw [resumeAutomation] at done
    split at done
    · cases done
      exact ⟨unchanged inv, nothing⟩
    · next enqueued result taken =>
      cases done
      refine ⟨enqueued_change known taken, fun own mem => ?_⟩
      cases mem
      trivial
  | settle request delivery duplicate result =>
    rw [resumeAutomation] at done
    split at done
    · cases done
      exact ⟨kept_change inv rfl rfl (automations_kept _), nothing⟩
    · split at done <;> cases done
      · exact ⟨kept_change inv rfl rfl (automations_kept _), nothing⟩
      · exact ⟨unchanged inv, nothing⟩

end

structure Admits (Guard : System AutomationStore AutomationTicket →
      Event AutomationRequest AutomationInput → Prop)
    (rules : AutomationStore → FireRules) : Prop where
  signals : ∀ system runId signals now, Guard system (.call (.signals runId signals now)) →
    (rules system.data).signals signals
  ignored : ∀ (system : System AutomationStore AutomationTicket) index input fireId,
    Guard system (.resume index input) → system.pending[index]? = some (.ignore fireId) →
    (rules system.data).ignored fireId
  scheduled : ∀ store, (rules store).scheduled

variable {host : AutomationHost} {rules : AutomationStore → FireRules}
  {Guard : System AutomationStore AutomationTicket → Event AutomationRequest AutomationInput → Prop}
  {Inv : AutomationStore → Prop}

theorem changes_keep (admits : Admits Guard rules)
    (automations : ∀ store, Inv store → AutomationsInv store.automations)
    (preserve : ∀ store next, Inv store → FireChange host (rules store) store next → Inv next) :
    Keeps (automationRoutine host) Guard Inv (fun store ticket => ticket.Known store) := by
  constructor
  · intro system request data ticket inv guarded taken
    have stored := automations system.data inv
    have signalsOk : ∀ runId signals now, request = .signals runId signals now →
        (rules system.data).signals signals := by
      rintro runId signals now rfl
      exact admits.signals system runId signals now guarded
    obtain ⟨change, own⟩ := call_change stored signalsOk taken
    exact ⟨preserve _ _ inv change, own, fun other _ known =>
      ticket_known_follow (change_automations stored change) known⟩
  · intro system index input ticket data later inv known guarded found taken
    have stored := automations system.data inv
    have ignoreOk : ∀ fireId, ticket = .ignore fireId → (rules system.data).ignored fireId := by
      rintro fireId rfl
      exact admits.ignored system index input fireId guarded found
    obtain ⟨change, own⟩ :=
      resume_change stored known ignoreOk (fun _ => admits.scheduled system.data) taken
    exact ⟨preserve _ _ inv change, own, fun other _ known =>
      ticket_known_follow (change_automations stored change) known⟩

theorem move_change {system after : System AutomationStore AutomationTicket}
    {event : Event AutomationRequest AutomationInput} (admits : Admits Guard rules)
    (automations : AutomationsInv system.data.automations)
    (known : ∀ ticket ∈ system.pending, ticket.Known system.data) (guarded : Guard system event)
    (move : Move (automationRoutine host) system event after) :
    FireChange host (rules system.data) system.data after.data := by
  cases move with
  | call request data ticket taken =>
    apply (call_change automations _ taken).1
    rintro runId signals now rfl
    exact admits.signals system runId signals now guarded
  | resume index input ticket data later found taken =>
    apply (resume_change automations (known ticket (mem_of_getElem? found)) _
      (fun _ => admits.scheduled system.data) taken).1
    rintro fireId rfl
    exact admits.ignored system index input fireId guarded found
  | crash index => exact unchanged automations

end AgentMate
