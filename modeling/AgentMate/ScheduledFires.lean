import AgentMate.FireLifecycle

/-! # Scheduled fires -/

namespace AgentMate

open TransitionSystem Interleaving Table List Option

structure FireKeys (store : AutomationStore) : Prop where
  automations : AutomationsInv store.automations
  ids : UniqueKey FireRow.rowId store.fires
  keyed : ∀ fire ∈ store.fires, ∀ other ∈ store.fires, fire.automationId = other.automationId →
    fire.fireKey = other.fireKey → fire.id = other.id

def AutomationStore.FiresGrow (store next : AutomationStore) : Prop :=
  ∀ fire ∈ store.fires, ∃ after ∈ next.fires, after.id = fire.id ∧ fire.Keeps after

section

variable {host : AutomationHost} {store middle next : AutomationStore}

theorem fires_grow_trans (first : store.FiresGrow middle) (second : middle.FiresGrow next) :
    store.FiresGrow next := by
  intro fire mem
  obtain ⟨between, betweenMem, same, keeps⟩ := first fire mem
  obtain ⟨after, afterMem, still, keepsOn⟩ := second between betweenMem
  exact ⟨after, afterMem, still.trans same, fire_keeps_trans keeps keepsOn⟩

theorem fires_same_grow (fires : next.fires = store.fires) : store.FiresGrow next := by
  rw [AutomationStore.FiresGrow, fires]
  exact fun fire mem => ⟨fire, mem, rfl, fire_keeps_self fire⟩

theorem rewritten_keys (keys : FireKeys store) (automations : AutomationsInv next.automations)
    (fires : Rewritten FireRow.rowId FireRow.Keeps store.fires next.fires) :
    FireKeys next ∧ store.FiresGrow next := by
  constructor
  · constructor
    · exact automations
    · exact rewritten_unique fires keys.ids
    · intro fire mem other otherMem same key
      obtain ⟨old, oldMem, sameId, keeps⟩ := fires.rows fire mem
      obtain ⟨old', oldMember', sameId', keeps'⟩ := fires.rows other otherMem
      rw [keeps.automation, keeps'.automation] at same
      rw [keeps.key, keeps'.key] at key
      exact Eq.trans sameId ((keys.keyed old oldMem old' oldMember' same key).trans
        (Eq.symm sameId'))
  · exact fun fire mem => rewritten_forward fires keys.ids mem

variable {automation : AutomationRow} {result : EnqueueResult} {ticket : AutomationTicket}
  {input : AutomationInput} {due : List AutomationRow} {automationId : String}

theorem started_rewritten {fire : FireRow} (started : Started store automation fire next result) :
    Rewritten FireRow.rowId FireRow.Keeps store.fires next.fires := by
  obtain ⟨sessionId, runId, now, -, fires, -⟩ := started.fires
  rw [fires]
  apply rewritten_update
  · exact fun _ => rfl
  · exact fire_keeps_self
  · exact fun row _ _ => ⟨rfl, rfl, rfl, rfl, Nat.le_succ _⟩

theorem inserted_keys {fire : FireRow} (keys : FireKeys store)
    (stored : store.insertFire fire = .ok next) : FireKeys next ∧ store.FiresGrow next := by
  obtain ⟨rfl, fresh, free, -⟩ := insert_fire_ok stored
  constructor
  · constructor
    · exact keys.automations
    · exact unique_key_append keys.ids fresh
    · intro left leftMem right rightMem same key
      rcases mem_append.mp leftMem with leftOld | leftNew <;>
        rcases mem_append.mp rightMem with rightOld | rightNew
      · exact keys.keyed left leftOld right rightOld same key
      · rw [mem_singleton.mp rightNew] at same key
        exact absurd key (free left leftOld same)
      · rw [mem_singleton.mp leftNew] at same key
        exact absurd key.symm (free right rightOld same.symm)
      · rw [mem_singleton.mp leftNew, mem_singleton.mp rightNew]
  · exact fun row mem => ⟨row, mem_append_left _ mem, rfl, fire_keeps_self row⟩

theorem enqueued_keys {fireKey : String} (keys : FireKeys store)
    (enqueued : Enqueued store automation fireKey next result) :
    FireKeys next ∧ store.FiresGrow next := by
  have automations := automations_kept_inv (enqueued_automations enqueued).1 keys.automations
  cases enqueued with
  | found => exact ⟨keys, fires_same_grow rfl⟩
  | skipped => exact ⟨keys, fires_same_grow rfl⟩
  | retried fire _ _ _ _ started =>
    exact rewritten_keys keys automations (started_rewritten started)
  | fired fire inserted _ _ _ _ _ _ _ _ _ stored started =>
    obtain ⟨insertedKeys, grows⟩ := inserted_keys keys stored
    obtain ⟨final, growsOn⟩ := rewritten_keys insertedKeys automations (started_rewritten started)
    exact ⟨final, fires_grow_trans grows growsOn⟩

theorem change_keys {rules : FireRules} (keys : FireKeys store)
    (change : FireChange host rules store next) : FireKeys next ∧ store.FiresGrow next := by
  have automations := (change_automations keys.automations change).inv
  cases change with
  | rest _ _ fires _ _ =>
    refine ⟨⟨automations, fires ▸ keys.ids, fires ▸ keys.keyed⟩, fires_same_grow fires⟩
  | signals => exact rewritten_keys keys automations signals_follows.fires
  | ignored => exact rewritten_keys keys automations ignore_fire_follows.fires
  | enqueued _ _ _ _ _ enqueued => exact enqueued_keys keys enqueued

/-- The automation's fire under a key is stored when its enqueue is done, unless it was
skipped for an active fire; a skip leaves the store as it was. -/
theorem enqueued_fire {fireKey : String} (keys : FireKeys store)
    (enqueued : Enqueued store automation fireKey next result) :
    (result.skipped = false ∧ ∃ fire ∈ next.fires, fire.id = result.fire.id ∧
      fire.automationId = automation.id ∧ fire.fireKey = fireKey) ∨
    (result.skipped = true ∧ next = store ∧ store.fireByKey? automation.id fireKey = none ∧
      store.activeFire? automation.id = some result.fire) := by
  cases enqueued with
  | found _ found notSkipped =>
    obtain ⟨mem, same, key⟩ := fire_by_key_ok found
    exact Or.inl ⟨notSkipped, result.fire, mem, rfl, same, key⟩
  | skipped _ absent active skipped => exact Or.inr ⟨skipped, rfl, absent, active⟩
  | retried fire _ _ found _ started =>
    obtain ⟨mem, same, key⟩ := fire_by_key_ok found
    obtain ⟨sessionId, runId, now, shown, -, -⟩ := started.fires
    obtain ⟨after, afterMem, sameId, keeps⟩ :=
      rewritten_forward (started_rewritten started) keys.ids mem
    refine Or.inl ⟨started.skipped, after, afterMem, ?_, keeps.automation.trans same,
      keeps.key.trans key⟩
    rw [shown]
    exact sameId
  | fired fire inserted _ _ _ same _ key _ _ _ stored started =>
    obtain ⟨insertedKeys, -⟩ := inserted_keys keys stored
    obtain ⟨rfl, -⟩ := insert_fire_ok stored
    obtain ⟨sessionId, runId, now, shown, -, -⟩ := started.fires
    have last : fire ∈ store.fires ++ [fire] :=
      mem_append_right _ (mem_singleton.mpr rfl)
    obtain ⟨after, afterMem, sameId, keeps⟩ :=
      rewritten_forward (started_rewritten started) insertedKeys.ids last
    refine Or.inl ⟨started.skipped, after, afterMem, ?_, keeps.automation.trans same,
      keeps.key.trans key⟩
    rw [shown]
    exact sameId

def anyRules (_ : AutomationStore) : FireRules := ⟨fun _ => True, fun _ => True, True⟩

theorem anything_admits : Admits Anything anyRules :=
  ⟨fun _ _ _ _ _ => trivial, fun _ _ _ _ _ _ => trivial, fun _ => trivial⟩

theorem fires_keyed (host : AutomationHost) :
    Keeps (automationRoutine host) Anything FireKeys (fun store ticket => ticket.Known store) :=
  changes_keep anything_admits (fun _ keys => keys.automations) fun _ _ keys change =>
    (change_keys keys change).1

theorem advance_after_scan {now : Time} {skipped : Bool}
    (done : resumeAutomation host store ticket input =
      some (next, some (.advance now automation skipped due))) :
    ticket = .scan now (automation :: due) ∧ ∃ result : EnqueueResult, result.skipped = skipped ∧
      enqueueAutomation host store automation (scheduledKey (automation.plannedAt now))
        (automation.plannedAt now) none input.draw = .ok (next, result) := by
  cases ticket with
  | scan before rows =>
    cases rows with
    | nil => cases done
    | cons row rest =>
      rw [resumeAutomation] at done
      split at done
      · cases done
      · next result taken =>
        cases done
        exact ⟨rfl, _, rfl, taken⟩
  | retries before fires =>
    cases fires with
    | nil => cases done
    | cons fire rest =>
      rw [resumeAutomation] at done
      split at done <;> cases done
  | patch | runNow | replay | ignore | register => cases done
  | advance | retry | enqueue | forward =>
    rw [resumeAutomation] at done
    split at done <;> cases done
  | settle =>
    rw [resumeAutomation] at done
    split at done
    · cases done
    · split at done <;> cases done
  | replayOf | verified | registered =>
    simp [resumeAutomation] at done

theorem call_no_advance {request : AutomationRequest} {now : Time} {skipped : Bool}
    (done : callAutomation host store request =
      some (next, some (.advance now automation skipped due))) : False := by
  cases request with
  | createAutomation | deleteAutomation | signals | createWebhook | rotateWebhook | deleteWebhook
  | scan => cases done
  | updateAutomation =>
    rw [callAutomation] at done
    split at done <;> cases done
  | runNow | ignore | replay | deliver => simp [callAutomation] at done

theorem change_schedules {rules : FireRules} (inv : AutomationsInv store.automations)
    (change : FireChange host rules store next) (kept : ¬rules.scheduled) :
    SchedulesKept store.automations next.automations := by
  cases change with
  | rest _ _ _ _ schedules => exact schedules.resolve_left kept
  | signals => exact schedules_kept inv signals_follows.automations
  | ignored => exact schedules_kept inv (automations_kept _)
  | enqueued _ _ _ _ _ enqueued => exact schedules_kept inv (enqueued_automations enqueued).1

structure Rescheduled (store next : AutomationStore) (automationId : String) (planned : Time) :
    Prop where
  before : ∃ row ∈ store.automations, row.id = automationId ∧ row.nextRunAt = some planned
  after : ∃ row ∈ next.automations, row.id = automationId ∧ row.nextRunAt ≠ some planned

theorem kept_not_rescheduled {planned : Time} (inv : AutomationsInv next.automations)
    (kept : SchedulesKept store.automations next.automations)
    (moved : Rescheduled store next automationId planned) : False := by
  obtain ⟨row, mem, named, schedule⟩ := moved.before
  obtain ⟨after, afterMem, afterNamed, other⟩ := moved.after
  obtain ⟨still, stillMem, same, sameSchedule⟩ := kept row mem
  have one := unique_key_eq inv.ids stillMem afterMem (same.trans (named.trans afterNamed.symm))
  exact other (one ▸ sameSchedule.trans schedule)

theorem rescheduled_by {later : Option AutomationTicket} {planned : Time}
    (inv : AutomationsInv store.automations) (known : ticket.Known store)
    (done : resumeAutomation host store ticket input = some (next, later))
    (moved : Rescheduled store next automationId planned) :
    (∃ expectedVersion fields following,
      ticket = .patch automationId expectedVersion fields following) ∨
    ∃ now automation skipped due, ticket = .advance now automation skipped due ∧
      automation.id = automationId ∧ automation.plannedAt now = planned := by
  have change : FireChange host ⟨fun _ => True, fun _ => True, ticket.schedules = true⟩
      store next :=
    (resume_change inv known (fun _ _ => trivial) id done).1
  have after := (change_automations inv change).inv
  cases schedules : ticket.schedules with
  | false =>
    have kept := change_schedules inv change (by simp [schedules])
    exact (kept_not_rescheduled after kept moved).elim
  | true =>
    obtain ⟨row, mem, named, schedule⟩ := moved.before
    obtain ⟨changed, changedMem, changedNamed, other⟩ := moved.after
    cases ticket with
    | patch target expectedVersion fields following =>
      cases done
      obtain ⟨old, oldMem, rfl⟩ := mem_update_where.mp changedMem
      by_cases chosen : old.id = target ∧ old.version = expectedVersion ∧ old.deletedAt = 0
      · rw [if_pos chosen] at changedNamed
        exact Or.inl ⟨expectedVersion, fields, following, by rw [← changedNamed, ← chosen.1]; rfl⟩
      · rw [if_neg chosen] at changedNamed other
        have one := unique_key_eq inv.ids oldMem mem (changedNamed.trans named.symm)
        exact absurd (one ▸ schedule) other
    | advance now automation skipped due =>
      rw [resumeAutomation] at done
      split at done
      · cases done
        have one := unique_key_eq inv.ids changedMem mem (changedNamed.trans named.symm)
        exact absurd (one ▸ schedule) other
      · cases done
        obtain ⟨old, oldMem, rfl⟩ := mem_update_where.mp changedMem
        by_cases chosen : old.id = automation.id ∧
            old.nextRunAt = some (automation.plannedAt now) ∧ old.deletedAt = 0
        · rw [if_pos chosen] at changedNamed
          have oldNamed : old.id = automationId := changedNamed
          have one := unique_key_eq inv.ids oldMem mem (oldNamed.trans named.symm)
          rw [one, schedule] at chosen
          refine Or.inr ⟨now, automation, skipped, due, rfl, ?_, ?_⟩
          · exact chosen.1.symm.trans named
          · exact (Option.some.inj chosen.2.1).symm
        · rw [if_neg chosen] at changedNamed other
          have one := unique_key_eq inv.ids oldMem mem (changedNamed.trans named.symm)
          exact absurd (one ▸ schedule) other
    | runNow | scan | retries | retry | ignore | replayOf | replay | verified | register
    | registered | forward | enqueue | settle => cases schedules

end

def AutomationStore.Fired (store : AutomationStore) (automationId fireKey : String) : Prop :=
  ∃ fire ∈ store.fires, fire.automationId = automationId ∧ fire.fireKey = fireKey

def AutomationStore.Busy (store : AutomationStore) (automationId : String) : Prop :=
  ∃ fire ∈ store.fires, fire.automationId = automationId ∧ fire.status.isActive = true

/-- A scan that comes to this planned time finds no fire for it, but another active one. -/
structure ScanSkips (system : System AutomationStore AutomationTicket) (automationId : String)
    (planned : Time) : Prop where
  asked : ∃ now automation due, .scan now (automation :: due) ∈ system.pending ∧
    automation.id = automationId ∧ automation.plannedAt now = planned
  absent : ¬system.data.Fired automationId (scheduledKey planned)
  busy : system.data.Busy automationId

abbrev automationMachine (host : AutomationHost) : Machine (System AutomationStore AutomationTicket)
      (Event AutomationRequest AutomationInput) :=
  (automationRoutine host).machine AutomationStore.Fresh

def Accounted (host : AutomationHost) (system : System AutomationStore AutomationTicket)
    (automationId : String) (planned : Time) : Prop :=
  system.data.Fired automationId (scheduledKey planned) ∨
    ∃ earlier, (automationMachine host).Reachable Anything earlier ∧
      (automationMachine host).Path Anything earlier system ∧
      ScanSkips earlier automationId planned

structure ScansAccounted (host : AutomationHost)
    (system : System AutomationStore AutomationTicket) : Prop where
  reachable : (automationMachine host).Reachable Anything system
  holds : Holds FireKeys (fun store ticket => ticket.Known store) system
  accounted : ∀ now automation skipped due, .advance now automation skipped due ∈ system.pending →
    Accounted host system automation.id (automation.plannedAt now)

section

variable {host : AutomationHost} {system after : System AutomationStore AutomationTicket}
  {event : Event AutomationRequest AutomationInput}

variable {store next : AutomationStore} {automationId : String} {input : AutomationInput}
  {automation : AutomationRow} {due : List AutomationRow}

theorem fired_grows {automationId fireKey : String} (grows : store.FiresGrow next)
    (fired : store.Fired automationId fireKey) :
    next.Fired automationId fireKey := by
  obtain ⟨fire, mem, same, key⟩ := fired
  obtain ⟨after, afterMem, -, keeps⟩ := grows fire mem
  exact ⟨after, afterMem, keeps.automation.trans same, keeps.key.trans key⟩

theorem move_grows (holds : Holds FireKeys (fun store ticket => ticket.Known store) system)
    (move : Move (automationRoutine host) system event after) :
    system.data.FiresGrow after.data := by
  have change := move_change anything_admits holds.data.automations holds.pending trivial move
  exact (change_keys holds.data change).2

theorem accounted_step {planned : Time}
    (holds : Holds FireKeys (fun store ticket => ticket.Known store) system)
    (step : (automationMachine host).Step system event after)
    (accounted : Accounted host system automationId planned) :
    Accounted host after automationId planned := by
  rcases accounted with fired | ⟨earlier, reachable, path, skips⟩
  · exact Or.inl (fired_grows (move_grows holds (next_move step)) fired)
  · exact Or.inr ⟨earlier, reachable, .step path trivial step, skips⟩

theorem advance_accounted {index : Nat} {ticket : AutomationTicket}
    {data : AutomationStore} {now : Time} {skipped : Bool} (scans : ScansAccounted host system)
    (found : system.pending[index]? = some ticket)
    (step : (automationMachine host).Step system (.resume index input) after)
    (same : after.data = data)
    (taken : resumeAutomation host system.data ticket input =
      some (data, some (.advance now automation skipped due))) :
    Accounted host after automation.id (automation.plannedAt now) := by
  obtain ⟨rfl, result, -, done⟩ := advance_after_scan taken
  rcases enqueued_fire scans.holds.data (enqueue_ok done) with
    ⟨-, fire, mem, -, own, key⟩ | ⟨-, rfl, absent, active⟩
  · exact Or.inl ⟨fire, same ▸ mem, own, key⟩
  · right
    refine ⟨system, scans.reachable, .step (.refl system) trivial step, ?_, ?_, ?_⟩
    · exact ⟨now, automation, due, mem_of_getElem? found, rfl, rfl⟩
    · rintro ⟨fire, mem, own, key⟩
      exact fire_by_key_none absent fire mem own key
    · obtain ⟨mem, own, isActive⟩ := active_fire_ok active
      exact ⟨result.fire, mem, own, isActive⟩

theorem scans_step (scans : ScansAccounted host system)
    (step : (automationMachine host).Step system event after) : ScansAccounted host after := by
  have move := next_move step
  constructor
  · exact reachable_step scans.reachable trivial step
  · exact move_holds (fires_keyed host) scans.holds trivial move
  · intro now automation skipped due mem
    have old (listed : .advance now automation skipped due ∈ system.pending) :
        Accounted host after automation.id (automation.plannedAt now) :=
      accounted_step scans.holds step (scans.accounted now automation skipped due listed)
    cases move with
    | call request data ticket taken =>
      rcases mem_append.mp mem with listed | new
      · exact old listed
      · rw [mem_toList.mp new] at taken
        exact (call_no_advance taken).elim
    | resume index input ticket data later found taken =>
      rcases mem_append.mp mem with listed | new
      · exact old (mem_of_mem_eraseIdx listed)
      · rw [mem_toList.mp new] at taken
        exact advance_accounted scans found step rfl taken
    | crash index => exact old (mem_of_mem_eraseIdx mem)

theorem fresh_keys (fresh : store.Fresh) : FireKeys store := by
  have inv := fresh_fires fresh
  obtain ⟨-, -, -, -, fires, -⟩ := fresh
  exact ⟨inv.automations, inv.ids, by simp [fires]⟩

theorem reachable_scans (reachable : (automationMachine host).Reachable Anything system) :
    ScansAccounted host system := by
  apply reachable_invariant (ScansAccounted host) _ _ reachable
  · rintro start ⟨fresh, none⟩
    refine ⟨⟨start, ⟨fresh, none⟩, .refl start⟩, ⟨fresh_keys fresh, ?_⟩, ?_⟩
    · simp [none]
    · simp [none]
  · exact fun _ _ _ scans _ step => scans_step scans step

theorem scan_without_fire {now : Time} {later : Option AutomationTicket} (keys : FireKeys store)
    (done : resumeAutomation host store (.scan now (automation :: due)) input = some (next, later))
    (unfired : ¬next.Fired automation.id (scheduledKey (automation.plannedAt now))) :
    next = store := by
  rw [resumeAutomation] at done
  split at done
  · cases done
    rfl
  · next result taken =>
    cases done
    rcases enqueued_fire keys (enqueue_ok taken) with ⟨-, fire, mem, -, own, key⟩ | ⟨-, same, -⟩
    · exact absurd ⟨fire, mem, own, key⟩ unfired
    · exact same

theorem move_accounted {planned : Time} (scans : ScansAccounted host system)
    (move : Move (automationRoutine host) system event after)
    (moved : Rescheduled system.data after.data automationId planned) :
    (∃ index input expectedVersion fields following, event = .resume index input ∧
      system.pending[index]? = some (.patch automationId expectedVersion fields following)) ∨
    Accounted host system automationId planned := by
  have inv := scans.holds.data.automations
  cases move with
  | call request data ticket taken =>
    have change : FireChange host ⟨fun _ => True, fun _ => True, False⟩ system.data data :=
      (call_change inv (fun _ _ _ _ => trivial) taken).1
    exact (kept_not_rescheduled (change_automations inv change).inv
      (change_schedules inv change id) moved).elim
  | resume index input ticket data later found taken =>
    have mem := mem_of_getElem? found
    rcases rescheduled_by inv (scans.holds.pending ticket mem) taken moved with
      ⟨expectedVersion, fields, following, rfl⟩ | ⟨now, automation, skipped, due, rfl, rfl, rfl⟩
    · exact Or.inl ⟨index, input, expectedVersion, fields, following, rfl, found⟩
    · exact Or.inr (scans.accounted now automation skipped due mem)
  | crash index =>
    exact (kept_not_rescheduled inv (schedules_kept inv (automations_kept _)) moved).elim

end

/-- Any number of scans, crashes and other requests: a planned time has one fire, and the
schedule moves past it only when it is accounted for. -/
theorem scheduled_fire_once (host : AutomationHost)
    {system : System AutomationStore AutomationTicket}
    (reachable : (automationMachine host).Reachable Anything system) :
    (∀ planned, ∀ fire ∈ system.data.fires, ∀ other ∈ system.data.fires,
      fire.automationId = other.automationId → fire.fireKey = scheduledKey planned →
      other.fireKey = scheduledKey planned → fire = other) ∧
    (∀ later, (automationMachine host).Path Anything system later →
      ∀ planned, ∀ fire ∈ system.data.fires, fire.fireKey = scheduledKey planned →
      ∃ kept ∈ later.data.fires, kept.id = fire.id ∧ ∀ other ∈ later.data.fires,
        other.automationId = fire.automationId → other.fireKey = scheduledKey planned →
        other = kept) ∧
    ∀ event after, (automationRoutine host).next system event = some after →
      ∀ automationId planned, Rescheduled system.data after.data automationId planned →
      (∃ index input expectedVersion fields following, event = .resume index input ∧
        system.pending[index]? = some (.patch automationId expectedVersion fields following)) ∨
      Accounted host system automationId planned := by
  have scans := reachable_scans reachable
  have unique (store : AutomationStore) (keys : FireKeys store) (fire other : FireRow)
      (mem : fire ∈ store.fires) (otherMem : other ∈ store.fires)
      (same : fire.automationId = other.automationId) (key : fire.fireKey = other.fireKey) :
      fire = other :=
    unique_key_eq keys.ids mem otherMem (keys.keyed fire mem other otherMem same key)
  refine ⟨?_, ?_, ?_⟩
  · intro planned fire mem other otherMem same key otherKey
    exact unique _ scans.holds.data fire other mem otherMem same (key.trans otherKey.symm)
  · intro later path planned fire mem key
    obtain ⟨held, grows⟩ := path_keeps system.data.FiresGrow (fires_keyed host)
      (fun _ _ _ holds _ move before => fires_grow_trans before (move_grows holds move))
      scans.holds (fires_same_grow rfl) path
    obtain ⟨kept, keptMem, same, keeps⟩ := grows fire mem
    refine ⟨kept, keptMem, same, fun other otherMem own otherKey => ?_⟩
    exact unique _ held.data other kept otherMem keptMem
      (own.trans keeps.automation.symm) (otherKey.trans (key.symm.trans keeps.key.symm))
  · exact fun event after step automationId planned moved =>
      move_accounted scans (next_move step) moved

def scanStep (name : String) (given : name ++ "-run" ≠ "") :
    Event AutomationRequest AutomationInput := .resume 0 (drawnAs 3600 name given)

def crashedScan : List (Event AutomationRequest AutomationInput) :=
  [.call (.createAutomation "automation" "owner" samplePatch true 0 automation_named),
    .call (.scan 3600), scanStep "first" first_named, .crash 0, .call (.scan 3660),
    scanStep "second" second_named]

def AutomationTicket.isPatch : AutomationTicket → Bool
  | .patch _ _ _ _ => true
  | _ => false

def AutomationTicket.scans : AutomationTicket → Option (String × Time)
  | .scan now (automation :: _) => some (automation.id, automation.plannedAt now)
  | _ => none

def AutomationStore.runsAt (store : AutomationStore) (automationId : String) (time : Time) : Bool :=
  store.automations.any fun row => row.id = automationId && row.nextRunAt = some time

theorem runs_at_moved {store next : AutomationStore} {automationId : String} {planned time : Time}
    (before : store.runsAt automationId planned = true)
    (after : next.runsAt automationId time = true) (other : time ≠ planned) :
    Rescheduled store next automationId planned := by
  obtain ⟨row, mem, found⟩ := List.any_eq_true.mp before
  obtain ⟨moved, movedMem, shown⟩ := List.any_eq_true.mp after
  rw [Bool.and_eq_true, decide_eq_true_eq, decide_eq_true_eq] at found shown
  refine ⟨⟨row, mem, found⟩, moved, movedMem, shown.1, fun same => ?_⟩
  exact other (Option.some.inj (shown.2.symm.trans same))

theorem crashed_scan_fires_once : ∃ system after : System AutomationStore AutomationTicket,
    (automationRoutine sampleAutomationHost).run (fun _ _ => true) noAutomations crashedScan =
        some system ∧
      (automationRoutine sampleAutomationHost).next system (scanStep "second" (by decide)) =
        some after ∧
      Rescheduled system.data after.data "automation" 3600 ∧
      Accounted sampleAutomationHost system "automation" 3600 ∧ system.data.fires.length = 1 := by
  have ran : ((automationRoutine sampleAutomationHost).run (fun _ _ => true) noAutomations
      crashedScan).map (fun system => (system.data.runsAt "automation" 3600,
        system.pending.any AutomationTicket.isPatch, decide (system.data.fires.length = 1),
        ((automationRoutine sampleAutomationHost).next system (scanStep "second" (by decide))).map
          fun after => after.data.runsAt "automation" 7260)) =
      some (true, false, true, some true) := by decide +kernel
  obtain ⟨system, done, computed⟩ := map_eq_some_iff.mp ran
  obtain ⟨before, computed⟩ := Prod.mk.inj computed
  obtain ⟨unpatched, computed⟩ := Prod.mk.inj computed
  obtain ⟨one, written⟩ := Prod.mk.inj computed
  obtain ⟨after, step, later⟩ := map_eq_some_iff.mp written
  have moved := runs_at_moved before later (by decide)
  have reachable := reachable_weaken (fun _ _ _ => trivial)
    (run_reachable (fun _ _ => true) no_automations_fresh done)
  refine ⟨system, after, done, step, moved, ?_, of_decide_eq_true one⟩
  rcases (scheduled_fire_once sampleAutomationHost reachable).2.2 _ after step "automation" 3600
    moved with ⟨index, _, _, _, _, -, found⟩ | accounted
  · exact absurd rfl (List.any_eq_false.mp unpatched _ (mem_of_getElem? found))
  · exact accounted

theorem manual_named : "manual" ++ "-run" ≠ "" := by decide

def busyAtFirstTime : List (Event AutomationRequest AutomationInput) :=
  [.call (.createAutomation "automation" "owner" samplePatch true 0 automation_named),
    .call (.runNow "automation" "owner" true), .resume 0 (drawnAs 3500 "manual" manual_named),
    .call (.scan 3600)]

theorem skipped_time_not_recorded : ∃ before system after : System AutomationStore AutomationTicket,
    (automationMachine sampleAutomationHost).Reachable Anything before ∧
      (automationRoutine sampleAutomationHost).next before (scanStep "skip" (by decide)) =
        some system ∧
      (automationRoutine sampleAutomationHost).next system (scanStep "skip" (by decide)) =
        some after ∧
      system.data = before.data ∧ Rescheduled system.data after.data "automation" 3600 ∧
      ¬system.data.Fired "automation" (scheduledKey 3600) := by
  have ran : ((automationRoutine sampleAutomationHost).run (fun _ _ => true) noAutomations
      busyAtFirstTime).map (fun before => (before.pending.map AutomationTicket.scans,
        ((automationRoutine sampleAutomationHost).next before (scanStep "skip" (by decide))).map
          fun system => (system.data.runsAt "automation" 3600,
            system.data.fires.any fun fire => fire.fireKey = scheduledKey 3600,
            ((automationRoutine sampleAutomationHost).next system (scanStep "skip" (by decide))).map
              fun after => after.data.runsAt "automation" 7200))) =
      some ([some ("automation", 3600)], some (true, false, some true)) := by decide +kernel
  obtain ⟨before, done, computed⟩ := map_eq_some_iff.mp ran
  obtain ⟨asked, computed⟩ := Prod.mk.inj computed
  obtain ⟨system, first, computed⟩ := map_eq_some_iff.mp computed
  obtain ⟨planned, computed⟩ := Prod.mk.inj computed
  obtain ⟨unfired, written⟩ := Prod.mk.inj computed
  obtain ⟨after, second, moved⟩ := map_eq_some_iff.mp written
  have reachable := reachable_weaken (fun _ _ _ => trivial)
    (run_reachable (fun _ _ => true) no_automations_fresh done)
  have absent : ¬system.data.Fired "automation" (scheduledKey 3600) := by
    rintro ⟨fire, mem, -, key⟩
    exact List.any_eq_false.mp unfired fire mem (decide_eq_true key)
  refine ⟨before, system, after, reachable, first, second, ?_,
    runs_at_moved planned moved (by decide), absent⟩
  have keys := (reachable_scans reachable).holds.data
  generalize name : scanStep "skip" (by decide) = event at first
  cases next_move first with
  | call | crash => cases name
  | resume index input ticket data later found taken =>
    cases name
    have listed := congrArg (fun tickets => tickets[0]?) asked
    rw [getElem?_map, found] at listed
    cases ticket with
    | scan now due =>
      cases due with
      | nil => cases listed
      | cons automation due =>
        obtain ⟨named, time⟩ := Prod.mk.inj (Option.some.inj (Option.some.inj listed))
        exact scan_without_fire keys taken (by rw [named, time]; exact absent)
    | _ => cases listed

end AgentMate
