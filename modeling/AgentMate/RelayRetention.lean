import AgentMate.RelayFencing
import Mathlib.Data.String.Basic

/-! # Retention of settled relay events -/

namespace AgentMate

open TransitionSystem Interleaving Table List Option

variable {hash : String → String} {settings : RelaySettings} {relay middle next : Relay}
  {clock : Option Time} {old row event : RelayEvent} {now : Time} {ownerId deviceId : String}

def RelayEvent.IsOpen (event : RelayEvent) : Prop :=
  event.status.isTerminal = false ∧ event.acknowledgedAt = none

/-- A write that keeps the age of a settled row and settles an open one at its clock only. -/
structure RelayEvent.Ages (clock : Option Time) (old row : RelayEvent) : Prop where
  id : row.id = old.id
  settled : old.status.isTerminal = true →
    row.status.isTerminal = true ∧ row.settledAt = old.settledAt
  opened : old.IsOpen → row.IsOpen ∨ (row.status.isTerminal = true ∧ clock = some row.settledAt)

theorem ages_refl : event.Ages clock event :=
  ⟨rfl, fun terminal => ⟨terminal, rfl⟩, Or.inl⟩

theorem ages_trans {between : RelayEvent} (first : old.Ages clock between)
    (second : between.Ages clock row) : old.Ages clock row := by
  constructor
  · exact second.id.trans first.id
  · intro terminal
    obtain ⟨still, age⟩ := first.settled terminal
    obtain ⟨ends, same⟩ := second.settled still
    exact ⟨ends, same.trans age⟩
  · intro opened
    rcases first.opened opened with still | ⟨terminal, at_clock⟩
    · exact second.opened still
    · obtain ⟨ends, same⟩ := second.settled terminal
      exact Or.inr ⟨ends, by rw [same]; exact at_clock⟩

theorem reopened_ages (before : old.status.isTerminal = false) (id : row.id = old.id)
    (open_status : row.status.isTerminal = false)
    (acknowledged : row.acknowledgedAt = old.acknowledgedAt) : old.Ages clock row := by
  constructor
  · exact id
  · intro terminal
    rw [before] at terminal
    cases terminal
  · exact fun opened => Or.inl ⟨open_status, acknowledged.trans opened.2⟩

structure Relay.Aged (clock : Option Time) (relay next : Relay) : Prop where
  rows : ∀ row ∈ next.events, ∃ old ∈ relay.events, old.Ages clock row
  unique : UniqueKey RelayEvent.id relay.events → UniqueKey RelayEvent.id next.events
  issued : next.issued = relay.issued

theorem aged_refl (events : next.events = relay.events) (issued : next.issued = relay.issued) :
    Relay.Aged clock relay next := by
  constructor
  · intro row mem
    exact ⟨row, events ▸ mem, ages_refl⟩
  · rw [events]
    exact id
  · exact issued

theorem aged_trans (first : Relay.Aged clock relay middle) (second : Relay.Aged clock middle next) :
    Relay.Aged clock relay next := by
  constructor
  · intro row mem
    obtain ⟨between, betweenMem, later⟩ := second.rows row mem
    obtain ⟨old, oldMem, earlier⟩ := first.rows between betweenMem
    exact ⟨old, oldMem, ages_trans earlier later⟩
  · exact fun unique => second.unique (first.unique unique)
  · exact second.issued.trans first.issued

theorem rewrite_aged {chosen : RelayEvent → Prop} [DecidablePred chosen]
    (assign : RelayEvent → RelayEvent) (id : ∀ event, (assign event).id = event.id)
    (ages : ∀ event ∈ relay.events, chosen event → event.Ages clock (assign event)) :
    Relay.Aged clock relay (relay.updateEvents chosen assign) := by
  constructor
  · intro row mem
    rcases mem_rewritten mem with kept | ⟨old, stored, choice, rfl⟩
    · exact ⟨row, kept, ages_refl⟩
    · exact ⟨old, stored, ages old stored choice⟩
  · exact unique_key_update id
  · rfl

theorem discard_aged (keep : RelayEvent → Bool) : Relay.Aged clock relay (relay.discard keep) := by
  constructor
  · intro row mem
    exact ⟨row, mem_of_mem_filter mem, ages_refl⟩
  · exact fun unique => unique.sublist (filter_sublist.map RelayEvent.id)
  · rfl

theorem register_aged {name : String}
    (done : registerRelayDevice relay ownerId deviceId name now = .ok next) :
    Relay.Aged clock relay next := by
  rw [registerRelayDevice] at done
  split at done
  · cases done
  · split at done <;> cases done <;> exact aged_refl rfl rfl

theorem expire_aged : Relay.Aged (some now) relay (relay.expireLeases ownerId deviceId now) := by
  rw [Relay.expireLeases]
  refine aged_trans (rewrite_aged (RelayEvent.release now) (fun _ => rfl) ?_)
    (rewrite_aged (RelayEvent.exhaust now) (fun _ => rfl) ?_)
  · rintro event - ⟨-, -, leased, -⟩
    exact reopened_ages (by rw [leased]; rfl) rfl rfl rfl
  · rintro event - ⟨-, -, leased, -⟩
    constructor
    · rfl
    · intro terminal
      rw [leased] at terminal
      cases terminal
    · rintro ⟨-, unacknowledged⟩
      refine Or.inr ⟨rfl, ?_⟩
      simp [RelayEvent.exhaust, RelayEvent.settledAt, unacknowledged]

theorem lease_event_aged (due : String × String) :
    Relay.Aged clock relay (leaseEvent hash settings now relay due) := by
  rw [leaseEvent]
  split
  · exact aged_refl rfl rfl
  · split
    · have written : Relay.Aged clock relay
          (relay.updateEvents (fun row => row.id = due.1 ∧ row.status = .pending)
            (RelayEvent.lease (hash due.2) (now + settings.leaseSeconds) now)) := by
        apply rewrite_aged
        · exact fun _ => rfl
        · rintro event - ⟨-, pending⟩
          exact reopened_ages (by rw [pending]; rfl) rfl rfl rfl
      exact ⟨written.rows, written.unique, written.issued⟩
    · exact aged_refl rfl rfl

theorem lease_events_aged {limit : Nat} {tokens : List String} : Relay.Aged (some now) relay
      (leaseEvents hash settings relay ownerId deviceId limit tokens now) := by
  have loop : ∀ (due : List (String × String)) (relay : Relay),
      Relay.Aged (some now) relay (due.foldl (leaseEvent hash settings now) relay) := by
    intro due
    induction due with
    | nil => exact fun _ => aged_refl rfl rfl
    | cons item rest ih => exact fun _ => aged_trans (lease_event_aged item) (ih _)
  exact aged_trans expire_aged (loop _ _)

theorem acknowledge_aged {acknowledgement : Acknowledgement}
    (unsettled : ∀ event ∈ relay.events, event.id = acknowledgement.eventId →
      event.status.isTerminal = false) :
    Relay.Aged (some now) relay (writeAcknowledgement relay acknowledgement now) := by
  apply rewrite_aged
  · exact fun _ => rfl
  · intro event mem named
    constructor
    · rfl
    · intro terminal
      rw [unsettled event mem named] at terminal
      cases terminal
    · intro _
      refine Or.inr ⟨?_, rfl⟩
      cases target : acknowledgement.status <;>
        simp [RelayEvent.settle, AckStatus.target, target, RelayStatus.isTerminal]

/-- The clearing of this event's payload moves its age: it is a dead letter that is not
due for removal. -/
def RelayEvent.movedBy (settings : RelaySettings) (now : Time) (event : RelayEvent) : Bool :=
  event.status.isTerminal && event.acknowledgedAt.isNone && event.payloadTombstonedAt.isNone &&
    decide (event.settledAt ≤ now - settings.payloadRetentionSeconds) &&
    decide (now - settings.terminalRetentionSeconds < event.settledAt)

def Relay.tombstoned (settings : RelaySettings) (relay : Relay) (now : Time) : Relay :=
  (relay.discard fun event => !(event.status.isTerminal &&
      decide (event.settledAt ≤ now - settings.terminalRetentionSeconds))).updateEvents
    (fun event => event.status.isTerminal = true ∧
      event.settledAt ≤ now - settings.payloadRetentionSeconds ∧ event.payloadTombstonedAt = none)
    (RelayEvent.tombstone now)

theorem tombstoned_aged (unmoved : ∀ event ∈ relay.events, event.movedBy settings now = false) :
    Relay.Aged none relay (relay.tombstoned settings now) := by
  apply aged_trans (discard_aged _)
  apply rewrite_aged
  · exact fun _ => rfl
  · rintro event mem ⟨terminal, cleared, whole⟩
    obtain ⟨stored, retained⟩ := mem_filter.mp mem
    have acknowledged : event.acknowledgedAt ≠ none := by
      intro unacknowledged
      have still := unmoved event stored
      simp [RelayEvent.movedBy, terminal, unacknowledged, whole, cleared] at still retained
      exact absurd retained (not_lt.mpr still)
    obtain ⟨time, written⟩ := ne_none_iff_exists'.mp acknowledged
    constructor
    · rfl
    · intro _
      refine ⟨terminal, ?_⟩
      simp [RelayEvent.settledAt, RelayEvent.tombstone, written]
    · rintro ⟨-, unacknowledged⟩
      exact absurd unacknowledged acknowledged

def Relay.settledRows (relay : Relay) (ownerId : String) : List RelayEvent :=
  relay.events.filter fun event => event.ownerId = ownerId ∧ event.status.isTerminal = true

def RelayEvent.Newer (left right : RelayEvent) : Prop :=
  right.settledAt < left.settledAt ∨ (left.settledAt = right.settledAt ∧ right.id ≤ left.id)

instance : DecidableRel RelayEvent.Newer := fun _ _ => inferInstanceAs (Decidable (_ ∨ _))

instance : Std.Total RelayEvent.Newer := by
  constructor
  intro left right
  rcases lt_trichotomy left.settledAt right.settledAt with before | same | after
  · exact Or.inr (Or.inl before)
  · rcases le_total left.id right.id with below | above
    · exact Or.inr (Or.inr ⟨same.symm, below⟩)
    · exact Or.inl (Or.inr ⟨same, above⟩)
  · exact Or.inl (Or.inl after)

instance : IsTrans RelayEvent RelayEvent.Newer := by
  constructor
  rintro left middle right (after | ⟨same, above⟩) (later | ⟨still, below⟩)
  · exact Or.inl (later.trans after)
  · exact Or.inl (still ▸ after)
  · exact Or.inl (same ▸ later)
  · exact Or.inr ⟨same.trans still, le_trans below above⟩

def Relay.newestFirst (relay : Relay) (ownerId : String) : List RelayEvent :=
  (relay.settledRows ownerId).insertionSort RelayEvent.Newer

theorem overflow_newest (cap : Nat) :
    relay.overflow cap ownerId = ((relay.newestFirst ownerId).drop cap).map RelayEvent.id := rfl

theorem mem_newest_first : event ∈ relay.newestFirst ownerId ↔
    event ∈ relay.events ∧ event.ownerId = ownerId ∧ event.status.isTerminal = true := by
  rw [Relay.newestFirst, mem_insertionSort, Relay.settledRows, mem_filter, decide_eq_true_eq]

variable {cap : Nat} {other : String}

theorem mem_overflow (unique : UniqueKey RelayEvent.id relay.events) (mem : event ∈ relay.events) :
    event.id ∈ relay.overflow cap ownerId ↔ event ∈ (relay.newestFirst ownerId).drop cap := by
  rw [overflow_newest, List.mem_map]
  constructor
  · rintro ⟨found, listed, same⟩
    have stored := (mem_newest_first.mp (mem_of_mem_drop listed)).1
    rwa [← unique_key_eq unique stored mem same]
  · exact fun listed => ⟨event, listed, rfl⟩

theorem mem_trimmed (unique : UniqueKey RelayEvent.id relay.events) :
    event ∈ (relay.trimOwner cap ownerId).events ↔
      event ∈ relay.events ∧ event ∉ (relay.newestFirst ownerId).drop cap := by
  rw [Relay.trimOwner, Relay.discard, mem_filter, decide_eq_true_eq]
  constructor
  · rintro ⟨mem, kept⟩
    exact ⟨mem, mt (mem_overflow unique mem).mpr kept⟩
  · rintro ⟨mem, kept⟩
    exact ⟨mem, mt (mem_overflow unique mem).mp kept⟩

theorem trimmed_other (unique : UniqueKey RelayEvent.id relay.events) (differs : other ≠ ownerId) :
    (relay.trimOwner cap other).settledRows ownerId = relay.settledRows ownerId := by
  rw [Relay.settledRows, Relay.settledRows, Relay.trimOwner, Relay.discard, List.filter_filter]
  apply filter_congr
  intro event mem
  by_cases owned : event.ownerId = ownerId
  · have kept : event.id ∉ relay.overflow cap other := by
      rw [mem_overflow unique mem]
      intro dropped
      exact differs ((mem_newest_first.mp (mem_of_mem_drop dropped)).2.1.symm.trans owned)
    simp [kept]
  · simp [owned]

theorem trimmed_own (unique : UniqueKey RelayEvent.id relay.events) :
    ((relay.trimOwner cap ownerId).settledRows ownerId).Perm
      ((relay.newestFirst ownerId).take cap) := by
  have rows : relay.events.Nodup := List.Nodup.of_map _ unique
  have sorted : (relay.newestFirst ownerId).Nodup :=
    (perm_insertionSort _ _).nodup_iff.mpr (rows.filter _)
  have whole := take_append_drop cap (relay.newestFirst ownerId)
  have parts := nodup_append.mp (whole.symm ▸ sorted)
  have kept : ((relay.trimOwner cap ownerId).settledRows ownerId).Nodup :=
    (rows.filter _).filter _
  rw [perm_ext_iff_of_nodup kept parts.1]
  intro row
  rw [Relay.settledRows, mem_filter, mem_trimmed unique, decide_eq_true_eq]
  constructor
  · rintro ⟨⟨stored, kept⟩, owned⟩
    have among := mem_newest_first.mpr ⟨stored, owned⟩
    rw [← whole, mem_append] at among
    exact among.resolve_right kept
  · intro first
    obtain ⟨stored, owned⟩ := mem_newest_first.mp (mem_of_mem_take first)
    exact ⟨⟨stored, fun last => parts.2.2 row first row last rfl⟩, owned⟩

/-- What trims left of the settled rows of an owner. -/
structure Relay.Trimmed (cap : Nat) (ownerId : String) (before relay : Relay) : Prop where
  unique : UniqueKey RelayEvent.id relay.events
  subset : ∀ event ∈ relay.events, event ∈ before.events
  opened : ∀ event ∈ before.events, event.status.isTerminal = false → event ∈ relay.events
  newest : ∀ gone ∈ before.settledRows ownerId, gone ∉ relay.events →
    cap ≤ (relay.settledRows ownerId).length ∧ ∀ kept ∈ relay.settledRows ownerId, kept.Newer gone

theorem trim_keeps_count (unique : UniqueKey RelayEvent.id relay.events)
    (enough : cap ≤ (relay.settledRows ownerId).length) :
    cap ≤ ((relay.trimOwner cap other).settledRows ownerId).length := by
  by_cases own : other = ownerId
  · rw [own, (trimmed_own unique).length_eq, length_take, Relay.newestFirst, length_insertionSort]
    exact le_min le_rfl enough
  · rwa [trimmed_other unique own]

theorem trim_own_newest (unique : UniqueKey RelayEvent.id relay.events)
    (mem : event ∈ relay.settledRows ownerId)
    (gone : event ∉ (relay.trimOwner cap ownerId).events) :
    cap ≤ (relay.settledRows ownerId).length ∧
      ∀ kept ∈ (relay.trimOwner cap ownerId).settledRows ownerId, kept.Newer event := by
  have stored : event ∈ relay.events := mem_of_mem_filter mem
  have dropped : event ∈ (relay.newestFirst ownerId).drop cap := by
    by_contra kept
    exact gone ((mem_trimmed unique).mpr ⟨stored, kept⟩)
  constructor
  · by_contra short
    rw [Relay.newestFirst, drop_of_length_le] at dropped
    · cases dropped
    · rw [length_insertionSort]
      exact (not_le.mp short).le
  · intro kept stays
    have sorted := pairwise_insertionSort RelayEvent.Newer (relay.settledRows ownerId)
    rw [← Relay.newestFirst, ← take_append_drop cap (relay.newestFirst ownerId)] at sorted
    exact (pairwise_append.mp sorted).2.2 kept ((trimmed_own unique).mem_iff.mp stays) event dropped

theorem trim_trimmed {before : Relay} (trimmed : Relay.Trimmed cap ownerId before relay) :
    Relay.Trimmed cap ownerId before (relay.trimOwner cap other) := by
  have unique := trimmed.unique
  constructor
  · exact unique.sublist (filter_sublist.map RelayEvent.id)
  · intro event mem
    exact trimmed.subset event (mem_of_mem_filter mem)
  · intro event mem unsettled
    refine (mem_trimmed unique).mpr ⟨trimmed.opened event mem unsettled, ?_⟩
    intro dropped
    rw [(mem_newest_first.mp (mem_of_mem_drop dropped)).2.2] at unsettled
    cases unsettled
  · intro gone mem removed
    by_cases stored : gone ∈ relay.events
    · have settled : gone ∈ relay.settledRows ownerId :=
        mem_filter.mpr ⟨stored, (mem_filter.mp mem).2⟩
      by_cases own : other = ownerId
      · subst own
        obtain ⟨enough, newer⟩ := trim_own_newest unique settled removed
        exact ⟨trim_keeps_count unique enough, newer⟩
      · rw [← trimmed_other unique own] at settled
        exact absurd (mem_of_mem_filter settled) removed
    · obtain ⟨enough, newer⟩ := trimmed.newest gone mem stored
      refine ⟨trim_keeps_count unique enough, fun kept stays => newer kept ?_⟩
      obtain ⟨listed, owned⟩ := mem_filter.mp stays
      exact mem_filter.mpr ⟨mem_of_mem_filter listed, owned⟩

theorem trims_trimmed {before : Relay} (owners : List String)
    (trimmed : Relay.Trimmed cap ownerId before relay) :
    Relay.Trimmed cap ownerId before (owners.foldl (Relay.trimOwner cap) relay) := by
  induction owners generalizing relay with
  | nil => exact trimmed
  | cons owner rest ih => exact ih (trim_trimmed trimmed)

theorem cleanup_trimmed (unique : UniqueKey RelayEvent.id relay.events) :
    Relay.Trimmed settings.maxTerminalRowsPerOwner ownerId (relay.tombstoned settings now)
      (cleanupTerminalEvents settings relay now).1 := by
  apply trims_trimmed
  constructor
  · exact unique_key_update (fun _ => rfl) (unique.sublist (filter_sublist.map RelayEvent.id))
  · exact fun _ mem => mem
  · exact fun _ mem _ => mem
  · exact fun _ mem gone => absurd (mem_of_mem_filter mem) gone

theorem cleanup_aged (unique : UniqueKey RelayEvent.id relay.events)
    (unmoved : ∀ event ∈ relay.events, event.movedBy settings now = false) :
    Relay.Aged none relay (cleanupTerminalEvents settings relay now).1 := by
  have trimmed : Relay.Trimmed settings.maxTerminalRowsPerOwner "" (relay.tombstoned settings now)
      (cleanupTerminalEvents settings relay now).1 := cleanup_trimmed unique
  have aged := tombstoned_aged unmoved
  constructor
  · exact fun row mem => aged.rows row (trimmed.subset row mem)
  · exact fun _ => trimmed.unique
  · have trims : ∀ (owners : List String) (relay : Relay), (owners.foldl
        (Relay.trimOwner settings.maxTerminalRowsPerOwner) relay).issued = relay.issued := by
      intro owners
      induction owners with
      | nil => exact fun _ => rfl
      | cons owner rest ih => exact fun _ => ih _
    exact trims _ _

structure RelayHistory where
  system : System Relay RelayTicket
  settled : List (String × Time)

def writeClock : Event RelayRequest RelayInput → Option Time
  | .resume _ (.tokens _ now) | .resume _ (.clock now) => some now
  | _ => none

def settledNow (clock : Option Time) (relay next : Relay) : List (String × Time) :=
  (next.events.filter fun row => row.status.isTerminal && relay.events.any fun old =>
    decide (old.id = row.id) && !old.status.isTerminal).flatMap fun row =>
      clock.toList.map fun now => (row.id, now)

def nextHistory (hash : String → String) (settings : RelaySettings) (history : RelayHistory)
    (event : Event RelayRequest RelayInput) : Option RelayHistory :=
  ((relayRoutine hash settings).next history.system event).map fun after =>
    ⟨after, history.settled ++ settledNow (writeClock event) history.system.data after.data⟩

def relayHistories (hash : String → String) (settings : RelaySettings) :
    Machine RelayHistory (Event RelayRequest RelayInput) where
  Initial history :=
    (history.system.data.Fresh ∧ history.system.pending = []) ∧ history.settled = []
  Step history event after := nextHistory hash settings history event = some after

/-- No cleanup clears a dead letter that is not due for removal, and no acknowledgement
writes an event that is settled. -/
def retentionKept (settings : RelaySettings) (history : RelayHistory) :
    Event RelayRequest RelayInput → Bool
  | .call (.cleanup now) =>
    history.system.data.events.all fun event => !event.movedBy settings now
  | .resume index _ =>
    match history.system.pending[index]? with
    | some (.acknowledge acknowledgement _) => history.system.data.events.all fun event =>
      decide (event.id ≠ acknowledgement.eventId) || !event.status.isTerminal
    | _ => true
  | _ => true

def RetentionKept (settings : RelaySettings) (history : RelayHistory)
    (event : Event RelayRequest RelayInput) : Prop :=
  retentionKept settings history event = true

structure Relay.Dated (settled : List (String × Time)) (relay : Relay) : Prop where
  unique : UniqueKey RelayEvent.id relay.events
  known : ∀ event ∈ relay.events, event.id ∈ relay.issued
  opened : ∀ event ∈ relay.events, event.status.isTerminal = false → event.acknowledgedAt = none
  stamped : ∀ entry ∈ settled, ∀ event ∈ relay.events, event.id = entry.1 →
    event.status.isTerminal = true ∧ event.settledAt = entry.2
  listed : ∀ event ∈ relay.events, event.status.isTerminal = true →
    (event.id, event.settledAt) ∈ settled
  past : ∀ entry ∈ settled, entry.1 ∈ relay.issued

variable {settled : List (String × Time)} {history : RelayHistory} {system after :
  System Relay RelayTicket} {action : Event RelayRequest RelayInput}

theorem mem_settled_now {entry : String × Time} : entry ∈ settledNow clock relay next ↔
    ∃ row ∈ next.events, row.status.isTerminal = true ∧ row.id = entry.1 ∧
      clock = some entry.2 ∧ ∃ old ∈ relay.events, old.id = row.id ∧
        old.status.isTerminal = false := by
  obtain ⟨eventId, time⟩ := entry
  simp only [settledNow, mem_flatMap, mem_filter, Bool.and_eq_true, List.any_eq_true,
    decide_eq_true_eq, Bool.not_eq_true', List.mem_map, mem_toList,
    Prod.mk.injEq]
  constructor
  · rintro ⟨row, ⟨mem, terminal, old, stored, same, opened⟩, now, written, named, rfl⟩
    exact ⟨row, mem, terminal, named, written, old, stored, same, opened⟩
  · rintro ⟨row, mem, terminal, named, written, old, stored, same, opened⟩
    exact ⟨row, ⟨mem, terminal, old, stored, same, opened⟩, time, written, named, rfl⟩

theorem aged_dated (dated : relay.Dated settled) (aged : Relay.Aged clock relay next) :
    next.Dated (settled ++ settledNow clock relay next) := by
  have unique := aged.unique dated.unique
  constructor
  · exact unique
  · intro row mem
    obtain ⟨old, stored, ages⟩ := aged.rows row mem
    rw [ages.id, aged.issued]
    exact dated.known old stored
  · intro row mem open_status
    obtain ⟨old, stored, ages⟩ := aged.rows row mem
    cases before : old.status.isTerminal with
    | true =>
      rw [(ages.settled before).1] at open_status
      cases open_status
    | false =>
      rcases ages.opened ⟨before, dated.opened old stored before⟩ with still | ⟨terminal, -⟩
      · exact still.2
      · rw [terminal] at open_status
        cases open_status
  · intro entry listed row mem named
    obtain ⟨old, stored, ages⟩ := aged.rows row mem
    rcases mem_append.mp listed with earlier | new
    · obtain ⟨terminal, age⟩ := dated.stamped entry earlier old stored (ages.id.symm.trans named)
      obtain ⟨still, same⟩ := ages.settled terminal
      exact ⟨still, same.trans age⟩
    · obtain ⟨found, foundMem, terminal, foundNamed, written, source, sourceMem, same,
        opened⟩ := mem_settled_now.mp new
      have one : found = row :=
        unique_key_eq unique foundMem mem (foundNamed.trans named.symm)
      subst one
      have origin : source = old :=
        unique_key_eq dated.unique sourceMem stored (same.trans ages.id)
      subst origin
      rcases ages.opened ⟨opened, dated.opened source stored opened⟩ with still | ⟨-, at_clock⟩
      · rw [still.1] at terminal
        cases terminal
      · exact ⟨terminal, Option.some.inj (at_clock.symm.trans written)⟩
  · intro row mem terminal
    obtain ⟨old, stored, ages⟩ := aged.rows row mem
    cases before : old.status.isTerminal with
    | true =>
      rw [ages.id, (ages.settled before).2]
      exact mem_append_left _ (dated.listed old stored before)
    | false =>
      rcases ages.opened ⟨before, dated.opened old stored before⟩ with still | ⟨-, at_clock⟩
      · rw [still.1] at terminal
        cases terminal
      · exact mem_append_right _ (mem_settled_now.mpr
          ⟨row, mem, terminal, rfl, at_clock, old, stored, ages.id.symm, before⟩)
  · intro entry listed
    rw [aged.issued]
    rcases mem_append.mp listed with earlier | new
    · exact dated.past entry earlier
    · obtain ⟨row, -, -, named, -, old, stored, same, -⟩ := mem_settled_now.mp new
      rw [← named, ← same]
      exact dated.known old stored

theorem insert_dated (dated : relay.Dated settled) (fresh : event.id ∉ relay.issued)
    (opened : event.IsOpen) :
    Relay.Dated settled { relay with
      events := relay.events ++ [event], issued := relay.issued ++ [event.id] } := by
  have cases : ∀ row ∈ relay.events ++ [event], row ∈ relay.events ∨ row = event := by
    intro row mem
    simpa using mem
  constructor
  · apply unique_key_append dated.unique
    intro other stored same
    exact fresh (same ▸ dated.known other stored)
  · intro row mem
    rcases cases row mem with stored | rfl
    · exact mem_append_left _ (dated.known row stored)
    · simp
  · intro row mem open_status
    rcases cases row mem with stored | rfl
    · exact dated.opened row stored open_status
    · exact opened.2
  · intro entry listed row mem named
    rcases cases row mem with stored | rfl
    · exact dated.stamped entry listed row stored named
    · exact absurd (named ▸ dated.past entry listed) fresh
  · intro row mem terminal
    rcases cases row mem with stored | rfl
    · exact dated.listed row stored terminal
    · rw [opened.1] at terminal
      cases terminal
  · intro entry listed
    exact mem_append_left _ (dated.past entry listed)

theorem step_ages (dated : relay.Dated settled) {pending : List RelayTicket}
    (guarded : RetentionKept settings ⟨⟨relay, pending⟩, settled⟩ action)
    (move : Move (relayRoutine hash settings) ⟨relay, pending⟩ action after) :
    Relay.Aged (writeClock action) relay after.data ∨ (writeClock action = none ∧
      ∃ event : RelayEvent, event.id ∉ relay.issued ∧ event.IsOpen ∧ after.data = { relay with
        events := relay.events ++ [event], issued := relay.issued ++ [event.id] }) := by
  cases move with
  | crash index => exact Or.inl (aged_refl rfl rfl)
  | call request data ticket taken =>
    left
    have called : callRelay hash settings relay request = some (data, ticket) := taken
    cases request with
    | registerDevice ownerId deviceId name now =>
      rw [callRelay] at called
      split at called
      · next registered => cases called; exact register_aged registered
      · cases called; exact aged_refl rfl rfl
    | createEvent draft =>
      rw [callRelay] at called
      split at called <;> cases called <;> exact aged_refl rfl rfl
    | leaseEvents ownerId deviceId limit now =>
      rw [callRelay] at called
      split at called
      · next registered => cases called; exact register_aged registered
      · cases called; exact aged_refl rfl rfl
    | acknowledge acknowledgement now => cases called; exact aged_refl rfl rfl
    | cleanup now =>
      cases called
      apply cleanup_aged dated.unique
      simpa [RetentionKept, retentionKept] using guarded
    | deleteAccount accountId =>
      cases called
      exact aged_trans (discard_aged _) (aged_refl rfl rfl)
  | resume index input ticket data later found taken =>
    have resumed : resumeRelay hash settings relay ticket input = some (data, later) := taken
    cases ticket with
    | createEvent draft =>
      cases input with
      | event eventId now =>
        rw [resumeRelay] at resumed
        split at resumed
        · cases resumed
        · next fresh =>
          cases resumed
          rw [insertRelayEvent]
          split
          · exact Or.inl (aged_refl rfl rfl)
          · exact Or.inr ⟨rfl, draft.event settings eventId now, fresh, ⟨rfl, rfl⟩, rfl⟩
      | _ => cases resumed
    | leaseEvents ownerId deviceId limit =>
      cases input with
      | tokens tokens now =>
        rw [resumeRelay, ite_none_right_eq_some] at resumed
        cases resumed.2
        exact Or.inl lease_events_aged
      | _ => cases resumed
    | acknowledge acknowledgement row =>
      cases input with
      | clock now =>
        cases resumed
        left
        apply acknowledge_aged
        simp only [RetentionKept, retentionKept, found, List.all_eq_true, Bool.or_eq_true,
          decide_eq_true_eq, Bool.not_eq_true'] at guarded
        exact fun event mem named =>
          (guarded event mem).resolve_left (not_not.mpr named)
      | _ => cases resumed

theorem history_dated {next : RelayHistory} (dated : history.system.data.Dated history.settled)
    (guarded : RetentionKept settings history action)
    (step : nextHistory hash settings history action = some next) :
    next.system.data.Dated next.settled := by
  obtain ⟨after, taken, rfl⟩ := map_eq_some_iff.mp step
  rcases step_ages dated guarded (next_move taken) with
    aged | ⟨silent, event, fresh, opened, written⟩
  · exact aged_dated dated aged
  · have none_settled : settledNow (writeClock action) history.system.data after.data = [] := by
      simp [settledNow, silent]
    show after.data.Dated (history.settled ++ _)
    rw [none_settled, append_nil, written]
    exact insert_dated dated fresh opened

theorem reachable_dated
    (reachable : (relayHistories hash settings).Reachable (RetentionKept settings) history) :
    history.system.data.Dated history.settled := by
  apply reachable_invariant (fun history : RelayHistory =>
    history.system.data.Dated history.settled) _ _ reachable
  · rintro start ⟨⟨⟨-, events, -⟩, -⟩, settled⟩
    constructor <;> simp [events, settled, UniqueKey]
  · exact fun state event next dated guarded step => history_dated dated guarded step

def RelayHistory.cleaned (settings : RelaySettings) (history : RelayHistory) (now : Time) : Relay :=
  (cleanupTerminalEvents settings history.system.data now).1

theorem history_trimmed (settings : RelaySettings) (ownerId : String) (now : Time)
    (dated : history.system.data.Dated history.settled) :
    Relay.Trimmed settings.maxTerminalRowsPerOwner ownerId
      (history.system.data.tombstoned settings now) (history.cleaned settings now) :=
  cleanup_trimmed dated.unique

theorem cleanup_removes_due (dated : history.system.data.Dated history.settled)
    {entry : String × Time} (listed : entry ∈ history.settled)
    (due : entry.2 ≤ now - settings.terminalRetentionSeconds)
    (mem : event ∈ (history.cleaned settings now).events) : event.id ≠ entry.1 := by
  intro named
  have stays := (history_trimmed settings "" now dated).subset event mem
  have retained : ∃ old ∈ (history.system.data.discard fun event => !(event.status.isTerminal &&
      decide (event.settledAt ≤ now - settings.terminalRetentionSeconds))).events,
        old.id = event.id := by
    rcases mem_rewritten stays with kept | ⟨old, kept, -, rfl⟩
    · exact ⟨event, kept, rfl⟩
    · exact ⟨old, kept, rfl⟩
  obtain ⟨old, kept, same⟩ := retained
  obtain ⟨stored, undue⟩ := mem_filter.mp kept
  obtain ⟨terminal, age⟩ := dated.stamped entry listed old stored (same.trans named)
  simp [terminal, age, due] at undue

theorem cleanup_keeps_open (dated : history.system.data.Dated history.settled)
    (mem : event ∈ history.system.data.events) (opened : event.status.isTerminal = false) :
    event ∈ (history.cleaned settings now).events := by
  refine (history_trimmed settings "" now dated).opened event ?_ opened
  apply mem_update_of_not_chosen
  · exact mem_filter.mpr ⟨mem, by simp [opened]⟩
  · simp [opened]

theorem cleanup_removes_oldest (dated : history.system.data.Dated history.settled)
    (guarded : RetentionKept settings history (.call (.cleanup now))) {removed : RelayEvent}
    {since : Time} (stored : removed ∈ history.system.data.events)
    (listed : (removed.id, since) ∈ history.settled)
    (recent : now - settings.terminalRetentionSeconds < since)
    (gone : ∀ event ∈ (history.cleaned settings now).events, event.id ≠ removed.id) :
    settings.maxTerminalRowsPerOwner ≤
        ((history.cleaned settings now).settledRows removed.ownerId).length ∧
      ∀ kept ∈ (history.cleaned settings now).events, ∀ later,
        (kept.id, later) ∈ history.settled → kept.ownerId = removed.ownerId → since ≤ later := by
  obtain ⟨terminal, age⟩ := dated.stamped _ listed removed stored rfl
  have unmoved : ∀ event ∈ history.system.data.events, event.movedBy settings now = false := by
    simpa [RetentionKept, retentionKept] using guarded
  have aged := tombstoned_aged unmoved
  have trimmed := history_trimmed settings removed.ownerId now dated
  -- The removed row as it stood before the cap.
  have before : ∃ row ∈ (history.system.data.tombstoned settings now).events,
      row.id = removed.id ∧ row.ownerId = removed.ownerId := by
    have retained : removed ∈ (history.system.data.discard fun event =>
        !(event.status.isTerminal && decide (event.settledAt ≤
          now - settings.terminalRetentionSeconds))).events :=
      mem_filter.mpr ⟨stored, by simp [terminal, age, recent]⟩
    refine ⟨_, mem_update_where.mpr ⟨removed, retained, rfl⟩, ?_⟩
    split <;> exact ⟨rfl, rfl⟩
  obtain ⟨row, mem, named, owned⟩ := before
  obtain ⟨old, oldStored, ages⟩ := aged.rows row mem
  have one : old = removed :=
    unique_key_eq dated.unique oldStored stored (ages.id.symm.trans named)
  subst one
  obtain ⟨still, same⟩ := ages.settled terminal
  have settledRow : row ∈ (history.system.data.tombstoned settings now).settledRows
      old.ownerId := by
    simp [Relay.settledRows, mem, owned, still]
  obtain ⟨enough, newer⟩ := trimmed.newest row settledRow fun kept => gone row kept named
  refine ⟨enough, fun kept keptMem later keptListed keptOwner => ?_⟩
  obtain ⟨source, sourceStored, keptAges⟩ := aged.rows kept (trimmed.subset kept keptMem)
  obtain ⟨keptTerminal, keptAge⟩ := dated.stamped _ keptListed source sourceStored keptAges.id.symm
  obtain ⟨keptStill, keptSame⟩ := keptAges.settled keptTerminal
  have order := newer kept (by simp [Relay.settledRows, keptMem, keptOwner, keptStill])
  rw [RelayEvent.Newer, same, age, keptSame, keptAge] at order
  rcases order with after | ⟨equal, -⟩
  · exact after.le
  · exact equal.ge

/-- In a history that keeps the ages, a cleanup removes every event that has been settled for
the terminal retention, keeps every open one, and beyond that removes only events of an
owner that still has as many newer ones as the cap. -/
theorem relay_retention (hash : String → String) (settings : RelaySettings)
    {history : RelayHistory}
    (reachable : (relayHistories hash settings).Reachable (RetentionKept settings) history)
    (now : Time) :
    (∀ entry ∈ history.settled, entry.2 ≤ now - settings.terminalRetentionSeconds →
      ∀ event ∈ (history.cleaned settings now).events, event.id ≠ entry.1) ∧
    (∀ event ∈ history.system.data.events, event.status.isTerminal = false →
      event ∈ (history.cleaned settings now).events) ∧
    (RetentionKept settings history (.call (.cleanup now)) →
      ∀ removed ∈ history.system.data.events, ∀ since, (removed.id, since) ∈ history.settled →
        now - settings.terminalRetentionSeconds < since →
        (∀ event ∈ (history.cleaned settings now).events, event.id ≠ removed.id) →
        settings.maxTerminalRowsPerOwner ≤
            ((history.cleaned settings now).settledRows removed.ownerId).length ∧
          ∀ kept ∈ (history.cleaned settings now).events, ∀ later,
            (kept.id, later) ∈ history.settled → kept.ownerId = removed.ownerId → since ≤ later) ∧
    ∀ event ∈ history.system.data.events, event.status.isTerminal = true →
      ∃ since, (event.id, since) ∈ history.settled := by
  have dated := reachable_dated reachable
  refine ⟨fun entry listed due event => cleanup_removes_due dated listed due,
    fun event => cleanup_keeps_open dated, fun guarded removed stored since listed recent gone =>
      cleanup_removes_oldest dated guarded stored listed recent gone, ?_⟩
  exact fun event mem terminal => ⟨_, dated.listed event mem terminal⟩

def runHistory (guard : RelayHistory → Event RelayRequest RelayInput → Bool)
    (events : List (Event RelayRequest RelayInput)) : Option RelayHistory :=
  events.foldlM (fun history event => if guard history event then
    nextHistory id relayDefaults history event else none) ⟨⟨emptyRelay, []⟩, []⟩

def eventSent : List (Event RelayRequest RelayInput) :=
  [.call (.registerDevice "owner" "device-1" "laptop" 0), .call (.createEvent buildEvent),
    .resume 0 (.event "event" 1)]

def leaseAt (tokens : List String) (now : Time) : List (Event RelayRequest RelayInput) :=
  [.call (.leaseEvents "owner" "device-1" 10 now), .resume 0 (.tokens tokens now)]

theorem run_history_reachable {guard : RelayHistory → Event RelayRequest RelayInput → Bool}
    {events : List (Event RelayRequest RelayInput)}
    (ran : runHistory guard events = some history) :
    (relayHistories id relayDefaults).Reachable
      (fun history event => guard history event = true) history :=
  ⟨_, ⟨⟨⟨rfl, rfl, rfl, rfl⟩, rfl⟩, rfl⟩, path_of_run guard _ (fun _ _ _ taken => taken) ran⟩

theorem acknowledged_event_removed : ∃ history, runHistory (retentionKept relayDefaults)
      (eventSent ++ leaseAt ["first"] 2 ++ [.call (.acknowledge acknowledgeFirst 100),
        .resume 0 (.clock 101), .call (.cleanup 87000)]) = some history ∧
    history.settled = [("event", 101)] ∧
    ∀ event ∈ (history.cleaned relayDefaults 2592101).events, event.id ≠ "event" := by
  have ran : (runHistory (retentionKept relayDefaults) (eventSent ++ leaseAt ["first"] 2 ++
      [.call (.acknowledge acknowledgeFirst 100), .resume 0 (.clock 101),
        .call (.cleanup 87000)])).map RelayHistory.settled = some [("event", 101)] := by
    decide +kernel
  obtain ⟨history, done, settled⟩ := map_eq_some_iff.mp ran
  have removed := relay_retention id relayDefaults (run_history_reachable done) 2592101
  refine ⟨history, done, settled, removed.1 ("event", 101) ?_ ?_⟩
  · rw [settled]
    exact mem_singleton.mpr rfl
  · decide +kernel

theorem dead_letter_outlives_retention : ∃ history : RelayHistory,
    (relayHistories id relayDefaults).Reachable Anything history ∧
    ("event", 1000) ∈ history.settled ∧
    ∃ event ∈ (history.cleaned relayDefaults 2593000).events,
      event.id = "event" ∧ event.status = .deadLetter := by
  have ran : (runHistory (fun _ _ => true) (eventSent ++ leaseAt ["a"] 2 ++ leaseAt ["b"] 200 ++
      leaseAt ["c"] 400 ++ leaseAt ["d"] 600 ++ leaseAt ["e"] 800 ++ leaseAt [] 1000 ++
      [.call (.cleanup 87400)])).map (fun history => (decide (("event", 1000) ∈ history.settled),
        (history.cleaned relayDefaults 2593000).events.any fun event =>
          decide (event.id = "event" ∧ event.status = .deadLetter))) = some (true, true) := by
    decide +kernel
  obtain ⟨history, done, computed⟩ := map_eq_some_iff.mp ran
  obtain ⟨settled, kept⟩ := Prod.mk.inj computed
  refine ⟨history, reachable_weaken (fun _ _ _ => trivial) (run_history_reachable done),
    of_decide_eq_true settled, ?_⟩
  obtain ⟨event, mem, found⟩ := List.any_eq_true.mp kept
  exact ⟨event, mem, of_decide_eq_true found⟩

end AgentMate
