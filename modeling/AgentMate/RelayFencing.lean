import AgentMate.RelayStore
import Mathlib.Logic.Relation

/-! # Fencing of relay acknowledgements -/

namespace AgentMate

open TransitionSystem Interleaving Table List Option

variable {hash : String → String} {settings : RelaySettings} {relay next : Relay}

structure RelayEvent.Follows (old new : RelayEvent) : Prop where
  id : new.id = old.id
  attempt : new.attempt = old.attempt
  most : new.maxAttempts = old.maxAttempts
  settled : old.status.isTerminal = true → new.status = old.status
  leased : new.status = .leased → old.status = .leased ∧ new.leaseTokenHash = old.leaseTokenHash
  pending : new.status = .pending → old.attempt < old.maxAttempts

inductive Relay.Effect (hash : String → String) (relay : Relay) : Relay → Prop
  | devices (devices : List RelayDevice) : Relay.Effect hash relay { relay with devices := devices }
  | rewrite (chosen : RelayEvent → Prop) [DecidablePred chosen] (assign : RelayEvent → RelayEvent)
      (follows : ∀ event ∈ relay.events, chosen event → event.Follows (assign event)) :
      Relay.Effect hash relay (relay.updateEvents chosen assign)
  | discard (keep : RelayEvent → Bool) : Relay.Effect hash relay (relay.discard keep)
  | insert (event : RelayEvent) (fresh : event.id ∉ relay.issued)
      (pending : event.status = .pending) (attempt : event.attempt = 0)
      (most : 0 < event.maxAttempts) :
      Relay.Effect hash relay { relay with
        events := relay.events ++ [event], issued := relay.issued ++ [event.id] }
  | lease (event : RelayEvent) (token : String) (leaseUntil now : Time)
      (found : relay.event? event.id = some event) (pending : event.status = .pending)
      (fresh : ∀ lease ∈ relay.handed, hash lease.leaseToken ≠ hash token) :
      Relay.Effect hash relay
        { relay.updateEvents (fun row => row.id = event.id ∧ row.status = .pending)
            (RelayEvent.lease (hash token) leaseUntil now) with
          handed := relay.handed ++ [⟨event.lease (hash token) leaseUntil now, token⟩] }

abbrev Relay.Effects (hash : String → String) : Relay → Relay → Prop :=
  Relation.ReflTransGen (Relay.Effect hash)

theorem effect_handed (effect : relay.Effect hash next) : relay.handed <+: next.handed := by
  cases effect with
  | lease event token leaseUntil now found pending fresh => exact prefix_append _ _
  | _ => exact prefix_rfl

theorem effects_handed (effects : Relay.Effects hash relay next) :
    relay.handed <+: next.handed := by
  induction effects with
  | refl => exact prefix_rfl
  | tail _ effect ih => exact ih.trans (effect_handed effect)

structure RelayInv (hash : String → String) (relay : Relay) : Prop where
  unique : UniqueKey RelayEvent.id relay.events
  known : ∀ event ∈ relay.events, event.id ∈ relay.issued
  bounded : ∀ event ∈ relay.events, event.attempt ≤ event.maxAttempts
  waiting : ∀ event ∈ relay.events, event.status = .pending → event.attempt < event.maxAttempts
  recorded : ∀ lease ∈ relay.handed, lease.event.id ∈ relay.issued
  earlier : ∀ lease ∈ relay.handed, ∀ event ∈ relay.events, event.id = lease.event.id →
    lease.event.attempt ≤ event.attempt
  attempts : UniqueKey (fun lease : LeasedEvent => (lease.event.id, lease.event.attempt))
    relay.handed
  tokens : UniqueKey (fun lease : LeasedEvent => hash lease.leaseToken) relay.handed
  current : ∀ event ∈ relay.events, event.status = .leased → ∃ lease ∈ relay.handed,
    lease.event.id = event.id ∧ lease.event.attempt = event.attempt ∧
      event.leaseTokenHash = some (hash lease.leaseToken)

variable {chosen : RelayEvent → Prop} {assign : RelayEvent → RelayEvent} {row event : RelayEvent}
  {eventId ownerId deviceId : String} {status : RelayStatus} {now : Time} {due : String × String}
  {acknowledgement : Acknowledgement} {request : RelayRequest} {ticket : RelayTicket}
  {system : System Relay RelayTicket}

theorem mem_rewritten [DecidablePred chosen]
    (mem : row ∈ (relay.updateEvents chosen assign).events) :
    row ∈ relay.events ∨ ∃ old ∈ relay.events, chosen old ∧ row = assign old := by
  obtain ⟨old, stored, same⟩ := mem_update_where.mp mem
  by_cases choice : chosen old
  · rw [if_pos choice] at same
    exact Or.inr ⟨old, stored, choice, same.symm⟩
  · rw [if_neg choice] at same
    exact Or.inl (same ▸ stored)

theorem follows_refl (waiting : event.status = .pending → event.attempt < event.maxAttempts) :
    event.Follows event :=
  ⟨rfl, rfl, rfl, fun _ => rfl, fun leased => ⟨leased, rfl⟩, waiting⟩

theorem rewrite_inv [DecidablePred chosen] (inv : RelayInv hash relay)
    (follows : ∀ event ∈ relay.events, chosen event → event.Follows (assign event)) :
    RelayInv hash (relay.updateEvents chosen assign) := by
  have origin : ∀ row ∈ (relay.updateEvents chosen assign).events,
      ∃ old ∈ relay.events, old.Follows row := by
    intro row mem
    rcases mem_rewritten mem with kept | ⟨old, stored, choice, rfl⟩
    · exact ⟨row, kept, follows_refl (inv.waiting row kept)⟩
    · exact ⟨old, stored, follows old stored choice⟩
  have ids : (relay.updateEvents chosen assign).events.map RelayEvent.id =
      relay.events.map RelayEvent.id := by
    simp only [Relay.updateEvents, updateWhere, List.map_map]
    apply map_congr_left
    intro row stored
    simp only [Function.comp_apply]
    split
    · next choice => exact (follows row stored choice).id
    · rfl
  constructor
  · rw [UniqueKey, ids]
    exact inv.unique
  · intro row mem
    obtain ⟨old, stored, same⟩ := origin row mem
    rw [same.id]
    exact inv.known old stored
  · intro row mem
    obtain ⟨old, stored, same⟩ := origin row mem
    rw [same.attempt, same.most]
    exact inv.bounded old stored
  · intro row mem pending
    obtain ⟨old, stored, same⟩ := origin row mem
    rw [same.attempt, same.most]
    exact same.pending pending
  · exact inv.recorded
  · intro lease listed row mem named
    obtain ⟨old, stored, same⟩ := origin row mem
    rw [same.attempt]
    exact inv.earlier lease listed old stored (same.id.symm.trans named)
  · exact inv.attempts
  · exact inv.tokens
  · intro row mem leased
    obtain ⟨old, stored, same⟩ := origin row mem
    obtain ⟨wasLeased, token⟩ := same.leased leased
    obtain ⟨lease, listed, named, attempt, current⟩ := inv.current old stored wasLeased
    exact ⟨lease, listed, named.trans same.id.symm, attempt.trans same.attempt.symm,
      token.trans current⟩

theorem discard_inv (inv : RelayInv hash relay) (keep : RelayEvent → Bool) :
    RelayInv hash (relay.discard keep) := by
  have kept : ∀ row ∈ (relay.discard keep).events, row ∈ relay.events := by
    intro row mem
    exact mem_of_mem_filter mem
  constructor
  · exact inv.unique.sublist (filter_sublist.map RelayEvent.id)
  · intro row mem
    exact inv.known row (kept row mem)
  · intro row mem
    exact inv.bounded row (kept row mem)
  · intro row mem
    exact inv.waiting row (kept row mem)
  · exact inv.recorded
  · intro lease listed row mem
    exact inv.earlier lease listed row (kept row mem)
  · exact inv.attempts
  · exact inv.tokens
  · intro row mem
    exact inv.current row (kept row mem)

theorem insert_inv (inv : RelayInv hash relay) (fresh : event.id ∉ relay.issued)
    (pending : event.status = .pending) (attempt : event.attempt = 0)
    (most : 0 < event.maxAttempts) :
    RelayInv hash { relay with
      events := relay.events ++ [event], issued := relay.issued ++ [event.id] } := by
  have cases : ∀ row ∈ relay.events ++ [event], row ∈ relay.events ∨ row = event := by
    intro row mem
    simpa using mem
  constructor
  · apply unique_key_append inv.unique
    intro other stored same
    exact fresh (same ▸ inv.known other stored)
  · intro row mem
    rcases cases row mem with stored | rfl
    · exact mem_append_left _ (inv.known row stored)
    · simp
  · intro row mem
    rcases cases row mem with stored | rfl
    · exact inv.bounded row stored
    · omega
  · intro row mem waiting
    rcases cases row mem with stored | rfl
    · exact inv.waiting row stored waiting
    · omega
  · intro lease listed
    exact mem_append_left _ (inv.recorded lease listed)
  · intro lease listed row mem named
    rcases cases row mem with stored | rfl
    · exact inv.earlier lease listed row stored named
    · exact absurd (named ▸ inv.recorded lease listed) fresh
  · exact inv.attempts
  · exact inv.tokens
  · intro row mem leased
    rcases cases row mem with stored | rfl
    · exact inv.current row stored leased
    · rw [pending] at leased
      cases leased

theorem lease_inv {token : String} {leaseUntil now : Time} (inv : RelayInv hash relay)
    (found : relay.event? event.id = some event) (pending : event.status = .pending)
    (fresh : ∀ lease ∈ relay.handed, hash lease.leaseToken ≠ hash token) :
    RelayInv hash
      { relay.updateEvents (fun row => row.id = event.id ∧ row.status = .pending)
          (RelayEvent.lease (hash token) leaseUntil now) with
        handed := relay.handed ++ [⟨event.lease (hash token) leaseUntil now, token⟩] } := by
  have stored : event ∈ relay.events := lookup_mem found
  have room := inv.waiting event stored pending
  -- The only row the update meets is the event itself.
  have cases : ∀ row ∈ (relay.updateEvents (fun row => row.id = event.id ∧ row.status = .pending)
      (RelayEvent.lease (hash token) leaseUntil now)).events,
      (row ∈ relay.events ∧ row.id ≠ event.id) ∨ row = event.lease (hash token) leaseUntil now := by
    intro row mem
    obtain ⟨old, oldStored, same⟩ := mem_update_where.mp mem
    by_cases named : old.id = event.id
    · have one := unique_key_eq inv.unique oldStored stored named
      rw [one, if_pos ⟨rfl, pending⟩] at same
      exact Or.inr same.symm
    · rw [if_neg fun choice => named choice.1] at same
      exact Or.inl ⟨same ▸ oldStored, same ▸ named⟩
  have items : ∀ lease ∈ relay.handed ++ [⟨event.lease (hash token) leaseUntil now, token⟩],
      lease ∈ relay.handed ∨ lease = ⟨event.lease (hash token) leaseUntil now, token⟩ := by
    intro lease listed
    simpa using listed
  constructor
  · exact unique_key_update (fun _ => rfl) inv.unique
  · intro row mem
    rcases cases row mem with ⟨kept, -⟩ | rfl
    · exact inv.known row kept
    · exact inv.known event stored
  · intro row mem
    rcases cases row mem with ⟨kept, -⟩ | rfl
    · exact inv.bounded row kept
    · exact room
  · intro row mem waiting
    rcases cases row mem with ⟨kept, -⟩ | rfl
    · exact inv.waiting row kept waiting
    · cases waiting
  · intro lease listed
    rcases items lease listed with old | rfl
    · exact inv.recorded lease old
    · exact inv.known event stored
  · intro lease listed row mem named
    rcases cases row mem with ⟨kept, other⟩ | rfl
    · rcases items lease listed with old | rfl
      · exact inv.earlier lease old row kept named
      · exact absurd named other
    · rcases items lease listed with old | rfl
      · exact Nat.le_succ_of_le (inv.earlier lease old event stored named)
      · exact Nat.le_refl _
  · apply unique_key_append inv.attempts
    intro lease old same
    obtain ⟨named, attempt⟩ := Prod.mk.inj same
    have before := inv.earlier lease old event stored named.symm
    have after : lease.event.attempt = event.attempt + 1 := attempt
    omega
  · exact unique_key_append inv.tokens fresh
  · intro row mem leased
    rcases cases row mem with ⟨kept, -⟩ | rfl
    · obtain ⟨lease, old, holds⟩ := inv.current row kept leased
      exact ⟨lease, mem_append_left _ old, holds⟩
    · exact ⟨_, mem_append_right _ (mem_singleton.mpr rfl), rfl, rfl, rfl⟩

theorem effect_inv (inv : RelayInv hash relay) (effect : relay.Effect hash next) :
    RelayInv hash next := by
  cases effect with
  | devices devices => exact ⟨inv.unique, inv.known, inv.bounded, inv.waiting, inv.recorded,
      inv.earlier, inv.attempts, inv.tokens, inv.current⟩
  | rewrite chosen assign follows => exact rewrite_inv inv follows
  | discard keep => exact discard_inv inv keep
  | insert event fresh pending attempt most => exact insert_inv inv fresh pending attempt most
  | lease event token leaseUntil now found pending fresh =>
    exact lease_inv inv found pending fresh

theorem effects_inv (inv : RelayInv hash relay) (effects : Relay.Effects hash relay next) :
    RelayInv hash next := by
  induction effects with
  | refl => exact inv
  | tail _ effect ih => exact effect_inv ih effect

structure Relay.SettledAs (eventId : String) (status : RelayStatus) (relay : Relay) : Prop where
  known : eventId ∈ relay.issued
  status : ∀ event ∈ relay.events, event.id = eventId → event.status = status

theorem effect_settled (terminal : status.isTerminal = true)
    (settled : relay.SettledAs eventId status) (effect : relay.Effect hash next) :
    next.SettledAs eventId status := by
  cases effect with
  | devices devices => exact ⟨settled.known, settled.status⟩
  | rewrite chosen assign follows =>
    constructor
    · exact settled.known
    · intro row mem named
      rcases mem_rewritten mem with kept | ⟨old, stored, choice, rfl⟩
      · exact settled.status row kept named
      · have same := follows old stored choice
        have was := settled.status old stored (same.id.symm.trans named)
        rw [same.settled (was ▸ terminal), was]
  | discard keep =>
    constructor
    · exact settled.known
    · intro row mem
      exact settled.status row (mem_of_mem_filter mem)
  | insert event fresh pending attempt most =>
    constructor
    · exact mem_append_left _ settled.known
    · intro row mem named
      rcases mem_append.mp mem with stored | new
      · exact settled.status row stored named
      · rw [mem_singleton.mp new] at named
        exact absurd (named ▸ settled.known) fresh
  | lease event token leaseUntil now found pending fresh =>
    constructor
    · exact settled.known
    · intro row mem named
      rcases mem_rewritten mem with kept | ⟨old, stored, ⟨-, waiting⟩, rfl⟩
      · exact settled.status row kept named
      · have was := settled.status old stored named
        rw [waiting] at was
        rw [← was] at terminal
        cases terminal

theorem effects_settled (terminal : status.isTerminal = true)
    (settled : relay.SettledAs eventId status) (effects : Relay.Effects hash relay next) :
    next.SettledAs eventId status := by
  induction effects with
  | refl => exact settled
  | tail _ effect ih => exact effect_settled terminal ih effect

theorem register_effects {ownerId deviceId name : String}
    (done : registerRelayDevice relay ownerId deviceId name now = .ok next) :
    Relay.Effects hash relay next := by
  rw [registerRelayDevice] at done
  split at done
  · cases done
  · split at done <;> cases done <;> exact .single (.devices _)

theorem insert_event_effects {draft : EventDraft} (fresh : eventId ∉ relay.issued) :
    Relay.Effects hash relay (insertRelayEvent settings relay draft eventId now).1 := by
  rw [insertRelayEvent]
  split
  · exact .refl
  · exact .single (.insert (draft.event settings eventId now) fresh rfl rfl settings.attempts_bound)

theorem expire_effects : Relay.Effects hash relay (relay.expireLeases ownerId deviceId now) := by
  rw [Relay.expireLeases]
  refine .tail (.single (.rewrite _ (RelayEvent.release now) ?_))
    (.rewrite _ (RelayEvent.exhaust now) ?_)
  · rintro event - ⟨-, -, leased, -, room⟩
    exact ⟨rfl, rfl, rfl, fun terminal => by simp [leased, RelayStatus.isTerminal] at terminal,
      nofun, fun _ => room⟩
  · rintro event - ⟨-, -, leased, -⟩
    exact ⟨rfl, rfl, rfl, fun terminal => by simp [leased, RelayStatus.isTerminal] at terminal,
      nofun, nofun⟩

theorem lease_event_effects (fresh : ∀ lease ∈ relay.handed, hash lease.leaseToken ≠ hash due.2) :
    Relay.Effects hash relay (leaseEvent hash settings now relay due) := by
  rw [leaseEvent]
  split
  · exact .refl
  · next event found =>
    split
    · next pending =>
      have named : event.id = due.1 := lookup_key found
      rw [← named] at found ⊢
      exact .single (.lease event due.2 _ now found pending fresh)
    · exact .refl

theorem lease_event_handed {lease : LeasedEvent}
    (mem : lease ∈ (leaseEvent hash settings now relay due).handed) :
    lease ∈ relay.handed ∨ lease.leaseToken = due.2 := by
  rw [leaseEvent] at mem
  split at mem
  · exact Or.inl mem
  · split at mem
    · rcases mem_append.mp mem with old | new
      · exact Or.inl old
      · exact Or.inr (mem_singleton.mp new ▸ rfl)
    · exact Or.inl mem

theorem lease_loop_effects (due : List (String × String))
    (distinct : (due.map fun item => hash item.2).Nodup)
    (fresh : ∀ item ∈ due, ∀ lease ∈ relay.handed, hash lease.leaseToken ≠ hash item.2) :
    Relay.Effects hash relay (due.foldl (leaseEvent hash settings now) relay) := by
  induction due generalizing relay with
  | nil => exact .refl
  | cons item rest ih =>
    rw [map_cons, nodup_cons] at distinct
    have first : Relay.Effects hash relay (leaseEvent hash settings now relay item) :=
      lease_event_effects (fresh item mem_cons_self)
    apply first.trans
    apply ih distinct.2
    intro other listed lease mem
    rcases lease_event_handed mem with old | own
    · exact fresh other (mem_cons_of_mem _ listed) lease old
    · rw [own]
      intro same
      exact distinct.1 (List.mem_map.mpr ⟨other, listed, same.symm⟩)

theorem lease_events_effects {limit : Nat} {tokens : List String}
    (fresh : freshTokens hash relay tokens = true)
    (count : tokens.length = relay.dueCount ownerId deviceId limit now) :
    Relay.Effects hash relay
      (leaseEvents hash settings relay ownerId deviceId limit tokens now) := by
  simp only [freshTokens, Bool.and_eq_true, decide_eq_true_eq, List.all_eq_true] at fresh
  obtain ⟨distinct, unused⟩ := fresh
  rw [leaseEvents]
  have expired : Relay.Effects hash relay (relay.expireLeases ownerId deviceId now) :=
    expire_effects
  apply expired.trans
  apply lease_loop_effects
  · have seconds := map_snd_zip (Nat.le_of_eq count)
    rw [← seconds, List.map_map] at distinct
    exact distinct
  · intro item listed lease mem
    exact unused item.2 (of_mem_zip listed).2 lease mem

/-- The condition under which an acknowledgement's write is fenced: no other call has
settled, expired or leased the event again since the row was read. -/
def Relay.undisturbed (relay : Relay) (row : RelayEvent) : Bool :=
  relay.events.all fun event => decide (event.id ≠ row.id) ||
    (decide (event.status = .leased) && decide (event.attempt = row.attempt))

theorem undisturbed_event (still : relay.undisturbed row = true) (mem : event ∈ relay.events)
    (named : event.id = row.id) :
    event.status = .leased ∧ event.attempt = row.attempt := by
  have kept := List.all_eq_true.mp still event mem
  simpa [named] using kept

theorem acknowledge_effects (named : row.id = acknowledgement.eventId)
    (still : relay.undisturbed row = true) :
    Relay.Effects hash relay (writeAcknowledgement relay acknowledgement now) := by
  apply Relation.ReflTransGen.single
  apply Relay.Effect.rewrite
  intro event mem choice
  obtain ⟨leased, -⟩ := undisturbed_event still mem (choice.trans named.symm)
  constructor
  · rfl
  · rfl
  · rfl
  · intro terminal
    rw [leased] at terminal
    cases terminal
  · intro again
    cases target : acknowledgement.status <;>
      simp [RelayEvent.settle, AckStatus.target, target] at again
  · intro again
    cases target : acknowledgement.status <;>
      simp [RelayEvent.settle, AckStatus.target, target] at again

theorem cleanup_effects :
    Relay.Effects hash relay (cleanupTerminalEvents settings relay now).1 := by
  have trims : ∀ (owners : List String) (relay : Relay), Relay.Effects hash relay
      (owners.foldl (Relay.trimOwner settings.maxTerminalRowsPerOwner) relay) := by
    intro owners
    induction owners with
    | nil =>
      intro relay
      exact .refl
    | cons owner rest ih =>
      intro relay
      exact .head (.discard _) (ih _)
  refine .trans (.tail (.single (.discard _)) (.rewrite _ (RelayEvent.tombstone now) ?_))
    (trims _ _)
  rintro event - ⟨terminal, -, -⟩
  constructor
  · rfl
  · rfl
  · rfl
  · intro _
    rfl
  · intro leased
    exact ⟨leased, rfl⟩
  · intro pending
    have waiting : event.status = .pending := pending
    rw [waiting] at terminal
    cases terminal

theorem delete_account_effects {accountId : String} :
    Relay.Effects hash relay (deleteRelayAccount relay accountId) :=
  .tail (.single (.discard _)) (.devices _)

theorem call_relay_effects {ticket : Option RelayTicket}
    (done : callRelay hash settings relay request = some (next, ticket)) :
    Relay.Effects hash relay next := by
  cases request with
  | registerDevice ownerId deviceId name now =>
    rw [callRelay] at done
    split at done
    · next registered => cases done; exact register_effects registered
    · cases done; exact .refl
  | createEvent draft =>
    rw [callRelay] at done
    split at done <;> cases done <;> exact .refl
  | leaseEvents ownerId deviceId limit now =>
    rw [callRelay] at done
    split at done
    · next registered => cases done; exact register_effects registered
    · cases done; exact .refl
  | acknowledge acknowledgement now => cases done; exact .refl
  | cleanup now => cases done; exact cleanup_effects
  | deleteAccount accountId => cases done; exact delete_account_effects

def acknowledgesUndisturbed (system : System Relay RelayTicket) :
    Event RelayRequest RelayInput → Bool
  | .resume index _ =>
    match system.pending[index]? with
    | some (.acknowledge _ row) => system.data.undisturbed row
    | _ => true
  | _ => true

def AcknowledgesUndisturbed (system : System Relay RelayTicket)
    (event : Event RelayRequest RelayInput) : Prop :=
  acknowledgesUndisturbed system event = true

/-- What an acknowledgement relies on: the item handed out for the attempt it read
carries the digest of its token. -/
def RelayTicket.Ready (hash : String → String) (relay : Relay) : RelayTicket → Prop
  | .acknowledge acknowledgement row =>
    row.id = acknowledgement.eventId ∧ ∃ lease ∈ relay.handed, lease.event.id = row.id ∧
      lease.event.attempt = row.attempt ∧ hash lease.leaseToken = hash acknowledgement.leaseToken
  | _ => True

theorem ready_grows (grows : relay.handed <+: next.handed) (ready : ticket.Ready hash relay) :
    ticket.Ready hash next := by
  cases ticket with
  | acknowledge acknowledgement row =>
    obtain ⟨named, lease, listed, holds⟩ := ready
    exact ⟨named, lease, grows.subset listed, holds⟩
  | _ => trivial

theorem check_acknowledgement_ready (inv : RelayInv hash relay)
    (checked : checkAcknowledgement hash relay acknowledgement now = some row) :
    (RelayTicket.acknowledge acknowledgement row).Ready hash relay := by
  obtain ⟨found, token⟩ := filter_eq_some_iff.mp checked
  have mem := mem_of_find?_eq_some found
  have matched := find?_some found
  simp only [decide_eq_true_eq] at matched token
  obtain ⟨named, -, -, leased, -⟩ := matched
  obtain ⟨lease, listed, same, attempt, current⟩ := inv.current row mem leased
  exact ⟨named, lease, listed, same, attempt, Option.some.inj (current.symm.trans token)⟩

theorem resume_relay_effects {index : Nat} {input : RelayInput} {later : Option RelayTicket}
    (ready : ticket.Ready hash system.data)
    (guarded : AcknowledgesUndisturbed system (.resume index input))
    (found : system.pending[index]? = some ticket)
    (done : resumeRelay hash settings system.data ticket input = some (next, later)) :
    Relay.Effects hash system.data next ∧ later = none := by
  cases ticket with
  | createEvent draft =>
    cases input with
    | event eventId now =>
      rw [resumeRelay] at done
      split at done
      · cases done
      · next fresh =>
        cases done
        exact ⟨insert_event_effects fresh, rfl⟩
    | _ => cases done
  | leaseEvents ownerId deviceId limit =>
    cases input with
    | tokens tokens now =>
      simp only [resumeRelay, ite_none_right_eq_some, Bool.and_eq_true, decide_eq_true_eq] at done
      obtain ⟨⟨fresh, count⟩, done⟩ := done
      cases done
      exact ⟨lease_events_effects fresh count, rfl⟩
    | _ => cases done
  | acknowledge acknowledgement row =>
    cases input with
    | clock now =>
      cases done
      rw [AcknowledgesUndisturbed, acknowledgesUndisturbed, found] at guarded
      exact ⟨acknowledge_effects ready.1 guarded, rfl⟩
    | _ => cases done

theorem call_relay_ready (inv : RelayInv hash relay)
    (done : callRelay hash settings relay request = some (next, some ticket)) :
    ticket.Ready hash next := by
  cases request with
  | acknowledge acknowledgement now =>
    simp only [callRelay, Option.some.injEq, Prod.mk.injEq] at done
    obtain ⟨rfl, checked⟩ := done
    obtain ⟨row, read, rfl⟩ := map_eq_some_iff.mp checked
    exact check_acknowledgement_ready inv read
  | createEvent draft =>
    simp only [callRelay] at done
    split at done <;> cases done
    trivial
  | leaseEvents ownerId deviceId limit now =>
    simp only [callRelay] at done
    split at done <;> cases done
    trivial
  | registerDevice ownerId deviceId name now =>
    simp only [callRelay] at done
    split at done <;> cases done
  | cleanup now => simp [callRelay] at done
  | deleteAccount accountId => simp [callRelay] at done

theorem relay_keeps : Keeps (relayRoutine hash settings) AcknowledgesUndisturbed
    (RelayInv hash) (fun relay ticket => ticket.Ready hash relay) := by
  constructor
  · intro system request data ticket inv _ taken
    have effects := call_relay_effects taken
    refine ⟨effects_inv inv effects, ?_, fun _ _ => ready_grows (effects_handed effects)⟩
    rintro own rfl
    exact call_relay_ready inv taken
  · intro system index input ticket data later inv ready guarded found taken
    obtain ⟨effects, rfl⟩ := resume_relay_effects ready guarded found taken
    exact ⟨effects_inv inv effects, by simp, fun _ _ => ready_grows (effects_handed effects)⟩

theorem fresh_relay_inv (fresh : relay.Fresh) : RelayInv hash relay := by
  obtain ⟨-, events, issued, handed⟩ := fresh
  constructor <;> simp [events, handed, UniqueKey]

theorem move_effects {system after : System Relay RelayTicket}
    {event : Event RelayRequest RelayInput}
    (holds : Holds (RelayInv hash) (fun relay ticket => ticket.Ready hash relay) system)
    (guarded : AcknowledgesUndisturbed system event)
    (move : Move (relayRoutine hash settings) system event after) :
    Relay.Effects hash system.data after.data := by
  cases move with
  | call request data ticket taken => exact call_relay_effects taken
  | resume index input ticket data later found taken =>
    have ready := holds.pending ticket (mem_of_getElem? found)
    exact (resume_relay_effects ready guarded found taken).1
  | crash index => exact .refl

def LeasedEvent.Current (hash : String → String) (relay : Relay) (lease : LeasedEvent) : Prop :=
  ∃ event ∈ relay.events, event.id = lease.event.id ∧ event.status = .leased ∧
    event.leaseTokenHash = some (hash lease.leaseToken)

/-- An acknowledgement changes an event only while its token is the current one,
settled events keep their status, attempts stay within their bound, and at most one
item handed out for an event is current. -/
theorem relay_acknowledgements_fenced (hash : String → String) (settings : RelaySettings)
    {system : System Relay RelayTicket}
    (reachable : ((relayRoutine hash settings).machine Relay.Fresh).Reachable
      AcknowledgesUndisturbed system) :
    (∀ index now acknowledgement row after,
      system.pending[index]? = some (.acknowledge acknowledgement row) →
      AcknowledgesUndisturbed system (.resume index (.clock now)) →
      (relayRoutine hash settings).next system (.resume index (.clock now)) = some after →
      ∀ event ∈ system.data.events, event ∉ after.data.events →
        event.id = acknowledgement.eventId ∧ event.status = .leased ∧
          event.leaseTokenHash = some (hash acknowledgement.leaseToken)) ∧
    (∀ later, ((relayRoutine hash settings).machine Relay.Fresh).Path
        AcknowledgesUndisturbed system later →
      ∀ event ∈ system.data.events, event.status.isTerminal = true →
        ∀ row ∈ later.data.events, row.id = event.id → row.status = event.status) ∧
    (∀ event ∈ system.data.events, event.attempt ≤ event.maxAttempts) ∧
    (∀ left ∈ system.data.handed, ∀ right ∈ system.data.handed,
      left.event.id = right.event.id → left.Current hash system.data →
        right.Current hash system.data → left = right) := by
  have initially : ∀ relay : Relay, relay.Fresh → RelayInv hash relay :=
    fun relay fresh => fresh_relay_inv fresh
  have holds := reachable_holds relay_keeps initially reachable
  have inv := holds.data
  refine ⟨?_, ?_, inv.bounded, ?_⟩
  · intro index now acknowledgement row after found undisturbed step event mem changed
    rw [Routine.next, found] at step
    cases step
    have named : event.id = acknowledgement.eventId := by
      by_contra other
      exact changed (mem_update_of_not_chosen mem other)
    obtain ⟨read, lease, listed, same, attempt, token⟩ :=
      holds.pending _ (mem_of_getElem? found)
    rw [AcknowledgesUndisturbed, acknowledgesUndisturbed, found] at undisturbed
    obtain ⟨leased, still⟩ := undisturbed_event undisturbed mem (named.trans read.symm)
    obtain ⟨newest, newestListed, newestSame, newestAttempt, current⟩ :=
      inv.current event mem leased
    have one : newest = lease := by
      apply unique_key_eq inv.attempts newestListed listed
      rw [newestSame, newestAttempt, same, attempt, still, named, read]
    rw [one, token] at current
    exact ⟨named, leased, current⟩
  · intro later path event mem terminal row stored named
    have settled : system.data.SettledAs event.id event.status := by
      constructor
      · exact inv.known event mem
      · intro other otherMem same
        rw [unique_key_eq inv.unique otherMem mem same]
    have kept := path_keeps (Relay.SettledAs event.id event.status) relay_keeps
      (fun _ _ _ holding guarded move settled =>
        effects_settled terminal settled (move_effects holding guarded move))
      holds settled path
    exact kept.2.status row stored named
  · rintro left leftListed right rightListed same ⟨event, mem, named, -, token⟩
      ⟨other, otherMem, otherNamed, -, otherToken⟩
    have one : event = other :=
      unique_key_eq inv.unique mem otherMem (named.trans (same.trans otherNamed.symm))
    apply unique_key_eq inv.tokens leftListed rightListed
    rw [one, otherToken] at token
    exact (Option.some.inj token).symm

def sampleHash (token : String) : String :=
  if token = "first" then "a7937b64b8caa58f03721bb6bacf5c78cb235febe0e70b1b84cd99541461a08e"
  else if token = "second" then
    "16367aacb67a4a017c8da8ab95682ccb390863780f7114dda0a0e0c55644c7c4"
  else ""

def relayDefaults : RelaySettings where
  leaseSeconds := 120
  maxAttempts := 5
  payloadRetentionSeconds := 86400
  terminalRetentionSeconds := 2592000
  maxTerminalRowsPerOwner := 50000
  lease_bound := by decide
  attempts_bound := by decide
  payload_bound := by decide
  terminal_bound := by decide
  rows_bound := by decide

def emptyRelay : Relay := ⟨[], [], [], []⟩

def buildEvent : EventDraft where
  serviceId := "service"
  ownerId := "owner"
  eventKey := "build-42"
  deviceId := "device-1"
  automationId := "automation"
  payload := "\x7b\x7d"
  payloadSha256 := "digest"

def acknowledgeFirst : Acknowledgement where
  eventId := "event"
  ownerId := "owner"
  deviceId := "device-1"
  leaseToken := "first"
  status := .succeeded
  errorCode := ""
  errorMessage := ""

def leasedAndRead : List (Event RelayRequest RelayInput) :=
  [.call (.registerDevice "owner" "device-1" "laptop" 0), .call (.createEvent buildEvent),
    .resume 0 (.event "event" 1), .call (.leaseEvents "owner" "device-1" 10 2),
    .resume 0 (.tokens ["first"] 2), .call (.acknowledge acknowledgeFirst 100)]

def leasedAgain : List (Event RelayRequest RelayInput) :=
  [.call (.leaseEvents "owner" "device-1" 10 200), .resume 1 (.tokens ["second"] 200)]

def acknowledgedToken (system : System Relay RelayTicket) (index : Nat) : Option String :=
  match system.pending[index]? with
  | some (.acknowledge acknowledgement _) => some acknowledgement.leaseToken
  | _ => none

theorem acknowledged_token_pending {index : Nat} {token : String}
    (pending : acknowledgedToken system index = some token) :
    ∃ acknowledgement row, system.pending[index]? = some (.acknowledge acknowledgement row) ∧
      acknowledgement.leaseToken = token := by
  rw [acknowledgedToken] at pending
  split at pending
  · next acknowledgement row found =>
    cases pending
    exact ⟨acknowledgement, row, found, rfl⟩
  · cases pending

theorem prompt_acknowledgement_fenced : ∃ system : System Relay RelayTicket,
    (relayRoutine sampleHash relayDefaults).run acknowledgesUndisturbed emptyRelay
        leasedAndRead = some system ∧
      system.data.events.map RelayEvent.status = [.leased] ∧
      (∀ event ∈ system.data.events, event.attempt ≤ event.maxAttempts) ∧
      ∀ after, (relayRoutine sampleHash relayDefaults).next system (.resume 0 (.clock 101)) =
          some after →
        ∀ event ∈ system.data.events, event ∉ after.data.events →
          event.leaseTokenHash = some (sampleHash "first") := by
  have ran : ((relayRoutine sampleHash relayDefaults).run acknowledgesUndisturbed emptyRelay
      leasedAndRead).map (fun system => (system.data.events.map RelayEvent.status,
        acknowledgesUndisturbed system (.resume 0 (.clock 101)), acknowledgedToken system 0)) =
      some ([.leased], true, some "first") := by decide +kernel
  obtain ⟨system, done, computed⟩ := map_eq_some_iff.mp ran
  obtain ⟨statuses, rest⟩ := Prod.mk.inj computed
  obtain ⟨undisturbed, token⟩ := Prod.mk.inj rest
  have fenced := relay_acknowledgements_fenced sampleHash relayDefaults
    (run_reachable _ ⟨rfl, rfl, rfl, rfl⟩ done)
  refine ⟨system, done, statuses, fenced.2.2.1, ?_⟩
  intro after step event mem changed
  obtain ⟨acknowledgement, row, found, same⟩ := acknowledged_token_pending token
  have current := fenced.1 0 101 acknowledgement row after found undisturbed step event mem changed
  rw [← same]
  exact current.2.2

theorem late_acknowledgement_settles_new_lease : ∃ system after : System Relay RelayTicket,
    ((relayRoutine sampleHash relayDefaults).machine Relay.Fresh).Reachable Anything system ∧
      (relayRoutine sampleHash relayDefaults).next system (.resume 0 (.clock 201)) = some after ∧
      ∃ acknowledgement row, system.pending[0]? = some (.acknowledge acknowledgement row) ∧
          ∃ event ∈ system.data.events, event ∉ after.data.events ∧
            event.leaseTokenHash ≠ some (sampleHash acknowledgement.leaseToken) := by
  have ran : ((relayRoutine sampleHash relayDefaults).run (fun _ _ => true) emptyRelay
      (leasedAndRead ++ leasedAgain)).map (fun system => (acknowledgedToken system 0,
        ((relayRoutine sampleHash relayDefaults).next system (.resume 0 (.clock 201))).map
          fun after => system.data.events.any fun event =>
            decide (event ∉ after.data.events) &&
              decide (event.leaseTokenHash ≠ some (sampleHash "first")))) =
      some (some "first", some true) := by decide +kernel
  obtain ⟨system, done, computed⟩ := map_eq_some_iff.mp ran
  obtain ⟨token, written⟩ := Prod.mk.inj computed
  obtain ⟨after, step, overtaken⟩ := map_eq_some_iff.mp written
  obtain ⟨acknowledgement, row, found, same⟩ := acknowledged_token_pending token
  obtain ⟨event, mem, differs⟩ := List.any_eq_true.mp overtaken
  simp only [Bool.and_eq_true, decide_eq_true_eq] at differs
  refine ⟨system, after, ?_, step, acknowledgement, row, found, event, mem, differs.1, ?_⟩
  · exact reachable_weaken (fun _ _ _ => trivial) (run_reachable _ ⟨rfl, rfl, rfl, rfl⟩ done)
  · rw [same]
    exact differs.2

end AgentMate
