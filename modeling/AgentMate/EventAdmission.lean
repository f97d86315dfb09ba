import AgentMate.JsonText
import AgentMate.WalRetention

/-!
# What the device admits, the Server admits

`append_event` and `submit_events` put the same checks to a payload, the one to the
value the device was given, the other to a value that was written as text and read
twice: into `run_event_wal` with sorted keys, and into the body of a batch. The text
with sorted keys, from which size and digest are taken, survives both.
-/

namespace AgentMate

open TransitionSystem List Option

variable {Hash : Type}

/-- The payload the Server reads: `flush_wal` decodes the WAL row, and the HTTP client
writes the batch with `json.dumps(body, ensure_ascii=False, separators=(",", ":"))`. -/
def receivedPayload (floats : FloatText) (payload : Json) : Option Json :=
  (jsonLoads floats (jsonDumps floats payload)).bind fun queued =>
    jsonLoads floats (jsonDumpsUnsorted floats queued)

def RunEvent.received (floats : FloatText) (event : RunEvent Hash) : Option (RunEvent Hash) :=
  (receivedPayload floats event.payload).map fun payload => { event with payload := payload }

/-- The rules of the request body for the field `type`:
`^[a-z][a-z0-9_.-]+$`, at most 120 characters. -/
def eventTypeAllowed (eventType : String) : Bool :=
  let lower := fun char : Char => decide ('a' ≤ char ∧ char ≤ 'z')
  match eventType.toList with
  | [] => false
  | first :: rest =>
    lower first && !rest.isEmpty && decide (rest.length < 120) &&
      rest.all fun char => lower char || char.isDigit || char = '_' || char = '.' || char = '-'

section

theorem contains_secret_field_any (fields : List (String × Json)) :
    containsSecretField fields = fields.any fun field =>
      secretKeys.contains (normalizeKey field.1) || containsSecretKey field.2 := by
  induction fields with
  | nil => rfl
  | cons field rest ih => rw [containsSecretField, ih, any_cons]

mutual

theorem contains_secret_sort_keys : ∀ value : Json,
    containsSecretKey value.sortKeys = containsSecretKey value
  | .arr items => contains_secret_sort_items items
  | .obj fields => by
      rw [Json.sortKeys, containsSecretKey, containsSecretKey, contains_secret_field_any,
        (perm_insertionSort FieldLe (sortFieldKeys fields)).any_eq,
        ← contains_secret_field_any, contains_secret_sort_fields fields]
  | .null | .bool _ | .int _ | .float _ | .str _ => rfl

theorem contains_secret_sort_items : ∀ items : List Json,
    containsSecretItem (sortItemKeys items) = containsSecretItem items
  | [] => rfl
  | item :: rest => by
      rw [sortItemKeys, containsSecretItem, containsSecretItem, contains_secret_sort_keys item,
        contains_secret_sort_items rest]

theorem contains_secret_sort_fields : ∀ fields : List (String × Json),
    containsSecretField (sortFieldKeys fields) = containsSecretField fields
  | [] => rfl
  | (key, value) :: rest => by
      rw [sortFieldKeys, containsSecretField, containsSecretField, contains_secret_sort_keys value,
        contains_secret_sort_fields rest]

end

end

theorem received_payload_sorted {floats : FloatText} (lawful : floats.Lawful) {payload : Json}
    (tree : payload.distinctKeys = true) :
    receivedPayload floats payload = some payload.sortKeys := by
  rw [receivedPayload, loads_dumps lawful tree]
  exact loads_dumps_unsorted lawful (sort_keys_distinct payload tree)

/-- What `append_event` checked and computed for a row. -/
structure AdmittedRow (agent : LocalAgent Hash) (row : WalRow Hash) : Prop where
  small : (agent.host.dumps row.event.payload).utf8ByteSize ≤ maxEventBytes
  clean : containsSecretKey row.event.payload = false
  digest : row.event.hash = agent.host.digest
    (row.event.envelope agent.host.toPyText agent.runId agent.deviceId row.leaseEpoch)

section

variable [DecidableEq Hash] {agent : LocalAgent Hash} {network next : Network Hash}
  {action : Network.Action Hash}

theorem move_admitted (move : network.Move agent action next) {row : WalRow Hash}
    (mem : row ∈ next.transport.written) :
    row ∈ network.transport.written ∨ AdmittedRow agent row := by
  cases move with
  | record index grant =>
    have same : ((network.transport.recordLease grant).toOption.getD network.transport).written =
        network.transport.written := (record_lease_rows grant).1
    rw [← same]
    exact Or.inl mem
  | append clock otherBytes eventType payload lease found active small clean =>
    rcases mem_append.mp mem with old | new
    · exact Or.inl old
    · rw [mem_singleton.mp new]
      exact Or.inr ⟨small, clean, rfl⟩
  | settleFlush index flight reply =>
    left
    rw [← (settle_flush_settled network.transport flight reply).written]
    exact mem
  | settleRenewal index clock lease reply =>
    left
    rw [← (settle_renewal_settled network.transport lease clock reply).1.written]
    exact mem
  | restart =>
    left
    rw [← (restart_settled network.transport).written]
    exact mem
  | _ => exact Or.inl mem

theorem network_admitted {Guard : Network Hash → Network.Action Hash → Prop}
    (reachable : (networkMachine agent).Reachable Guard network) :
    ∀ row ∈ network.transport.written, AdmittedRow agent row := by
  refine reachable_invariant
    (fun network => ∀ row ∈ network.transport.written, AdmittedRow agent row) ?_ ?_ reachable
  · intro start initial row mem
    rw [initial.written] at mem
    cases mem
  · intro state action next admitted _ step row mem
    rcases move_admitted (network_step_move step) mem with old | new
    · exact admitted row old
    · exact new

theorem check_received {floats : FloatText} (lawful : floats.Lawful)
    (texts : agent.host.dumps = jsonDumps floats) {row : WalRow Hash}
    (admitted : AdmittedRow agent row) (tree : row.event.payload.distinctKeys = true)
    {lease : Lease} (sameRun : lease.runId = agent.runId)
    (sameDevice : lease.deviceId = agent.deviceId) (sameEpoch : lease.leaseEpoch = row.leaseEpoch) :
    ∃ received, row.event.received floats = some received ∧
      received.eventType = row.event.eventType ∧
      checkEvent agent.host lease received = .ok () := by
  refine ⟨{ row.event with payload := row.event.payload.sortKeys }, ?_, rfl, ?_⟩
  · rw [RunEvent.received, received_payload_sorted lawful tree, map_some]
  · have sameText : agent.host.dumps row.event.payload.sortKeys =
        agent.host.dumps row.event.payload := by
      rw [texts]
      exact dumps_sort_keys floats row.event.payload
    have clean : containsSecretKey row.event.payload.sortKeys = false := by
      rw [contains_secret_sort_keys]
      exact admitted.clean
    have digest := admitted.digest
    simp only [RunEvent.envelope] at digest
    unfold checkEvent
    rw [if_neg (by simp only [sameText]; exact Nat.not_lt.mpr admitted.small),
      if_neg (by simp only [clean]; exact Bool.false_ne_true)]
    apply if_neg
    simp only [RunEvent.envelope, sameRun, sameDevice, sameEpoch, sameText, ← digest, ne_eq,
      not_true_eq_false, not_false_eq_true]

/-- Every event of a batch under way passes the Server's checks of its payload. -/
theorem client_admission_accepted (agent : LocalAgent Hash) {floats : FloatText}
    (lawful : floats.Lawful) (texts : agent.host.dumps = jsonDumps floats)
    (reachable : (networkMachine agent).Reachable Anything network) {flight : Flight Hash}
    (carried : network.flushes.Carries flight) {event : RunEvent Hash}
    (mem : event ∈ flight.events) (tree : event.payload.distinctKeys = true)
    (allowed : eventTypeAllowed event.eventType = true) {store : Store Hash}
    {principal : DevicePrincipal} (own : principal.deviceId = agent.deviceId) {lease : Lease}
    (current : currentLease store principal agent.runId flight.lease.leaseId
      flight.lease.leaseEpoch = .ok lease) :
    ∃ received, event.received floats = some received ∧ eventTypeAllowed received.eventType = true ∧
      checkEvent agent.host lease received = .ok () := by
  have written := (network_written_inv reachable).carried flight carried event mem
  obtain ⟨-, -, sameRun, sameDevice, -, sameEpoch, -⟩ := current_lease_ok current
  obtain ⟨received, arrived, sameType, checked⟩ := check_received lawful texts
    (network_admitted reachable _ written) tree sameRun (sameDevice.trans own) sameEpoch
  refine ⟨received, arrived, ?_, checked⟩
  rw [sameType]
  exact allowed

end

def textAgent : LocalAgent Envelope := { laptopAgent with
  host := { plainHost with dumps := jsonDumps ratioFloats } }

def nestedPayload : Json :=
  .obj [("title", .str "say \"hi\"\n"), ("meta", .obj [("b", .int (-12)), ("a", .arr [.null])])]

def nestedBatch : List (Network.Action Envelope) :=
  [.serve ⟨1, .createRun (plainDraft "run")⟩, .claim 2 laptop 60 "lease", .record 0,
    .append 3 0 "ui.note" nestedPayload, .openFlush, .postFlush 0]

def nestedProbe : Option (Bool × Bool) := do
  let network ← Network.runAll textAgent (fun _ _ => true) nestedBatch
  let item ← network.flushes.posted[0]?
  let event ← item.request.events.head?
  let _ ← (currentLease network.server.store laptop "run" item.request.lease.leaseId
    item.request.lease.leaseEpoch).toOption
  return (event.payload.distinctKeys, eventTypeAllowed event.eventType)

theorem nested_payload_accepted : ∃ network item event lease received,
    Network.runAll textAgent (fun _ _ => true) nestedBatch = some network ∧
    network.flushes.posted[0]? = some item ∧ event ∈ item.request.events ∧
    currentLease network.server.store laptop "run" item.request.lease.leaseId
      item.request.lease.leaseEpoch = .ok lease ∧
    event.received ratioFloats = some received ∧
    eventTypeAllowed received.eventType = true ∧
    checkEvent textAgent.host lease received = .ok () := by
  have probed : nestedProbe = some (true, true) := by decide +kernel
  simp only [nestedProbe, bind_eq_bind, bind_eq_some_iff, Option.pure_def,
    Option.some.injEq, Prod.mk.injEq] at probed
  obtain ⟨network, done, item, found, event, first, lease, held, tree, allowed⟩ := probed
  have reachable := reachable_weaken (fun _ _ _ => trivial) (network_run_reachable _ done)
  have current : currentLease network.server.store laptop "run" item.request.lease.leaseId
      item.request.lease.leaseEpoch = .ok lease := by
    cases answer : currentLease network.server.store laptop "run" item.request.lease.leaseId
        item.request.lease.leaseEpoch with
    | error error =>
      rw [answer] at held
      cases held
    | ok row =>
      rw [answer] at held
      cases held
      rfl
  have mem := mem_of_head? first
  obtain ⟨received, arrived, allowedThere, checked⟩ := client_admission_accepted textAgent
    ratio_floats_lawful rfl reachable (Mailbox.carries_posted found) mem tree allowed rfl current
  exact ⟨network, item, event, lease, received, done, found, mem, current, arrived,
    allowedThere, checked⟩

end AgentMate
