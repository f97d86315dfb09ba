import AgentMate.EmailDeliveries
import AgentMate.TransitionSystem
import Mathlib.Data.List.Count

/-!
# The e-mail poller

One channel with its poller. A step of the poller is what runs between two commits or awaits, so
an exception, a cancellation or the end of the process can come after each of them. An SMTP
exchange runs in a thread of its own, which goes on when the poller is gone. `refresh` starts a
poller only when the last one is done or was cancelled, and a cancelled one runs no further.

`attempts`, `accepted`, `agentRuns`, `stored` and `unknown` are history: the keys for which an
SMTP exchange began, those whose reply the server accepted, those for which the agent ran, those
with a stored reply, and those whose exchange ended without a result for the poller.
-/

namespace AgentMate.EmailDeliveries

open PlainText TransitionSystem Table Option
open List hiding lookup_eq_none_iff

structure EmailHost where
  /-- the digest in hexadecimal -/
  sha256 : String → String

structure EmailChannel where
  id : String
  username : String
  deriving DecidableEq, Repr

/-- `username.rsplit("@", 1)[-1] if "@" in username else "agentmate.local"`. -/
def mailDomain (username : String) : String :=
  if '@' ∈ username.toList then
    String.ofList (((username.toList.splitOn '@').getLast?).getD [])
  else "agentmate.local"

def emailOutboundMessageId (host : EmailHost) (channel : EmailChannel) (messageKey : String) :
    String :=
  "<agentmate-" ++ clip 32 (host.sha256 (channel.id ++ ":" ++ messageKey)) ++ "@" ++
    mailDomain (strip channel.username) ++ ">"

/-- Where `_handle_email` goes on. -/
inductive HandlerStage where
  | decide (delivery : EmailDelivery)
  | claimed
  | agent
  | send (delivery : EmailDelivery)
  | smtp (delivery : EmailDelivery)
  | mark (delivery : EmailDelivery)

/-- A message in `_handle_email`, and the messages after it. -/
structure Handling where
  channel : EmailChannel
  mail : Mail
  stage : HandlerStage
  rest : List Mail

/-- Where `_email_poll_loop` goes on. -/
inductive Poller where
  | verify
  | top
  | fetch
  | mails (mails : List Mail)
  | handle (handling : Handling)

structure EmailWorld where
  /-- the row of the channel, while there is one -/
  channel : Option EmailChannel
  rows : List EmailDelivery
  poller : Option Poller
  /-- the SMTP exchanges that are under way -/
  sends : List String
  attempts : List String
  accepted : List String
  agentRuns : List String
  stored : List String
  unknown : List String

structure MailChecks where
  /-- the result of `_authorize_email` -/
  sessionId : Option String
  busy : Bool
  assistant : Bool

inductive PollInput where
  | go (checks : MailChecks)
  | fetched (mails : List Mail)
  | agent (ok : Bool) (reply : String)
  | smtp (session : SmtpSession)
  | seen (ok : Bool) (info : String)

/-- What `_handle_email` does next: it goes on, it returns, or it raises. -/
inductive HandlerNext where
  | on (stage : HandlerStage)
  | done
  | raised

section

variable (host : EmailHost) (world : EmailWorld) (mail : Mail)

/-- `update_email_delivery` and what follows it. -/
def EmailWorld.write (update : DeliveryUpdate) (next : EmailDelivery → HandlerNext) :
    EmailWorld × HandlerNext :=
  match updateEmailDelivery world.rows mail.messageKey update with
  | some (rows, row) => ({ world with rows := rows }, next row)
  | none => (world, .raised)

def EmailWorld.decideDelivery (delivery : EmailDelivery) : EmailWorld × HandlerNext :=
  match delivery.status with
  | .ignored | .processing => (world, .done)
  | .seen | .replied | .deliveryUnknown | .deliveryUnknownSeen => (world, .on (.mark delivery))
  | .sending =>
    world.write mail ⟨.deliveryUnknown, none, none, "检测到未决 SMTP 发送；为避免重复回复不自动重发"⟩
      fun row => .on (.mark row)
  | .replyReady | .sendRetryable => (world, .on (.send delivery))
  | .pending | .retryable =>
    match claimEmailDelivery world.rows mail.messageKey with
    | some rows => ({ world with rows := rows }, .on .claimed)
    | none => (world, .done)

def Mail.prompt (mail : Mail) : String :=
  strip (if mail.subject = "" then mail.body
    else "【邮件主题】" ++ mail.subject ++ "\n\n" ++ mail.body)

def EmailWorld.startAgent (checks : MailChecks) : EmailWorld × HandlerNext :=
  if mail.ignoreReason ≠ "" then
    world.write mail ⟨.ignored, none, none, mail.ignoreReason⟩ fun _ => .done
  else if checks.sessionId.isNone then
    world.write mail ⟨.ignored, none, none, "unauthorized"⟩ fun _ => .done
  else if mail.prompt = "" then
    world.write mail ⟨.ignored, none, none, "empty message"⟩ fun _ => .done
  else if checks.busy then (world, .done)
  else if !checks.assistant then
    world.write mail ⟨.retryable, none, none, "assistant missing"⟩ fun _ => .done
  else ({ world with agentRuns := world.agentRuns ++ [mail.messageKey] }, .on .agent)

def EmailWorld.finishAgent (ok : Bool) (reply : String) : EmailWorld × HandlerNext :=
  if ok then
    match updateEmailDelivery world.rows mail.messageKey ⟨.replyReady, some reply, none, ""⟩ with
    | some (rows, row) =>
      ({ world with rows := rows, stored := world.stored ++ [mail.messageKey] }, .on (.send row))
    | none => (world, .raised)
  else world.write mail ⟨.retryable, none, none, reply⟩ fun _ => .done

/-- `_send_email_reply` up to the exchange. -/
def EmailWorld.startSend (channel : EmailChannel) (delivery : EmailDelivery) :
    EmailWorld × HandlerNext :=
  let outboundId := if delivery.outboundMessageId ≠ "" then delivery.outboundMessageId
    else emailOutboundMessageId host channel mail.messageKey
  match updateEmailDelivery world.rows mail.messageKey ⟨.sending, none, some outboundId, ""⟩ with
  | some (rows, row) =>
    ({ world with
      rows := rows
      sends := mail.messageKey :: world.sends
      attempts := world.attempts ++ [mail.messageKey] }, .on (.smtp row))
  | none => (world, .raised)

def EmailWorld.exchanged (messageKey : String) (accepts : Bool) : EmailWorld :=
  { world with
    sends := world.sends.erase messageKey
    accepted := if accepts then messageKey :: world.accepted else world.accepted }

def EmailWorld.lost (messageKey : String) : EmailWorld :=
  { world with unknown := world.unknown ++ [messageKey] }

/-- The rest of `_send_email_reply`. -/
def EmailWorld.finishSend (delivery : EmailDelivery) (session : SmtpSession) :
    EmailWorld × HandlerNext :=
  let result := sendReplyDelivery delivery.fromAddr session
  let after := world.exchanged mail.messageKey session.accepts
  match result.1 with
  | .retryable => after.write mail ⟨.sendRetryable, none, none, result.2⟩ fun _ => .done
  | .sent => after.write mail ⟨.replied, none, none, ""⟩ fun row => .on (.mark row)
  | .unknown =>
    (after.lost mail.messageKey).write mail ⟨.deliveryUnknown, none, none, result.2⟩
      fun row => .on (.mark row)

/-- The status that `_mark_email_seen` writes. -/
def seenStatus (delivery : EmailDelivery) (ok : Bool) : DeliveryStatus :=
  if ok then if delivery.status.isUnknown then .deliveryUnknownSeen else .seen
  else delivery.status

/-- `_mark_email_seen` after the store was told. -/
def EmailWorld.finishMark (delivery : EmailDelivery) (ok : Bool) (info : String) :
    EmailWorld × HandlerNext :=
  world.write mail ⟨seenStatus delivery ok, none, none,
    if ok then if delivery.status.isUnknown then delivery.lastError else "" else info⟩
    fun _ => .done

end

/-- One step of `_handle_email`. -/
def Handling.step (host : EmailHost) (world : EmailWorld) (handling : Handling) :
    PollInput → Option (EmailWorld × HandlerNext)
  | .go checks =>
    match handling.stage with
    | .decide delivery => some (world.decideDelivery handling.mail delivery)
    | .claimed => some (world.startAgent handling.mail checks)
    | .send delivery => some (world.startSend host handling.mail handling.channel delivery)
    | _ => none
  | .agent ok reply =>
    match handling.stage with
    | .agent => some (world.finishAgent handling.mail ok reply)
    | _ => none
  | .smtp session =>
    match handling.stage with
    | .smtp delivery => some (world.finishSend handling.mail delivery session)
    | _ => none
  | .seen ok info =>
    match handling.stage with
    | .mark delivery => some (world.finishMark handling.mail delivery ok info)
    | _ => none
  | .fetched _ => none

/-- The poller after a step of the handler; an exception starts a new round. -/
def Handling.after (handling : Handling) : HandlerNext → Poller
  | .on stage => .handle { handling with stage := stage }
  | .done => .mails handling.rest
  | .raised => .top

/-- `_handle_email` up to the branches. -/
def EmailWorld.takeMail (world : EmailWorld) (mail : Mail) (rest : List Mail) : EmailWorld :=
  match world.channel with
  | none => { world with poller := some (.mails rest) }
  | some channel =>
    if mail.messageKey = "" then { world with poller := some (.mails rest) }
    else
      let rows := observeEmailDelivery world.rows mail
      { world with
        rows := rows
        poller := some (match getEmailDelivery rows mail.messageKey with
          | some delivery => .handle ⟨channel, mail, .decide delivery, rest⟩
          | none => .top) }

/-- One step of `_email_poll_loop`. -/
def EmailWorld.resume (host : EmailHost) (world : EmailWorld) (input : PollInput) :
    Poller → Option EmailWorld
  | .verify =>
    match input with
    | .go _ => some { world with poller := some .top }
    | _ => none
  | .top =>
    match input with
    | .go _ => some { world with poller := world.channel.map fun _ => .fetch }
    | _ => none
  | .fetch =>
    match input with
    | .fetched mails => some { world with poller := some (.mails mails) }
    | _ => none
  | .mails [] =>
    match input with
    | .go _ => some { world with poller := some .top }
    | _ => none
  | .mails (mail :: rest) =>
    match input with
    | .go _ => some (world.takeMail mail rest)
    | _ => none
  | .handle handling =>
    (handling.step host world input).map fun result =>
      { result.1 with poller := some (handling.after result.2) }

inductive EmailEvent where
  | start
  | resume (input : PollInput)
  | raise
  /-- a cancellation or the end of the process -/
  | cancel
  /-- an exchange ends that no poller waits for -/
  | orphan (messageKey : String) (accepts : Bool)
  | configure (username : String)
  | delete

def EmailWorld.awaited (world : EmailWorld) : Option String :=
  match world.poller with
  | some (.handle handling) =>
    match handling.stage with
    | .smtp _ => some handling.mail.messageKey
    | _ => none
  | _ => none

def EmailWorld.interrupted (world : EmailWorld) (poller : Option Poller) : EmailWorld :=
  match world.awaited with
  | some messageKey => { world.lost messageKey with poller := poller }
  | none => { world with poller := poller }

def Poller.restarted : Poller → Option Poller
  | .verify => none
  | _ => some .top

def EmailWorld.next (host : EmailHost) (world : EmailWorld) : EmailEvent → Option EmailWorld
  | .start =>
    if world.poller.isNone ∧ world.channel.isSome then
      some { world with rows := recoverEmailDeliveries world.rows, poller := some .verify }
    else none
  | .resume input => world.poller.bind (world.resume host input)
  | .raise => world.poller.map fun poller => world.interrupted poller.restarted
  | .cancel => world.poller.map fun _ => world.interrupted none
  | .orphan messageKey accepts =>
    if messageKey ∈ world.sends ∧ world.awaited ≠ some messageKey then
      some (world.exchanged messageKey accepts)
    else none
  | .configure username =>
    some { world with channel := world.channel.map fun old => ⟨old.id, username⟩ }
  | .delete => some { world with channel := none, rows := [] }

def EmailWorld.Fresh (world : EmailWorld) : Prop :=
  world.rows = [] ∧ world.poller = none ∧ world.sends = [] ∧ world.accepted = [] ∧
    world.stored = [] ∧ world.unknown = []

def emailMachine (host : EmailHost) : Machine EmailWorld EmailEvent where
  Initial := EmailWorld.Fresh
  Step world event after := world.next host event = some after

structure EmailWorld.Fits (world : EmailWorld) (messageKey : String) (status : DeliveryStatus) :
    Prop where
  spent : messageKey ∈ world.accepted ∨ messageKey ∈ world.sends → status.isSpent = true
  answered : messageKey ∈ world.stored → status.isAnswered = true
  unknown : messageKey ∈ world.unknown → status.isUnknown = true

def EmailWorld.Known (world : EmailWorld) (messageKey : String) : Prop :=
  messageKey ∈ world.accepted ∨ messageKey ∈ world.sends ∨ messageKey ∈ world.stored ∨
    messageKey ∈ world.unknown

structure EmailWorld.Recorded (world : EmailWorld) : Prop where
  keys : UniqueKey EmailDelivery.messageKey world.rows
  once : ∀ messageKey, world.accepted.count messageKey + world.sends.count messageKey ≤ 1
  fits : ∀ row ∈ world.rows, world.Fits row.messageKey row.status
  there : world.channel.isSome = true → ∀ messageKey, world.Known messageKey →
    ∃ row ∈ world.rows, row.messageKey = messageKey
  gone : world.channel = none → world.rows = []

def EmailWorld.Handles (world : EmailWorld) (messageKey : String) : HandlerStage → Prop
  | .decide delivery => ∀ row ∈ world.rows, row.messageKey = messageKey → row = delivery
  | .claimed => messageKey ∉ world.stored ∧
      ∀ row ∈ world.rows, row.messageKey = messageKey → row.status = .processing
  | .agent => ∀ row ∈ world.rows, row.messageKey = messageKey → row.status = .processing
  | .send _ => ∀ row ∈ world.rows, row.messageKey = messageKey → row.status.isReady = true
  | .smtp _ => messageKey ∈ world.sends ∧ messageKey ∉ world.unknown ∧
      ∀ row ∈ world.rows, row.messageKey = messageKey → row.status = .sending
  | .mark delivery => delivery.status.isDone = true ∧
      ∀ row ∈ world.rows, row.messageKey = messageKey → row.status = delivery.status

structure EmailWorld.Sound (world : EmailWorld) : Prop where
  recorded : world.Recorded
  handles : ∀ handling, world.poller = some (.handle handling) →
    world.Handles handling.mail.messageKey handling.stage

section

variable {status : DeliveryStatus}

theorem spent_answered (spent : status.isSpent = true) : status.isAnswered = true := by
  cases status <;> simp_all [DeliveryStatus.isSpent, DeliveryStatus.isAnswered]

theorem unknown_spent (unknown : status.isUnknown = true) : status.isSpent = true := by
  cases status <;> simp_all [DeliveryStatus.isSpent, DeliveryStatus.isUnknown]

theorem ready_not_spent (ready : status.isReady = true) : status.isSpent = false := by
  cases status <;> simp_all [DeliveryStatus.isReady, DeliveryStatus.isSpent]

end

variable {world next : EmailWorld} {messageKey : String} {status other : DeliveryStatus}

theorem fits_open (fits : world.Fits messageKey status) (open' : status.isAnswered = false) :
    ¬world.Known messageKey := by
  have notSpent : status.isSpent = false := by
    cases spent : status.isSpent with
    | false => rfl
    | true => simp [spent_answered spent] at open'
  rintro (accepted | sent | stored | unknown)
  · simp [fits.spent (.inl accepted)] at notSpent
  · simp [fits.spent (.inr sent)] at notSpent
  · simp [fits.answered stored] at open'
  · simp [unknown_spent (fits.unknown unknown)] at notSpent

theorem fits_unknown_status (fresh : ¬world.Known messageKey) : world.Fits messageKey status := by
  constructor
  · rintro (accepted | sent)
    · exact absurd (.inl accepted) fresh
    · exact absurd (.inr (.inl sent)) fresh
  · exact fun stored => absurd (.inr (.inr (.inl stored))) fresh
  · exact fun unknown => absurd (.inr (.inr (.inr unknown))) fresh

theorem fits_of_unknown (unknown : status.isUnknown = true) : world.Fits messageKey status :=
  ⟨fun _ => unknown_spent unknown, fun _ => spent_answered (unknown_spent unknown),
    fun _ => unknown⟩

structure SameElsewhere (world next : EmailWorld) (messageKey : String) : Prop where
  accepted : ∀ other, other ≠ messageKey → (other ∈ next.accepted ↔ other ∈ world.accepted)
  sends : ∀ other, other ≠ messageKey → (other ∈ next.sends ↔ other ∈ world.sends)
  stored : ∀ other, other ≠ messageKey → (other ∈ next.stored ↔ other ∈ world.stored)
  unknown : ∀ other, other ≠ messageKey → (other ∈ next.unknown ↔ other ∈ world.unknown)

theorem same_elsewhere_refl (world : EmailWorld) (messageKey : String) :
    SameElsewhere world world messageKey :=
  ⟨fun _ _ => Iff.rfl, fun _ _ => Iff.rfl, fun _ _ => Iff.rfl, fun _ _ => Iff.rfl⟩

theorem fits_elsewhere (same : SameElsewhere world next messageKey) {otherKey : String}
    (different : otherKey ≠ messageKey) (fits : world.Fits otherKey status) :
    next.Fits otherKey status := by
  constructor
  · rw [same.accepted otherKey different, same.sends otherKey different]
    exact fits.spent
  · rw [same.stored otherKey different]
    exact fits.answered
  · rw [same.unknown otherKey different]
    exact fits.unknown

theorem known_elsewhere (same : SameElsewhere world next messageKey) {otherKey : String}
    (different : otherKey ≠ messageKey) (known : next.Known otherKey) : world.Known otherKey := by
  rw [EmailWorld.Known, same.accepted otherKey different, same.sends otherKey different,
    same.stored otherKey different, same.unknown otherKey different] at known
  exact known

section

variable {rows after : List EmailDelivery} {row : EmailDelivery} {update : DeliveryUpdate}

theorem update_rows_cases {assign : EmailDelivery → EmailDelivery}
    (mem : row ∈ updateWhere (fun row => row.messageKey = messageKey) assign rows) :
    (row ∈ rows ∧ row.messageKey ≠ messageKey) ∨
      ∃ old ∈ rows, old.messageKey = messageKey ∧ row = assign old := by
  obtain ⟨old, listed, rfl⟩ := mem_update_where.mp mem
  by_cases own : old.messageKey = messageKey
  · rw [if_pos own]
    exact .inr ⟨old, listed, own, rfl⟩
  · rw [if_neg own]
    exact .inl ⟨listed, own⟩

theorem recorded_update (messageKey : String) (assign : EmailDelivery → EmailDelivery)
    (recorded : world.Recorded)
    (rows : next.rows = updateWhere (fun row => row.messageKey = messageKey) assign world.rows)
    (channel : next.channel = world.channel) (same : SameElsewhere world next messageKey)
    (key : ∀ row, (assign row).messageKey = row.messageKey)
    (once : ∀ otherKey, next.accepted.count otherKey + next.sends.count otherKey ≤ 1)
    (own : ∃ row ∈ world.rows, row.messageKey = messageKey)
    (fits : ∀ row ∈ world.rows, row.messageKey = messageKey →
      next.Fits messageKey (assign row).status) : next.Recorded := by
  constructor
  · rw [rows]
    exact unique_key_update key recorded.keys
  · exact once
  · intro row mem
    rw [rows] at mem
    rcases update_rows_cases mem with ⟨listed, different⟩ | ⟨old, listed, chosen, rfl⟩
    · exact fits_elsewhere same different (recorded.fits row listed)
    · rw [key, chosen]
      exact fits old listed chosen
  · intro present otherKey known
    rw [channel] at present
    have before : ∃ row ∈ world.rows, row.messageKey = otherKey := by
      by_cases chosen : otherKey = messageKey
      · rw [chosen]
        exact own
      · exact recorded.there present otherKey (known_elsewhere same chosen known)
    obtain ⟨row, listed, rfl⟩ := before
    rw [rows]
    by_cases chosen : row.messageKey = messageKey
    · exact ⟨_, mem_update_of_chosen listed chosen, key row⟩
    · exact ⟨row, mem_update_of_not_chosen listed chosen, rfl⟩
  · intro missing
    rw [channel] at missing
    rw [rows, recorded.gone missing]
    rfl

theorem recorded_history (messageKey : String) (recorded : world.Recorded) (rows : next.rows = world.rows)
    (channel : next.channel = world.channel) (same : SameElsewhere world next messageKey)
    (once : ∀ otherKey, next.accepted.count otherKey + next.sends.count otherKey ≤ 1)
    (own : next.Known messageKey → world.Known messageKey)
    (fits : ∀ row ∈ world.rows, row.messageKey = messageKey →
      next.Fits messageKey row.status) : next.Recorded := by
  constructor
  · rw [rows]
    exact recorded.keys
  · exact once
  · intro row mem
    rw [rows] at mem
    by_cases chosen : row.messageKey = messageKey
    · rw [chosen]
      exact fits row mem chosen
    · exact fits_elsewhere same chosen (recorded.fits row mem)
  · intro present otherKey known
    rw [channel] at present
    rw [rows]
    by_cases chosen : otherKey = messageKey
    · exact recorded.there present otherKey (chosen ▸ own (chosen ▸ known))
    · exact recorded.there present otherKey (known_elsewhere same chosen known)
  · intro missing
    rw [rows]
    exact recorded.gone (channel.symm.trans missing)

theorem updated_rows (done : updateEmailDelivery rows messageKey update = some (after, row)) :
    after = updateWhere (fun row => row.messageKey = messageKey)
        (EmailDelivery.updated update) rows ∧
      (∃ old ∈ rows, old.messageKey = messageKey) ∧ row.status = update.status := by
  obtain ⟨old, found, same⟩ := map_eq_some_iff.mp done
  cases same
  exact ⟨rfl, ⟨old, lookup_mem found, lookup_key found⟩, rfl⟩

theorem updated_status (done : updateEmailDelivery rows messageKey update = some (after, row))
    {new : EmailDelivery} (mem : new ∈ after) (own : new.messageKey = messageKey) :
    new.status = update.status := by
  rw [(updated_rows done).1] at mem
  rcases update_rows_cases mem with ⟨_, different⟩ | ⟨old, _, _, rfl⟩
  · exact absurd own different
  · rfl

theorem update_missing (missing : updateEmailDelivery rows messageKey update = none) :
    ∀ row ∈ rows, row.messageKey ≠ messageKey :=
  lookup_eq_none_iff.mp (map_eq_none_iff.mp missing)

theorem recorded_written (before : EmailWorld) (recorded : world.Recorded)
    (done : updateEmailDelivery world.rows messageKey update = some (after, row))
    (channel : before.channel = world.channel) (same : SameElsewhere world before messageKey)
    (once : ∀ otherKey, before.accepted.count otherKey + before.sends.count otherKey ≤ 1)
    (fits : ∀ row ∈ world.rows, row.messageKey = messageKey →
      before.Fits messageKey update.status) : { before with rows := after }.Recorded := by
  obtain ⟨rows, own, _⟩ := updated_rows done
  refine recorded_update messageKey (EmailDelivery.updated update) recorded rows channel
    ⟨same.accepted, same.sends, same.stored, same.unknown⟩ (fun _ => rfl) once own ?_
  intro old listed chosen
  have kept := fits old listed chosen
  exact ⟨kept.spent, kept.answered, kept.unknown⟩

end

structure StepKept (messageKey : String) (result : EmailWorld × HandlerNext) : Prop where
  recorded : result.1.Recorded
  handles : ∀ stage, result.2 = .on stage → result.1.Handles messageKey stage

section

variable {host : EmailHost} {mail : Mail} {delivery : EmailDelivery}

variable {update : DeliveryUpdate} {following : EmailDelivery → HandlerNext}

theorem write_kept {before : EmailWorld} (recorded : world.Recorded)
    (rows : before.rows = world.rows) (channel : before.channel = world.channel)
    (same : SameElsewhere world before mail.messageKey)
    (once : ∀ otherKey, before.accepted.count otherKey + before.sends.count otherKey ≤ 1)
    (known : before.Known mail.messageKey → world.Known mail.messageKey)
    (fits : ∀ row ∈ world.rows, row.messageKey = mail.messageKey →
      before.Fits mail.messageKey update.status)
    (handles : ∀ after row stage,
      updateEmailDelivery world.rows mail.messageKey update = some (after, row) →
        following row = .on stage → { before with rows := after }.Handles mail.messageKey stage) :
    StepKept mail.messageKey (before.write mail update following) := by
  rw [EmailWorld.write, rows]
  cases done : updateEmailDelivery world.rows mail.messageKey update with
  | none =>
    refine ⟨recorded_history mail.messageKey recorded rows channel same once known ?_, ?_⟩
    · intro row listed own
      exact absurd own (update_missing done row listed)
    · intro stage next
      cases next
  | some result =>
    refine ⟨recorded_written before recorded done channel same once fits, ?_⟩
    intro stage next
    exact handles result.1 result.2 stage done next

theorem plain_write_kept (recorded : world.Recorded)
    (fits : ∀ row ∈ world.rows, row.messageKey = mail.messageKey →
      world.Fits mail.messageKey update.status)
    (handles : ∀ after row stage,
      updateEmailDelivery world.rows mail.messageKey update = some (after, row) →
        following row = .on stage → { world with rows := after }.Handles mail.messageKey stage) :
    StepKept mail.messageKey (world.write mail update following) :=
  write_kept recorded rfl rfl (same_elsewhere_refl world mail.messageKey) recorded.once id fits
    handles

theorem fits_own_open (recorded : world.Recorded) {row : EmailDelivery} (listed : row ∈ world.rows)
    (own : row.messageKey = messageKey) (open' : row.status.isAnswered = false) :
    ¬world.Known messageKey :=
  fits_open (own ▸ recorded.fits row listed) open'

theorem claim_kept {rows : List EmailDelivery} (recorded : world.Recorded)
    (handles : ∀ row ∈ world.rows, row.messageKey = messageKey → row = delivery)
    (claimed : claimEmailDelivery world.rows messageKey = some rows) :
    { world with rows := rows }.Recorded ∧
      { world with rows := rows }.Handles messageKey .claimed := by
  obtain ⟨some', result⟩ := ite_none_right_eq_some.mp claimed
  obtain ⟨row, listed, chosen⟩ := List.any_eq_true.mp some'
  obtain ⟨own, waiting⟩ := of_decide_eq_true chosen
  have one := handles row listed own
  have open' : row.status.isAnswered = false := by
    rcases waiting with state | state <;> rw [state] <;> rfl
  have fresh := fits_own_open recorded listed own open'
  -- the only row of the key is the one that the statement chooses
  have same : rows = updateWhere (fun row => row.messageKey = messageKey)
      EmailDelivery.claimed world.rows := by
    cases result
    apply map_congr_left
    intro old oldListed
    by_cases key : old.messageKey = messageKey
    · rw [handles old oldListed key, ← one, if_pos ⟨own, waiting⟩, if_pos own]
    · rw [if_neg (fun both => key both.1), if_neg key]
  constructor
  · exact recorded_update messageKey EmailDelivery.claimed recorded same rfl
      ⟨fun _ _ => Iff.rfl, fun _ _ => Iff.rfl, fun _ _ => Iff.rfl, fun _ _ => Iff.rfl⟩
      (fun _ => rfl) recorded.once ⟨row, listed, own⟩ (fun _ _ _ => fits_unknown_status fresh)
  · refine ⟨fun stored => fresh (.inr (.inr (.inl stored))), ?_⟩
    intro new mem key
    change new ∈ rows at mem
    rw [same] at mem
    rcases update_rows_cases mem with ⟨_, different⟩ | ⟨_, _, _, rfl⟩
    · exact absurd key different
    · rfl

theorem decide_kept (recorded : world.Recorded)
    (handles : world.Handles mail.messageKey (.decide delivery)) :
    StepKept mail.messageKey (world.decideDelivery mail delivery) := by
  have stays : ∀ status, delivery.status = status → ∀ row ∈ world.rows,
      row.messageKey = mail.messageKey → row.status = status := by
    intro status state row listed own
    rw [handles row listed own]
    exact state
  rw [EmailWorld.decideDelivery]
  cases state : delivery.status with
  | pending | retryable =>
    dsimp only
    split
    · next rows claimed =>
      have kept := claim_kept recorded handles claimed
      exact ⟨kept.1, by rintro _ ⟨⟩; exact kept.2⟩
    · exact ⟨recorded, by rintro _ ⟨⟩⟩
  | processing | ignored => exact ⟨recorded, by rintro _ ⟨⟩⟩
  | replyReady | sendRetryable =>
    refine ⟨recorded, ?_⟩
    rintro _ ⟨⟩
    intro row listed own
    rw [stays _ state row listed own]
    rfl
  | seen | replied | deliveryUnknown | deliveryUnknownSeen =>
    refine ⟨recorded, ?_⟩
    rintro _ ⟨⟩
    exact ⟨by rw [state]; rfl, fun row listed own =>
      (stays _ state row listed own).trans state.symm⟩
  | sending =>
    apply plain_write_kept recorded
    · exact fun _ _ _ => fits_of_unknown rfl
    · intro after row stage done next
      cases next
      have written := (updated_rows done).2.2
      refine ⟨by rw [written]; rfl, fun new mem own => ?_⟩
      rw [written]
      exact updated_status done mem own

theorem start_agent_kept {checks : MailChecks} (recorded : world.Recorded)
    (handles : world.Handles mail.messageKey .claimed) :
    StepKept mail.messageKey (world.startAgent mail checks) := by
  have open' : ∀ status, ∀ row ∈ world.rows, row.messageKey = mail.messageKey →
      world.Fits mail.messageKey status := by
    intro status row listed own
    apply fits_unknown_status
    apply fits_own_open recorded listed own
    rw [handles.2 row listed own]
    rfl
  have written : ∀ update, StepKept mail.messageKey
      (world.write mail update fun _ => HandlerNext.done) := by
    intro update
    apply plain_write_kept recorded (open' update.status)
    intro _ _ _ _ next
    cases next
  rw [EmailWorld.startAgent]
  split
  · exact written _
  · split
    · exact written _
    · split
      · exact written _
      · split
        · exact ⟨recorded, by rintro _ ⟨⟩⟩
        · split
          · exact written _
          · refine ⟨⟨recorded.keys, recorded.once, ?_, recorded.there, recorded.gone⟩, ?_⟩
            · intro row listed
              have fits := recorded.fits row listed
              exact ⟨fits.spent, fits.answered, fits.unknown⟩
            · rintro _ ⟨⟩
              exact handles.2

theorem finish_agent_kept {ok : Bool} {reply : String} (recorded : world.Recorded)
    (handles : world.Handles mail.messageKey .agent) :
    StepKept mail.messageKey (world.finishAgent mail ok reply) := by
  have fresh : ∀ row ∈ world.rows, row.messageKey = mail.messageKey →
      ¬world.Known mail.messageKey := by
    intro row listed own
    apply fits_own_open recorded listed own
    rw [handles row listed own]
    rfl
  rw [EmailWorld.finishAgent]
  split
  · split
    · next rows row done =>
      refine ⟨recorded_written { world with
        stored := world.stored ++ [mail.messageKey] } recorded done rfl ?_ recorded.once ?_, ?_⟩
      · refine ⟨fun _ _ => Iff.rfl, fun _ _ => Iff.rfl, ?_, fun _ _ => Iff.rfl⟩
        intro other different
        simp [different]
      · intro old listed own
        have none := fresh old listed own
        refine ⟨fun sent => ?_, fun _ => rfl, fun unknown => ?_⟩
        · exact absurd (sent.imp_right .inl) none
        · exact absurd (.inr (.inr (.inr unknown))) none
      · rintro _ ⟨⟩
        intro new mem own
        rw [updated_status done mem own]
        rfl
    · exact ⟨recorded, by rintro _ ⟨⟩⟩
  · apply plain_write_kept recorded
    · exact fun row listed own => fits_unknown_status (fresh row listed own)
    · intro _ _ _ _ next
      cases next

theorem start_send_kept {channel : EmailChannel} (recorded : world.Recorded)
    (handles : world.Handles mail.messageKey (.send delivery)) :
    StepKept mail.messageKey (world.startSend host mail channel delivery) := by
  rw [EmailWorld.startSend]
  split
  · next rows row done =>
    obtain ⟨_, ⟨old, oldListed, oldKey⟩, _⟩ := updated_rows done
    have ready := handles old oldListed oldKey
    have before := recorded.fits old oldListed
    rw [oldKey] at before
    have unsent : ¬(mail.messageKey ∈ world.accepted ∨ mail.messageKey ∈ world.sends) := by
      intro sent
      have spent := before.spent sent
      rw [ready_not_spent ready] at spent
      cases spent
    have known : mail.messageKey ∉ world.unknown := by
      intro unknown
      have spent := unknown_spent (before.unknown unknown)
      simp [ready_not_spent ready] at spent
    refine ⟨recorded_written { world with
      sends := mail.messageKey :: world.sends
      attempts := world.attempts ++ [mail.messageKey] } recorded done rfl ?_ ?_ ?_, ?_⟩
    · refine ⟨fun _ _ => Iff.rfl, ?_, fun _ _ => Iff.rfl, fun _ _ => Iff.rfl⟩
      intro other different
      simp [different]
    · intro other
      have bound := recorded.once other
      by_cases own : other = mail.messageKey
      · have accepted := count_eq_zero.mpr fun sent => unsent (.inl sent)
        have sends := count_eq_zero.mpr fun sent => unsent (.inr sent)
        rw [own]
        simp [accepted, sends]
      · simpa [count_cons_of_ne (Ne.symm own)] using bound
    · exact fun _ _ _ => fits_of_unknown rfl
    · rintro _ ⟨⟩
      refine ⟨mem_cons_self, known, fun new mem own => ?_⟩
      exact updated_status done mem own
  · exact ⟨recorded, by rintro _ ⟨⟩⟩

theorem exchanged_same (world : EmailWorld) (messageKey : String) (accepts : Bool) :
    SameElsewhere world (world.exchanged messageKey accepts) messageKey := by
  refine ⟨?_, ?_, fun _ _ => Iff.rfl, fun _ _ => Iff.rfl⟩
  · intro other different
    cases accepts <;> simp [EmailWorld.exchanged, different]
  · intro other different
    exact mem_erase_of_ne different

theorem exchanged_once (recorded : world.Recorded) (sent : messageKey ∈ world.sends)
    (accepts : Bool) (other : String) :
    (world.exchanged messageKey accepts).accepted.count other +
      (world.exchanged messageKey accepts).sends.count other ≤ 1 := by
  have bound := recorded.once other
  have positive := count_pos_iff.mpr sent
  by_cases own : other = messageKey
  · rw [own] at bound ⊢
    cases accepts
    · simp only [EmailWorld.exchanged, count_erase_self]
      simp
      omega
    · simp only [EmailWorld.exchanged, count_erase_self]
      simp
      omega
  · cases accepts
    · simpa [EmailWorld.exchanged, count_erase_of_ne own] using bound
    · simpa [EmailWorld.exchanged, count_erase_of_ne own,
        count_cons_of_ne (Ne.symm own)] using bound

theorem exchanged_known (sent : messageKey ∈ world.sends) :
    world.Known messageKey := .inr (.inl sent)

theorem finish_send_kept {session : SmtpSession} (recorded : world.Recorded)
    (handles : world.Handles mail.messageKey (.smtp delivery)) :
    StepKept mail.messageKey (world.finishSend mail delivery session) := by
  obtain ⟨sent, notUnknown, sending⟩ := handles
  have before : world.Known mail.messageKey := exchanged_known sent
  have same := exchanged_same world mail.messageKey session.accepts
  have once := exchanged_once recorded sent session.accepts
  have marked : ∀ {update : DeliveryUpdate} {after : List EmailDelivery} {row : EmailDelivery}
      {other : EmailWorld}, update.status.isDone = true →
      updateEmailDelivery world.rows mail.messageKey update = some (after, row) →
        { other with rows := after }.Handles mail.messageKey (.mark row) := by
    intro update after row other isDone done
    have written := (updated_rows done).2.2
    refine ⟨by rw [written]; exact isDone, fun new mem own => ?_⟩
    rw [written]
    exact updated_status done mem own
  rw [EmailWorld.finishSend]
  split
  · next retryable =>
    have refused := retryable_not_accepted retryable
    refine write_kept recorded rfl rfl same once (fun _ => before) ?_ ?_
    · intro row listed own
      -- the exchange was the only one, and the server did not take the reply
      have bound := recorded.once mail.messageKey
      have positive := count_pos_iff.mpr sent
      have accepted : mail.messageKey ∉ world.accepted := by
        rw [← count_eq_zero]
        omega
      have sends : mail.messageKey ∉ world.sends.erase mail.messageKey := by
        rw [← count_eq_zero, count_erase_self]
        omega
      refine ⟨?_, fun _ => rfl, fun unknown => absurd unknown notUnknown⟩
      rintro (taken | again)
      · rw [EmailWorld.exchanged, refused] at taken
        exact absurd taken accepted
      · exact absurd again sends
    · intro _ _ _ _ next
      cases next
  · refine write_kept recorded rfl rfl same once (fun _ => before) ?_ ?_
    · exact fun _ _ _ => ⟨fun _ => rfl, fun _ => rfl, fun unknown => absurd unknown notUnknown⟩
    · intro after row stage done next
      cases next
      exact marked rfl done
  · refine write_kept recorded rfl rfl ?_ once (fun _ => before) ?_ ?_
    · refine ⟨same.accepted, same.sends, same.stored, ?_⟩
      intro other different
      simp [EmailWorld.lost, EmailWorld.exchanged, different]
    · exact fun _ _ _ => fits_of_unknown rfl
    · intro after row stage done next
      cases next
      exact marked rfl done

theorem finish_mark_kept {ok : Bool} {info : String} (recorded : world.Recorded)
    (handles : world.Handles mail.messageKey (.mark delivery)) :
    StepKept mail.messageKey (world.finishMark mail delivery ok info) := by
  obtain ⟨isDone, sameStatus⟩ := handles
  rw [EmailWorld.finishMark]
  apply plain_write_kept recorded
  · intro row listed own
    have before := recorded.fits row listed
    rw [own, sameStatus row listed own] at before
    show world.Fits mail.messageKey (seenStatus delivery ok)
    rw [seenStatus]
    split
    · split
      · exact fits_of_unknown rfl
      · next known =>
        exact ⟨fun _ => rfl, fun _ => rfl, fun unknown => absurd (before.unknown unknown) known⟩
    · exact before
  · intro _ _ _ _ next
    cases next

inductive Stepped (host : EmailHost) (world : EmailWorld) (handling : Handling) :
    HandlerStage → EmailWorld × HandlerNext → Prop where
  | decide (delivery : EmailDelivery) :
      Stepped host world handling (.decide delivery) (world.decideDelivery handling.mail delivery)
  | claimed (checks : MailChecks) :
      Stepped host world handling .claimed (world.startAgent handling.mail checks)
  | agent (ok : Bool) (reply : String) :
      Stepped host world handling .agent (world.finishAgent handling.mail ok reply)
  | send (delivery : EmailDelivery) : Stepped host world handling (.send delivery)
      (world.startSend host handling.mail handling.channel delivery)
  | smtp (delivery : EmailDelivery) (session : SmtpSession) : Stepped host world handling
      (.smtp delivery) (world.finishSend handling.mail delivery session)
  | mark (delivery : EmailDelivery) (ok : Bool) (info : String) : Stepped host world handling
      (.mark delivery) (world.finishMark handling.mail delivery ok info)

theorem handler_stepped {handling : Handling} {input : PollInput}
    {result : EmailWorld × HandlerNext} (stepped : handling.step host world input = some result) :
    Stepped host world handling handling.stage result := by
  cases stage : handling.stage <;> cases input <;>
    simp only [Handling.step, stage, reduceCtorEq, Option.some.injEq] at stepped <;>
    rw [← stepped] <;> constructor

theorem step_kept {handling : Handling} {input : PollInput} {result : EmailWorld × HandlerNext}
    (recorded : world.Recorded) (handles : world.Handles handling.mail.messageKey handling.stage)
    (stepped : handling.step host world input = some result) :
    StepKept handling.mail.messageKey result := by
  have taken := handler_stepped stepped
  generalize handling.stage = stage at handles taken
  cases taken with
  | decide delivery => exact decide_kept recorded handles
  | claimed checks => exact start_agent_kept recorded handles
  | agent ok reply => exact finish_agent_kept recorded handles
  | send delivery => exact start_send_kept recorded handles
  | smtp delivery session => exact finish_send_kept recorded handles
  | mark delivery ok info => exact finish_mark_kept recorded handles

end

section

variable {host : EmailHost} {mail : Mail}

theorem recorded_poller (recorded : world.Recorded) (poller : Option Poller) :
    { world with poller := poller }.Recorded := by
  refine ⟨recorded.keys, recorded.once, ?_, recorded.there, recorded.gone⟩
  intro row listed
  have fits := recorded.fits row listed
  exact ⟨fits.spent, fits.answered, fits.unknown⟩

theorem sound_poller {poller : Option Poller} (recorded : world.Recorded)
    (idle : ∀ handling, poller ≠ some (.handle handling)) :
    { world with poller := poller }.Sound :=
  ⟨recorded_poller recorded poller, fun handling running => absurd running (idle handling)⟩

theorem observe_recorded (mail : Mail) (recorded : world.Recorded) (present : world.channel.isSome = true) :
    { world with rows := observeEmailDelivery world.rows mail }.Recorded := by
  rw [observeEmailDelivery]
  split
  · next found =>
    obtain ⟨row, there⟩ := isSome_iff_exists.mp found
    refine recorded_update mail.messageKey (EmailDelivery.observed mail) recorded rfl rfl
      ⟨fun _ _ => Iff.rfl, fun _ _ => Iff.rfl, fun _ _ => Iff.rfl, fun _ _ => Iff.rfl⟩
      (fun _ => rfl) recorded.once ⟨row, lookup_mem there, lookup_key there⟩ ?_
    intro old listed own
    have fits := own ▸ recorded.fits old listed
    exact ⟨fits.spent, fits.answered, fits.unknown⟩
  · next missing =>
    rw [not_isSome_iff_eq_none, getEmailDelivery, lookup_eq_none_iff] at missing
    have fresh : ¬world.Known mail.messageKey := by
      intro known
      obtain ⟨row, listed, own⟩ := recorded.there present mail.messageKey known
      exact missing row listed own
    constructor
    · exact unique_key_append recorded.keys missing
    · exact recorded.once
    · intro row listed
      rcases mem_append.mp listed with old | new
      · have fits := recorded.fits row old
        exact ⟨fits.spent, fits.answered, fits.unknown⟩
      · have fits : world.Fits mail.messageKey .pending := fits_unknown_status fresh
        rw [mem_singleton.mp new]
        exact ⟨fits.spent, fits.answered, fits.unknown⟩
    · intro channel messageKey known
      obtain ⟨row, listed, own⟩ := recorded.there channel messageKey known
      exact ⟨row, mem_append_left _ listed, own⟩
    · intro absent
      change world.channel = none at absent
      rw [absent] at present
      cases present

theorem take_mail_sound {rest : List Mail} (recorded : world.Recorded) :
    (world.takeMail mail rest).Sound := by
  rw [EmailWorld.takeMail]
  split
  · exact sound_poller recorded (by rintro _ ⟨⟩)
  · next channel present =>
    split
    · exact sound_poller recorded (by rintro _ ⟨⟩)
    · have observed := observe_recorded mail recorded (by rw [present]; rfl)
      dsimp only
      cases found : getEmailDelivery (observeEmailDelivery world.rows mail) mail.messageKey with
      | none => exact ⟨recorded_poller observed _, by rintro _ ⟨⟩⟩
      | some delivery =>
        refine ⟨recorded_poller observed _, ?_⟩
        rintro _ ⟨⟩
        intro row listed own
        exact unique_key_eq observed.keys listed (lookup_mem found)
          (own.trans (lookup_key found).symm)

theorem resume_sound {input : PollInput} {poller : Poller} (sound : world.Sound)
    (running : world.poller = some poller)
    (resumed : world.resume host input poller = some next) : next.Sound := by
  have recorded := sound.recorded
  cases poller with
  | verify | fetch =>
    cases input <;> simp only [EmailWorld.resume, reduceCtorEq, Option.some.injEq] at resumed
    rw [← resumed]
    exact sound_poller recorded (by rintro _ ⟨⟩)
  | top =>
    cases input <;> simp only [EmailWorld.resume, reduceCtorEq, Option.some.injEq] at resumed
    rw [← resumed]
    apply sound_poller recorded
    intro handling fetching
    cases channel : world.channel with
    | none =>
      rw [channel] at fetching
      cases fetching
    | some _ =>
      rw [channel] at fetching
      cases fetching
  | mails mails =>
    cases mails with
    | nil =>
      cases input <;> simp only [EmailWorld.resume, reduceCtorEq, Option.some.injEq] at resumed
      rw [← resumed]
      exact sound_poller recorded (by rintro _ ⟨⟩)
    | cons mail rest =>
      cases input <;> simp only [EmailWorld.resume, reduceCtorEq, Option.some.injEq] at resumed
      rw [← resumed]
      exact take_mail_sound recorded
  | handle handling =>
    rw [EmailWorld.resume] at resumed
    obtain ⟨result, stepped, rfl⟩ := map_eq_some_iff.mp resumed
    have kept := step_kept recorded (sound.handles handling running) stepped
    refine ⟨recorded_poller kept.recorded _, ?_⟩
    intro later following
    have after : handling.after result.2 = .handle later := Option.some.inj following
    cases state : result.2 with
    | on stage =>
      rw [state] at after
      cases after
      exact kept.handles stage state
    | done =>
      rw [state] at after
      cases after
    | raised =>
      rw [state] at after
      cases after

theorem recovered_key (row : EmailDelivery) : row.recovered.messageKey = row.messageKey := by
  rw [EmailDelivery.recovered]
  split <;> rfl

theorem recovered_fits {row : EmailDelivery} (fits : world.Fits row.messageKey row.status) :
    world.Fits row.messageKey row.recovered.status := by
  cases state : row.status with
  | processing =>
    apply fits_unknown_status
    apply fits_open fits
    rw [state]
    rfl
  | sending =>
    apply fits_of_unknown
    rw [EmailDelivery.recovered, state]
    rfl
  | _ =>
    have same : row.recovered = row := by
      rw [EmailDelivery.recovered]
      simp only [state]
    rw [same]
    exact fits

theorem recover_recorded (recorded : world.Recorded) :
    { world with rows := recoverEmailDeliveries world.rows }.Recorded := by
  constructor
  · change ((world.rows.map EmailDelivery.recovered).map EmailDelivery.messageKey).Nodup
    rw [List.map_map]
    have same : EmailDelivery.messageKey ∘ EmailDelivery.recovered = EmailDelivery.messageKey :=
      funext recovered_key
    rw [same]
    exact recorded.keys
  · exact recorded.once
  · intro row listed
    obtain ⟨old, mem, rfl⟩ := List.mem_map.mp listed
    have fits := recovered_fits (recorded.fits old mem)
    rw [recovered_key]
    exact ⟨fits.spent, fits.answered, fits.unknown⟩
  · intro channel messageKey known
    obtain ⟨row, listed, own⟩ := recorded.there channel messageKey known
    exact ⟨row.recovered, List.mem_map_of_mem listed, (recovered_key row).trans own⟩
  · intro absent
    change recoverEmailDeliveries world.rows = []
    rw [recorded.gone absent]
    rfl

theorem awaited_sending (sound : world.Sound) (awaited : world.awaited = some messageKey) :
    messageKey ∈ world.sends ∧
      ∀ row ∈ world.rows, row.messageKey = messageKey → row.status = .sending := by
  rw [EmailWorld.awaited] at awaited
  split at awaited
  · next handling running =>
    split at awaited
    · next delivery stage =>
      have handles := sound.handles handling running
      rw [stage] at handles
      rw [← Option.some.inj awaited]
      exact ⟨handles.1, handles.2.2⟩
    · cases awaited
  · cases awaited

theorem interrupted_sound {poller : Option Poller} (sound : world.Sound)
    (idle : ∀ handling, poller ≠ some (.handle handling)) :
    (world.interrupted poller).Sound := by
  rw [EmailWorld.interrupted]
  cases awaited : world.awaited with
  | none => exact sound_poller sound.recorded idle
  | some messageKey =>
    obtain ⟨sent, sending⟩ := awaited_sending sound awaited
    have recorded : (world.lost messageKey).Recorded := by
      refine recorded_history messageKey sound.recorded rfl rfl ?_ sound.recorded.once ?_ ?_
      · refine ⟨fun _ _ => Iff.rfl, fun _ _ => Iff.rfl, fun _ _ => Iff.rfl, ?_⟩
        intro other different
        simp [EmailWorld.lost, different]
      · exact fun _ => exchanged_known sent
      · intro row listed own
        rw [sending row listed own]
        exact fits_of_unknown rfl
    exact sound_poller recorded idle

theorem restarted_idle (poller : Poller) (handling : Handling) :
    poller.restarted ≠ some (.handle handling) := by
  cases poller <;> simp [Poller.restarted]

theorem next_sound {event : EmailEvent} (sound : world.Sound)
    (stepped : world.next host event = some next) : next.Sound := by
  cases event with
  | start =>
    obtain ⟨_, result⟩ := ite_none_right_eq_some.mp stepped
    cases result
    exact ⟨recorded_poller (recover_recorded sound.recorded) _, by rintro _ ⟨⟩⟩
  | resume input =>
    obtain ⟨poller, running, resumed⟩ := bind_eq_some_iff.mp stepped
    exact resume_sound sound running resumed
  | raise =>
    obtain ⟨poller, _, rfl⟩ := map_eq_some_iff.mp stepped
    exact interrupted_sound sound (restarted_idle poller)
  | cancel =>
    obtain ⟨poller, _, rfl⟩ := map_eq_some_iff.mp stepped
    exact interrupted_sound sound (by rintro _ ⟨⟩)
  | orphan messageKey accepts =>
    obtain ⟨⟨sent, other⟩, result⟩ := ite_none_right_eq_some.mp stepped
    cases result
    have before : world.Known messageKey := exchanged_known sent
    constructor
    · refine recorded_history messageKey sound.recorded rfl rfl
        (exchanged_same world messageKey accepts) (exchanged_once sound.recorded sent accepts)
        (fun _ => before) ?_
      intro row listed own
      have fits := own ▸ sound.recorded.fits row listed
      exact ⟨fun _ => fits.spent (.inr sent), fits.answered, fits.unknown⟩
    · intro handling running
      have handles := sound.handles handling running
      cases stage : handling.stage with
      | smtp delivery =>
        rw [stage] at handles
        refine ⟨?_, handles.2⟩
        have different : handling.mail.messageKey ≠ messageKey := by
          intro same
          apply other
          change world.poller = some (.handle handling) at running
          rw [EmailWorld.awaited, running]
          simp only [stage]
          rw [same]
        exact (mem_erase_of_ne different).mpr handles.1
      | _ =>
        rw [stage] at handles
        exact handles
  | configure username =>
    cases stepped
    refine ⟨⟨sound.recorded.keys, sound.recorded.once, ?_, ?_, ?_⟩, sound.handles⟩
    · intro row listed
      have fits := sound.recorded.fits row listed
      exact ⟨fits.spent, fits.answered, fits.unknown⟩
    · intro present messageKey known
      exact sound.recorded.there (isSome_map.symm.trans present) messageKey known
    · intro absent
      exact sound.recorded.gone (map_eq_none_iff.mp absent)
  | delete =>
    cases stepped
    constructor
    · refine ⟨nodup_nil, sound.recorded.once, ?_, ?_, fun _ => rfl⟩
      · intro row listed
        cases listed
      · intro present
        cases present
    · intro handling running
      have handles := sound.handles handling running
      cases stage : handling.stage with
      | claimed =>
        rw [stage] at handles
        exact ⟨handles.1, by simp⟩
      | smtp delivery =>
        rw [stage] at handles
        exact ⟨handles.1, handles.2.1, by simp⟩
      | mark delivery =>
        rw [stage] at handles
        exact ⟨handles.1, by simp⟩
      | _ => simp [EmailWorld.Handles]

theorem fresh_sound (fresh : world.Fresh) : world.Sound := by
  obtain ⟨rows, poller, sends, accepted, stored, unknown⟩ := fresh
  refine ⟨⟨?_, ?_, ?_, ?_, ?_⟩, ?_⟩ <;>
    simp [rows, poller, sends, accepted, stored, unknown, EmailWorld.Known, UniqueKey]

theorem reachable_sound (reachable : (emailMachine host).Reachable Anything world) : world.Sound :=
  reachable_invariant EmailWorld.Sound (fun _ => fresh_sound)
    (fun _ _ _ sound _ stepped => next_sound sound stepped) reachable

end

/-- The agent does not run for an answered message, and an unknown one is not sent. -/
structure Continued (world next : EmailWorld) : Prop where
  stored : ∀ messageKey ∈ world.stored, messageKey ∈ next.stored ∧
    next.agentRuns.count messageKey = world.agentRuns.count messageKey
  unknown : ∀ messageKey ∈ world.unknown, messageKey ∈ next.unknown ∧
    next.attempts.count messageKey = world.attempts.count messageKey

section

variable {host : EmailHost} {mail : Mail} {delivery : EmailDelivery}

theorem continued_quiet (stored : ∃ more, next.stored = world.stored ++ more)
    (unknown : ∃ more, next.unknown = world.unknown ++ more)
    (runs : next.agentRuns = world.agentRuns) (attempts : next.attempts = world.attempts) :
    Continued world next := by
  obtain ⟨moreStored, stored⟩ := stored
  obtain ⟨moreUnknown, unknown⟩ := unknown
  constructor
  · intro messageKey listed
    rw [stored, runs]
    exact ⟨mem_append_left _ listed, rfl⟩
  · intro messageKey listed
    rw [unknown, attempts]
    exact ⟨mem_append_left _ listed, rfl⟩

theorem continued_refl (world : EmailWorld) : Continued world world :=
  continued_quiet ⟨[], by simp⟩ ⟨[], by simp⟩ rfl rfl

theorem write_continued {before : EmailWorld} {update : DeliveryUpdate}
    {following : EmailDelivery → HandlerNext} (continued : Continued world before) :
    Continued world (before.write mail update following).1 := by
  rw [EmailWorld.write]
  split
  · exact ⟨continued.stored, continued.unknown⟩
  · exact continued

theorem count_append_other {texts : List String} {other : String} (different : other ≠ messageKey) :
    (texts ++ [messageKey]).count other = texts.count other := by
  rw [count_append, count_singleton, if_neg (by simpa using Ne.symm different)]
  rfl

theorem decide_continued : Continued world (world.decideDelivery mail delivery).1 := by
  rw [EmailWorld.decideDelivery]
  cases delivery.status with
  | sending => exact write_continued (continued_refl world)
  | pending | retryable =>
    dsimp only
    split
    · exact continued_quiet ⟨[], by simp⟩ ⟨[], by simp⟩ rfl rfl
    · exact continued_refl world
  | _ => exact continued_refl world

theorem start_agent_continued {checks : MailChecks}
    (handles : world.Handles mail.messageKey .claimed) :
    Continued world (world.startAgent mail checks).1 := by
  rw [EmailWorld.startAgent]
  split
  · exact write_continued (continued_refl world)
  · split
    · exact write_continued (continued_refl world)
    · split
      · exact write_continued (continued_refl world)
      · split
        · exact continued_refl world
        · split
          · exact write_continued (continued_refl world)
          · refine ⟨?_, fun _ listed => ⟨listed, rfl⟩⟩
            intro messageKey listed
            refine ⟨listed, count_append_other ?_⟩
            intro same
            exact handles.1 (same ▸ listed)

theorem finish_agent_continued {ok : Bool} {reply : String} :
    Continued world (world.finishAgent mail ok reply).1 := by
  rw [EmailWorld.finishAgent]
  split
  · split
    · exact continued_quiet ⟨_, rfl⟩ ⟨[], by simp⟩ rfl rfl
    · exact continued_refl world
  · exact write_continued (continued_refl world)

theorem start_send_continued {channel : EmailChannel} (recorded : world.Recorded)
    (handles : world.Handles mail.messageKey (.send delivery)) :
    Continued world (world.startSend host mail channel delivery).1 := by
  rw [EmailWorld.startSend]
  split
  · next rows row done =>
    obtain ⟨_, ⟨old, listed, own⟩, _⟩ := updated_rows done
    have ready := ready_not_spent (handles old listed own)
    refine ⟨fun _ listed => ⟨listed, rfl⟩, ?_⟩
    intro messageKey unknown
    refine ⟨unknown, count_append_other ?_⟩
    intro same
    have spent := unknown_spent ((recorded.fits old listed).unknown (own ▸ same ▸ unknown))
    rw [ready] at spent
    cases spent
  · exact continued_refl world

theorem finish_send_continued {session : SmtpSession} :
    Continued world (world.finishSend mail delivery session).1 := by
  rw [EmailWorld.finishSend]
  split
  · exact write_continued (continued_quiet ⟨[], by simp [EmailWorld.exchanged]⟩
      ⟨[], by simp [EmailWorld.exchanged]⟩ rfl rfl)
  · exact write_continued (continued_quiet ⟨[], by simp [EmailWorld.exchanged]⟩
      ⟨[], by simp [EmailWorld.exchanged]⟩ rfl rfl)
  · exact write_continued (continued_quiet ⟨[], by simp [EmailWorld.exchanged, EmailWorld.lost]⟩
      ⟨[mail.messageKey], by simp [EmailWorld.exchanged, EmailWorld.lost]⟩ rfl rfl)

theorem step_continued {handling : Handling} {input : PollInput}
    {result : EmailWorld × HandlerNext} (recorded : world.Recorded)
    (handles : world.Handles handling.mail.messageKey handling.stage)
    (stepped : handling.step host world input = some result) : Continued world result.1 := by
  have taken := handler_stepped stepped
  generalize handling.stage = stage at handles taken
  cases taken with
  | decide delivery => exact decide_continued
  | claimed checks => exact start_agent_continued handles
  | agent ok reply => exact finish_agent_continued
  | send delivery => exact start_send_continued recorded handles
  | smtp delivery session => exact finish_send_continued
  | mark delivery ok info => exact write_continued (continued_refl world)

theorem resume_continued {input : PollInput} {poller : Poller} (sound : world.Sound)
    (running : world.poller = some poller)
    (resumed : world.resume host input poller = some next) : Continued world next := by
  have moved : ∀ (rows : List EmailDelivery) (poller : Option Poller),
      Continued world { world with rows := rows, poller := poller } := fun _ _ =>
    continued_quiet ⟨[], by simp⟩ ⟨[], by simp⟩ rfl rfl
  cases poller with
  | mails mails =>
    cases mails with
    | nil =>
      cases input <;> simp only [EmailWorld.resume, reduceCtorEq, Option.some.injEq] at resumed
      rw [← resumed]
      exact moved _ _
    | cons mail rest =>
      cases input <;> simp only [EmailWorld.resume, reduceCtorEq, Option.some.injEq] at resumed
      rw [← resumed, EmailWorld.takeMail]
      split
      · exact moved _ _
      · split
        · exact moved _ _
        · exact moved _ _
  | handle handling =>
    rw [EmailWorld.resume] at resumed
    obtain ⟨result, stepped, rfl⟩ := map_eq_some_iff.mp resumed
    have continued := step_continued sound.recorded (sound.handles handling running) stepped
    exact ⟨continued.stored, continued.unknown⟩
  | _ =>
    cases input <;> simp only [EmailWorld.resume, reduceCtorEq, Option.some.injEq] at resumed
    rw [← resumed]
    exact moved _ _

theorem interrupted_continued (poller : Option Poller) :
    Continued world (world.interrupted poller) := by
  rw [EmailWorld.interrupted]
  split
  · next messageKey _ =>
    exact continued_quiet ⟨[], by simp [EmailWorld.lost]⟩ ⟨[messageKey], rfl⟩ rfl rfl
  · exact continued_quiet ⟨[], by simp⟩ ⟨[], by simp⟩ rfl rfl

theorem next_continued {event : EmailEvent} (sound : world.Sound)
    (stepped : world.next host event = some next) : Continued world next := by
  cases event with
  | start =>
    obtain ⟨_, result⟩ := ite_none_right_eq_some.mp stepped
    cases result
    exact continued_quiet ⟨[], by simp⟩ ⟨[], by simp⟩ rfl rfl
  | resume input =>
    obtain ⟨poller, running, resumed⟩ := bind_eq_some_iff.mp stepped
    exact resume_continued sound running resumed
  | raise =>
    obtain ⟨poller, _, rfl⟩ := map_eq_some_iff.mp stepped
    exact interrupted_continued _
  | cancel =>
    obtain ⟨poller, _, rfl⟩ := map_eq_some_iff.mp stepped
    exact interrupted_continued _
  | orphan messageKey accepts =>
    obtain ⟨_, result⟩ := ite_none_right_eq_some.mp stepped
    cases result
    exact continued_quiet ⟨[], by simp [EmailWorld.exchanged]⟩
      ⟨[], by simp [EmailWorld.exchanged]⟩ rfl rfl
  | configure username =>
    cases stepped
    exact continued_quiet ⟨[], by simp⟩ ⟨[], by simp⟩ rfl rfl
  | delete =>
    cases stepped
    exact continued_quiet ⟨[], by simp⟩ ⟨[], by simp⟩ rfl rfl

theorem continued_trans {middle : EmailWorld} (first : Continued world middle)
    (second : Continued middle next) : Continued world next := by
  constructor
  · intro messageKey listed
    obtain ⟨still, count⟩ := first.stored messageKey listed
    exact ⟨(second.stored messageKey still).1, (second.stored messageKey still).2.trans count⟩
  · intro messageKey listed
    obtain ⟨still, count⟩ := first.unknown messageKey listed
    exact ⟨(second.unknown messageKey still).1, (second.unknown messageKey still).2.trans count⟩

end

/-- The SMTP server accepts at most one reply to a message; the agent does not run again after a
reply was stored, and a message whose result is unknown is not sent again. -/
theorem one_accepted_reply {host : EmailHost} {world : EmailWorld}
    (reachable : (emailMachine host).Reachable Anything world) :
    (∀ messageKey, world.accepted.count messageKey ≤ 1) ∧
      ∀ after, (emailMachine host).Path Anything world after → ∀ messageKey,
        (messageKey ∈ world.stored →
          after.agentRuns.count messageKey = world.agentRuns.count messageKey) ∧
        (messageKey ∈ world.unknown →
          after.attempts.count messageKey = world.attempts.count messageKey) := by
  constructor
  · intro messageKey
    have bound := (reachable_sound reachable).recorded.once messageKey
    omega
  · intro after path messageKey
    have continued : Continued world after := by
      apply path_stable (Continued world) reachable _ (continued_refl world) path
      intro state event next reached continued _ stepped
      exact continued_trans continued (next_continued (reachable_sound reached) stepped)
    exact ⟨fun listed => (continued.stored messageKey listed).2,
      fun listed => (continued.unknown messageKey listed).2⟩

def plainMail (messageKey : String) : Mail := ⟨messageKey, "", "a@b", "s", "t", "1", "7", ""⟩

def goChecks : PollInput := .go ⟨some "session", false, true⟩

def newChannel : EmailWorld := ⟨some ⟨"c", "me@x"⟩, [], none, [], [], [], [], [], []⟩

/-- The server refuses the message after `DATA`. -/
def refusedSession : SmtpSession where
  connect := none
  login := none
  sendmail := .error ⟨.data, "550 rejected"⟩
  quit := none
  accepts := false
  quitKind := by simp
  delivered := by simp

/-- The server takes the message, and `QUIT` is answered. -/
def sentSession : SmtpSession where
  connect := none
  login := none
  sendmail := .ok []
  quit := none
  accepts := true
  quitKind := by simp
  delivered := by simp

def firstRound : List EmailEvent :=
  [.start, .resume goChecks, .resume goChecks, .resume (.fetched [plainMail "m"]),
    .resume goChecks, .resume goChecks, .resume goChecks, .resume (.agent true "reply"),
    .resume goChecks, .resume (.smtp refusedSession), .resume goChecks]

/-- The refused reply is sent again; the process ends while the next one is sent. -/
def secondRound : List EmailEvent :=
  [.resume goChecks, .resume (.fetched [plainMail "m", plainMail "n"]), .resume goChecks,
    .resume goChecks, .resume goChecks, .resume (.smtp sentSession), .resume (.seen false "down"),
    .resume goChecks, .resume goChecks, .resume goChecks, .resume (.agent true "reply"),
    .resume goChecks, .cancel]

def restartedRound : List EmailEvent :=
  [.orphan "n" true, .start, .resume goChecks, .resume goChecks,
    .resume (.fetched [plainMail "m", plainMail "n"]), .resume goChecks, .resume goChecks,
    .resume (.seen true ""), .resume goChecks, .resume goChecks, .resume (.seen true "")]

def emailHost : EmailHost := ⟨fun _ => "digest"⟩

def anyEmailEvent (_ : EmailWorld) (_ : EmailEvent) : Bool := true

def emailRun (world : EmailWorld) (events : List EmailEvent) : Option EmailWorld :=
  events.foldlM (fun world event =>
    if anyEmailEvent world event then world.next emailHost event else none) world

theorem email_run_path {world after : EmailWorld} {events : List EmailEvent}
    (ran : emailRun world events = some after) :
    (emailMachine emailHost).Path Anything world after := by
  have path : (emailMachine emailHost).Path (fun world event =>
      anyEmailEvent world event = true) world after :=
    path_of_run _ _ (fun _ _ _ step => step) ran
  exact path_weaken (fun _ _ _ => trivial) path

theorem crashed_run_once : ∃ world after,
    emailRun newChannel (firstRound ++ secondRound) = some world ∧
    emailRun world restartedRound = some after ∧
    after.rows.map EmailDelivery.status = [.seen, .deliveryUnknownSeen] ∧
    after.accepted = ["n", "m"] ∧ after.attempts = ["m", "m", "n"] ∧
    (∀ messageKey, world.accepted.count messageKey ≤ 1) ∧
    after.agentRuns.count "m" = world.agentRuns.count "m" ∧
    after.attempts.count "n" = world.attempts.count "n" := by
  have ran : ((emailRun newChannel (firstRound ++ secondRound)).bind fun world =>
      (emailRun world restartedRound).map fun after =>
        (after.rows.map EmailDelivery.status, after.accepted, after.attempts,
          decide ("m" ∈ world.stored ∧ "n" ∈ world.unknown))) =
      some ([.seen, .deliveryUnknownSeen], ["n", "m"], ["m", "m", "n"], true) := by
    decide +kernel
  obtain ⟨world, done, ran⟩ := bind_eq_some_iff.mp ran
  obtain ⟨after, more, shown⟩ := map_eq_some_iff.mp ran
  simp only [Prod.mk.injEq, decide_eq_true_eq] at shown
  obtain ⟨statuses, accepted, attempts, stored, unknown⟩ := shown
  have fresh : newChannel.Fresh := ⟨rfl, rfl, rfl, rfl, rfl, rfl⟩
  have reachable : (emailMachine emailHost).Reachable Anything world :=
    ⟨newChannel, fresh, email_run_path done⟩
  obtain ⟨once, kept⟩ := one_accepted_reply reachable
  exact ⟨world, after, done, more, statuses, accepted, attempts, once,
    (kept after (email_run_path more) "m").1 stored,
    (kept after (email_run_path more) "n").2 unknown⟩

end AgentMate.EmailDeliveries
