import AgentMate.ScheduledFires

/-! # Deliveries of a webhook -/

namespace AgentMate

open TransitionSystem Interleaving TextKeys Table List Option

theorem utf8_injective : Function.Injective utf8 := by
  intro left right same
  have bytes : left.toUTF8 = right.toUTF8 := ByteArray.ext (Array.toList_inj.mp same)
  exact String.toByteArray_inj.mp bytes

def isWebhookKey (fireKey : String) : Bool := (afterPrefix? "webhook:" fireKey).isSome

theorem webhook_key_marked (host : AutomationHost) (webhookId idempotencyKey : String) :
    isWebhookKey (webhookKey host webhookId idempotencyKey) = true := by
  rw [isWebhookKey, isSome_iff_exists]
  exact ⟨_, after_prefix_eq_some.mpr rfl⟩

theorem webhook_key_injective {host : AutomationHost} {webhookId webhookId' : String}
    {idempotencyKey idempotencyKey' : String} (plain : ':' ∉ webhookId.toList)
    (plain' : ':' ∉ webhookId'.toList)
    (same : webhookKey host webhookId idempotencyKey = webhookKey host webhookId' idempotencyKey') :
    webhookId = webhookId' ∧ idempotencyKey = idempotencyKey' := by
  have digests : host.sha256 (utf8 (webhookId ++ ":" ++ idempotencyKey)) =
      host.sha256 (utf8 (webhookId' ++ ":" ++ idempotencyKey')) := by
    have texts := congrArg String.toList same
    rw [webhookKey, webhookKey, String.toList_append, String.toList_append] at texts
    exact String.toList_inj.mp (append_cancel_left texts)
  have texts := congrArg String.toList (utf8_injective (host.sha256_injective digests))
  simp only [String.toList_append, append_assoc] at texts
  obtain ⟨webhooks, keys⟩ := first_mark_unique plain plain' texts
  exact ⟨String.toList_inj.mp webhooks, String.toList_inj.mp keys⟩

theorem manual_key_unmarked (identifier : String) :
    isWebhookKey ("manual:" ++ identifier) = false := by
  rw [isWebhookKey, afterPrefix?, String.toList_append]
  rfl

theorem replay_key_unmarked (fireId key : String) :
    isWebhookKey ("replay:" ++ fireId ++ ":" ++ key) = false := by
  rw [isWebhookKey, afterPrefix?]
  simp only [String.toList_append]
  rfl

theorem scheduled_key_unmarked (plannedAt : Time) :
    isWebhookKey (scheduledKey plannedAt) = false := by
  rw [isWebhookKey, afterPrefix?, scheduledKey, String.toList_append]
  rfl

def AutomationStore.Asked (store : AutomationStore) (host : AutomationHost)
    (automationId fireKey : String) : Prop :=
  ∃ webhookId idempotencyKey, (webhookId, automationId) ∈ store.issued ∧
    fireKey = webhookKey host webhookId idempotencyKey

def AutomationStore.FireUnder (store : AutomationStore) (fireId fireKey : String) : Prop :=
  ∃ fire ∈ store.fires, fire.id = fireId ∧ fire.fireKey = fireKey

def AutomationStore.Recorded (store : AutomationStore)
    (deliveryId webhookId idempotencyKey payloadSha256 : String) : Prop :=
  ∃ row ∈ store.registered, row.id = deliveryId ∧ row.webhookId = webhookId ∧
    row.idempotencyKey = idempotencyKey ∧ row.payloadSha256 = payloadSha256

def WebhookDelivery.rowId (row : WebhookDelivery) : String := row.id

def WebhookDelivery.key (row : WebhookDelivery) : String × String :=
  (row.webhookId, row.idempotencyKey)

structure WebhookInv (host : AutomationHost) (store : AutomationStore) : Prop where
  keys : FireKeys store
  issued : UniqueKey Prod.fst store.issued
  plain : ∀ entry ∈ store.issued, ':' ∉ entry.1.toList
  webhooks : ∀ row ∈ store.webhooks, (row.id, row.automationId) ∈ store.issued
  fires : ∀ fire ∈ store.fires, isWebhookKey fire.fireKey = true →
    store.Asked host fire.automationId fire.fireKey
  recordedIds : UniqueKey WebhookDelivery.rowId store.registered
  recordedKeys : UniqueKey WebhookDelivery.key store.registered
  recordedFor : ∀ row ∈ store.registered, ∃ automationId, (row.webhookId, automationId) ∈ store.issued
  stored : ∀ row ∈ store.registered, (∃ webhook ∈ store.webhooks, webhook.id = row.webhookId) →
    ∃ delivery ∈ store.deliveries, delivery.key = row.key
  deliveries : ∀ row ∈ store.deliveries,
    store.Recorded row.id row.webhookId row.idempotencyKey row.payloadSha256 ∧
    ∀ fireId ∈ row.fireId, store.FireUnder fireId (webhookKey host row.webhookId row.idempotencyKey)
  replies : ∀ reply ∈ store.replies,
    store.Recorded reply.deliveryId reply.webhookId reply.idempotencyKey (host.sha256 reply.body) ∧
    store.FireUnder reply.fireId (webhookKey host reply.webhookId reply.idempotencyKey)

structure WebhooksGrow (store next : AutomationStore) : Prop where
  issued : ∀ entry ∈ store.issued, entry ∈ next.issued
  registered : ∀ row ∈ store.registered, row ∈ next.registered
  fires : store.FiresGrow next

section

variable {host : AutomationHost} {store next : AutomationStore}

theorem fire_keys_same (keys : FireKeys store) (automations : next.automations = store.automations)
    (fires : next.fires = store.fires) : FireKeys next :=
  ⟨automations ▸ keys.automations, fires ▸ keys.ids, fires ▸ keys.keyed⟩

theorem webhooks_unchanged (issued : next.issued = store.issued)
    (registered : next.registered = store.registered) (fires : next.fires = store.fires) :
    WebhooksGrow store next :=
  ⟨fun _ mem => issued.symm ▸ mem, fun _ mem => registered.symm ▸ mem, fires_same_grow fires⟩

theorem fire_under_grows {fireId fireKey : String} (grows : store.FiresGrow next)
    (under : store.FireUnder fireId fireKey) : next.FireUnder fireId fireKey := by
  obtain ⟨fire, mem, same, key⟩ := under
  obtain ⟨after, afterMem, still, keeps⟩ := grows fire mem
  exact ⟨after, afterMem, still.trans same, keeps.key.trans key⟩

variable {deliveryId webhookId idempotencyKey : String}

theorem recorded_grows {payloadSha256 : String}
    (grows : ∀ row ∈ store.registered, row ∈ next.registered)
    (recorded : store.Recorded deliveryId webhookId idempotencyKey payloadSha256) :
    next.Recorded deliveryId webhookId idempotencyKey payloadSha256 := by
  obtain ⟨row, mem, same⟩ := recorded
  exact ⟨row, grows row mem, same⟩

theorem fires_inv (inv : WebhookInv host store) (keys : FireKeys next)
    (grows : store.FiresGrow next) (ledger : next.ledger = store.ledger)
    (fires : ∀ fire ∈ next.fires, isWebhookKey fire.fireKey = true →
      store.Asked host fire.automationId fire.fireKey) :
    WebhookInv host next ∧ WebhooksGrow store next := by
  simp only [AutomationStore.ledger, WebhookLedger.mk.injEq] at ledger
  obtain ⟨webhooks, deliveries, issued, registered, replies⟩ := ledger
  have kept : ∀ row ∈ store.registered, row ∈ next.registered := fun _ mem =>
    registered.symm ▸ mem
  constructor
  · constructor
    · exact keys
    · exact issued ▸ inv.issued
    · exact issued ▸ inv.plain
    · exact webhooks ▸ issued ▸ inv.webhooks
    · intro fire mem marked
      obtain ⟨webhookId, idempotencyKey, asked, key⟩ := fires fire mem marked
      exact ⟨webhookId, idempotencyKey, issued.symm ▸ asked, key⟩
    · exact registered ▸ inv.recordedIds
    · exact registered ▸ inv.recordedKeys
    · exact registered ▸ issued ▸ inv.recordedFor
    · exact registered ▸ webhooks ▸ deliveries ▸ inv.stored
    · intro row mem
      obtain ⟨recorded, fired⟩ := inv.deliveries row (deliveries ▸ mem)
      exact ⟨recorded_grows kept recorded, fun fireId named =>
        fire_under_grows grows (fired fireId named)⟩
    · intro reply mem
      obtain ⟨recorded, fired⟩ := inv.replies reply (replies ▸ mem)
      exact ⟨recorded_grows kept recorded, fire_under_grows grows fired⟩
  · exact ⟨fun _ mem => issued.symm ▸ mem, kept, grows⟩

theorem fires_same_inv (inv : WebhookInv host store) (keys : FireKeys next)
    (fires : next.fires = store.fires) (ledger : next.ledger = store.ledger) :
    WebhookInv host next ∧ WebhooksGrow store next :=
  fires_inv inv keys (fires_same_grow fires) ledger (fires ▸ inv.fires)

theorem fires_rewritten_inv (inv : WebhookInv host store) (keys : FireKeys next)
    (fires : Rewritten FireRow.rowId FireRow.Keeps store.fires next.fires)
    (ledger : next.ledger = store.ledger) : WebhookInv host next ∧ WebhooksGrow store next := by
  apply fires_inv inv keys _ ledger
  · intro fire mem marked
    obtain ⟨old, oldMem, -, keeps⟩ := fires.rows fire mem
    rw [keeps.key] at marked ⊢
    rw [keeps.automation]
    exact inv.fires old oldMem marked
  · exact fun fire mem => rewritten_forward fires inv.keys.ids mem

variable {now : Time} {request : WebhookRequest}

variable {automationId ownerId : String}

theorem create_webhook_inv {token : WebhookToken} {secret : String} (inv : WebhookInv host store)
    (done : store.createWebhook token automationId ownerId secret now = some next) :
    WebhookInv host next ∧ WebhooksGrow store next := by
  rw [AutomationStore.createWebhook] at done
  split at done
  · cases done
  · next automation _ =>
    split at done
    · cases done
    · next free =>
      cases done
      rw [Bool.or_eq_true, not_or] at free
      have fresh : ∀ entry ∈ store.issued, entry.1 ≠ token.text := fun entry mem same =>
        free.2 (List.any_eq_true.mpr ⟨entry, mem, decide_eq_true same⟩)
      have kept : ∀ entry ∈ store.issued, entry ∈ store.issued ++ [(token.text, automation.id)] :=
        fun _ mem => mem_append_left _ mem
      constructor
      · constructor
        · exact fire_keys_same inv.keys rfl rfl
        · exact unique_key_append inv.issued fresh
        · intro entry mem
          rcases mem_append.mp mem with old | new
          · exact inv.plain entry old
          · rw [mem_singleton.mp new]
            exact token.plain
        · intro row mem
          rcases mem_append.mp mem with old | new
          · exact kept _ (inv.webhooks row old)
          · rw [mem_singleton.mp new]
            exact mem_append_right _ (mem_singleton.mpr rfl)
        · intro fire mem marked
          obtain ⟨webhookId, idempotencyKey, asked, key⟩ := inv.fires fire mem marked
          exact ⟨webhookId, idempotencyKey, kept _ asked, key⟩
        · exact inv.recordedIds
        · exact inv.recordedKeys
        · intro row mem
          obtain ⟨owner, asked⟩ := inv.recordedFor row mem
          exact ⟨owner, kept _ asked⟩
        · rintro row mem ⟨webhook, webhookMem, same⟩
          rcases mem_append.mp webhookMem with old | new
          · exact inv.stored row mem ⟨webhook, old, same⟩
          · rw [mem_singleton.mp new] at same
            obtain ⟨owner, asked⟩ := inv.recordedFor row mem
            exact absurd same.symm (fresh _ asked)
        · exact inv.deliveries
        · exact inv.replies
      · exact ⟨kept, fun _ mem => mem, fires_same_grow rfl⟩

theorem rotate_webhook_inv {secret : String} (inv : WebhookInv host store) :
    WebhookInv host (store.rotateWebhook automationId ownerId secret now) ∧
      WebhooksGrow store (store.rotateWebhook automationId ownerId secret now) := by
  have rows : ∀ row ∈ (store.rotateWebhook automationId ownerId secret now).webhooks,
      ∃ old ∈ store.webhooks, row.id = old.id ∧ row.automationId = old.automationId := by
    intro row mem
    obtain ⟨old, oldMem, rfl⟩ := mem_update_where.mp mem
    refine ⟨old, oldMem, ?_⟩
    split <;> exact ⟨rfl, rfl⟩
  refine ⟨{ inv with keys := fire_keys_same inv.keys rfl rfl, webhooks := ?_, stored := ?_ },
    webhooks_unchanged rfl rfl rfl⟩
  · intro row mem
    obtain ⟨old, oldMem, same, own⟩ := rows row mem
    rw [same, own]
    exact inv.webhooks old oldMem
  · rintro row mem ⟨webhook, webhookMem, named⟩
    obtain ⟨old, oldMem, same, -⟩ := rows webhook webhookMem
    exact inv.stored row mem ⟨old, oldMem, same.symm.trans named⟩

theorem delete_webhook_inv (inv : WebhookInv host store) :
    WebhookInv host (store.deleteWebhook automationId ownerId) ∧
      WebhooksGrow store (store.deleteWebhook automationId ownerId) := by
  refine ⟨{ inv with
    keys := fire_keys_same inv.keys rfl rfl, webhooks := ?_, stored := ?_, deliveries := ?_ },
    webhooks_unchanged rfl rfl rfl⟩
  · exact fun row mem => inv.webhooks row (mem_filter.mp mem).1
  · rintro row mem ⟨webhook, webhookMem, named⟩
    obtain ⟨kept, stays⟩ := mem_filter.mp webhookMem
    obtain ⟨delivery, stored, same⟩ := inv.stored row mem ⟨webhook, kept, named⟩
    refine ⟨delivery, mem_filter.mpr ⟨stored, ?_⟩, same⟩
    rw [show delivery.webhookId = webhook.id from (Prod.mk.inj same).1.trans named.symm]
    exact stays
  · exact fun row mem => inv.deliveries row (mem_filter.mp mem).1

theorem delivery_none (absent : store.delivery? webhookId idempotencyKey = none) :
    ∀ row ∈ store.deliveries, row.key ≠ (webhookId, idempotencyKey) := by
  intro row mem same
  have unmatched := find?_eq_none.mp absent row mem
  obtain ⟨webhook, key⟩ := Prod.mk.inj same
  simp [webhook, key] at unmatched

theorem recorded_stored {row : WebhookDelivery} (inv : WebhookInv host store)
    (mem : row ∈ store.registered) (stands : ∃ webhook ∈ store.webhooks, webhook.id = row.webhookId) :
    (store.delivery? row.webhookId row.idempotencyKey).isSome = true := by
  obtain ⟨delivery, stored, same⟩ := inv.stored row mem stands
  cases absent : store.delivery? row.webhookId row.idempotencyKey with
  | none => exact absurd same (delivery_none absent delivery stored)
  | some found => rfl

theorem insert_delivery_inv {automation : AutomationRow} (deliveryId : String) (now : Time)
    (inv : WebhookInv host store) (asked : (request.webhookId, automation.id) ∈ store.issued) :
    WebhookInv host (store.insertDelivery host request automation deliveryId now).1 ∧
      WebhooksGrow store (store.insertDelivery host request automation deliveryId now).1 := by
  rw [AutomationStore.insertDelivery]
  split
  · exact ⟨inv, fun _ mem => mem, fun _ mem => mem, fires_same_grow rfl⟩
  · next free =>
    simp only [Bool.or_eq_true, not_or] at free
    obtain ⟨⟨freshId, freshKey⟩, stands⟩ := free
    have webhook : ∃ webhook ∈ store.webhooks, webhook.id = request.webhookId := by
      simpa using stands
    have kept : ∀ row ∈ store.registered,
        row ∈ store.registered ++ [request.delivery host automation deliveryId now] :=
      fun _ mem => mem_append_left _ mem
    refine ⟨{ inv with
      keys := fire_keys_same inv.keys rfl rfl
      recordedIds := ?_, recordedKeys := ?_, recordedFor := ?_, stored := ?_, deliveries := ?_
      replies := ?_ }, fun _ mem => mem, kept, fires_same_grow rfl⟩
    · apply unique_key_append inv.recordedIds
      intro row mem same
      exact freshId (List.any_eq_true.mpr ⟨row, mem, decide_eq_true same⟩)
    · apply unique_key_append inv.recordedKeys
      intro row mem same
      obtain ⟨sameWebhook, sameKey⟩ := Prod.mk.inj same
      have taken := recorded_stored inv mem (by rw [sameWebhook]; exact webhook)
      rw [sameWebhook, sameKey] at taken
      exact freshKey taken
    · intro row mem
      rcases mem_append.mp mem with old | new
      · exact inv.recordedFor row old
      · rw [mem_singleton.mp new]
        exact ⟨automation.id, asked⟩
    · intro row mem stands
      rcases mem_append.mp mem with old | new
      · obtain ⟨delivery, stored, same⟩ := inv.stored row old stands
        exact ⟨delivery, mem_append_left _ stored, same⟩
      · rw [mem_singleton.mp new]
        exact ⟨_, mem_append_right _ (mem_singleton.mpr rfl), rfl⟩
    · intro row mem
      rcases mem_append.mp mem with old | new
      · obtain ⟨recorded, fired⟩ := inv.deliveries row old
        exact ⟨recorded_grows kept recorded, fired⟩
      · rw [mem_singleton.mp new]
        exact ⟨⟨_, mem_append_right _ (mem_singleton.mpr rfl), rfl, rfl, rfl, rfl⟩,
          fun fireId named => absurd named (not_mem_none _)⟩
    · intro reply mem
      obtain ⟨recorded, fired⟩ := inv.replies reply mem
      exact ⟨recorded_grows kept recorded, fired⟩

theorem update_delivery_inv {payloadSha256 errorCode : String}
    {status : DeliveryStatus} {fireId : Option String} (inv : WebhookInv host store)
    (recorded : store.Recorded deliveryId webhookId idempotencyKey payloadSha256)
    (fired : ∀ named ∈ fireId, store.FireUnder named (webhookKey host webhookId idempotencyKey)) :
    WebhookInv host (store.updateDelivery deliveryId status fireId errorCode now) := by
  refine { inv with keys := fire_keys_same inv.keys rfl rfl, stored := ?_, deliveries := ?_ }
  · intro row mem stands
    obtain ⟨delivery, stored, same⟩ := inv.stored row mem stands
    refine ⟨_, mem_update_where.mpr ⟨delivery, stored, rfl⟩, ?_⟩
    split <;> exact same
  · intro row mem
    obtain ⟨old, oldMem, rfl⟩ := mem_update_where.mp mem
    obtain ⟨first, before⟩ := inv.deliveries old oldMem
    by_cases chosen : old.id = deliveryId
    · rw [if_pos chosen]
      refine ⟨first, fun named isNamed => ?_⟩
      obtain ⟨entry, entryMem, sameId, webhook, key, -⟩ := recorded
      obtain ⟨own, ownMem, ownId, ownWebhook, ownKey, -⟩ := first
      have one : own = entry := unique_key_eq inv.recordedIds ownMem entryMem
        (ownId.trans (chosen.trans sameId.symm))
      rw [one] at ownWebhook ownKey
      rcases or_eq_some_iff.mp isNamed with given | ⟨-, kept⟩
      · rw [← ownWebhook, ← ownKey, webhook, key]
        exact fired named given
      · exact before named kept
    · rw [if_neg chosen]
      exact ⟨first, before⟩

theorem reply_inv {fireId : String} {duplicate : Bool} (inv : WebhookInv host store)
    (recorded : store.Recorded deliveryId request.webhookId request.idempotencyKey
      (host.sha256 request.body))
    (fired : store.FireUnder fireId (webhookKey host request.webhookId request.idempotencyKey)) :
    WebhookInv host (store.reply request deliveryId fireId duplicate) := by
  refine { inv with keys := fire_keys_same inv.keys rfl rfl, replies := ?_ }
  intro reply mem
  rcases mem_append.mp mem with old | new
  · exact inv.replies reply old
  · rw [mem_singleton.mp new]
    exact ⟨recorded, fired⟩

end

/-- The delivery that a request has read is the one recorded for its key and its body. -/
structure Delivers (host : AutomationHost) (store : AutomationStore) (request : WebhookRequest)
    (delivery : WebhookDelivery) : Prop where
  recorded : store.Recorded delivery.id request.webhookId request.idempotencyKey
    (host.sha256 request.body)
  fired : ∀ fireId ∈ delivery.fireId,
    store.FireUnder fireId (webhookKey host request.webhookId request.idempotencyKey)

def AutomationTicket.Ready (host : AutomationHost) (store : AutomationStore) :
    AutomationTicket → Prop
  | .retries _ fires => ∀ fire ∈ fires, store.Fired fire.automationId fire.fireKey
  | .retry _ automation fire fires => store.Fired automation.id fire.fireKey ∧
      ∀ other ∈ fires, store.Fired other.automationId other.fireKey
  | .verified request config _ => (request.webhookId, config.automationId) ∈ store.issued
  | .register request automation _ => (request.webhookId, automation.id) ∈ store.issued
  | .registered request automation _ _ => (request.webhookId, automation.id) ∈ store.issued
  | .forward request automation _ _ delivery =>
    (request.webhookId, automation.id) ∈ store.issued ∧ Delivers host store request delivery
  | .enqueue request automation _ _ delivery =>
    (request.webhookId, automation.id) ∈ store.issued ∧ Delivers host store request delivery
  | .settle request delivery _ result => Delivers host store request delivery ∧
      (result.skipped = false →
        store.FireUnder result.fire.id (webhookKey host request.webhookId request.idempotencyKey))
  | .patch _ _ _ _ | .runNow _ | .scan _ _ | .advance _ _ _ _ | .ignore _ | .replayOf _ _
  | .replay _ _ _ => True

section

variable {host : AutomationHost} {store next : AutomationStore}

variable {request : WebhookRequest} {delivery : WebhookDelivery} {ticket : AutomationTicket}
  {automation : AutomationRow} {fireKey : String} {result : EnqueueResult} {payload : Option Json}

theorem delivers_grow (grows : WebhooksGrow store next)
    (delivers : Delivers host store request delivery) :
    Delivers host next request delivery :=
  ⟨recorded_grows grows.registered delivers.recorded, fun fireId named =>
    fire_under_grows grows.fires (delivers.fired fireId named)⟩

theorem ticket_ready_grows (grows : WebhooksGrow store next) (ready : ticket.Ready host store) :
    ticket.Ready host next := by
  cases ticket with
  | retries => exact fun fire mem => fired_grows grows.fires (ready fire mem)
  | retry =>
    exact ⟨fired_grows grows.fires ready.1, fun fire mem =>
      fired_grows grows.fires (ready.2 fire mem)⟩
  | verified | register | registered => exact grows.issued _ ready
  | forward | enqueue => exact ⟨grows.issued _ ready.1, delivers_grow grows ready.2⟩
  | settle =>
    exact ⟨delivers_grow grows ready.1, fun went => fire_under_grows grows.fires (ready.2 went)⟩
  | patch | runNow | scan | advance | ignore | replayOf | replay => trivial

theorem enqueued_origin (enqueued : Enqueued store automation fireKey next result) :
    ∀ fire ∈ next.fires, (∃ old ∈ store.fires, fire.automationId = old.automationId ∧
      fire.fireKey = old.fireKey) ∨
      (store.fireByKey? automation.id fireKey = none ∧ fire.automationId = automation.id ∧
        fire.fireKey = fireKey) := by
  intro fire mem
  cases enqueued with
  | found => exact Or.inl ⟨fire, mem, rfl, rfl⟩
  | skipped => exact Or.inl ⟨fire, mem, rfl, rfl⟩
  | retried _ _ _ _ _ started =>
    obtain ⟨old, oldMem, -, keeps⟩ := (started_rewritten started).rows fire mem
    exact Or.inl ⟨old, oldMem, keeps.automation, keeps.key⟩
  | fired added inserted _ _ _ same _ key _ _ _ stored started =>
    obtain ⟨rfl, -, free, -⟩ := insert_fire_ok stored
    obtain ⟨old, oldMem, -, keeps⟩ := (started_rewritten started).rows fire mem
    rcases mem_append.mp oldMem with before | new
    · exact Or.inl ⟨old, before, keeps.automation, keeps.key⟩
    · rw [mem_singleton.mp new] at keeps
      refine Or.inr ⟨?_, keeps.automation.trans same, keeps.key.trans key⟩
      rw [AutomationStore.fireByKey?, find?_eq_none]
      intro other otherMem matched
      rw [Bool.and_eq_true, decide_eq_true_eq, decide_eq_true_eq] at matched
      exact free other otherMem (matched.1.trans same.symm) (matched.2.trans key.symm)

theorem enqueued_webhooks {plannedAt : Time} {draw : FireDraw} (inv : WebhookInv host store)
    (done : enqueueAutomation host store automation fireKey plannedAt payload draw =
      .ok (next, result))
    (asked : isWebhookKey fireKey = true →
      store.Fired automation.id fireKey ∨ store.Asked host automation.id fireKey) :
    WebhookInv host next ∧ WebhooksGrow store next := by
  have enqueued := enqueue_ok done
  obtain ⟨keys, grows⟩ := enqueued_keys inv.keys enqueued
  apply fires_inv inv keys grows (enqueued_automations enqueued).2
  intro fire mem marked
  rcases enqueued_origin enqueued fire mem with ⟨old, oldMem, own, key⟩ | ⟨free, own, key⟩
  · rw [own, key]
    rw [key] at marked
    exact inv.fires old oldMem marked
  · rw [own, key]
    rw [key] at marked
    rcases asked marked with ⟨other, otherMem, otherOwn, otherKey⟩ | asked
    · exact absurd otherKey (fire_by_key_none free other otherMem otherOwn)
    · exact asked

theorem enqueue_last_webhooks {plannedAt : Time}
    {draw : FireDraw} {ticket : Option AutomationTicket}
    (inv : WebhookInv host store) (unmarked : isWebhookKey fireKey = false)
    (done : finishedWith store ((enqueueAutomation host store automation fireKey plannedAt payload
      draw).map Prod.fst) = some (next, ticket)) :
    (WebhookInv host next ∧ WebhooksGrow store next) ∧ ticket = none := by
  rw [finishedWith] at done
  cases enqueued : enqueueAutomation host store automation fireKey plannedAt payload draw with
  | error error =>
    rw [enqueued] at done
    cases done
    exact ⟨⟨inv, webhooks_unchanged rfl rfl rfl⟩, rfl⟩
  | ok value =>
    obtain ⟨after, result⟩ := value
    rw [enqueued] at done
    cases done
    refine ⟨enqueued_webhooks inv enqueued ?_, rfl⟩
    intro marked
    rw [unmarked] at marked
    cases marked

theorem create_automation_rest {row : AutomationRow} {deviceReady : Bool} {now : Time}
    (done : store.createAutomation host row deviceReady now = .ok next) :
    next.fires = store.fires ∧ next.ledger = store.ledger := by
  rw [AutomationStore.createAutomation] at done
  split at done
  · cases done
  · split at done
    · cases done
    · split at done
      · cases done
      · cases done
        exact ⟨rfl, rfl⟩

theorem verified_asked {config : WebhookRow} {payload : Json} (inv : WebhookInv host store)
    (verified : store.verified? host request = some (config, payload)) :
    (request.webhookId, config.automationId) ∈ store.issued := by
  rw [AutomationStore.verified?] at verified
  split at verified
  · split at verified
    · cases verified
    · next found =>
      split at verified
      · split at verified
        · cases verified
          have named := find?_some found
          rw [decide_eq_true_eq] at named
          exact named ▸ inv.webhooks config (mem_of_find?_eq_some found)
        · cases verified
      · cases verified
  · cases verified

theorem call_webhooks {request : AutomationRequest} {ticket : Option AutomationTicket}
    (inv : WebhookInv host store) (done : callAutomation host store request = some (next, ticket)) :
    (WebhookInv host next ∧ WebhooksGrow store next) ∧ ∀ own ∈ ticket, own.Ready host next := by
  have change : FireChange host ⟨fun _ => True, fun _ => True, True⟩ store next :=
    (call_change inv.keys.automations (fun _ _ _ _ => trivial) done).1
  have keys := (change_keys inv.keys change).1
  have nothing : ∀ {ready : AutomationTicket → Prop}, ∀ own ∈ (none : Option AutomationTicket),
      ready own := fun _ mem => absurd mem (not_mem_none _)
  have still : WebhookInv host store ∧ WebhooksGrow store store := ⟨inv, webhooks_unchanged rfl rfl rfl⟩
  cases request with
  | createAutomation automationId ownerId fields deviceReady now given =>
    rw [callAutomation, finishedWith] at done
    cases created : store.createAutomation host
        ((newAutomation automationId ownerId now).patch fields) deviceReady now with
    | error error =>
      rw [created] at done
      cases done
      exact ⟨still, nothing⟩
    | ok after =>
      rw [created] at done
      cases done
      obtain ⟨fires, ledger⟩ := create_automation_rest created
      exact ⟨fires_same_inv inv keys fires ledger, nothing⟩
  | updateAutomation automationId expectedVersion patch deviceReady now =>
    rw [callAutomation] at done
    split at done
    · cases done
      exact ⟨still, nothing⟩
    · cases done
      refine ⟨still, fun own mem => ?_⟩
      cases mem
      trivial
  | deleteAutomation automationId expectedVersion now =>
    cases done
    exact ⟨fires_same_inv inv keys rfl rfl, nothing⟩
  | runNow automationId accountId allowed =>
    cases done
    refine ⟨still, fun own mem => ?_⟩
    obtain ⟨automation, read, rfl⟩ := map_eq_some_iff.mp mem
    trivial
  | scan now =>
    cases done
    refine ⟨still, fun own mem => ?_⟩
    cases mem
    trivial
  | signals runId signals now =>
    cases done
    exact ⟨fires_rewritten_inv inv keys signals_follows.fires signals_follows.ledger, nothing⟩
  | ignore fireId accountId =>
    cases done
    refine ⟨still, fun own mem => ?_⟩
    obtain ⟨fire, read, rfl⟩ := map_eq_some_iff.mp mem
    trivial
  | replay fireId accountId replayKey =>
    cases done
    refine ⟨still, fun own mem => ?_⟩
    obtain ⟨fire, read, rfl⟩ := map_eq_some_iff.mp mem
    trivial
  | createWebhook token automationId ownerId secret now =>
    cases done
    refine ⟨?_, nothing⟩
    cases created : store.createWebhook token automationId ownerId secret now with
    | none => exact still
    | some after => exact create_webhook_inv inv created
  | rotateWebhook automationId ownerId secret now =>
    cases done
    exact ⟨rotate_webhook_inv inv, nothing⟩
  | deleteWebhook automationId ownerId =>
    cases done
    exact ⟨delete_webhook_inv inv, nothing⟩
  | deliver request =>
    cases done
    refine ⟨still, fun own mem => ?_⟩
    obtain ⟨verified, read, rfl⟩ := map_eq_some_iff.mp mem
    exact verified_asked inv read

theorem retries_fired (store : AutomationStore) (now : Time) :
    ∀ fire ∈ store.retries now, store.Fired fire.automationId fire.fireKey := by
  intro fire mem
  have listed := (mem_insertionSort _).mp (mem_of_mem_take mem)
  exact ⟨fire, (mem_filter.mp listed).1, rfl, rfl⟩

theorem automation_id {id : String} (found : store.automation? id = some automation) :
    automation.id = id := by
  have matched := find?_some found
  rw [Bool.and_eq_true, decide_eq_true_eq] at matched
  exact matched.1

theorem registered_delivers (inv : WebhookInv host store)
    (found : store.registered? host request = some delivery) :
    Delivers host store request delivery := by
  obtain ⟨read, payload⟩ := filter_eq_some_iff.mp found
  rw [decide_eq_true_eq] at payload
  have matched := find?_some read
  rw [Bool.and_eq_true, decide_eq_true_eq, decide_eq_true_eq] at matched
  obtain ⟨recorded, fired⟩ := inv.deliveries delivery (mem_of_find?_eq_some read)
  rw [matched.1, matched.2] at recorded fired
  exact ⟨payload ▸ recorded, fired⟩

theorem retries_ready {now : Time} {fires : List FireRow} (grows : WebhooksGrow store next)
    (ready : ∀ fire ∈ fires, store.Fired fire.automationId fire.fireKey) :
    (AutomationTicket.retries now fires).Ready host next := fun fire mem =>
  fired_grows grows.fires (ready fire mem)

theorem resume_webhooks {input : AutomationInput} {later : Option AutomationTicket}
    (inv : WebhookInv host store) (known : ticket.Known store) (ready : ticket.Ready host store)
    (done : resumeAutomation host store ticket input = some (next, later)) :
    (WebhookInv host next ∧ WebhooksGrow store next) ∧ ∀ own ∈ later, own.Ready host next := by
  have change : FireChange host ⟨fun _ => True, fun _ => True, True⟩ store next :=
    (resume_change inv.keys.automations known (fun _ _ => trivial) (fun _ => trivial) done).1
  have keys := (change_keys inv.keys change).1
  have nothing : ∀ {ready : AutomationTicket → Prop}, ∀ own ∈ (none : Option AutomationTicket),
      ready own := fun _ mem => absurd mem (not_mem_none _)
  have still : WebhookInv host store ∧ WebhooksGrow store store := ⟨inv, webhooks_unchanged rfl rfl rfl⟩
  cases ticket with
  | patch automationId expectedVersion patch following =>
    cases done
    exact ⟨fires_same_inv inv keys rfl rfl, nothing⟩
  | runNow automation =>
    obtain ⟨after, rfl⟩ := enqueue_last_webhooks inv (manual_key_unmarked _) done
    exact ⟨after, nothing⟩
  | scan now due =>
    cases due with
    | nil =>
      cases done
      refine ⟨still, fun own mem => ?_⟩
      cases mem
      exact retries_fired store now
    | cons automation rest =>
      rw [resumeAutomation] at done
      split at done
      · cases done
        refine ⟨still, fun own mem => ?_⟩
        cases mem
        trivial
      · next enqueued result taken =>
        cases done
        refine ⟨enqueued_webhooks inv taken ?_, fun own mem => ?_⟩
        · intro marked
          rw [scheduled_key_unmarked] at marked
          cases marked
        · cases mem
          trivial
  | advance now automation skipped due =>
    rw [resumeAutomation] at done
    split at done
    · cases done
      exact ⟨still, nothing⟩
    · cases done
      refine ⟨fires_same_inv inv keys rfl rfl, fun own mem => ?_⟩
      cases mem
      trivial
  | retries now fires =>
    cases fires with
    | nil =>
      cases done
      exact ⟨still, nothing⟩
    | cons fire rest =>
      have others : ∀ other ∈ rest, store.Fired other.automationId other.fireKey :=
        fun other mem => ready other (mem_cons_of_mem _ mem)
      rw [resumeAutomation] at done
      split at done
      · cases done
        refine ⟨still, fun own mem => ?_⟩
        cases mem
        exact others
      · next automation read =>
        cases done
        refine ⟨still, fun own mem => ?_⟩
        cases mem
        rw [AutomationTicket.Ready, automation_id read]
        exact ⟨ready fire mem_cons_self, others⟩
  | retry now automation fire fires =>
    rw [resumeAutomation] at done
    split at done
    · cases done
      refine ⟨still, fun own mem => ?_⟩
      cases mem
      exact ready.2
    · next enqueued result taken =>
      cases done
      obtain ⟨after, grows⟩ := enqueued_webhooks inv taken fun _ => Or.inl ready.1
      refine ⟨⟨after, grows⟩, fun own mem => ?_⟩
      cases mem
      exact retries_ready grows ready.2
  | ignore fireId =>
    cases done
    exact ⟨fires_rewritten_inv inv keys ignore_fire_follows.fires rfl, nothing⟩
  | replayOf fire replayKey =>
    cases done
    refine ⟨still, fun own mem => ?_⟩
    obtain ⟨automation, read, rfl⟩ := map_eq_some_iff.mp mem
    trivial
  | replay automation fire replayKey =>
    obtain ⟨after, rfl⟩ := enqueue_last_webhooks inv (replay_key_unmarked _ _) done
    exact ⟨after, nothing⟩
  | verified request config payload =>
    cases done
    refine ⟨still, fun own mem => ?_⟩
    obtain ⟨automation, read, rfl⟩ := map_eq_some_iff.mp mem
    have named := automation_id (filter_eq_some_iff.mp read).1
    rw [AutomationTicket.Ready, named]
    exact ready
  | register request automation payload =>
    cases done
    have inserted := insert_delivery_inv input.identifier input.draw.now inv ready
    refine ⟨inserted, fun own mem => ?_⟩
    cases mem
    exact inserted.2.issued _ ready
  | registered request automation payload created =>
    cases done
    refine ⟨still, fun own mem => ?_⟩
    obtain ⟨delivery, read, rfl⟩ := map_eq_some_iff.mp mem
    exact ⟨ready, registered_delivers inv read⟩
  | forward request automation payload created delivery =>
    obtain ⟨asked, delivers⟩ := ready
    rw [resumeAutomation] at done
    split at done
    · next fire found =>
      cases done
      obtain ⟨fireId, named, read⟩ := bind_eq_some_iff.mp found
      have matched := find?_some read
      rw [Bool.and_eq_true, decide_eq_true_eq] at matched
      refine ⟨⟨reply_inv inv delivers.recorded ?_, webhooks_unchanged rfl rfl rfl⟩, nothing⟩
      rw [matched.1]
      exact delivers.fired fireId named
    · cases done
      refine ⟨still, fun own mem => ?_⟩
      cases mem
      exact ⟨asked, delivers⟩
  | enqueue request automation payload created delivery =>
    obtain ⟨asked, delivers⟩ := ready
    rw [resumeAutomation] at done
    split at done
    · cases done
      exact ⟨still, nothing⟩
    · next enqueued result taken =>
      cases done
      obtain ⟨after, grows⟩ := enqueued_webhooks inv taken fun _ => Or.inr
        ⟨request.webhookId, request.idempotencyKey, asked, rfl⟩
      refine ⟨⟨after, grows⟩, fun own mem => ?_⟩
      cases mem
      refine ⟨delivers_grow grows delivers, fun went => ?_⟩
      rcases enqueued_fire inv.keys (enqueue_ok taken) with
        ⟨-, fire, fireMem, same, -, key⟩ | ⟨skipped, -⟩
      · exact ⟨fire, fireMem, same, key⟩
      · rw [skipped] at went
        cases went
  | settle request delivery duplicate result =>
    obtain ⟨delivers, fired⟩ := ready
    rw [resumeAutomation] at done
    split at done
    · cases done
      refine ⟨⟨update_delivery_inv inv delivers.recorded ?_, webhooks_unchanged rfl rfl rfl⟩, nothing⟩
      exact fun named isNamed => absurd isNamed (not_mem_none _)
    · next went =>
      have under := fired (Bool.eq_false_iff.mpr went)
      split at done
      · cases done
        have written : WebhookInv host (store.updateDelivery delivery.id .accepted
            (some result.fire.id) "" input.draw.now) :=
          update_delivery_inv inv delivers.recorded fun named isNamed =>
            Option.some.inj isNamed ▸ under
        exact ⟨⟨reply_inv written delivers.recorded under, webhooks_unchanged rfl rfl rfl⟩, nothing⟩
      · cases done
        exact ⟨still, nothing⟩

end

def AutomationTicket.request? : AutomationTicket → Option WebhookRequest
  | .verified request _ _ | .register request _ _ | .registered request _ _ _
  | .forward request _ _ _ _ | .enqueue request _ _ _ _ | .settle request _ _ _ => some request
  | _ => none

def AutomationTicket.compared : AutomationTicket → Bool
  | .forward _ _ _ _ _ | .enqueue _ _ _ _ _ | .settle _ _ _ _ => true
  | _ => false

def AutomationStore.RecordedBody (store : AutomationStore) (host : AutomationHost)
    (webhookId idempotencyKey : String) (body : List UInt8) : Prop :=
  ∃ deliveryId, store.Recorded deliveryId webhookId idempotencyKey (host.sha256 body)

section

variable {host : AutomationHost} {store next : AutomationStore}

variable {webhookId idempotencyKey : String} {request : WebhookRequest} {ticket : AutomationTicket}
  {body : List UInt8}

theorem recorded_body_unique {other : List UInt8} (inv : WebhookInv host store)
    (recorded : store.RecordedBody host webhookId idempotencyKey body)
    (again : store.RecordedBody host webhookId idempotencyKey other) : body = other := by
  obtain ⟨-, row, mem, -, webhook, key, payload⟩ := recorded
  obtain ⟨-, row', member', -, webhook', key', payload'⟩ := again
  have same : row.key = row'.key :=
    Prod.ext (webhook.trans webhook'.symm) (key.trans key'.symm)
  have one := unique_key_eq inv.recordedKeys mem member' same
  rw [one] at payload
  exact host.sha256_injective (payload.symm.trans payload')

theorem delivers_body {delivery : WebhookDelivery}
    (delivers : Delivers host store request delivery) :
    store.RecordedBody host request.webhookId request.idempotencyKey request.body :=
  ⟨delivery.id, delivers.recorded⟩

theorem compared_body (ready : ticket.Ready host store) (named : ticket.request? = some request)
    (compared : ticket.compared = true) :
    store.RecordedBody host request.webhookId request.idempotencyKey request.body := by
  cases ticket with
  | forward | enqueue =>
    cases named
    exact delivers_body ready.2
  | settle =>
    cases named
    exact delivers_body ready.1
  | patch | runNow | scan | advance | retries | retry | ignore | replayOf | replay | verified
  | register | registered => cases compared

theorem insert_delivery_repeated {automation : AutomationRow} {deliveryId : String} {now : Time}
    (inv : WebhookInv host store)
    (recorded : store.RecordedBody host request.webhookId request.idempotencyKey body) :
    store.insertDelivery host request automation deliveryId now = (store, false) := by
  obtain ⟨-, row, mem, -, webhook, key, -⟩ := recorded
  rw [AutomationStore.insertDelivery, if_pos]
  by_cases stands : ∃ webhook ∈ store.webhooks, webhook.id = row.webhookId
  · have stored := recorded_stored inv mem stands
    rw [webhook, key] at stored
    simp [stored]
  · rw [webhook] at stands
    simp only [Bool.or_eq_true]
    right
    rw [List.all_eq_true]
    exact fun other otherMem => decide_eq_true fun same => stands ⟨other, otherMem, same⟩

theorem conflicting_unchanged {input : AutomationInput} {later : Option AutomationTicket}
    (inv : WebhookInv host store) (ready : ticket.Ready host store)
    (named : ticket.request? = some request)
    (recorded : store.RecordedBody host request.webhookId request.idempotencyKey body)
    (other : body ≠ request.body)
    (done : resumeAutomation host store ticket input = some (next, later)) :
    ticket.compared = false ∧ next = store := by
  have early : ticket.compared = false := by
    cases compared : ticket.compared with
    | false => rfl
    | true =>
      exact absurd (recorded_body_unique inv recorded (compared_body ready named compared)) other
  refine ⟨early, ?_⟩
  cases ticket with
  | verified | registered =>
    cases done
    rfl
  | register request automation payload =>
    cases named
    rw [resumeAutomation, insert_delivery_repeated inv recorded] at done
    cases done
    rfl
  | forward | enqueue | settle => cases early
  | patch | runNow | scan | advance | retries | retry | ignore | replayOf | replay => cases named

theorem webhooks_keep (host : AutomationHost) :
    Keeps (automationRoutine host) Anything (WebhookInv host)
      (fun store ticket => ticket.Known store ∧ ticket.Ready host store) := by
  constructor
  · intro system request data ticket inv guarded taken
    obtain ⟨-, known, others⟩ :=
      (fires_keyed host).call system request data ticket inv.keys guarded taken
    obtain ⟨⟨after, grows⟩, ready⟩ := call_webhooks inv taken
    exact ⟨after, fun own mem => ⟨known own mem, ready own mem⟩, fun other mem before =>
      ⟨others other mem before.1, ticket_ready_grows grows before.2⟩⟩
  · intro system index input ticket data later inv before guarded found taken
    obtain ⟨-, known, others⟩ := (fires_keyed host).resume system index input ticket data later
      inv.keys before.1 guarded found taken
    obtain ⟨⟨after, grows⟩, ready⟩ := resume_webhooks inv before.1 before.2 taken
    exact ⟨after, fun own mem => ⟨known own mem, ready own mem⟩, fun other mem held =>
      ⟨others other mem held.1, ticket_ready_grows grows held.2⟩⟩

theorem fresh_webhooks (fresh : store.Fresh) : WebhookInv host store := by
  have keys := fresh_keys fresh
  obtain ⟨-, -, -, -, fires, webhooks, deliveries, issued, registered, replies⟩ := fresh
  constructor
  · exact keys
  · rw [issued]
    exact nodup_nil
  · simp [issued]
  · simp [webhooks]
  · simp [fires]
  · rw [registered]
    exact nodup_nil
  · rw [registered]
    exact nodup_nil
  · simp [registered]
  · simp [registered]
  · simp [deliveries]
  · simp [replies]

theorem webhook_fire_unique (inv : WebhookInv host store) {fire other : FireRow}
    (mem : fire ∈ store.fires) (otherMem : other ∈ store.fires)
    (key : fire.fireKey = webhookKey host webhookId idempotencyKey)
    (otherKey : other.fireKey = webhookKey host webhookId idempotencyKey) : fire = other := by
  have marked := webhook_key_marked host webhookId idempotencyKey
  obtain ⟨webhook, text, asked, named⟩ := inv.fires fire mem (key ▸ marked)
  obtain ⟨webhook', text', asked', named'⟩ := inv.fires other otherMem (otherKey ▸ marked)
  have same := named.symm.trans (key.trans (otherKey.symm.trans named'))
  obtain ⟨webhooks, -⟩ := webhook_key_injective (inv.plain _ asked) (inv.plain _ asked') same
  have one := unique_key_eq inv.issued asked asked' webhooks
  exact unique_key_eq inv.keys.ids mem otherMem
    (inv.keys.keyed fire mem other otherMem (Prod.mk.inj one).2 (key.trans otherKey.symm))

end

/-- Whatever the order of deliveries, redeliveries, crashes and other requests. -/
theorem webhook_deliveries_once (host : AutomationHost)
    {system : System AutomationStore AutomationTicket}
    (reachable : (automationMachine host).Reachable Anything system) :
    (∀ webhookId idempotencyKey, ∀ fire ∈ system.data.fires, ∀ other ∈ system.data.fires,
      fire.fireKey = webhookKey host webhookId idempotencyKey →
      other.fireKey = webhookKey host webhookId idempotencyKey → fire = other) ∧
    (∀ later, (automationMachine host).Path Anything system later →
      ∀ webhookId idempotencyKey, ∀ fire ∈ system.data.fires,
      fire.fireKey = webhookKey host webhookId idempotencyKey →
      ∃ kept ∈ later.data.fires, kept.id = fire.id ∧ ∀ other ∈ later.data.fires,
        other.fireKey = webhookKey host webhookId idempotencyKey → other = kept) ∧
    (∀ reply ∈ system.data.replies,
      system.data.RecordedBody host reply.webhookId reply.idempotencyKey reply.body ∧
      ∃ fire ∈ system.data.fires, fire.id = reply.fireId ∧
        fire.fireKey = webhookKey host reply.webhookId reply.idempotencyKey) ∧
    (∀ reply ∈ system.data.replies, ∀ other ∈ system.data.replies,
      reply.webhookId = other.webhookId → reply.idempotencyKey = other.idempotencyKey →
      reply.body = other.body ∧ reply.fireId = other.fireId) ∧
    ∀ ticket ∈ system.pending, ∀ request, ticket.request? = some request →
      ∀ body, system.data.RecordedBody host request.webhookId request.idempotencyKey body →
      body ≠ request.body → ticket.compared = false ∧
        ∀ index input after, system.pending[index]? = some ticket →
          (automationRoutine host).next system (.resume index input) = some after →
          after.data = system.data := by
  have holds := reachable_holds (webhooks_keep host) (fun _ => fresh_webhooks) reachable
  have inv := holds.data
  refine ⟨?_, ?_, ?_, ?_, ?_⟩
  · intro webhookId idempotencyKey fire mem other otherMem key otherKey
    exact webhook_fire_unique inv mem otherMem key otherKey
  · intro later path webhookId idempotencyKey fire mem key
    have keyed := reachable_holds (fires_keyed host) (fun _ => fresh_keys) reachable
    have grows := (path_keeps system.data.FiresGrow (fires_keyed host)
      (fun _ _ _ held _ move before => fires_grow_trans before (move_grows held move))
      keyed (fires_same_grow rfl) path).2
    have after := reachable_holds (webhooks_keep host) (fun _ => fresh_webhooks)
      (reachable_path reachable path)
    obtain ⟨kept, keptMem, same, keeps⟩ := grows fire mem
    refine ⟨kept, keptMem, same, fun other otherMem otherKey => ?_⟩
    exact webhook_fire_unique after.data otherMem keptMem otherKey (keeps.key.trans key)
  · intro reply mem
    obtain ⟨recorded, fired⟩ := inv.replies reply mem
    exact ⟨⟨reply.deliveryId, recorded⟩, fired⟩
  · intro reply mem other otherMem webhook key
    obtain ⟨recorded, fire, fireMem, named, fireKey⟩ := inv.replies reply mem
    obtain ⟨recorded', fire', fireMember', named', fireKey'⟩ := inv.replies other otherMem
    rw [← webhook, ← key] at recorded' fireKey'
    rw [webhook_fire_unique inv fireMem fireMember' fireKey fireKey'] at named
    exact ⟨recorded_body_unique inv ⟨_, recorded⟩ ⟨_, recorded'⟩, named.symm.trans named'⟩
  · intro ticket mem request named body recorded other
    have ready := (holds.pending ticket mem).2
    refine ⟨?_, ?_⟩
    · cases compared : ticket.compared with
      | false => rfl
      | true =>
        exact absurd (recorded_body_unique inv recorded (compared_body ready named compared)) other
    · intro index input after found step
      generalize name : Event.resume index input = event at step
      cases next_move step with
      | call | crash => cases name
      | resume index' input' ticket' data later found' taken =>
        cases name
        rw [found] at found'
        cases found'
        exact (conflicting_unchanged inv ready named recorded other taken).2

/-- A delivery of the key `order-1`, signed at time 0. -/
def sampleDelivery (text signature : String) : WebhookRequest where
  webhookId := "wh_sample"
  timestampRaw := "0"
  signature := "v1=" ++ signature
  idempotencyKey := "order-1"
  declared := some text.length
  body := utf8 text
  receivedAt := 1

def emptyOrder : WebhookRequest :=
  sampleDelivery "\x7b\x7d" "8583ad36b1376eba4f630ad6d318f4ac6d32c19d68baa4ce7b1fe9b62904b6d7"

def otherOrder : WebhookRequest :=
  sampleDelivery "\x7b\"n\":1\x7d" "25fcef848c931343e729e1a71c136334387fab9b6171910c89fc4e87ec4e65b3"

def deliveryStep (name : String) (given : name ++ "-run" ≠ "") :
    Event AutomationRequest AutomationInput := .resume 0 (drawnAs 1 name given)

theorem sample_token_plain : ':' ∉ "wh_sample".toList := by decide

theorem third_named : "third" ++ "-run" ≠ "" := by decide

theorem fourth_named : "fourth" ++ "-run" ≠ "" := by decide

def repeatedDeliveries : List (Event AutomationRequest AutomationInput) :=
  [.call (.createAutomation "automation" "owner" { samplePatch with triggerKind := some .webhook }
      true 0 automation_named),
    .call (.createWebhook ⟨"wh_sample", sample_token_plain⟩ "automation" "owner" "whsec_sample" 0),
    .call (.deliver emptyOrder), deliveryStep "first" first_named,
    deliveryStep "first" first_named, .crash 0] ++
  .call (.deliver emptyOrder) :: List.replicate 6 (deliveryStep "second" second_named) ++
  .call (.deliver emptyOrder) :: List.replicate 4 (deliveryStep "third" third_named) ++
  .call (.deliver otherOrder) :: List.replicate 2 (deliveryStep "fourth" fourth_named)

theorem repeated_deliveries_fire_once : ∃ system after : System AutomationStore AutomationTicket,
    (automationRoutine sampleAutomationHost).run (fun _ _ => true) noAutomations
        repeatedDeliveries = some system ∧
      (automationRoutine sampleAutomationHost).next system (deliveryStep "fourth" (by decide)) =
        some after ∧
      system.data.replies.length = 2 ∧ (∃ fire ∈ system.data.fires,
        ∀ reply ∈ system.data.replies, reply.fireId = fire.id) ∧
      after.data = system.data := by
  have ran : ((automationRoutine sampleAutomationHost).run (fun _ _ => true) noAutomations
      repeatedDeliveries).map (fun system =>
        (decide (system.pending.map (fun ticket => ticket.request?.map fun request =>
            (request.webhookId, request.idempotencyKey, request.body)) =
            [some ("wh_sample", "order-1", otherOrder.body)]),
          system.data.registered.any fun row => row.webhookId = "wh_sample" &&
            row.idempotencyKey = "order-1" &&
            row.payloadSha256 = sampleAutomationHost.sha256 emptyOrder.body,
          decide (system.data.replies.map (fun reply => (reply.webhookId, reply.idempotencyKey)) =
            [("wh_sample", "order-1"), ("wh_sample", "order-1")]),
          ((automationRoutine sampleAutomationHost).next system
            (deliveryStep "fourth" (by decide))).isSome)) =
      some (true, true, true, true) := by decide +kernel
  obtain ⟨system, done, computed⟩ := map_eq_some_iff.mp ran
  obtain ⟨asked, computed⟩ := Prod.mk.inj computed
  obtain ⟨recorded, computed⟩ := Prod.mk.inj computed
  obtain ⟨answered, possible⟩ := Prod.mk.inj computed
  rw [decide_eq_true_eq] at asked answered
  obtain ⟨after, step⟩ := isSome_iff_exists.mp possible
  obtain ⟨-, -, fired, agree, rejected⟩ := webhook_deliveries_once sampleAutomationHost
    (reachable_weaken (fun _ _ _ => trivial)
      (run_reachable (fun _ _ => true) no_automations_fresh done))
  have two : system.data.replies.length = 2 := by
    have lengths := congrArg List.length answered
    rwa [length_map] at lengths
  have named : ∀ reply ∈ system.data.replies,
      (reply.webhookId, reply.idempotencyKey) = ("wh_sample", "order-1") := by
    intro reply mem
    have listed := List.mem_map_of_mem
      (f := fun reply : WebhookReply => (reply.webhookId, reply.idempotencyKey)) mem
    rw [answered] at listed
    simpa using listed
  refine ⟨system, after, done, step, two, ?_, ?_⟩
  · have first : system.data.replies[0] ∈ system.data.replies := getElem_mem _
    obtain ⟨-, fire, fireMem, same, -⟩ := fired _ first
    refine ⟨fire, fireMem, fun reply mem => ?_⟩
    obtain ⟨webhooks, keys⟩ := Prod.mk.inj ((named reply mem).trans (named _ first).symm)
    exact ((agree reply mem _ first webhooks keys).2).trans same.symm
  · cases pending : system.pending with
    | nil =>
      rw [pending] at asked
      cases asked
    | cons ticket rest =>
      rw [pending, map_cons] at asked
      obtain ⟨request, named, parts⟩ := map_eq_some_iff.mp (List.cons.inj asked).1
      obtain ⟨webhook, parts⟩ := Prod.mk.inj parts
      obtain ⟨key, body⟩ := Prod.mk.inj parts
      obtain ⟨row, rowMem, matched⟩ := List.any_eq_true.mp recorded
      simp only [Bool.and_eq_true, decide_eq_true_eq] at matched
      have mem : ticket ∈ system.pending := by
        rw [pending]
        exact mem_cons_self
      have held : system.data.RecordedBody sampleAutomationHost request.webhookId
          request.idempotencyKey emptyOrder.body := by
        rw [webhook, key]
        exact ⟨row.id, row, rowMem, rfl, matched.1.1, matched.1.2, matched.2⟩
      have other : emptyOrder.body ≠ request.body := by
        rw [body]
        decide +kernel
      exact (rejected ticket mem request named _ held other).2 0 _ after (by rw [pending]; rfl) step

end AgentMate
