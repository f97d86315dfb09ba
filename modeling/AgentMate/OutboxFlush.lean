import Mathlib.Data.List.Nodup
import Mathlib.Logic.Function.Iterate

/-!
# Rounds of the outbox

`flush_outbox` reads the oldest pending items up to a limit and leaves those in place that it
cannot send.
-/

namespace AgentMate.OutboxFlush

open List

structure OutboxItem where
  id : String
  kind : String
  actorId : String
  projectId : String
  payload : String
  synced : Bool
  tries : Nat
  deriving DecidableEq

/-- The rows of the table, in the order of `created_at`. -/
structure Outbox where
  rows : List OutboxItem
  distinct : (rows.map OutboxItem.id).Nodup

/-- The identities that are stored, and the answers of the reachable Server. -/
structure TimelineServer where
  getServerIdentity : String → Option String
  postTimeline : String → String → String → Bool

section

variable (server : TimelineServer) (limit : Nat)

def OutboxItem.pushes (item : OutboxItem) : Bool :=
  match server.getServerIdentity item.actorId with
  | none => false
  | some token =>
    decide (item.kind = "timeline") && server.postTimeline token item.projectId item.payload

/-- `mark_outbox_synced`, or `bump_outbox_tries`. -/
def OutboxItem.attempt (item : OutboxItem) : OutboxItem :=
  if item.pushes server then { item with synced := true } else { item with tries := item.tries + 1 }

def listPendingOutbox (rows : List OutboxItem) : List OutboxItem :=
  (rows.filter fun item => !item.synced).take limit

def OutboxItem.flushed (rows : List OutboxItem) (item : OutboxItem) : OutboxItem :=
  if item.id ∈ (listPendingOutbox limit rows).map OutboxItem.id then item.attempt server else item

theorem attempt_id (item : OutboxItem) : (item.attempt server).id = item.id := by
  rw [OutboxItem.attempt]
  split <;> rfl

theorem flushed_id (rows : List OutboxItem) (item : OutboxItem) :
    (item.flushed server limit rows).id = item.id := by
  rw [OutboxItem.flushed]
  split
  · exact attempt_id server item
  · rfl

theorem flushed_distinct (outbox : Outbox) :
    ((outbox.rows.map (OutboxItem.flushed server limit outbox.rows)).map OutboxItem.id).Nodup := by
  rw [map_map]
  simpa only [Function.comp_def, flushed_id] using outbox.distinct

/-- `flush_outbox`, without the revocations of tokens that it sends first. -/
def flushOutbox (outbox : Outbox) : Outbox where
  rows := outbox.rows.map (OutboxItem.flushed server limit outbox.rows)
  distinct := flushed_distinct server limit outbox

def OutboxItem.stuck (item : OutboxItem) : Bool := !item.synced && !item.pushes server

def OutboxItem.waiting (item : OutboxItem) : Bool := !item.synced && item.pushes server

def Outbox.Sent (outbox : Outbox) : Prop :=
  ∀ item ∈ outbox.rows, item.pushes server = true → item.synced = true

/-- Before every item that waits there are fewer items that cannot be sent than one page has. -/
def Outbox.Clear (outbox : Outbox) : Prop :=
  ∀ older item newer, outbox.rows = older ++ item :: newer → item.waiting server = true →
    older.countP (OutboxItem.stuck server) < limit

end

section

variable {server : TimelineServer} {limit : Nat}

theorem flushed_pushes (rows : List OutboxItem) (item : OutboxItem) :
    (item.flushed server limit rows).pushes server = item.pushes server := by
  rw [OutboxItem.flushed, OutboxItem.attempt]
  split
  · split <;> rfl
  · rfl

theorem flushed_stuck (rows : List OutboxItem) (item : OutboxItem) :
    (item.flushed server limit rows).stuck server = item.stuck server := by
  rw [OutboxItem.stuck, OutboxItem.stuck, flushed_pushes, OutboxItem.flushed, OutboxItem.attempt]
  split
  · split
    · next pushes => simp [pushes]
    · rfl
  · rfl

variable {item : OutboxItem} {outbox : Outbox} {newer older : List OutboxItem}

theorem flushed_waiting {rows : List OutboxItem}
    (waiting : (item.flushed server limit rows).waiting server = true) :
    item.waiting server = true := by
  rw [OutboxItem.waiting, flushed_pushes, OutboxItem.flushed, OutboxItem.attempt] at waiting
  rw [OutboxItem.waiting]
  split at waiting
  · split at waiting
    · cases waiting
    · exact waiting
  · exact waiting

theorem flush_split (split : outbox.rows = older ++ item :: newer) :
    (flushOutbox server limit outbox).rows =
      older.map (OutboxItem.flushed server limit outbox.rows) ++
        item.flushed server limit outbox.rows ::
          newer.map (OutboxItem.flushed server limit outbox.rows) := by
  have mapped := congrArg (List.map (OutboxItem.flushed server limit outbox.rows)) split
  rwa [map_append, map_cons] at mapped

theorem flush_clear (clear : outbox.Clear server limit) :
    (flushOutbox server limit outbox).Clear server limit := by
  intro older item newer split waiting
  obtain ⟨olderRows, rest, rows, rfl, tail⟩ := map_eq_append_iff.mp split
  obtain ⟨row, newerRows, rfl, rfl, rfl⟩ := map_eq_cons_iff.mp tail
  rw [countP_map]
  simp only [Function.comp_def, flushed_stuck]
  exact clear olderRows row newerRows rows (flushed_waiting waiting)

theorem waiting_paged (clear : outbox.Clear server limit)
    (split : outbox.rows = older ++ item :: newer) (waiting : item.waiting server = true)
    (first : ∀ row ∈ older, row.waiting server = false) :
    (item.flushed server limit outbox.rows).synced = true := by
  have bound := clear older item newer split waiting
  obtain ⟨pending, pushes⟩ := Bool.and_eq_true _ _ ▸ waiting
  have before : older.filter (fun row => !row.synced) = older.filter (OutboxItem.stuck server) := by
    apply filter_congr
    intro row mem
    have still := first row mem
    rw [OutboxItem.waiting] at still
    rw [OutboxItem.stuck]
    revert still
    cases row.synced <;> cases row.pushes server <;> decide
  have paged : item ∈ listPendingOutbox limit outbox.rows := by
    rw [listPendingOutbox, split, filter_append, before, filter_cons, if_pos pending,
      take_append, ← countP_eq_length_filter]
    apply mem_append_right
    obtain ⟨slot, more⟩ : ∃ slot, limit - older.countP (OutboxItem.stuck server) = slot + 1 :=
      ⟨limit - older.countP (OutboxItem.stuck server) - 1, by omega⟩
    rw [more, take_succ_cons]
    exact mem_cons_self
  rw [OutboxItem.flushed, if_pos (mem_map_of_mem paged), OutboxItem.attempt, if_pos pushes]

theorem flush_progress (clear : outbox.Clear server limit)
    (some : 0 < outbox.rows.countP (OutboxItem.waiting server)) :
    (flushOutbox server limit outbox).rows.countP (OutboxItem.waiting server) <
      outbox.rows.countP (OutboxItem.waiting server) := by
  obtain ⟨item, found⟩ : ∃ item, outbox.rows.find? (OutboxItem.waiting server) = .some item := by
    obtain ⟨row, mem, waiting⟩ := countP_pos_iff.mp some
    exact Option.isSome_iff_exists.mp (find?_isSome.mpr ⟨row, mem, waiting⟩)
  obtain ⟨waiting, older, newer, split, first⟩ := find?_eq_some_iff_append.mp found
  have sent := waiting_paged clear split waiting fun row mem => by simpa using first row mem
  have fewer : ∀ rows : List OutboxItem,
      (rows.map (OutboxItem.flushed server limit outbox.rows)).countP (OutboxItem.waiting server) ≤
        rows.countP (OutboxItem.waiting server) := by
    intro rows
    rw [countP_map]
    exact countP_mono_left fun row _ => flushed_waiting
  have gone : (item.flushed server limit outbox.rows).waiting server = false := by
    rw [OutboxItem.waiting, sent]
    rfl
  have front := fewer older
  have back := fewer newer
  rw [flush_split split, countP_append, countP_cons_of_neg (by simp [gone])]
  conv_rhs => rw [split, countP_append, countP_cons_of_pos waiting]
  omega

theorem clear_sent (count : Nat) : ∀ outbox : Outbox, outbox.Clear server limit →
    outbox.rows.countP (OutboxItem.waiting server) = count →
      ∃ rounds, ((flushOutbox server limit)^[rounds] outbox).Sent server := by
  induction count using Nat.strongRecOn with
  | ind count ih =>
    intro outbox clear size
    by_cases none : outbox.rows.countP (OutboxItem.waiting server) = 0
    · refine ⟨0, fun item mem pushes => ?_⟩
      have idle := countP_eq_zero.mp none item mem
      simpa [OutboxItem.waiting, pushes] using idle
    · have fewer := flush_progress clear (Nat.pos_of_ne_zero none)
      obtain ⟨rounds, sent⟩ := ih _ (size ▸ fewer) _ (flush_clear clear) rfl
      exact ⟨rounds + 1, sent⟩

theorem blocked_kept (split : outbox.rows = older ++ item :: newer)
    (full : limit ≤ older.countP (OutboxItem.stuck server)) :
    item.flushed server limit outbox.rows = item := by
  have page : listPendingOutbox limit outbox.rows =
      (older.filter fun row => !row.synced).take limit := by
    rw [listPendingOutbox, split, filter_append, take_append_of_le_length]
    rw [← countP_eq_length_filter]
    refine Nat.le_trans full (countP_mono_left fun row _ stuck => ?_)
    exact (Bool.and_eq_true _ _ ▸ stuck).1
  rw [OutboxItem.flushed, if_neg]
  intro mem
  rw [page] at mem
  obtain ⟨row, paged, same⟩ := mem_map.mp mem
  have distinct := outbox.distinct
  rw [split, map_append, map_cons, nodup_append] at distinct
  have old := mem_of_mem_filter (mem_of_mem_take paged)
  exact distinct.2.2 row.id (mem_map_of_mem old) item.id mem_cons_self same

theorem blocked_forever (rounds : Nat) : ∀ {outbox : Outbox} {older newer : List OutboxItem}
    {item : OutboxItem}, outbox.rows = older ++ item :: newer → item.waiting server = true →
      limit ≤ older.countP (OutboxItem.stuck server) →
        ¬ ((flushOutbox server limit)^[rounds] outbox).Sent server := by
  induction rounds with
  | zero =>
    intro outbox older newer item split waiting _ sent
    obtain ⟨pending, pushes⟩ := Bool.and_eq_true _ _ ▸ waiting
    have synced := sent item (by simp [split]) pushes
    rw [synced] at pending
    cases pending
  | succ rounds ih =>
    intro outbox older newer item split waiting full
    have kept := blocked_kept split full
    have after : (flushOutbox server limit outbox).rows = _ := flush_split split
    rw [kept] at after
    refine ih after waiting ?_
    rw [countP_map]
    simpa only [Function.comp_def, flushed_stuck] using full

/-- Rounds enough to push all that can be pushed, exactly where no item waits behind a page. -/
theorem outbox_sent_iff (server : TimelineServer) (limit : Nat) (outbox : Outbox) :
    (∃ rounds, ((flushOutbox server limit)^[rounds] outbox).Sent server) ↔
      outbox.Clear server limit := by
  constructor
  · rintro ⟨rounds, sent⟩ older item newer split waiting
    by_contra full
    exact blocked_forever rounds split waiting (by omega) sent
  · exact fun clear => clear_sent _ outbox clear rfl

end

def oneMem : TimelineServer := ⟨fun actor => if actor = "guest" then none else some "token",
  fun _ _ _ => true⟩

def timelineItem (id actorId : String) : OutboxItem := ⟨id, "timeline", actorId, "p", "", false, 0⟩

def backlogRows : List OutboxItem :=
  (List.range 50).map (fun index => timelineItem (toString index) "guest") ++
    [timelineItem "last" "member"]

theorem backlog_distinct : (backlogRows.map OutboxItem.id).Nodup := by decide +kernel

theorem full_page_starves :
    ¬ ∃ rounds, ((flushOutbox oneMem 50)^[rounds] ⟨backlogRows, backlog_distinct⟩).Sent
      oneMem := by
  rintro ⟨rounds, sent⟩
  exact blocked_forever rounds rfl rfl (by decide +kernel) sent

end AgentMate.OutboxFlush
