import AgentMate.BusinessStore

/-! # Idempotent turns -/

namespace AgentMate

open TransitionSystem Rollback Table List

section

variable {Row : Type} {columns : Columns Row} {rows next : List Row} {row : Row}

/-- Identifiers are unique, and so are the keys of an owner that are not empty. -/
structure Columns.Inv (columns : Columns Row) (rows : List Row) : Prop where
  ids : UniqueKey columns.id rows
  keys : ∀ left ∈ rows, ∀ right ∈ rows, columns.clientRequestId left ≠ "" →
    columns.ownerId left = columns.ownerId right →
    columns.clientRequestId left = columns.clientRequestId right → left = right

@[simp] theorem has_key_iff {ownerId clientRequestId : String} :
    columns.hasKey ownerId clientRequestId row = true ↔
      columns.ownerId row = ownerId ∧ columns.clientRequestId row = clientRequestId := by
  simp [Columns.hasKey]

theorem insert_ok (done : columns.insert rows row = .ok next) :
    next = rows ++ [row] ∧ (∀ other ∈ rows, columns.id other ≠ columns.id row) ∧
      (columns.clientRequestId row ≠ "" → ∀ other ∈ rows,
        columns.ownerId other = columns.ownerId row →
        columns.clientRequestId other ≠ columns.clientRequestId row) := by
  rw [Columns.insert] at done
  split at done
  · cases done
  · next fresh =>
    split at done
    · cases done
    · next free =>
      cases done
      refine ⟨rfl, ?_, ?_⟩
      · intro other mem same
        exact fresh (any_eq_true.mpr ⟨other, mem, decide_eq_true same⟩)
      · intro given other mem owner key
        exact free ⟨given, any_eq_true.mpr ⟨other, mem, has_key_iff.mpr ⟨owner, key⟩⟩⟩

theorem insert_row_inv (inv : columns.Inv rows) (done : columns.insert rows row = .ok next) :
    columns.Inv next := by
  obtain ⟨rfl, fresh, free⟩ := insert_ok done
  constructor
  · exact unique_key_append inv.ids fresh
  · intro left leftMem right rightMem given owner key
    rcases mem_append.mp leftMem with leftOld | leftNew <;>
      rcases mem_append.mp rightMem with rightOld | rightNew
    · exact inv.keys left leftOld right rightOld given owner key
    · rw [mem_singleton] at rightNew
      subst rightNew
      exact absurd key (free (key ▸ given) left leftOld owner)
    · rw [mem_singleton] at leftNew
      subst leftNew
      exact absurd key.symm (free given right rightOld owner.symm)
    · rw [mem_singleton.mp leftNew, mem_singleton.mp rightNew]

theorem create_ok {duplicate : Bool} (done : columns.create rows row = .ok (next, duplicate)) :
    next = rows ∨ columns.insert rows row = .ok next := by
  rw [Columns.create] at done
  split at done
  · split at done
    · cases done
    · cases done
      exact Or.inl rfl
  · obtain ⟨inserted, first, rest⟩ := bind_ok done
    cases rest
    exact Or.inr first

theorem create_inv {duplicate : Bool} (inv : columns.Inv rows)
    (done : columns.create rows row = .ok (next, duplicate)) : columns.Inv next := by
  rcases create_ok done with rfl | inserted
  · exact inv
  · exact insert_row_inv inv inserted

theorem update_inv {chosen : Row → Prop} [DecidablePred chosen] {assign : Row → Row}
    (inv : columns.Inv rows) (id : ∀ row, columns.id (assign row) = columns.id row)
    (owner : ∀ row, columns.ownerId (assign row) = columns.ownerId row)
    (key : ∀ row, columns.clientRequestId (assign row) = columns.clientRequestId row) :
    columns.Inv (updateWhere chosen assign rows) := by
  constructor
  · exact unique_key_update id inv.ids
  · intro left leftMem right rightMem given sameOwner sameKey
    obtain ⟨oldLeft, leftStored, rfl⟩ := mem_update_where.mp leftMem
    obtain ⟨oldRight, rightStored, rfl⟩ := mem_update_where.mp rightMem
    have ownerOf : ∀ row, columns.ownerId (if chosen row then assign row else row) =
        columns.ownerId row := by
      intro row
      split
      · exact owner row
      · rfl
    have keyOf : ∀ row, columns.clientRequestId (if chosen row then assign row else row) =
        columns.clientRequestId row := by
      intro row
      split
      · exact key row
      · rfl
    rw [ownerOf, ownerOf] at sameOwner
    rw [keyOf] at given
    rw [keyOf, keyOf] at sameKey
    rw [inv.keys oldLeft leftStored oldRight rightStored given sameOwner sameKey]

end

structure BusinessInv (store : BusinessStore) : Prop where
  sessions : sessionColumns.Inv store.sessions
  messages : messageColumns.Inv store.messages
  runs : runColumns.Inv store.runs

def BusinessStore.Asked (store : BusinessStore) : Prop :=
  ∀ message ∈ store.messages, message.role = .user → ∀ runId ∈ message.runId,
    ∃ run ∈ store.runs, run.id = runId

section

variable {store middle next : BusinessStore}

/-- Sessions and Runs keep their identity, messages stay as they are, and a new user
message comes after every message of its Session. -/
structure BusinessStore.Follows (store next : BusinessStore) : Prop where
  sessions : ∀ session ∈ store.sessions, ∃ after ∈ next.sessions, after.id = session.id
  runs : ∀ run ∈ store.runs, ∃ after ∈ next.runs, after.id = run.id ∧
    after.sessionId = run.sessionId ∧ after.ownerId = run.ownerId ∧
    after.clientRequestId = run.clientRequestId ∧ after.requestHash = run.requestHash
  messages : ∀ message ∈ store.messages, message ∈ next.messages
  later : ∀ message ∈ next.messages, message ∈ store.messages ∨ message.role ≠ .user ∨
    ∀ runId ∈ message.runId, ∃ run ∈ next.runs, run.id = runId ∧
      ∀ old ∈ store.messages, old.sessionId = run.sessionId → old.sequence < message.sequence

variable {sessionId : String} {message : BusinessMessage} {sessions : List BusinessSession}
  {assign : BusinessSession → BusinessSession} {messages : List BusinessMessage} {turn : TurnResult}

theorem message_sequence_above (mem : message ∈ store.messages)
    (own : message.sessionId = sessionId) :
    message.sequence < store.nextSequence sessionId := by
  rw [BusinessStore.nextSequence]
  have listed : message.sequence ∈ (store.messages.filter fun message =>
      message.sessionId = sessionId).map BusinessMessage.sequence :=
    mem_map_of_mem (mem_filter.mpr ⟨mem, decide_eq_true own⟩)
  cases highest : ((store.messages.filter fun message =>
      message.sessionId = sessionId).map BusinessMessage.sequence).max? with
  | none =>
    rw [max?_eq_none_iff.mp highest] at listed
    cases listed
  | some top =>
    have bound := (max?_eq_some_iff.mp highest).2 message.sequence listed
    rw [Option.getD_some]
    omega

theorem follows_self (store : BusinessStore) : store.Follows store :=
  ⟨fun session mem => ⟨session, mem, rfl⟩,
    fun run mem => ⟨run, mem, rfl, rfl, rfl, rfl, rfl⟩, fun _ mem => mem,
    fun _ mem => Or.inl mem⟩

theorem follows_sessions
    (kept : ∀ session ∈ store.sessions, ∃ after ∈ sessions, after.id = session.id) :
    store.Follows { store with sessions := sessions } :=
  ⟨kept, (follows_self store).runs, (follows_self store).messages, (follows_self store).later⟩

theorem update_ids {chosen : BusinessSession → Prop} [DecidablePred chosen]
    (same : ∀ session, (assign session).id = session.id) :
    ∀ session ∈ sessions, ∃ after ∈ updateWhere chosen assign sessions, after.id = session.id := by
  intro session mem
  refine ⟨_, mem_update_where.mpr ⟨session, mem, rfl⟩, ?_⟩
  split
  · exact same session
  · rfl

theorem appended_ids {row : BusinessSession}
    (done : sessionColumns.insert store.sessions row = .ok sessions) :
    ∀ session ∈ store.sessions, ∃ after ∈ sessions, after.id = session.id := by
  obtain ⟨rfl, -, -⟩ := insert_ok done
  exact fun session mem => ⟨session, mem_append_left _ mem, rfl⟩

section

variable {raises : TurnStatement → Bool} {request : TurnRequest} {draw : TurnDraw}

theorem execute_ok {Value : Type} {statement : TurnStatement} {work : Except BusinessError Value}
    {value : Value} (done : statement.execute raises work = .ok value) : work = .ok value := by
  rw [TurnStatement.execute] at done
  split at done
  · cases done
  · exact done

theorem open_turn_session_ok {opened : BusinessStore} {session : BusinessSession}
    (done : openTurnSession raises store request draw = .ok (opened, session)) :
    opened.messages = store.messages ∧ opened.runs = store.runs ∧ session ∈ opened.sessions ∧
      (opened.sessions = store.sessions ∨
        sessionColumns.insert store.sessions (request.newSession draw) = .ok opened.sessions) := by
  rw [openTurnSession] at done
  split at done
  · split at done
    · next found =>
      cases done
      exact ⟨rfl, rfl, mem_of_find?_eq_some found, Or.inl rfl⟩
    · cases done
  · obtain ⟨sessions, inserted, rest⟩ := bind_ok done
    cases rest
    have added := execute_ok inserted
    refine ⟨rfl, rfl, ?_, Or.inr added⟩
    rw [(insert_ok added).1]
    exact mem_append_right _ (mem_singleton.mpr rfl)

structure TurnWritten (store : BusinessStore) (request : TurnRequest) (draw : TurnDraw)
    (next : BusinessStore) (result : TurnResult) : Prop where
  sessions : ∃ sessions : List BusinessSession, (sessions = store.sessions ∨
      sessionColumns.insert store.sessions (request.newSession draw) = .ok sessions) ∧
    next.sessions = updateWhere (fun row => row.id = result.run.sessionId)
      (BusinessSession.start draw.now) sessions
  session : result.session ∈ next.sessions
  sessionId : result.session.id = result.run.sessionId
  run : result.run = request.newRun result.run.sessionId draw
  runs : runColumns.insert store.runs result.run = .ok next.runs
  message : result.message = request.newMessage result.run.sessionId
    (store.nextSequence result.run.sessionId) draw
  messages : messageColumns.insert store.messages result.message = .ok next.messages
  duplicate : result.duplicate = false

variable {result : TurnResult}

theorem write_turn_ok (done : writeTurn raises store request draw = .ok (next, result)) :
    TurnWritten store request draw next result := by
  obtain ⟨⟨opened, session⟩, first, done⟩ := bind_ok done
  obtain ⟨sameMessages, sameRuns, mem, sessions⟩ := open_turn_session_ok first
  obtain ⟨runs, inserted, done⟩ := bind_ok done
  obtain ⟨messages, sent, done⟩ := bind_ok done
  obtain ⟨started, started_, done⟩ := bind_ok done
  cases execute_ok started_
  cases execute_ok done
  have sameSequence : opened.nextSequence session.id = store.nextSequence session.id := by
    rw [BusinessStore.nextSequence, sameMessages, BusinessStore.nextSequence]
  have runsOk := execute_ok inserted
  have messagesOk := execute_ok sent
  rw [sameRuns] at runsOk
  rw [sameMessages] at messagesOk
  refine ⟨⟨opened.sessions, sessions, rfl⟩, ?_, rfl, rfl, runsOk, ?_, messagesOk, rfl⟩
  · exact mem_update_of_chosen mem rfl
  · exact congrArg (fun sequence => request.newMessage session.id sequence draw) sameSequence

theorem written_follows (written : TurnWritten store request draw next result) :
    store.Follows next := by
  obtain ⟨sessions, opened, started⟩ := written.sessions
  obtain ⟨runs, -, -⟩ := insert_ok written.runs
  obtain ⟨messages, -, -⟩ := insert_ok written.messages
  constructor
  · intro session mem
    obtain ⟨kept, keptMem, same⟩ : ∃ kept ∈ sessions, kept.id = session.id := by
      rcases opened with rfl | added
      · exact ⟨session, mem, rfl⟩
      · exact appended_ids added session mem
    rw [started, ← same]
    apply update_ids _ kept keptMem
    exact fun _ => rfl
  · intro run mem
    exact ⟨run, runs ▸ mem_append_left _ mem, rfl, rfl, rfl, rfl, rfl⟩
  · intro message mem
    exact messages ▸ mem_append_left _ mem
  · intro message mem
    rw [messages] at mem
    rcases mem_append.mp mem with old | new
    · exact Or.inl old
    · rw [mem_singleton.mp new]
      refine Or.inr (Or.inr fun runId named => ⟨result.run, ?_, ?_, ?_⟩)
      · rw [runs]
        exact mem_append_right _ (mem_singleton.mpr rfl)
      · rw [written.message] at named
        rw [written.run]
        exact Option.some.inj named
      · intro old stored own
        rw [written.message]
        exact message_sequence_above stored own

theorem written_inv (inv : BusinessInv store)
    (written : TurnWritten store request draw next result) : BusinessInv next := by
  obtain ⟨sessions, opened, started⟩ := written.sessions
  constructor
  · rw [started]
    have openedInv : sessionColumns.Inv sessions := by
      rcases opened with rfl | added
      · exact inv.sessions
      · exact insert_row_inv inv.sessions added
    exact update_inv openedInv (fun _ => rfl) (fun _ => rfl) fun _ => rfl
  · exact insert_row_inv inv.messages written.messages
  · exact insert_row_inv inv.runs written.runs

theorem create_turn_ok (done : createTurn raises store request draw = .ok (next, result)) :
    TurnWritten store request draw next result ∨
      next = store ∧ result.duplicate = true ∧
        store.runByKey? request.ownerId request.clientRequestId = some result.run ∧
        result.run.requestHash = request.requestHash ∧
        store.liveSession? result.run.sessionId = some result.session ∧
        store.userMessage? result.run.id = some result.message := by
  rw [createTurn] at done
  split at done
  · exact Or.inl (write_turn_ok done)
  · next found =>
    split at done
    · cases done
    · next same =>
      split at done
      · next live asked =>
        cases execute_ok done
        exact Or.inr ⟨rfl, rfl, found, not_not.mp same, live, asked⟩
      · cases done

end

theorem follows_messages {row : BusinessMessage}
    (done : messageColumns.insert store.messages row = .ok messages)
    (later : row.role ≠ .user ∨ ∀ runId ∈ row.runId, ∃ run ∈ store.runs, run.id = runId ∧
      ∀ old ∈ store.messages, old.sessionId = run.sessionId → old.sequence < row.sequence) :
    store.Follows { store with messages := messages } := by
  obtain ⟨rfl, -, -⟩ := insert_ok done
  refine ⟨(follows_self store).sessions, (follows_self store).runs,
    fun _ mem => mem_append_left _ mem, fun message mem => ?_⟩
  rcases mem_append.mp mem with old | new
  · exact Or.inl old
  · rw [mem_singleton.mp new]
    exact Or.inr later

theorem follows_runs {runs : List BusinessRun}
    (kept : ∀ run ∈ store.runs, ∃ after ∈ runs, after.id = run.id ∧
      after.sessionId = run.sessionId ∧ after.ownerId = run.ownerId ∧
      after.clientRequestId = run.clientRequestId ∧ after.requestHash = run.requestHash) :
    store.Follows { store with runs := runs } :=
  ⟨(follows_self store).sessions, kept, (follows_self store).messages, fun _ mem => Or.inl mem⟩

theorem follows_trans (first : store.Follows middle) (second : middle.Follows next) :
    store.Follows next := by
  constructor
  · intro session mem
    obtain ⟨between, betweenMem, same⟩ := first.sessions session mem
    obtain ⟨after, afterMem, still⟩ := second.sessions between betweenMem
    exact ⟨after, afterMem, still.trans same⟩
  · intro run mem
    obtain ⟨between, betweenMem, id, session, owner, key, hash⟩ := first.runs run mem
    obtain ⟨after, afterMem, id', session', owner', key', hash'⟩ :=
      second.runs between betweenMem
    exact ⟨after, afterMem, id'.trans id, session'.trans session, owner'.trans owner,
      key'.trans key, hash'.trans hash⟩
  · exact fun message mem => second.messages message (first.messages message mem)
  · intro message mem
    rcases second.later message mem with between | other | later
    · rcases first.later message between with old | other | later
      · exact Or.inl old
      · exact Or.inr (Or.inl other)
      · refine Or.inr (Or.inr fun runId named => ?_)
        obtain ⟨run, runMem, same, above⟩ := later runId named
        obtain ⟨after, afterMem, id, session, -⟩ := second.runs run runMem
        exact ⟨after, afterMem, id.trans same, fun old stored own =>
          above old stored (own.trans session)⟩
    · exact Or.inr (Or.inl other)
    · refine Or.inr (Or.inr fun runId named => ?_)
      obtain ⟨run, runMem, same, above⟩ := later runId named
      exact ⟨run, runMem, same, fun old stored own =>
        above old (first.messages old stored) own⟩

theorem versioned_ok {expectedVersion : Nat}
    (done : store.versioned sessionId expectedVersion assign = .ok next) :
    ∃ (chosen : BusinessSession → Prop) (_ : DecidablePred chosen),
      next = { store with sessions := updateWhere chosen assign store.sessions } := by
  rw [BusinessStore.versioned] at done
  split at done
  · cases done
    exact ⟨_, _, rfl⟩
  · split at done <;> cases done

theorem moved_runs {runId : String} {status : RunStatus} {now : Time} :
    ∀ run ∈ store.runs, ∃ after ∈ updateWhere (fun run => run.id = runId)
        (BusinessRun.setStatus status now) store.runs, after.id = run.id ∧
      after.sessionId = run.sessionId ∧ after.ownerId = run.ownerId ∧
      after.clientRequestId = run.clientRequestId ∧ after.requestHash = run.requestHash := by
  intro run mem
  refine ⟨_, mem_update_where.mpr ⟨run, mem, rfl⟩, ?_⟩
  split <;> exact ⟨rfl, rfl, rfl, rfl, rfl⟩

theorem perform_follows {request : BusinessRequest} (inv : BusinessInv store)
    (done : store.perform request = .ok next) : store.Follows next ∧ BusinessInv next := by
  cases request with
  | createTurn request draw raises =>
    obtain ⟨⟨after, result⟩, created, rest⟩ := bind_ok done
    cases rest
    rcases create_turn_ok created with written | ⟨rfl, -⟩
    · exact ⟨written_follows written, written_inv inv written⟩
    · exact ⟨follows_self _, inv⟩
  | createSession session =>
    obtain ⟨⟨sessions, duplicate⟩, created, rest⟩ := bind_ok done
    cases rest
    refine ⟨follows_sessions ?_, create_inv inv.sessions created, inv.messages, inv.runs⟩
    rcases create_ok created with rfl | inserted
    · exact fun session mem => ⟨session, mem, rfl⟩
    · exact appended_ids inserted
  | createMessage message =>
    rw [BusinessStore.perform] at done
    split at done
    · cases done
    · split at done
      · next admitted =>
        obtain ⟨⟨messages, duplicate⟩, created, rest⟩ := bind_ok done
        cases rest
        refine ⟨?_, inv.sessions, create_inv inv.messages created, inv.runs⟩
        rcases create_ok created with rfl | inserted
        · exact follows_self store
        · refine follows_messages inserted (Or.inr fun runId named => ?_)
          rw [BusinessStore.admitsMessage, show message.runId = some runId from named] at admitted
          obtain ⟨run, mem, same⟩ := any_eq_true.mp admitted
          rw [Bool.and_eq_true, decide_eq_true_eq, decide_eq_true_eq] at same
          exact ⟨run, mem, same.1, fun old stored own =>
            message_sequence_above stored (own.trans same.2)⟩
      · cases done
  | createRun run =>
    rw [BusinessStore.perform] at done
    split at done
    · obtain ⟨⟨runs, duplicate⟩, created, rest⟩ := bind_ok done
      cases rest
      refine ⟨follows_runs ?_, inv.sessions, inv.messages, create_inv inv.runs created⟩
      rcases create_ok created with rfl | inserted
      · exact (follows_self store).runs
      · obtain ⟨rfl, -, -⟩ := insert_ok inserted
        exact fun run mem => ⟨run, mem_append_left _ mem, rfl, rfl, rfl, rfl, rfl⟩
    · cases done
  | updateSession sessionId expectedVersion patch now =>
    obtain ⟨chosen, _, rfl⟩ := versioned_ok done
    refine ⟨follows_sessions (update_ids fun _ => rfl), ?_, inv.messages, inv.runs⟩
    exact update_inv inv.sessions (fun _ => rfl) (fun _ => rfl) fun _ => rfl
  | deleteSession sessionId expectedVersion now =>
    obtain ⟨chosen, _, rfl⟩ := versioned_ok done
    refine ⟨follows_sessions (update_ids fun _ => rfl), ?_, inv.messages, inv.runs⟩
    exact update_inv inv.sessions (fun _ => rfl) (fun _ => rfl) fun _ => rfl
  | moveRun runId status now =>
    cases done
    refine ⟨follows_runs moved_runs, inv.sessions, inv.messages, ?_⟩
    exact update_inv inv.runs (fun _ => rfl) (fun _ => rfl) fun _ => rfl
  | endRun runId status messageId content eventId now =>
    rw [BusinessStore.perform] at done
    split at done
    · cases done
    · obtain ⟨messages, stored, rest⟩ := bind_ok done
      cases rest
      have sent : store.Follows { store with messages := messages } ∧
          messageColumns.Inv messages := by
        rw [BusinessStore.terminalMessages] at stored
        split at stored
        · cases stored
          exact ⟨follows_self store, inv.messages⟩
        · exact ⟨follows_messages stored (Or.inl (by simp)), insert_row_inv inv.messages stored⟩
      refine ⟨follows_trans sent.1 (follows_trans (follows_sessions (update_ids ?_))
        (follows_runs moved_runs)), ?_, sent.2, ?_⟩
      · exact fun _ => rfl
      · exact update_inv inv.sessions (fun _ => rfl) (fun _ => rfl) fun _ => rfl
      · exact update_inv inv.runs (fun _ => rfl) (fun _ => rfl) fun _ => rfl

theorem follows_asked (asked : store.Asked) (follows : store.Follows next) : next.Asked := by
  intro message mem user runId named
  rcases follows.later message mem with old | other | later
  · obtain ⟨run, runMem, same⟩ := asked message old user runId named
    obtain ⟨after, afterMem, id, -⟩ := follows.runs run runMem
    exact ⟨after, afterMem, id.trans same⟩
  · exact absurd user other
  · obtain ⟨run, runMem, same, -⟩ := later runId named
    exact ⟨run, runMem, same⟩

theorem serve_keeps (request : BusinessRequest) (inv : BusinessInv store) :
    store.Follows (store.serve request) ∧ BusinessInv (store.serve request) := by
  rw [BusinessStore.serve]
  cases done : store.perform request with
  | error error => exact ⟨follows_self store, inv⟩
  | ok next => exact perform_follows inv done

theorem reachable_business (reachable : businessMachine.Reachable Anything store) :
    BusinessInv store ∧ store.Asked := by
  refine reachable_invariant (fun store => BusinessInv store ∧ store.Asked) ?_ ?_ reachable
  · rintro start ⟨sessions, messages, runs⟩
    have none : ∀ {Row : Type} {columns : Columns Row} {rows : List Row}, rows = [] →
        columns.Inv rows := by
      rintro Row columns rows rfl
      exact ⟨nodup_nil, fun _ mem => absurd mem not_mem_nil⟩
    refine ⟨⟨none sessions, none messages, none runs⟩, fun message mem => ?_⟩
    rw [messages] at mem
    cases mem
  · rintro store request next ⟨inv, asked⟩ - rfl
    obtain ⟨follows, kept⟩ := serve_keeps request inv
    exact ⟨kept, follows_asked asked follows⟩

theorem path_follows (inv : BusinessInv store)
    (path : businessMachine.Path Anything store next) : store.Follows next ∧ BusinessInv next := by
  refine path_invariant (fun after => store.Follows after ∧ BusinessInv after) ?_
    ⟨follows_self store, inv⟩ path
  rintro middle request after ⟨follows, kept⟩ - rfl
  obtain ⟨step, still⟩ := serve_keeps request kept
  exact ⟨follows_trans follows step, still⟩

structure TurnKept (turn : TurnResult) (store : BusinessStore) : Prop where
  session : ∃ session ∈ store.sessions, session.id = turn.run.sessionId
  run : ∃ run ∈ store.runs, run.id = turn.run.id ∧ run.sessionId = turn.run.sessionId ∧
    run.ownerId = turn.run.ownerId ∧ run.clientRequestId = turn.run.clientRequestId ∧
    run.requestHash = turn.run.requestHash
  message : turn.message ∈ store.messages
  first : ∀ other ∈ store.messages, other.role = .user → other.runId = some turn.run.id →
    other = turn.message ∨ turn.message.sequence < other.sequence

theorem written_kept {request : TurnRequest} {draw : TurnDraw} (asked : store.Asked)
    (written : TurnWritten store request draw next turn) :
    TurnKept turn next := by
  obtain ⟨runs, freshRun, -⟩ := insert_ok written.runs
  obtain ⟨messages, -, -⟩ := insert_ok written.messages
  constructor
  · exact ⟨turn.session, written.session, written.sessionId⟩
  · refine ⟨turn.run, ?_, rfl, rfl, rfl, rfl, rfl⟩
    rw [runs]
    exact mem_append_right _ (mem_singleton.mpr rfl)
  · rw [messages]
    exact mem_append_right _ (mem_singleton.mpr rfl)
  · intro other mem user named
    rw [messages] at mem
    rcases mem_append.mp mem with old | new
    · obtain ⟨run, runMem, same⟩ := asked other old user turn.run.id named
      exact absurd same (freshRun run runMem)
    · exact Or.inl (mem_singleton.mp new)

theorem follows_kept (inv : BusinessInv next) (kept : TurnKept turn store)
    (own : turn.message.sessionId = turn.run.sessionId) (follows : store.Follows next) :
    TurnKept turn next := by
  obtain ⟨run, runMem, runId, runSession, runOwner, runKey, runHash⟩ := kept.run
  obtain ⟨after, afterMem, id, session, owner, key, hash⟩ := follows.runs run runMem
  constructor
  · obtain ⟨session, mem, same⟩ := kept.session
    obtain ⟨later, laterMem, still⟩ := follows.sessions session mem
    exact ⟨later, laterMem, still.trans same⟩
  · exact ⟨after, afterMem, id.trans runId, session.trans runSession, owner.trans runOwner,
      key.trans runKey, hash.trans runHash⟩
  · exact follows.messages _ kept.message
  · intro other mem user named
    rcases follows.later other mem with old | notUser | later
    · exact kept.first other old user named
    · exact absurd user notUser
    · obtain ⟨newRun, newMem, same, above⟩ := later turn.run.id named
      have one := unique_key_eq inv.runs.ids newMem afterMem (same.trans (id.trans runId).symm)
      apply Or.inr
      apply above turn.message kept.message
      rw [own, one, session, runSession]

theorem sorted_head (mem : message ∈ messages)
    (least : ∀ other ∈ messages, other = message ∨ message.sequence < other.sequence) :
    (messages.insertionSort fun left right => left.sequence ≤ right.sequence).head? =
      some message := by
  let order (left right : BusinessMessage) : Prop := left.sequence ≤ right.sequence
  have total : Std.Total order := ⟨fun left right => Nat.le_total left.sequence right.sequence⟩
  have transitive : IsTrans BusinessMessage order := ⟨fun _ _ _ => Nat.le_trans⟩
  have sorted : (messages.insertionSort order).Pairwise order := pairwise_insertionSort order _
  have listed : message ∈ messages.insertionSort order := (mem_insertionSort order).mpr mem
  cases equal : messages.insertionSort order with
  | nil =>
    rw [equal] at listed
    cases listed
  | cons head rest =>
    rw [equal] at listed sorted
    have headMem : head ∈ messages := by
      apply (mem_insertionSort order).mp
      rw [equal]
      exact mem_cons_self
    rcases least head headMem with same | below
    · rw [same]
      rfl
    · rcases mem_cons.mp listed with rfl | later
      · rfl
      · have above : head.sequence ≤ message.sequence :=
          (pairwise_cons.mp sorted).1 message later
        omega

theorem kept_user_message (kept : TurnKept turn store) (user : turn.message.role = .user)
    (named : turn.message.runId = some turn.run.id) :
    store.userMessage? turn.run.id = some turn.message := by
  apply sorted_head
  · simp [kept.message, user, named]
  · intro other mem
    obtain ⟨stored, chosen⟩ := mem_filter.mp mem
    rw [Bool.and_eq_true, decide_eq_true_eq, decide_eq_true_eq] at chosen
    exact kept.first other stored chosen.2 chosen.1

theorem kept_run_by_key (inv : BusinessInv store) (kept : TurnKept turn store)
    (given : turn.run.clientRequestId ≠ "") :
    ∃ run, store.runByKey? turn.run.ownerId turn.run.clientRequestId = some run ∧
      run.id = turn.run.id ∧ run.sessionId = turn.run.sessionId ∧
      run.requestHash = turn.run.requestHash := by
  obtain ⟨run, mem, id, session, owner, key, hash⟩ := kept.run
  have keyed : runColumns.hasKey turn.run.ownerId turn.run.clientRequestId run = true :=
    has_key_iff.mpr ⟨owner, key⟩
  cases found : store.runByKey? turn.run.ownerId turn.run.clientRequestId with
  | none =>
    have absent := find?_eq_none.mp found run mem
    exact absurd keyed absent
  | some other =>
    obtain ⟨otherOwner, otherKey⟩ := has_key_iff.mp (find?_some found)
    have one : other = run := inv.runs.keys other (mem_of_find?_eq_some found) run mem
      (Eq.trans_ne otherKey given) (otherOwner.trans owner.symm) (otherKey.trans key.symm)
    exact ⟨other, rfl, one ▸ ⟨id, session, hash⟩⟩

theorem live_session_iff : (∃ session, store.liveSession? sessionId = some session) ↔
      ∃ session ∈ store.sessions, session.id = sessionId ∧ session.deletedAt = 0 := by
  rw [← Option.isSome_iff_exists, BusinessStore.liveSession?, find?_isSome]
  simp

/-- The rows that a key stands for: its Run, the Session of the Run and the user message
that was stored with it. -/
structure TurnGraph (store : BusinessStore) (ownerId key : String) (session : BusinessSession)
    (message : BusinessMessage) (run : BusinessRun) : Prop where
  session : session ∈ store.sessions ∧ session.id = run.sessionId
  message : message ∈ store.messages ∧ message.ownerId = ownerId ∧
    message.clientRequestId = key ++ ":message" ∧ message.runId = some run.id
  run : run ∈ store.runs ∧ run.ownerId = ownerId ∧ run.clientRequestId = key

theorem message_key_given (key : String) : key ++ ":message" ≠ "" := by
  intro empty
  have length := congrArg String.length empty
  rw [String.length_append] at length
  have tail : (":message" : String).length = 8 := rfl
  simp only [tail, String.length_empty] at length
  omega

theorem turn_graph_unique {ownerId key : String} {session session' : BusinessSession}
    {message message' : BusinessMessage} {run run' : BusinessRun} (inv : BusinessInv store)
    (given : key ≠ "") (left : TurnGraph store ownerId key session message run)
    (right : TurnGraph store ownerId key session' message' run') :
    session = session' ∧ message = message' ∧ run = run' := by
  have oneRun : run = run' := inv.runs.keys run left.run.1 run' right.run.1
    (Eq.trans_ne left.run.2.2 given) (left.run.2.1.trans right.run.2.1.symm)
    (left.run.2.2.trans right.run.2.2.symm)
  subst oneRun
  refine ⟨?_, ?_, rfl⟩
  · exact unique_key_eq inv.sessions.ids left.session.1 right.session.1
      (left.session.2.trans right.session.2.symm)
  · exact inv.messages.keys message left.message.1 message' right.message.1
      (Eq.trans_ne left.message.2.2.1 (message_key_given key))
      (left.message.2.1.trans right.message.2.1.symm)
      (left.message.2.2.1.trans right.message.2.2.1.symm)

end

def undisturbed (_ : TurnStatement) : Bool := false

/-- In every later state the key stands for one graph, another payload is a conflict, a
call that raises leaves nothing behind, and the same payload finds the graph again exactly
as long as the Session is not deleted. -/
theorem create_turn_idempotent {start middle later : BusinessStore} {request : TurnRequest}
    {draw : TurnDraw} {raises : TurnStatement → Bool} {turn : TurnResult}
    (reachable : businessMachine.Reachable Anything start)
    (given : request.clientRequestId ≠ "")
    (done : createTurn raises start request draw = .ok (middle, turn))
    (created : turn.duplicate = false) (path : businessMachine.Path Anything middle later) :
    (∀ session message run session' message' run',
      TurnGraph later request.ownerId request.clientRequestId session message run →
      TurnGraph later request.ownerId request.clientRequestId session' message' run' →
      session = session' ∧ message = message' ∧ run = run') ∧
    (∀ again redraw fault, again.ownerId = request.ownerId →
      again.clientRequestId = request.clientRequestId →
      again.requestHash ≠ request.requestHash →
      createTurn fault later again redraw =
        .error (.idempotencyConflict "idempotency key payload mismatch")) ∧
    (∀ again redraw fault error, createTurn fault later again redraw = .error error →
      later.serve (.createTurn again redraw fault) = later) ∧
    ∀ again redraw, again.ownerId = request.ownerId →
      again.clientRequestId = request.clientRequestId →
      again.requestHash = request.requestHash →
      ((∃ repeated, createTurn undisturbed later again redraw = .ok (later, repeated) ∧
          repeated.session.id = turn.session.id ∧ repeated.message = turn.message ∧
          repeated.run.id = turn.run.id ∧ repeated.duplicate = true) ↔
        ∃ session ∈ later.sessions, session.id = turn.session.id ∧ session.deletedAt = 0) := by
  obtain ⟨inv, asked⟩ := reachable_business reachable
  have written : TurnWritten start request draw middle turn := by
    rcases create_turn_ok done with written | ⟨-, duplicate, -⟩
    · exact written
    · rw [created] at duplicate
      cases duplicate
  obtain ⟨follows, laterInv⟩ := path_follows (written_inv inv written) path
  have own : turn.message.sessionId = turn.run.sessionId := by rw [written.message]; rfl
  have user : turn.message.role = .user := by rw [written.message]; rfl
  have named : turn.message.runId = some turn.run.id := by rw [written.message, written.run]; rfl
  have owner : turn.run.ownerId = request.ownerId := by rw [written.run]; rfl
  have key : turn.run.clientRequestId = request.clientRequestId := by rw [written.run]; rfl
  have hash : turn.run.requestHash = request.requestHash := by rw [written.run]; rfl
  have kept := follows_kept laterInv (written_kept asked written) own follows
  obtain ⟨run, found, sameRun, sameSession, sameHash⟩ :=
    kept_run_by_key laterInv kept (key ▸ given)
  rw [owner, key] at found
  refine ⟨fun _ _ _ _ _ _ left right => turn_graph_unique laterInv given left right, ?_, ?_, ?_⟩
  · intro again redraw fault againOwner againKey different
    have differs : run.requestHash ≠ again.requestHash := by
      rw [sameHash, hash]
      exact different.symm
    rw [createTurn, againOwner, againKey, found]
    exact if_pos differs
  · intro again redraw fault error failed
    rw [BusinessStore.serve, BusinessStore.perform, failed]
    rfl
  · intro again redraw againOwner againKey againHash
    have matching : ¬run.requestHash ≠ again.requestHash := by
      rw [sameHash, hash, againHash]
      exact not_not.mpr rfl
    rw [createTurn, againOwner, againKey, found, written.sessionId, ← live_session_iff]
    simp only [if_neg matching, sameRun, sameSession, kept_user_message kept user named]
    cases live : later.liveSession? turn.run.sessionId with
    | none => simp
    | some session =>
      have sameId : session.id = turn.run.sessionId := by
        have chosen := find?_some live
        rw [Bool.and_eq_true, decide_eq_true_eq] at chosen
        exact chosen.1
      simp [TurnStatement.execute, undisturbed, sameId, sameRun]

def noRecords : BusinessStore := ⟨[], [], []⟩

def sampleTurn : TurnRequest where
  actorId := "account"
  ownerId := "account"
  projectId := none
  sessionId := ""
  sessionTitle := "Chat"
  sessionKind := "chat"
  sessionSpace := none
  userText := "Hello"
  run := ⟨none, .exec, "default", none, none, none, .obj [], .obj [], "", [], .obj [], 3⟩
  clientRequestId := "turn-key"
  requestHash := "payload-hash"

def sampleDraw : TurnDraw := ⟨"session", "run", "message", 1⟩

def turnAnswered : List BusinessRequest :=
  [.endRun "run" .completed "reply" "Hi" "event" 2, .updateSession "session" 3 ⟨"Talk", none, none⟩ 3]

theorem serve_path (requests : List BusinessRequest) (store : BusinessStore) :
    businessMachine.Path Anything store (requests.foldl BusinessStore.serve store) := by
  induction requests generalizing store with
  | nil => exact .refl store
  | cons request rest ih =>
    have first : businessMachine.Path Anything store (store.serve request) :=
      .step (.refl store) trivial rfl
    exact path_trans first (ih _)

theorem repeated_turn_found : ∃ middle turn repeated,
    createTurn undisturbed noRecords sampleTurn sampleDraw = .ok (middle, turn) ∧
      createTurn undisturbed (turnAnswered.foldl BusinessStore.serve middle)
          sampleTurn ⟨"session-2", "run-2", "message-2", 4⟩ =
            .ok (turnAnswered.foldl BusinessStore.serve middle, repeated) ∧
      repeated.session.id = turn.session.id ∧ repeated.message = turn.message ∧
        repeated.run.id = turn.run.id := by
  have created : ((createTurn undisturbed noRecords sampleTurn sampleDraw).map
      fun made => (made.2.duplicate,
        (turnAnswered.foldl BusinessStore.serve made.1).sessions.any fun session =>
          session.id = made.2.session.id && session.deletedAt = 0)).toOption =
      some (false, true) := by decide +kernel
  cases done : createTurn undisturbed noRecords sampleTurn sampleDraw with
  | error error =>
    rw [done] at created
    cases created
  | ok value =>
    obtain ⟨middle, turn⟩ := value
    rw [done] at created
    obtain ⟨fresh, live⟩ := Prod.mk.inj (Option.some.inj created)
    obtain ⟨session, mem, same⟩ := any_eq_true.mp live
    rw [Bool.and_eq_true, decide_eq_true_eq, decide_eq_true_eq] at same
    have reachable : businessMachine.Reachable Anything noRecords :=
      ⟨noRecords, ⟨rfl, rfl, rfl⟩, .refl noRecords⟩
    have idempotent := create_turn_idempotent reachable (by decide) done fresh
      (serve_path turnAnswered middle)
    have found := (idempotent.2.2.2 sampleTurn ⟨"session-2", "run-2", "message-2", 4⟩ rfl rfl
      rfl).mpr ⟨session, mem, same⟩
    obtain ⟨repeated, again, sameSession, sameMessage, sameRun, -⟩ := found
    exact ⟨middle, turn, repeated, rfl, again, sameSession, sameMessage, sameRun⟩

theorem deleted_session_loses_turn : ∃ middle turn,
    createTurn undisturbed noRecords sampleTurn sampleDraw = .ok (middle, turn) ∧
      createTurn undisturbed (middle.serve (.deleteSession "session" 2 2)) sampleTurn
          ⟨"session-2", "run-2", "message-2", 3⟩ =
        .error (.incomplete "committed turn graph is incomplete") :=
  ⟨_, _, rfl, rfl⟩

end AgentMate
