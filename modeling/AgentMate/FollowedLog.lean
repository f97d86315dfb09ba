import AgentMate.FollowRun
import AgentMate.RunLog

/-! # What a client has seen of a Run -/

namespace AgentMate

open TransitionSystem List

variable {Hash : Type}

structure Transcript where
  content : String
  trace : List Json

def Transcript.empty : Transcript := ⟨"", []⟩

def ChatMessage.transcript (message : ChatMessage) : Transcript := ⟨message.content, message.trace⟩

/-- What `foldResumedRunEvent` does to the text and the trace. -/
def Transcript.fold (transcript : Transcript) (event : SSEEvent) : Transcript :=
  (foldResumedRunEvent ⟨"", transcript.content, transcript.trace, [], none, .running, none, none⟩
    event).transcript

@[simp] theorem fold_transcript (message : ChatMessage) (event : SSEEvent) :
    (foldResumedRunEvent message event).transcript = message.transcript.fold event := by
  cases event with
  | checked type data => cases type <;> rfl
  | runRecovered leaseEpoch => rfl
  | runState status => rfl

theorem fold_all_transcript (message : ChatMessage) (events : List SSEEvent) :
    (events.foldl foldResumedRunEvent message).transcript =
      events.foldl Transcript.fold message.transcript := by
  induction events generalizing message with
  | nil => rfl
  | cons event rest ih => rw [foldl_cons, ih, fold_transcript, foldl_cons]

def Transcript.display (toNumber : Int → Int) (transcript : Transcript) (row : EventRow Hash) :
    Transcript :=
  (clientEvent toNumber row).toList.foldl Transcript.fold transcript

def liveTranscript (toNumber : Int → Int) (rows : List (EventRow Hash)) : Transcript :=
  rows.foldl (Transcript.display toNumber) Transcript.empty

theorem live_transcript_concat (toNumber : Int → Int) (rows : List (EventRow Hash))
    (row : EventRow Hash) : liveTranscript toNumber (rows ++ [row]) =
      (liveTranscript toNumber rows).display toNumber row := by
  rw [liveTranscript, foldl_append]
  rfl

/-- The client has seen the events `seen` and shows those of its newest epoch. -/
structure Following (toNumber : Int → Int) (seen : List (EventRow Hash)) (follow : Follow)
    (message : ChatMessage) : Prop where
  cursor : CursorAt seen follow.afterEpoch follow.afterSequence
  positive : ∀ row ∈ seen, 1 ≤ row.leaseEpoch
  newest : ∀ row ∈ seen, row.leaseEpoch ≤ follow.currentEpoch
  shown : message.transcript =
    liveTranscript toNumber (seen.filter fun row => row.leaseEpoch = follow.currentEpoch)

section

variable {toNumber : Int → Int} {seen : List (EventRow Hash)} {follow : Follow}
  {message : ChatMessage}

theorem unseen_epoch (following : Following toNumber seen follow message) {epoch : Nat}
    (later : follow.currentEpoch < epoch) :
    (seen.filter fun row => row.leaseEpoch = epoch) = [] := by
  apply filter_eq_nil_iff.mpr
  intro row mem same
  have bound := following.newest row mem
  rw [decide_eq_true_eq] at same
  omega

theorem cursor_concat (seen : List (EventRow Hash)) (row : EventRow Hash) :
    CursorAt (seen ++ [row]) row.leaseEpoch row.sequence := by
  rw [CursorAt, getLast?_concat]
  exact ⟨rfl, rfl⟩

theorem read_following (following : Following toNumber seen follow message)
    {row : EventRow Hash} (positive : 1 ≤ row.leaseEpoch) :
    Following toNumber (seen ++ [row]) (follow.read toNumber row).1
      ((follow.read toNumber row).2.foldl foldResumedRunEvent message) := by
  have allPositive : ∀ other ∈ seen ++ [row], 1 ≤ other.leaseEpoch := by
    intro other mem
    rcases mem_append.mp mem with old | new
    · exact following.positive other old
    · rw [mem_singleton.mp new]
      exact positive
  by_cases older : row.leaseEpoch < follow.currentEpoch
  · rw [Follow.read, if_pos older]
    refine ⟨cursor_concat seen row, allPositive, ?_, ?_⟩
    · intro other mem
      rcases mem_append.mp mem with old | new
      · exact following.newest other old
      · rw [mem_singleton.mp new]
        exact older.le
    · have skipped : [row].filter (fun row => row.leaseEpoch = follow.currentEpoch) = [] := by
        simp [older.ne]
      rw [filter_append, skipped, append_nil]
      exact following.shown
  · rw [Follow.read, if_neg older]
    refine ⟨cursor_concat seen row, allPositive, ?_, ?_⟩
    · intro other mem
      rcases mem_append.mp mem with old | new
      · exact (following.newest other old).trans (Nat.le_of_not_lt older)
      · rw [mem_singleton.mp new]
    · have own : [row].filter (fun other => other.leaseEpoch = row.leaseEpoch) = [row] := by
        simp
      simp only
      rw [filter_append, own, live_transcript_concat, foldl_append,
        fold_all_transcript, fold_all_transcript, Transcript.display]
      congr 1
      by_cases recovered : follow.currentEpoch < row.leaseEpoch
      · rw [if_pos (by simp [recovered]), unseen_epoch following recovered]
        rfl
      · have same : follow.currentEpoch = row.leaseEpoch := by omega
        rw [if_neg (by simp [recovered]), ← same]
        exact following.shown

variable {page : List (EventRow Hash)}

theorem read_all_following (following : Following toNumber seen follow message)
    (positive : ∀ row ∈ page, 1 ≤ row.leaseEpoch) :
    Following toNumber (seen ++ page) (follow.readAll toNumber page).1
      ((follow.readAll toNumber page).2.foldl foldResumedRunEvent message) := by
  induction page generalizing seen follow message with
  | nil =>
    rw [append_nil]
    exact following
  | cons row rest ih =>
    have next := read_following following (positive row mem_cons_self)
    have last := ih next fun other mem => positive other (mem_cons_of_mem row mem)
    rw [append_assoc] at last
    simp only [Follow.readAll]
    rw [foldl_append]
    exact last

theorem read_run_following (following : Following toNumber seen follow message) (run : Run) :
    Following toNumber seen (follow.readRun run).1
      ((follow.readRun run).2.foldl foldResumedRunEvent message) := by
  have stated : ((if follow.lastStatus = some run.status then []
      else [SSEEvent.runState run.status]).foldl foldResumedRunEvent message).transcript =
      message.transcript := by
    split <;> rfl
  by_cases behind : follow.currentEpoch < run.leaseEpoch
  · have unseen := unseen_epoch following behind
    have bound : ∀ row ∈ seen, row.leaseEpoch ≤ run.leaseEpoch :=
      fun row mem => (following.newest row mem).trans behind.le
    by_cases started : 0 < follow.currentEpoch
    · simp only [Follow.readRun, if_pos behind, if_pos started]
      refine ⟨following.cursor, following.positive, bound, ?_⟩
      rw [foldl_append, unseen]
      rfl
    · simp only [Follow.readRun, if_pos behind, if_neg started]
      refine ⟨following.cursor, following.positive, bound, ?_⟩
      have nothing : seen = [] := by
        apply eq_nil_iff_forall_not_mem.mpr
        intro row mem
        have low := following.positive row mem
        have high := following.newest row mem
        omega
      rw [stated, following.shown, nothing]
      rfl
  · simp only [Follow.readRun, if_neg behind]
    refine ⟨following.cursor, following.positive, following.newest, ?_⟩
    rw [stated]
    exact following.shown

theorem poll_following (run : Run) (following : Following toNumber seen follow message)
    (positive : ∀ row ∈ page, 1 ≤ row.leaseEpoch) :
    Following toNumber (seen ++ page) (follow.poll toNumber run page).1
      ((follow.poll toNumber run page).2.foldl foldResumedRunEvent message) := by
  have read := read_all_following (read_run_following following run) positive
  simp only [Follow.poll]
  rw [foldl_append]
  exact read

theorem read_epoch (toNumber : Int → Int) (follow : Follow) (row : EventRow Hash) :
    (follow.read toNumber row).1.currentEpoch = max follow.currentEpoch row.leaseEpoch := by
  by_cases older : row.leaseEpoch < follow.currentEpoch
  · rw [Follow.read, if_pos older]
    exact (max_eq_left older.le).symm
  · rw [Follow.read, if_neg older]
    exact (max_eq_right (Nat.le_of_not_lt older)).symm

theorem read_run_epoch (follow : Follow) (run : Run) :
    (follow.readRun run).1.currentEpoch = max follow.currentEpoch run.leaseEpoch := by
  by_cases behind : follow.currentEpoch < run.leaseEpoch
  · by_cases started : 0 < follow.currentEpoch
    · simp only [Follow.readRun, if_pos behind, if_pos started]
      exact (max_eq_right behind.le).symm
    · simp only [Follow.readRun, if_pos behind, if_neg started]
      exact (max_eq_right behind.le).symm
  · simp only [Follow.readRun, if_neg behind]
    exact (max_eq_left (Nat.le_of_not_lt behind)).symm

theorem read_all_epoch (toNumber : Int → Int) {bound : Nat} (below : follow.currentEpoch ≤ bound)
    (rows : ∀ row ∈ page, row.leaseEpoch ≤ bound) :
    follow.currentEpoch ≤ (follow.readAll toNumber page).1.currentEpoch ∧
      (follow.readAll toNumber page).1.currentEpoch ≤ bound := by
  induction page generalizing follow with
  | nil => exact ⟨le_rfl, below⟩
  | cons row rest ih =>
    have first := read_epoch toNumber follow row
    have rowBound := rows row mem_cons_self
    have below : (follow.read toNumber row).1.currentEpoch ≤ bound := by omega
    have later := ih below fun other mem => rows other (mem_cons_of_mem row mem)
    simp only [Follow.readAll]
    omega

theorem poll_epoch (toNumber : Int → Int) {run : Run} {bound : Nat}
    (below : follow.currentEpoch ≤ bound) (runBelow : run.leaseEpoch ≤ bound)
    (rows : ∀ row ∈ page, row.leaseEpoch ≤ bound) :
    run.leaseEpoch ≤ (follow.poll toNumber run page).1.currentEpoch ∧
      (follow.poll toNumber run page).1.currentEpoch ≤ bound := by
  have state := read_run_epoch follow run
  have stateBelow : (follow.readRun run).1.currentEpoch ≤ bound := by omega
  have events := read_all_epoch toNumber stateBelow rows
  simp only [Follow.poll]
  omega

end

variable [DecidableEq Hash] {host : Host Hash} {toNumber : Int → Int} {runId : String}
  {pageLimit : Nat}

def Store.runEpoch (store : Store Hash) (runId : String) : Nat :=
  ((store.run? runId).map fun run => run.leaseEpoch).getD 0

/-- The row was read of the Run at some earlier time: its epoch has not fallen since,
and if the Run had ended nothing has changed. -/
def ReadBefore (store : Store Hash) (runId : String) (run : Run) : Prop :=
  ∃ current, store.run? runId = some current ∧ run.leaseEpoch ≤ current.leaseEpoch ∧
    (run.status.isTerminal = true → current.status = run.status ∧
      current.leaseEpoch = run.leaseEpoch)

/-- The client has left the loop: the Run has ended and its whole log was seen. -/
structure SeenAll (toNumber : Int → Int) (store : Store Hash) (runId : String) (follow : Follow)
    (message : ChatMessage) (run : Run) : Prop where
  ended : run.status.isTerminal = true
  read : ReadBefore store runId run
  epoch : follow.currentEpoch = run.leaseEpoch
  following : Following toNumber (store.runLog runId) follow message

def PhaseInv (toNumber : Int → Int) (runId : String) (view : LiveView Hash) : Prop :=
  match view.phase with
  | .idle => True
  | .polling run => ReadBefore view.server.store runId run
  | .left run | .finished run =>
    SeenAll toNumber view.server.store runId view.follow view.message run

structure ViewInv (host : Host Hash) (toNumber : Int → Int) (runId : String)
    (view : LiveView Hash) : Prop where
  reachable : (serverMachine host).Reachable Anything view.server
  following : ∃ seen, seen <+: view.server.store.runLog runId ∧
    Following toNumber seen view.follow view.message
  epoch : view.follow.currentEpoch ≤ view.server.store.runEpoch runId
  phase : PhaseInv toNumber runId view

variable {next server : Server Hash} {action : Server.Action Hash} {run : Run}
  {view : LiveView Hash}

theorem read_before_step (reachable : (serverMachine host).Reachable Anything server)
    (step : (serverMachine host).Step server action next)
    (read : ReadBefore server.store runId run) : ReadBefore next.store runId run := by
  obtain ⟨current, found, epoch, ended⟩ := read
  obtain ⟨after, afterFound, grown, still⟩ := server_step_epoch reachable step runId current found
  refine ⟨after, afterFound, epoch.trans grown, fun terminal => ?_⟩
  obtain ⟨status, sameEpoch⟩ := ended terminal
  have currentEnded : current.status.isTerminal = true := by
    rw [status]
    exact terminal
  obtain ⟨same, sameFound, sameStatus⟩ := server_step_status_kept (server_lease_inv reachable)
    (server_log_inv reachable) step runId current found currentEnded
  cases afterFound.symm.trans sameFound
  exact ⟨sameStatus.trans status, (still currentEnded).trans sameEpoch⟩

theorem seen_all_step {follow : Follow} {message : ChatMessage}
    (reachable : (serverMachine host).Reachable Anything server)
    (step : (serverMachine host).Step server action next)
    (seen : SeenAll toNumber server.store runId follow message run) :
    SeenAll toNumber next.store runId follow message run := by
  refine ⟨seen.ended, read_before_step reachable step seen.read, seen.epoch, ?_⟩
  obtain ⟨current, found, -, ended⟩ := seen.read
  have currentEnded : current.status.isTerminal = true := by
    rw [(ended seen.ended).1]
    exact seen.ended
  rw [server_step_ended_log reachable step found currentEnded]
  exact seen.following

theorem serve_view_inv (inv : ViewInv host toNumber runId view)
    (step : (serverMachine host).Step view.server action next) :
    ViewInv host toNumber runId { view with server := next } := by
  have epochKept := server_step_epoch inv.reachable step runId
  refine ⟨reachable_step inv.reachable trivial step, ?_, ?_, ?_⟩
  · obtain ⟨seen, before, following⟩ := inv.following
    exact ⟨seen, before.trans (server_step_run_log inv.reachable step runId), following⟩
  · apply inv.epoch.trans
    rw [Store.runEpoch, Store.runEpoch]
    cases found : view.server.store.run? runId with
    | none => exact Nat.zero_le _
    | some run =>
      obtain ⟨after, afterFound, grown, -⟩ := epochKept run found
      rw [afterFound]
      exact grown
  · have phase := inv.phase
    unfold PhaseInv at phase ⊢
    cases shape : view.phase with
    | idle => trivial
    | polling run =>
      rw [shape] at phase
      exact read_before_step inv.reachable step phase
    | left run =>
      rw [shape] at phase
      exact seen_all_step inv.reachable step phase
    | finished run =>
      rw [shape] at phase
      exact seen_all_step inv.reachable step phase

theorem answered_view_inv (limit : pageLimit ≤ 1000) (inv : ViewInv host toNumber runId view)
    (polling : view.phase = .polling run) :
    ViewInv host toNumber runId (view.answered toNumber runId pageLimit run) := by
  have read : ReadBefore view.server.store runId run := by
    have phase := inv.phase
    rw [PhaseInv, polling] at phase
    exact phase
  obtain ⟨seen, ⟨rest, split⟩, following⟩ := inv.following
  have leaseInv := server_lease_inv inv.reachable
  have logInv := server_log_inv inv.reachable
  have page := list_events_page leaseInv logInv (server_ordered_logs inv.reachable) split.symm
    following.cursor pageLimit
  obtain ⟨current, found, epoch, ended⟩ := read
  have rows (row : EventRow Hash) (mem : row ∈ rest) :
      1 ≤ row.leaseEpoch ∧ row.leaseEpoch ≤ current.leaseEpoch := by
    have logged : row ∈ view.server.store.runLog runId := by
      rw [← split]
      exact mem_append_right _ mem
    obtain ⟨stored, sameRun⟩ := mem_run_log.mp logged
    obtain ⟨owner, ownerFound, bounds⟩ := stored_epoch leaseInv logInv stored
    rw [sameRun] at ownerFound
    cases found.symm.trans ownerFound
    exact bounds
  have runEpoch : view.server.store.runEpoch runId = current.leaseEpoch := by
    rw [Store.runEpoch, found]
    rfl
  have pageRows (row : EventRow Hash) (mem : row ∈ listEvents view.server.store runId
      view.follow.afterEpoch view.follow.afterSequence pageLimit) :
      1 ≤ row.leaseEpoch ∧ row.leaseEpoch ≤ current.leaseEpoch := by
    rw [page] at mem
    exact rows row (mem_of_mem_take mem)
  have polled := poll_following run following fun row mem => (pageRows row mem).1
  have epochs := poll_epoch toNumber (runEpoch ▸ inv.epoch) epoch
    fun row mem => (pageRows row mem).2
  refine ⟨inv.reachable, ⟨_, ?_, polled⟩, runEpoch ▸ epochs.2, ?_⟩
  · rw [page]
    change _ <+: view.server.store.runLog runId
    rw [← split]
    exact prefix_append_right_inj seen |>.mpr (List.take_prefix _ _)
  · by_cases leaving : (run.status.isTerminal && decide ((listEvents view.server.store runId
        view.follow.afterEpoch view.follow.afterSequence pageLimit).length < pageLimit)) = true
    · rw [PhaseInv, LiveView.answered, if_pos leaving]
      rw [Bool.and_eq_true, decide_eq_true_eq] at leaving
      obtain ⟨terminal, short⟩ := leaving
      have sameEpoch := (ended terminal).2
      refine ⟨terminal, ⟨current, found, epoch, ended⟩, ?_, ?_⟩
      · apply le_antisymm _ epochs.1
        rw [← sameEpoch]
        exact epochs.2
      · rw [page] at short
        have shorter : (rest.take (max 1 (min 1000 pageLimit))).length <
            max 1 (min 1000 pageLimit) := by omega
        have whole := OrderedLog.short_page shorter
        rw [page, whole, split] at polled
        rw [page, whole]
        exact polled
    · rw [PhaseInv, LiveView.answered, if_neg leaving]
      trivial

theorem closing_transcript (follow : Follow) (run : Run) (messageId : Option String)
    (message : ChatMessage) :
    ((follow.closing run messageId).foldl foldResumedRunEvent message).transcript =
      message.transcript := by
  unfold Follow.closing
  split <;> rfl

theorem close_view_inv {messageId : Option String} (inv : ViewInv host toNumber runId view)
    (left : view.phase = .left run) :
    ViewInv host toNumber runId (view.closed run messageId) := by
  have same {seen : List (EventRow Hash)}
      (following : Following toNumber seen view.follow view.message) :
      Following toNumber seen view.follow (view.closed run messageId).message := by
    refine ⟨following.cursor, following.positive, following.newest, ?_⟩
    rw [← following.shown]
    exact closing_transcript view.follow run messageId view.message
  obtain ⟨seen, before, following⟩ := inv.following
  refine ⟨inv.reachable, ⟨seen, before, same following⟩, inv.epoch, ?_⟩
  have phase := inv.phase
  rw [PhaseInv, left] at phase
  exact ⟨phase.ended, phase.read, phase.epoch, same phase.following⟩

theorem view_inv (limit : pageLimit ≤ 1000)
    (reachable : (LiveView.machine host toNumber runId pageLimit).Reachable Anything view) :
    ViewInv host toNumber runId view := by
  apply reachable_invariant (ViewInv host toNumber runId) ?_ ?_ reachable
  · rintro ⟨server, phase, follow, message⟩ ⟨fresh, rfl, rfl, id, runStatus, rfl⟩
    have nothingSeen : Following toNumber ([] : List (EventRow Hash)) Follow.start
        (LiveView.blankMessage id runStatus) :=
      ⟨⟨rfl, rfl⟩, forall_mem_nil _, forall_mem_nil _, rfl⟩
    exact ⟨⟨server, fresh, .refl server⟩, ⟨[], List.nil_prefix, nothingSeen⟩, Nat.zero_le _, trivial⟩
  · intro view action next inv _ step
    cases step with
    | serve action server step => exact serve_view_inv inv step
    | readRun run idle found =>
      exact ⟨inv.reachable, inv.following, inv.epoch, run, found, le_rfl, fun _ => ⟨rfl, rfl⟩⟩
    | readEvents run polling => exact answered_view_inv limit inv polling
    | close run messageId left => exact close_view_inv inv left

def LiveView.ended? (view : LiveView Hash) : Option Run :=
  match view.phase with
  | .left run | .finished run => some run
  | _ => none

theorem left_view_transcript (limit : pageLimit ≤ 1000) {read run : Run}
    (reachable : (LiveView.machine host toNumber runId pageLimit).Reachable Anything view)
    (left : view.ended? = some read) (found : view.server.store.run? runId = some run) :
    view.message.transcript =
      liveTranscript toNumber (view.server.store.epochLog runId run.leaseEpoch) := by
  have inv := view_inv limit reachable
  have seen : SeenAll toNumber view.server.store runId view.follow view.message read := by
    have phase := inv.phase
    unfold PhaseInv at phase
    unfold LiveView.ended? at left
    cases shape : view.phase <;> rw [shape] at left phase <;> cases left <;> exact phase
  obtain ⟨current, currentFound, -, same⟩ := seen.read
  cases found.symm.trans currentFound
  rw [seen.following.shown, seen.epoch, ← (same seen.ended).2, run_log_epoch]

end AgentMate
