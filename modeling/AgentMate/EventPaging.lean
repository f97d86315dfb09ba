import AgentMate.RunLog

/-! # Reading the events of a Run page by page -/

namespace AgentMate

open TransitionSystem OrderedLog List

variable {Hash : Type}

/-- The Server and a reader of one Run; `reads` counts its calls. -/
structure PagedRead (Hash : Type) where
  server : Server Hash
  received : List (EventRow Hash)
  afterEpoch : Nat
  afterSequence : Nat
  reads : Nat

namespace PagedRead

inductive Action (Hash : Type) where
  | serve (action : Server.Action Hash)
  | read (limit : Nat)

/-- A call of `list_events` that takes the cursor to the last event of the page. -/
def read (view : PagedRead Hash) (runId : String) (limit : Nat) : PagedRead Hash :=
  let page := listEvents view.server.store runId view.afterEpoch view.afterSequence limit
  { view with
    received := view.received ++ page
    afterEpoch := (page.getLast?.map EventRow.leaseEpoch).getD view.afterEpoch
    afterSequence := (page.getLast?.map EventRow.sequence).getD view.afterSequence
    reads := view.reads + 1 }

def log (view : PagedRead Hash) (runId : String) : List (EventRow Hash) :=
  view.server.store.runLog runId

variable [DecidableEq Hash] (host : Host Hash) (runId : String)

inductive Step : PagedRead Hash → Action Hash → PagedRead Hash → Prop
  | serve (view : PagedRead Hash) (action : Server.Action Hash) (next : Server Hash) :
      (serverMachine host).Step view.server action next →
      Step view (.serve action) { view with server := next }
  | read (view : PagedRead Hash) (limit : Nat) : Step view (.read limit) (view.read runId limit)

def machine : Machine (PagedRead Hash) (Action Hash) where
  Initial view := view.server.store.Fresh ∧ view.received = [] ∧ view.afterEpoch = 0 ∧
    view.afterSequence = 0 ∧ view.reads = 0
  Step := Step host runId

variable {host runId}

theorem serve_path {view : PagedRead Hash} {server : Server Hash}
    (path : (serverMachine host).Path Anything view.server server) :
    (machine host runId).Path Anything view { view with server := server } := by
  induction path with
  | refl => exact .refl view
  | step _ _ step ih => exact .step ih trivial (.serve _ _ _ step)

end PagedRead

theorem cursor_append {seen page : List (EventRow Hash)} {afterEpoch afterSequence : Nat}
    (cursor : CursorAt seen afterEpoch afterSequence) :
    CursorAt (seen ++ page) ((page.getLast?.map EventRow.leaseEpoch).getD afterEpoch)
      ((page.getLast?.map EventRow.sequence).getD afterSequence) := by
  unfold CursorAt at cursor ⊢
  rw [getLast?_append]
  cases page.getLast? with
  | none => exact cursor
  | some last => exact ⟨rfl, rfl⟩

section

variable [DecidableEq Hash] {host : Host Hash} {runId : String}

/-- The reader holds the beginning of the log, and its cursor the end of that. -/
structure ReadInv (host : Host Hash) (runId : String) (view : PagedRead Hash) : Prop where
  reached : (serverMachine host).Reachable Anything view.server
  received : view.received <+: view.log runId
  cursor : CursorAt view.received view.afterEpoch view.afterSequence

variable {view next : PagedRead Hash} {action : PagedRead.Action Hash}

theorem read_page (inv : ReadInv host runId view) {rest : List (EventRow Hash)}
    (split : view.log runId = view.received ++ rest) (limit : Nat) :
    (view.read runId limit).received = view.received ++ rest.take (max 1 (min 1000 limit)) := by
  rw [PagedRead.read, list_events_page (server_lease_inv inv.reached) (server_log_inv inv.reached)
    (server_ordered_logs inv.reached) split inv.cursor]

theorem read_step_inv (inv : ReadInv host runId view)
    (step : (PagedRead.machine host runId).Step view action next) :
    ReadInv host runId next := by
  cases step with
  | serve action next step =>
    have grown := server_step_run_log inv.reached step runId
    exact ⟨reachable_step inv.reached trivial step, inv.received.trans grown, inv.cursor⟩
  | read limit =>
    obtain ⟨rest, split⟩ := inv.received
    refine ⟨inv.reached, ?_, cursor_append inv.cursor⟩
    rw [read_page inv split.symm]
    change _ <+: view.log runId
    rw [← split]
    exact (prefix_append_right_inj _).mpr (List.take_prefix _ _)

theorem read_inv (reachable : (PagedRead.machine host runId).Reachable Anything view) :
    ReadInv host runId view := by
  apply reachable_invariant (ReadInv host runId) ?_ ?_ reachable
  · intro start initial
    obtain ⟨fresh, received, afterEpoch, afterSequence, -⟩ := initial
    refine ⟨⟨start.server, fresh, .refl _⟩, ?_, ?_⟩
    · rw [received]
      exact List.nil_prefix
    · rw [received]
      exact ⟨afterEpoch, afterSequence⟩
  · intro view action next inv _ step
    exact read_step_inv inv step

theorem read_step_progress {old : List (EventRow Hash)} {reads : Nat}
    (inv : ReadInv host runId view) (there : old <+: view.log runId)
    (progress : min old.length (view.reads - reads) ≤ view.received.length)
    (step : (PagedRead.machine host runId).Step view action next) :
    old <+: next.log runId ∧ min old.length (next.reads - reads) ≤ next.received.length := by
  cases step with
  | serve action next step =>
    exact ⟨there.trans (server_step_run_log inv.reached step runId), progress⟩
  | read limit =>
    refine ⟨there, ?_⟩
    obtain ⟨rest, split⟩ := inv.received
    have shorter := there.length_le
    rw [← split, length_append] at shorter
    rw [read_page inv split.symm, length_append, length_take]
    change min old.length (view.reads + 1 - reads) ≤ _
    omega

end

/-- The reader has received the log up to its cursor, each event once and in order; no
later event sorts at or before the cursor; and after as many calls as the log has
events it has received them all, whatever commits in between. -/
theorem paging_complete [DecidableEq Hash] (host : Host Hash) (runId : String)
    {view later : PagedRead Hash}
    (reachable : (PagedRead.machine host runId).Reachable Anything view)
    (path : (PagedRead.machine host runId).Path Anything view later) :
    view.received <+: view.log runId ∧
    Ordered EventRow.place view.received ∧
    view.received <+: later.received ∧
    (∀ row ∈ later.log runId, row ∉ view.received → ∀ last ∈ view.received.getLast?,
      last.place < row.place) ∧
    (view.reads + (view.log runId).length ≤ later.reads → view.log runId <+: later.received) := by
  have inv := read_inv reachable
  have laterReachable := reachable_path reachable path
  have laterInv := read_inv laterReachable
  have ordered := server_ordered_logs laterInv.reached runId
  have both : view.log runId <+: later.log runId ∧
      min (view.log runId).length (later.reads - view.reads) ≤ later.received.length ∧
      view.received <+: later.received := by
    apply path_stable (fun state => view.log runId <+: state.log runId ∧
      min (view.log runId).length (state.reads - view.reads) ≤ state.received.length ∧
      view.received <+: state.received) reachable ?_ ?_ path
    · intro state action next reached holds _ step
      obtain ⟨there, progress, kept⟩ := holds
      obtain ⟨still, further⟩ := read_step_progress (read_inv reached) there progress step
      refine ⟨still, further, kept.trans ?_⟩
      cases step with
      | serve => exact prefix_rfl
      | read limit => exact prefix_append _ _
    · exact ⟨prefix_rfl, by omega, prefix_rfl⟩
  obtain ⟨grown, progress, kept⟩ := both
  obtain ⟨rest, split⟩ := inv.received.trans grown
  have laterOrdered : Ordered EventRow.place (view.received ++ rest) := by
    rw [split]
    exact ordered
  refine ⟨inv.received, (ordered_append.mp laterOrdered).1, kept, ?_, ?_⟩
  · intro row mem unseen last isLast
    rw [← split] at mem
    have ahead := (mem_append.mp mem).resolve_left unseen
    exact (ordered_append.mp laterOrdered).2.2 last (mem_of_getLast? isLast) row ahead
  · intro enough
    exact prefix_of_prefix_length_le grown laterInv.received (by omega)

def pagedStart : List (Server.Action Envelope) :=
  [⟨1, .createRun (plainDraft "run-1")⟩, ⟨2, .leaseRun laptop 30 "lease-1"⟩,
    ⟨3, .submitEvents laptop "run-1" "lease-1" 1
      [plainEvent laptop "run-1" 1 1 "event-1" "run.started" (.obj []),
        plainEvent laptop "run-1" 1 2 "event-2" "ui.text" (.obj [])]⟩]

def pagedTakeover : List (Server.Action Envelope) :=
  [⟨40, .leaseRun desktop 30 "lease-2"⟩, ⟨41, .submitEvents desktop "run-1" "lease-2" 2
      [plainEvent desktop "run-1" 2 1 "event-3" "run.started" (.obj [])]⟩]

theorem paged_takeover_read :
    let start : PagedRead Envelope := ⟨emptyServer.serveAll plainHost pagedStart, [], 0, 0, 0⟩
    let first := start.read "run-1" 1
    let taken := { first with server := first.server.serveAll plainHost pagedTakeover }
    let last := ((taken.read "run-1" 1).read "run-1" 1).read "run-1" 1
    taken.log "run-1" <+: last.received ∧
      last.received.map EventRow.eventId = ["event-1", "event-2", "event-3"] := by
  intro start first taken last
  let blank : PagedRead Envelope := ⟨emptyServer, [], 0, 0, 0⟩
  have stored : (serverMachine plainHost).Path Anything blank.server start.server :=
    serve_all_path plainHost (by decide +kernel)
  have opened : (PagedRead.machine plainHost "run-1").Reachable Anything start :=
    ⟨blank, ⟨empty_server_initial, rfl, rfl, rfl, rfl⟩, PagedRead.serve_path stored⟩
  have served : (serverMachine plainHost).Path Anything first.server
      (first.server.serveAll plainHost pagedTakeover) :=
    serve_all_path plainHost (by decide +kernel)
  have readable : (PagedRead.machine plainHost "run-1").Reachable Anything taken :=
    reachable_path (reachable_step opened trivial (.read start 1)) (PagedRead.serve_path served)
  have path : (PagedRead.machine plainHost "run-1").Path Anything taken last :=
    .step (.step (.step (.refl taken) trivial (.read taken 1)) trivial (.read _ 1)) trivial
      (.read _ 1)
  have complete := paging_complete plainHost "run-1" readable path
  exact ⟨complete.2.2.2.2 (by decide +kernel), by decide +kernel⟩

end AgentMate
