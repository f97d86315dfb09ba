import AgentMate.JsonScan
import AgentMate.TextKeys
import AgentMate.TransitionSystem

/-!
# Authorization of the tool calls of a Run

`execution_policy` and its use by the Run loop. A builtin call may wait for an answer between the
decision and the check at the execution boundary; the session's grants may change in between.
-/

namespace AgentMate.ToolApprovals

open TransitionSystem TextKeys List

inductive ExecutionSource where
  | interactive | background | external
  deriving DecidableEq

def preauthorizablePermissions : List String :=
  ["workspace.write", "project.write", "knowledge.write", "skill.manage", "network.read",
    "network.write", "browser.state", "connector.call", "external.dynamic", "process.execute",
    "host.unrestricted", "network.unrestricted", "run.plan.write"]

def interactiveConfirmPermissions : List String :=
  ["process.execute", "host.unrestricted", "network.unrestricted"]

def startsWith (mark text : String) : Bool := mark.toList.isPrefixOf text.toList

def endsWith (mark text : String) : Bool := mark.toList.isSuffixOf text.toList

def restrictedForBackground (permission : String) (external : Bool) : Bool :=
  if permission ∈ preauthorizablePermissions then true
  else if endsWith ".write" permission || endsWith ".manage" permission then true
  else external && (startsWith "network." permission || startsWith "connector." permission ||
    startsWith "external." permission)

/-- A permission in `_session_grants` under its key. -/
structure SessionGrant where
  ownerId : String
  sessionId : String
  permission : String
  deriving DecidableEq

structure ToolCall where
  name : String
  args : Json
  permissions : List String
  distinct : args.distinctKeys = true

structure ExecutionAuthorization where
  ownerId : String
  sessionId : Option String
  source : ExecutionSource
  preauthorizedPermissions : List String
  approvedCalls : List String

inductive Decision where
  | allow | confirm | deny
  deriving DecidableEq

section

variable (sha256 : String → String) (floats : FloatText)

def callText (call : ToolCall) : String := call.name ++ "\n" ++ jsonDumps floats call.args

def callKey (call : ToolCall) : String := sha256 (callText floats call)

variable (authorization : ExecutionAuthorization) (grants : List SessionGrant)

/-- `session_granted_permissions`, of nothing without a session. -/
def sessionGrantedPermissions : List String :=
  match authorization.sessionId with
  | none => []
  | some sessionId =>
    if sessionId = "" then []
    else
      (grants.filter fun grant => decide (grant.ownerId = authorization.ownerId) &&
        decide (grant.sessionId = sessionId)).map SessionGrant.permission

def decision (call : ToolCall) : Decision :=
  let required := call.permissions.filter fun permission => permission ≠ ""
  let restricted (external : Bool) :=
    required.filter fun permission => restrictedForBackground permission external
  let preauthorized (permissions : List String) : Decision :=
    if permissions ⊆ authorization.preauthorizedPermissions then .allow else .deny
  match authorization.source with
  | .interactive =>
    let highRisk := required.filter fun permission => permission ∈ interactiveConfirmPermissions
    if highRisk = [] then .allow
    else if highRisk ⊆ sessionGrantedPermissions authorization grants then .allow
    else if callKey sha256 floats call ∈ authorization.approvedCalls then .allow
    else .confirm
  | .background => preauthorized (restricted false)
  | .external => preauthorized (restricted true)

/-- `approve_for_session`; `none` is `ToolAuthorizationDenied`. -/
def approveForSession (permissions : List String) : Option (List SessionGrant) :=
  match authorization.source, authorization.sessionId with
  | .interactive, some sessionId =>
    if sessionId = "" then none
    else
      some (grants ++ (permissions.filter fun permission =>
        permission ∈ interactiveConfirmPermissions).map fun permission =>
          ⟨authorization.ownerId, sessionId, permission⟩)
  | _, _ => none

end

inductive RunPhase where
  | idle
  | asking (call : ToolCall)
  | ready (call : ToolCall) (enforced : Bool) (granted : List String)

inductive PolicyEvent where
  | approvedOnce (call : ToolCall)
  | executed (call : ToolCall) (granted : List String)

/-- `history` is the log of the Run, the latest event first. -/
structure PolicyRun where
  approvedCalls : List String
  grants : List SessionGrant
  phase : RunPhase
  history : List PolicyEvent

inductive ApprovalAnswer where
  | once | session | other
  deriving DecidableEq

inductive PolicyAction where
  | call (call : ToolCall) (mcp : Bool)
  | answer (answer : ApprovalAnswer) (stopped : Bool)
  | execute (audited : Bool)
  | grantElsewhere (grant : SessionGrant)
  | clearSession (ownerId sessionId : String)

/-- The tools that run in the parent context, without the execution boundary. -/
def discoveryTools : List String := ["skills_list", "skill_view", "tool_search"]

section

variable (sha256 : String → String) (floats : FloatText) (base : ExecutionAuthorization)

def PolicyRun.authorization (run : PolicyRun) : ExecutionAuthorization :=
  { base with approvedCalls := run.approvedCalls }

def PolicyRun.granted (run : PolicyRun) : List String :=
  sessionGrantedPermissions base run.grants

/-- `enforce` lets the call through. -/
def PolicyRun.enforces (run : PolicyRun) (call : ToolCall) (audited : Bool) : Bool :=
  decide (decision sha256 floats (run.authorization base) run.grants call = .allow) &&
    (audited || !call.permissions.any fun permission =>
      decide (permission ∈ interactiveConfirmPermissions))

def PolicyRun.step (run : PolicyRun) : PolicyAction → Option PolicyRun
  | .call call mcp =>
    match run.phase with
    | .idle =>
      match decision sha256 floats (run.authorization base) run.grants call with
      | .allow =>
        let enforced := mcp || decide (call.name ∉ discoveryTools)
        some { run with phase := .ready call enforced (run.granted base) }
      | .confirm => some { run with phase := if mcp then .idle else .asking call }
      | .deny => some run
    | _ => none
  | .answer answer stopped =>
    match run.phase with
    | .asking call =>
      let enforced := decide (call.name ∉ discoveryTools)
      if stopped || decide (answer = .other) then some { run with phase := .idle }
      else if answer = .once then
        some
          { run with
            approvedCalls := callKey sha256 floats call :: run.approvedCalls
            phase := .ready call enforced (run.granted base)
            history := .approvedOnce call :: run.history }
      else
        match approveForSession base run.grants call.permissions with
        | none => some { run with phase := .idle }
        | some grants =>
          some
            { run with
              grants := grants
              phase := .ready call enforced (sessionGrantedPermissions base grants) }
    | _ => none
  | .execute audited =>
    match run.phase with
    | .ready call enforced granted =>
      if enforced then
        if run.enforces sha256 floats base call audited then
          some
            { run with
              phase := .idle, history := .executed call (run.granted base) :: run.history }
        else some { run with phase := .idle }
      else some { run with phase := .idle, history := .executed call granted :: run.history }
    | _ => none
  | .grantElsewhere grant => some { run with grants := grant :: run.grants }
  | .clearSession ownerId sessionId =>
    some
      { run with
        grants := run.grants.filter fun grant =>
          !(decide (grant.ownerId = ownerId) && decide (grant.sessionId = sessionId)) }

def policyMachine : Machine PolicyRun PolicyAction where
  Initial run := run.approvedCalls = [] ∧ run.phase matches .idle ∧ run.history = []
  Step run action next := run.step sha256 floats base action = some next

/-- One tool with the same arguments, whatever the order of their keys; or a collision. -/
def SameCall (left right : ToolCall) : Prop :=
  (left.name = right.name ∧ left.args.sortKeys = right.args.sortKeys) ∨
    (callText floats left ≠ callText floats right ∧
      sha256 (callText floats left) = sha256 (callText floats right))

/-- The call needs no confirmation, or the session grants it, or an earlier approval was for it;
without a user the restricted permissions are preauthorized. -/
def Admitted (call : ToolCall) (granted : List String) (past : List PolicyEvent) : Prop :=
  match base.source with
  | .interactive =>
    (∀ permission ∈ call.permissions, permission ∈ interactiveConfirmPermissions →
      permission ∈ granted) ∨
    ∃ approved, .approvedOnce approved ∈ past ∧ SameCall sha256 floats approved call
  | source =>
    ∀ permission ∈ call.permissions, permission ≠ "" →
      restrictedForBackground permission (decide (source = .external)) = true →
        permission ∈ base.preauthorizedPermissions

def Justified : List PolicyEvent → Prop
  | [] => True
  | .approvedOnce _ :: past => Justified past
  | .executed call granted :: past => Admitted sha256 floats base call granted past ∧ Justified past

end

section

variable {floats : FloatText}

theorem same_call_of_text (lawful : floats.Lawful) {left right : ToolCall}
    (same : callText floats left = callText floats right) :
    left.name = right.name ∧ left.args.sortKeys = right.args.sortKeys := by
  have unbroken : ∀ call : ToolCall, '\n' ∉ (jsonDumps floats call.args).toList := by
    intro call mem
    rw [jsonDumps, String.toList_ofList, ← render_with_nil] at mem
    exact absurd ((render_written lawful rfl _).printable '\n' mem) (by decide)
  have texts := congrArg String.toList same
  simp only [callText, String.toList_append, append_assoc] at texts
  obtain ⟨names, dumps⟩ := last_mark_unique (unbroken left) (unbroken right) texts
  exact ⟨String.toList_inj.mp names,
    dumps_sorted_eq lawful left.distinct right.distinct (String.toList_inj.mp dumps)⟩

theorem same_call_of_key (lawful : floats.Lawful) {sha256 : String → String} {left right : ToolCall}
    (same : callKey sha256 floats left = callKey sha256 floats right) :
    SameCall sha256 floats left right := by
  by_cases texts : callText floats left = callText floats right
  · exact .inl (same_call_of_text lawful texts)
  · exact .inr ⟨texts, same⟩

end

theorem restricted_mono {permission : String}
    (restricted : restrictedForBackground permission false = true) :
    restrictedForBackground permission true = true := by
  unfold restrictedForBackground at *
  split
  · rfl
  · next unlisted =>
    rw [if_neg unlisted] at restricted
    split
    · rfl
    · next unsuffixed => simp [unsuffixed] at restricted

theorem external_background (sha256 : String → String) (floats : FloatText)
    (authorization : ExecutionAuthorization) (grants : List SessionGrant) (call : ToolCall)
    (allowed : decision sha256 floats { authorization with source := .external } grants call =
      .allow) :
    decision sha256 floats { authorization with source := .background } grants call = .allow := by
  simp only [decision, ite_eq_left_iff, reduceCtorEq, imp_false, not_not] at allowed ⊢
  intro permission mem
  obtain ⟨required, restricted⟩ := mem_filter.mp mem
  exact allowed (mem_filter.mpr ⟨required, restricted_mono restricted⟩)

section

variable {sha256 : String → String} {floats : FloatText} {base : ExecutionAuthorization}

structure PolicyRun.Inv (sha256 : String → String) (floats : FloatText)
    (base : ExecutionAuthorization) (run : PolicyRun) : Prop where
  approved : ∀ key ∈ run.approvedCalls,
    ∃ call, .approvedOnce call ∈ run.history ∧ callKey sha256 floats call = key
  asking : ∀ call, run.phase = .asking call → base.source = .interactive
  ready : ∀ call enforced granted, run.phase = .ready call enforced granted →
    Admitted sha256 floats base call granted run.history
  justified : Justified sha256 floats base run.history

variable {run : PolicyRun} {call : ToolCall}

theorem decision_admitted (lawful : floats.Lawful) (inv : run.Inv sha256 floats base)
    (allowed : decision sha256 floats (run.authorization base) run.grants call = .allow) :
    Admitted sha256 floats base call (run.granted base) run.history := by
  have preauthorized : ∀ {external : Bool}, ((call.permissions.filter fun permission =>
      permission ≠ "").filter fun permission => restrictedForBackground permission external) ⊆
        base.preauthorizedPermissions →
      ∀ permission ∈ call.permissions, permission ≠ "" →
        restrictedForBackground permission external = true →
          permission ∈ base.preauthorizedPermissions := by
    intro external covered permission mem named restricted
    exact covered (mem_filter.mpr ⟨mem_filter.mpr ⟨mem, decide_eq_true named⟩, restricted⟩)
  cases source : base.source with
  | interactive =>
    simp only [decision, PolicyRun.authorization, source] at allowed
    simp only [Admitted, source]
    have risky : ∀ permission ∈ call.permissions, permission ∈ interactiveConfirmPermissions →
        permission ∈ (call.permissions.filter fun permission => permission ≠ "").filter
          fun permission => permission ∈ interactiveConfirmPermissions := by
      intro permission mem risk
      refine mem_filter.mpr ⟨mem_filter.mpr ⟨mem, decide_eq_true ?_⟩, decide_eq_true risk⟩
      rintro rfl
      exact absurd risk (by decide)
    split at allowed
    · next none =>
      refine .inl fun permission mem risk => ?_
      have found := risky permission mem risk
      rw [none] at found
      cases found
    · split at allowed
      · next granted =>
        exact .inl fun permission mem risk => granted (risky permission mem risk)
      · split at allowed
        · next known =>
          obtain ⟨approved, logged, same⟩ := inv.approved _ known
          exact .inr ⟨approved, logged, same_call_of_key lawful same⟩
        · cases allowed
  | background =>
    simp only [decision, PolicyRun.authorization, source, ite_eq_left_iff, reduceCtorEq,
      imp_false, not_not] at allowed
    simp only [Admitted, source]
    exact preauthorized allowed
  | external =>
    simp only [decision, PolicyRun.authorization, source, ite_eq_left_iff, reduceCtorEq,
      imp_false, not_not] at allowed
    simp only [Admitted, source]
    exact preauthorized allowed

theorem confirm_interactive
    (confirm : decision sha256 floats (run.authorization base) run.grants call = .confirm) :
    base.source = .interactive := by
  cases source : base.source with
  | interactive => rfl
  | background =>
    simp only [decision, PolicyRun.authorization, source] at confirm
    split at confirm <;> cases confirm
  | external =>
    simp only [decision, PolicyRun.authorization, source] at confirm
    split at confirm <;> cases confirm

theorem session_admitted {grants granted : List SessionGrant} {past : List PolicyEvent}
    (approved : approveForSession base grants call.permissions = some granted) :
    Admitted sha256 floats base call (sessionGrantedPermissions base granted) past := by
  unfold approveForSession at approved
  split at approved
  · next sessionId source session =>
    split at approved
    · cases approved
    · next named =>
      cases approved
      simp only [Admitted, source]
      refine .inl fun permission mem risk => ?_
      rw [sessionGrantedPermissions, session]
      simp only [if_neg named]
      refine mem_map.mpr ⟨⟨base.ownerId, sessionId, permission⟩, ?_, rfl⟩
      refine mem_filter.mpr ⟨mem_append_right _ ?_, by simp⟩
      exact mem_map.mpr ⟨permission, mem_filter.mpr ⟨mem, decide_eq_true risk⟩, rfl⟩
  · cases approved

theorem inv_waiting (inv : run.Inv sha256 floats base) (phase : RunPhase)
    (grants : List SessionGrant)
    (asking : ∀ call, phase = .asking call → base.source = .interactive)
    (ready : ∀ call enforced granted, phase = .ready call enforced granted →
      Admitted sha256 floats base call granted run.history) :
    { run with phase := phase, grants := grants }.Inv sha256 floats base :=
  ⟨inv.approved, asking, ready, inv.justified⟩

theorem inv_idle (inv : run.Inv sha256 floats base) :
    { run with phase := .idle }.Inv sha256 floats base :=
  inv_waiting inv .idle run.grants (by rintro _ ⟨⟩) (by rintro _ _ _ ⟨⟩)

theorem inv_executed {granted : List String} (inv : run.Inv sha256 floats base)
    (admitted : Admitted sha256 floats base call granted run.history) :
    { run with phase := .idle, history := .executed call granted :: run.history }.Inv
      sha256 floats base := by
  refine ⟨fun key mem => ?_, by rintro _ ⟨⟩, by rintro _ _ _ ⟨⟩, admitted, inv.justified⟩
  obtain ⟨approved, logged, same⟩ := inv.approved key mem
  exact ⟨approved, mem_cons_of_mem _ logged, same⟩

theorem step_inv (lawful : floats.Lawful) {run next : PolicyRun} {action : PolicyAction}
    (inv : run.Inv sha256 floats base)
    (step : run.step sha256 floats base action = some next) : next.Inv sha256 floats base := by
  cases action with
  | call call mcp =>
    simp only [PolicyRun.step] at step
    split at step
    · split at step
      · next allowed =>
        cases step
        refine inv_waiting inv _ run.grants (by rintro _ ⟨⟩) ?_
        rintro _ _ _ ⟨⟩
        exact decision_admitted lawful inv allowed
      · next confirm =>
        cases step
        cases mcp with
        | true => exact inv_idle inv
        | false =>
          exact inv_waiting inv _ run.grants (fun _ _ => confirm_interactive confirm)
            (by rintro _ _ _ ⟨⟩)
      · cases step
        exact inv
    · cases step
  | answer answer stopped =>
    simp only [PolicyRun.step] at step
    split at step
    · next call phase =>
      have source := inv.asking call phase
      split at step
      · cases step
        exact inv_idle inv
      · split at step
        · cases step
          refine ⟨fun key mem => ?_, by rintro _ ⟨⟩, ?_, inv.justified⟩
          · rcases mem_cons.mp mem with rfl | older
            · exact ⟨call, mem_cons_self, rfl⟩
            · obtain ⟨approved, logged, same⟩ := inv.approved key older
              exact ⟨approved, mem_cons_of_mem _ logged, same⟩
          · rintro _ _ _ ⟨⟩
            simp only [Admitted, source]
            exact .inr ⟨call, mem_cons_self, .inl ⟨rfl, rfl⟩⟩
        · split at step
          · cases step
            exact inv_idle inv
          · next grants approved =>
            cases step
            refine inv_waiting inv _ grants (by rintro _ ⟨⟩) ?_
            rintro _ _ _ ⟨⟩
            exact session_admitted approved
    · cases step
  | execute audited =>
    simp only [PolicyRun.step] at step
    split at step
    · next call enforced granted phase =>
      split at step
      · split at step
        · next enforces =>
          cases step
          rw [PolicyRun.enforces, Bool.and_eq_true, decide_eq_true_eq] at enforces
          exact inv_executed inv (decision_admitted lawful inv enforces.1)
        · cases step
          exact inv_idle inv
      · cases step
        exact inv_executed inv (inv.ready call enforced granted phase)
    · cases step
  | grantElsewhere grant =>
    cases step
    exact inv_waiting inv _ _ inv.asking inv.ready
  | clearSession ownerId sessionId =>
    cases step
    exact inv_waiting inv _ _ inv.asking inv.ready

theorem initial_inv (initial : (policyMachine sha256 floats base).Initial run) :
    run.Inv sha256 floats base := by
  obtain ⟨approved, phase, history⟩ := initial
  refine ⟨?_, ?_, ?_, ?_⟩
  · rw [approved]
    rintro _ ⟨⟩
  · intro call asking
    simp [asking] at phase
  · intro call enforced granted ready
    simp [ready] at phase
  · rw [history]
    trivial

/-- Every execution of a Run has its reason in an approval, a grant or a preauthorization; and an
external context admits no more than a background one. -/
theorem executions_justified (lawful : floats.Lawful) (sha256 : String → String)
    (base : ExecutionAuthorization) :
    (∀ run, (policyMachine sha256 floats base).Reachable Anything run →
      Justified sha256 floats base run.history) ∧
    ∀ grants call, decision sha256 floats { base with source := .external } grants call = .allow →
        decision sha256 floats { base with source := .background } grants call = .allow := by
  constructor
  · intro run reachable
    exact (reachable_invariant (PolicyRun.Inv sha256 floats base) (fun _ => initial_inv)
      (fun _ _ _ inv _ step => step_inv lawful inv step) reachable).justified
  · exact external_background sha256 floats base

end

def PolicyEvent.entry : PolicyEvent → String × Bool
  | .approvedOnce call => (callText ratioFloats call, false)
  | .executed call _ => (callText ratioFloats call, true)

def terminalCall : ToolCall :=
  ⟨"terminal", .obj [("command", .str "ls")], ["process.execute"], rfl⟩

def readCall : ToolCall := ⟨"read_file", .obj [("path", .str "a.md")], ["workspace.read"], rfl⟩

def userContext : ExecutionAuthorization := ⟨"u1", some "s1", .interactive, [], []⟩

def backgroundContext : ExecutionAuthorization := ⟨"u1", none, .background, [], []⟩

def freshRun : PolicyRun := ⟨[], [], .idle, []⟩

theorem run_reached (base : ExecutionAuthorization) (actions : List PolicyAction)
    (entries : List (String × Bool))
    (ran : (actions.foldlM (fun run action =>
      if true then run.step id ratioFloats base action else none) freshRun).map
        (fun run => run.history.map PolicyEvent.entry) = some entries) :
    ∃ run, (policyMachine id ratioFloats base).Reachable Anything run ∧
      run.history.map PolicyEvent.entry = entries := by
  obtain ⟨run, finish, history⟩ := Option.map_eq_some_iff.mp ran
  have path : (policyMachine id ratioFloats base).Path (fun _ _ => true = true) freshRun run :=
    path_of_run (fun _ _ => true) _ (fun _ _ _ step => step) finish
  exact ⟨run, ⟨freshRun, ⟨rfl, rfl, rfl⟩, path_weaken (fun _ _ _ => trivial) path⟩, history⟩

theorem call_used_twice : ∃ run, (policyMachine id ratioFloats userContext).Reachable Anything run ∧
      run.history.map PolicyEvent.entry = [(callText ratioFloats terminalCall, true),
        (callText ratioFloats terminalCall, true), (callText ratioFloats terminalCall, false)] :=
  run_reached userContext
    [.call terminalCall false, .answer .once false, .execute true, .call terminalCall false,
      .execute true] _ (by rfl)

theorem used_twice_justified :
    ∃ run, (policyMachine id ratioFloats userContext).Reachable Anything run ∧
      run.history.map PolicyEvent.entry = [(callText ratioFloats terminalCall, true),
        (callText ratioFloats terminalCall, true), (callText ratioFloats terminalCall, false)] ∧
      Justified id ratioFloats userContext run.history := by
  obtain ⟨run, reachable, history⟩ := call_used_twice
  have justified := (executions_justified ratio_floats_lawful id userContext).1 run reachable
  exact ⟨run, reachable, history, justified⟩

theorem approval_admits_two :
    (∃ run, (policyMachine id ratioFloats userContext).Reachable Anything run ∧
      run.history.map PolicyEvent.entry = [(callText ratioFloats terminalCall, true),
        (callText ratioFloats terminalCall, true), (callText ratioFloats terminalCall, false)]) ∧
    ∃ run, (policyMachine id ratioFloats backgroundContext).Reachable Anything run ∧
      run.history.map PolicyEvent.entry = [(callText ratioFloats readCall, true)] ∧
      readCall.permissions = ["workspace.read"] ∧
      backgroundContext.preauthorizedPermissions = [] := by
  obtain ⟨reader, reached, log⟩ := run_reached backgroundContext
    [.call readCall false, .execute true] [(callText ratioFloats readCall, true)] (by rfl)
  exact ⟨call_used_twice, reader, reached, log, rfl, rfl⟩

end AgentMate.ToolApprovals
