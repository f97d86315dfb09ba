import AgentMate.PlainText
import AgentMate.RunStore
import Mathlib.Data.List.Dedup

/-!
# The model of a Run and its policies

Before a Run `policy_decision` holds the requested model against the allowlists and the
hard budgets of the account and of the organisation. It looks for another model only when
the provider of an allowed one was found unhealthy a short while ago.
-/

namespace AgentMate.ModelGovernance

open PlainText List

inductive Period where
  | daily
  | monthly
  deriving DecidableEq

def Period.text : Period → String
  | .daily => "daily"
  | .monthly => "monthly"

/-- The budgets of one period; 0 stands for none. -/
structure Budget where
  softTokens : Nat
  hardTokens : Nat
  softCost : ℚ
  hardCost : ℚ

/-- A policy after `normalize_policy`. -/
structure ModelPolicy where
  allowlist : List String
  fallbackChain : List String
  currency : String
  budget : Period → Budget
  providerHealthTtlSeconds : Nat

structure OrgEntry where
  orgId : String
  policy : ModelPolicy
  revision : Int

structure ModelUsage where
  tokens : Int
  cost : ℚ

/-- A row of `model_provider_health`. -/
structure ProviderHealth where
  status : String
  checkedAt : Time
  endpointHash : String

structure Provider where
  id : String
  baseUrl : String
  models : List String

structure ProviderModel where
  modelId : String
  hidden : Bool

structure CustomModel where
  name : String
  hasKey : Bool
  apiBase : String

/-- What the tables answer for one account. `usage` counts from the start of the period
that the decision falls into. -/
structure ModelAccount where
  defaultModel : String
  policy : ModelPolicy
  baseUrl : String → Option String
  hasKey : String → Bool
  overrides : String → List ProviderModel
  customModels : List CustomModel
  health : String → Option ProviderHealth
  usage : Period → String → ModelUsage

/-- `PROVIDERS_BY_ID` and `hashlib.sha256`. -/
structure ProviderHost where
  providers : List Provider
  sha256 : String → String

inductive SelectionReason where
  | requested
  | accountDefault
  | resolutionDeferred
  | providerUnhealthyFallback
  deriving DecidableEq

structure PolicyDecision where
  requestedModelRef : String
  selectedModelRef : String
  fallbackFrom : Option String
  selectionReason : SelectionReason
  organization : Option (String × Int)
  warnings : List String
  allowed : Bool
  error : String
  hardRemainingTokens : Option Int

/-- The provider and the model of a reference such as `@provider:model`. -/
def splitRef (modelRef : String) : Option (String × String) :=
  match modelRef.toList with
  | '@' :: rest =>
    if ':' ∈ rest then
      some (String.ofList (rest.takeWhile (· ≠ ':')),
        String.ofList ((rest.dropWhile (· ≠ ':')).drop 1))
    else none
  | _ => none

def providerIdForRef (modelRef : String) : String := ((splitRef modelRef).map Prod.fst).getD ""

def ProviderHost.provider? (host : ProviderHost) (providerId : String) : Option Provider :=
  host.providers.find? fun provider => provider.id = providerId

def currentProviderEndpointHash (host : ProviderHost) (account : ModelAccount)
    (providerId : String) : String :=
  match host.provider? providerId with
  | none => ""
  | some provider =>
    let base := ((account.baseUrl providerId).filter (· ≠ "")).getD provider.baseUrl
    host.sha256 (String.ofList (((strip base).toList.reverse.dropWhile (· = '/')).reverse))

def modelIsRunnable (host : ProviderHost) (account : ModelAccount) (modelRef : String) : Bool :=
  match splitRef modelRef with
  | some (providerId, modelId) =>
    match host.provider? providerId with
    | none => false
    | some provider =>
      let overrides := account.overrides providerId
      decide (modelId ≠ "") && account.hasKey providerId && (decide (modelId ∈ provider.models) ||
          overrides.any fun row => decide (row.modelId = modelId) && !row.hidden) &&
        !overrides.any fun row => decide (row.modelId = modelId) && row.hidden
  | none =>
    (account.customModels.find? fun custom => custom.name = modelRef).any fun custom =>
      custom.hasKey && decide (custom.apiBase ≠ "")

abbrev Layers := List (String × ModelPolicy)

def policyLayers (account : ModelAccount) (organization : Option OrgEntry) : Layers :=
  ("user", account.policy) :: (organization.map fun entry => ("organization", entry.policy)).toList

def ModelPolicy.allows (policy : ModelPolicy) (modelRef : String) : Bool :=
  policy.allowlist.isEmpty || decide (modelRef ∈ policy.allowlist)

structure BudgetTally where
  warnings : List String
  remaining : List Int

structure BudgetDenial where
  warnings : List String
  error : String

def checkBudget (account : ModelAccount) (tally : BudgetTally)
    (item : (String × ModelPolicy) × Period) : Except BudgetDenial BudgetTally :=
  let ((source, policy), period) := item
  let usage := account.usage period policy.currency
  let budget := policy.budget period
  let place := source ++ " " ++ period.text ++ " "
  let warnings := tally.warnings ++
    (if budget.softTokens ≠ 0 ∧ (budget.softTokens : Int) ≤ usage.tokens then
      [place ++ "token 软预算已达到"] else []) ++
    (if budget.softCost ≠ 0 ∧ budget.softCost ≤ usage.cost then
      [place ++ policy.currency ++ " 软预算已达到"] else [])
  if budget.hardTokens ≠ 0 ∧ (budget.hardTokens : Int) - usage.tokens ≤ 0 then
    .error ⟨warnings, place ++ "token 硬预算已用尽"⟩
  else if budget.hardCost ≠ 0 ∧ budget.hardCost ≤ usage.cost then
    .error ⟨warnings, place ++ policy.currency ++ " 硬预算已用尽"⟩
  else .ok ⟨warnings, tally.remaining ++
    if budget.hardTokens ≠ 0 then [(budget.hardTokens : Int) - usage.tokens] else []⟩

def budgetItems (layers : Layers) : List ((String × ModelPolicy) × Period) :=
  layers.flatMap fun layer => [(layer, .daily), (layer, .monthly)]

def checkBudgets (account : ModelAccount) (layers : Layers) : Except BudgetDenial BudgetTally :=
  (budgetItems layers).foldlM (checkBudget account) ⟨[], []⟩

def healthTtl (layers : Layers) : Nat :=
  ((layers.map fun layer => layer.2.providerHealthTtlSeconds).min?).getD 0

def recentlyUnhealthy (host : ProviderHost) (account : ModelAccount) (layers : Layers) (now : Time)
    (modelRef : String) : Bool :=
  let providerId := providerIdForRef modelRef
  decide (providerId ≠ "") && (account.health providerId).any fun health =>
    decide (health.status = "unhealthy") &&
      decide (health.endpointHash = currentProviderEndpointHash host account providerId) &&
        decide (now - health.checkedAt ≤ healthTtl layers)

def candidates (layers : Layers) : List String :=
  (layers.flatMap fun layer => layer.2.fallbackChain).eraseDups

def isFallback (host : ProviderHost) (account : ModelAccount) (layers : Layers) (now : Time)
    (requested candidate : String) : Bool :=
  decide (candidate ≠ requested) && modelIsRunnable host account candidate &&
    (layers.all fun layer => layer.2.allows candidate) &&
      !recentlyUnhealthy host account layers now candidate

def requestedModel (account : ModelAccount) (selection : Option String) : String :=
  if strip (selection.getD "") = "" then account.defaultModel else strip (selection.getD "")

def policyDecision (host : ProviderHost) (account : ModelAccount) (organization : Option OrgEntry)
    (selection : Option String) (now : Time) : PolicyDecision :=
  let requested := requestedModel account selection
  let layers := policyLayers account organization
  let audit : PolicyDecision :=
    { requestedModelRef := requested
      selectedModelRef := requested
      fallbackFrom := none
      selectionReason := if selection.getD "" = "" then .accountDefault else .requested
      organization := organization.map fun entry => (entry.orgId, entry.revision)
      warnings := []
      allowed := true
      error := ""
      hardRemainingTokens := none }
  if requested = "" then { audit with selectionReason := .resolutionDeferred }
  else match layers.find? fun layer => !layer.2.allows requested with
  | some (source, _) =>
    { audit with allowed := false, error := "模型 " ++ requested ++ " 不在" ++ source ++ "策略允许列表中" }
  | none =>
    match checkBudgets account layers with
    | .error denial =>
      { audit with allowed := false, warnings := denial.warnings, error := denial.error }
    | .ok tally =>
      let counted := { audit with
        warnings := tally.warnings, hardRemainingTokens := some (tally.remaining.min?.getD 0) }
      if recentlyUnhealthy host account layers now requested then
        match (candidates layers).find? (isFallback host account layers now requested) with
        | some candidate =>
          { counted with
            selectedModelRef := candidate, fallbackFrom := some requested
            selectionReason := .providerUnhealthyFallback }
        | none =>
          { counted with
            allowed := false
            error := "Provider " ++ providerIdForRef requested ++ " 最近健康检查失败且没有可用 fallback" }
      else counted

def Exhausted (account : ModelAccount) (layers : Layers) : Prop :=
  ∃ layer ∈ layers, ∃ period, ((layer.2.budget period).hardTokens ≠ 0 ∧
      ((layer.2.budget period).hardTokens : Int) ≤ (account.usage period layer.2.currency).tokens) ∨
    ((layer.2.budget period).hardCost ≠ 0 ∧
      (layer.2.budget period).hardCost ≤ (account.usage period layer.2.currency).cost)

def Allowed (layers : Layers) (modelRef : String) : Prop :=
  ∀ layer ∈ layers, layer.2.allowlist ≠ [] → modelRef ∈ layer.2.allowlist

structure Fallback (host : ProviderHost) (account : ModelAccount) (layers : Layers) (now : Time)
    (requested candidate : String) : Prop where
  other : candidate ≠ requested
  runnable : modelIsRunnable host account candidate = true
  allowed : Allowed layers candidate
  healthy : recentlyUnhealthy host account layers now candidate = false

def FirstFallback (host : ProviderHost) (account : ModelAccount) (layers : Layers) (now : Time)
    (requested candidate : String) : Prop :=
  Fallback host account layers now requested candidate ∧ ∃ before after,
    candidates layers = before ++ candidate :: after ∧
      ∀ earlier ∈ before, ¬Fallback host account layers now requested earlier

variable {host : ProviderHost} {account : ModelAccount} {layers : Layers} {now : Time}
  {requested candidate : String} {tally : BudgetTally} {item : (String × ModelPolicy) × Period}

theorem allowed_iff {modelRef : String} :
    Allowed layers modelRef ↔ ∀ layer ∈ layers, layer.2.allows modelRef = true := by
  apply forall₂_congr
  intro layer _
  simp [ModelPolicy.allows, Decidable.or_iff_not_imp_left]

theorem is_fallback_iff : isFallback host account layers now requested candidate = true ↔
    Fallback host account layers now requested candidate := by
  simp only [isFallback, Bool.and_eq_true, decide_eq_true_eq, Bool.not_eq_true', all_eq_true]
  rw [← allowed_iff]
  constructor
  · rintro ⟨⟨⟨other, runnable⟩, allowed⟩, healthy⟩
    exact ⟨other, runnable, allowed, healthy⟩
  · rintro ⟨other, runnable, allowed, healthy⟩
    exact ⟨⟨⟨other, runnable⟩, allowed⟩, healthy⟩

theorem find_fallback_some
    (found : (candidates layers).find? (isFallback host account layers now requested) =
      some candidate) : FirstFallback host account layers now requested candidate := by
  obtain ⟨passes, before, after, split, earlier⟩ := find?_eq_some_iff_append.mp found
  refine ⟨is_fallback_iff.mp passes, before, after, split, fun other listed fallback => ?_⟩
  have failed := earlier other listed
  rw [is_fallback_iff.mpr fallback] at failed
  cases failed

theorem check_budget_error : (∃ denial, checkBudget account tally item = .error denial) ↔
    ((item.1.2.budget item.2).hardTokens ≠ 0 ∧ ((item.1.2.budget item.2).hardTokens : Int) ≤
      (account.usage item.2 item.1.2.currency).tokens) ∨
    ((item.1.2.budget item.2).hardCost ≠ 0 ∧
      (item.1.2.budget item.2).hardCost ≤ (account.usage item.2 item.1.2.currency).cost) := by
  rw [← sub_nonpos (b := (account.usage item.2 item.1.2.currency).tokens)]
  simp only [checkBudget]
  split
  · next spent => exact ⟨fun _ => Or.inl spent, fun _ => ⟨_, rfl⟩⟩
  · next left =>
    split
    · next spent => exact ⟨fun _ => Or.inr spent, fun _ => ⟨_, rfl⟩⟩
    · next unspent =>
      constructor
      · rintro ⟨denial, raised⟩
        cases raised
      · rintro (spent | spent)
        · exact absurd spent left
        · exact absurd spent unspent

theorem fold_budgets_error (items : List ((String × ModelPolicy) × Period)) :
    (∃ denial, items.foldlM (checkBudget account) tally = .error denial) ↔
      ∃ item ∈ items, ∃ denial, checkBudget account ⟨[], []⟩ item = .error denial := by
  induction items generalizing tally with
  | nil => exact ⟨fun ⟨_, raised⟩ => (nomatch raised), by simp⟩
  | cons item rest ih =>
    rw [foldlM_cons, exists_mem_cons_iff, check_budget_error, ← check_budget_error]
    cases first : checkBudget account tally item with
    | error denial => exact ⟨fun _ => Or.inl ⟨denial, rfl⟩, fun _ => ⟨denial, rfl⟩⟩
    | ok next =>
      refine ih.trans ⟨Or.inr, fun found => found.resolve_left ?_⟩
      rintro ⟨denial, raised⟩
      cases raised

theorem check_budgets_error :
    (∃ denial, checkBudgets account layers = .error denial) ↔ Exhausted account layers := by
  rw [checkBudgets, fold_budgets_error]
  simp only [check_budget_error, budgetItems, mem_flatMap, mem_cons, not_mem_nil, or_false]
  constructor
  · rintro ⟨item, ⟨layer, mem, rfl | rfl⟩, spent⟩
    · exact ⟨layer, mem, .daily, spent⟩
    · exact ⟨layer, mem, .monthly, spent⟩
  · rintro ⟨layer, mem, period, spent⟩
    refine ⟨(layer, period), ⟨layer, mem, ?_⟩, spent⟩
    cases period with
    | daily => exact Or.inl rfl
    | monthly => exact Or.inr rfl

structure Decided (host : ProviderHost) (account : ModelAccount) (layers : Layers) (now : Time)
    (requested : String) (decision : PolicyDecision) : Prop where
  permitted : decision.allowed = true ↔ Allowed layers requested ∧ ¬Exhausted account layers ∧
    (recentlyUnhealthy host account layers now requested = true →
      ∃ candidate ∈ candidates layers, Fallback host account layers now requested candidate)
  listed : decision.allowed = true → Allowed layers decision.selectedModelRef
  kept : decision.allowed = true → recentlyUnhealthy host account layers now requested = false →
    decision.selectedModelRef = requested
  replaced : decision.allowed = true → recentlyUnhealthy host account layers now requested = true →
    FirstFallback host account layers now requested decision.selectedModelRef

theorem denied_decided {decision : PolicyDecision} (denied : decision.allowed = false)
    (reason : ¬(Allowed layers requested ∧ ¬Exhausted account layers ∧
      (recentlyUnhealthy host account layers now requested = true → ∃ candidate ∈ candidates layers,
          Fallback host account layers now requested candidate))) :
    Decided host account layers now requested decision := by
  have never : decision.allowed ≠ true := by simp [denied]
  exact ⟨⟨fun allowed => absurd allowed never, fun permitted => absurd permitted reason⟩,
    fun allowed => absurd allowed never, fun allowed => absurd allowed never,
    fun allowed => absurd allowed never⟩

/-- A request without a model is allowed, for the resolver to refuse. Any other is allowed
exactly when its model is on the allowlists, no hard budget is used up, and its provider
was not unhealthy lately or a candidate stands in; the first such candidate is selected. -/
theorem policy_decision_correct (host : ProviderHost) (account : ModelAccount)
    (organization : Option OrgEntry) (selection : Option String) (now : Time) :
    (requestedModel account selection = "" →
      (policyDecision host account organization selection now).allowed = true ∧
      (policyDecision host account organization selection now).selectedModelRef = "" ∧
      (policyDecision host account organization selection now).selectionReason =
        .resolutionDeferred) ∧
    (requestedModel account selection ≠ "" →
      Decided host account (policyLayers account organization) now
        (requestedModel account selection)
        (policyDecision host account organization selection now)) := by
  generalize layered : policyLayers account organization = layers
  generalize asked : requestedModel account selection = requested
  simp only [policyDecision, layered, asked]
  refine ⟨fun blank => by simp [blank], fun named => ?_⟩
  rw [if_neg named]
  cases refused : layers.find? fun layer => !layer.2.allows requested with
  | some layer =>
    apply denied_decided rfl
    rintro ⟨listed, -⟩
    have unlisted := find?_some refused
    simp [allowed_iff.mp listed layer (mem_of_find?_eq_some refused)] at unlisted
  | none =>
    have listed : Allowed layers requested := by
      rw [allowed_iff]
      simpa using find?_eq_none.mp refused
    cases budgets : checkBudgets account layers with
    | error denial =>
      apply denied_decided rfl
      exact fun permitted => permitted.2.1 (check_budgets_error.mp ⟨denial, budgets⟩)
    | ok tally =>
      have unspent : ¬Exhausted account layers := by
        rw [← check_budgets_error, budgets]
        rintro ⟨denial, raised⟩
        cases raised
      cases unhealthy : recentlyUnhealthy host account layers now requested with
      | false => exact ⟨⟨fun _ => ⟨listed, unspent, by simp [unhealthy]⟩, fun _ => rfl⟩,
          fun _ => listed, fun _ _ => rfl, by simp [unhealthy]⟩
      | true =>
        dsimp only
        rw [if_pos rfl]
        cases found : (candidates layers).find? (isFallback host account layers now requested) with
        | some candidate =>
          have first := find_fallback_some found
          have stands : ∃ candidate ∈ candidates layers,
              Fallback host account layers now requested candidate :=
            ⟨candidate, mem_of_find?_eq_some found, first.1⟩
          exact ⟨⟨fun _ => ⟨listed, unspent, fun _ => stands⟩, fun _ => rfl⟩,
            fun _ => first.1.allowed, by simp [unhealthy], fun _ _ => first⟩
        | none =>
          apply denied_decided rfl
          rintro ⟨-, -, stands⟩
          obtain ⟨candidate, mem, fallback⟩ := stands unhealthy
          exact find?_eq_none.mp found candidate mem (is_fallback_iff.mpr fallback)

def plainAccount (policy : ModelPolicy) : ModelAccount where
  defaultModel := ""
  policy := policy
  baseUrl := fun _ => none
  hasKey := fun _ => true
  overrides := fun _ => []
  customModels := []
  health := fun _ => none
  usage := fun _ _ => ⟨1000, 0⟩

def samplePolicy (allowlist fallbackChain : List String) (hardTokens : Nat) : ModelPolicy where
  allowlist := allowlist
  fallbackChain := fallbackChain
  currency := "USD"
  budget := fun _ => ⟨0, hardTokens, 0, 0⟩
  providerHealthTtlSeconds := 900

def sampleProviders : ProviderHost := ⟨[⟨"p", "https://p", ["small", "large"]⟩], id⟩

def listedAccount : ModelAccount := plainAccount (samplePolicy ["@p:small"] ["@p:small"] 0)

def spentAccount : ModelAccount := plainAccount (samplePolicy [] [] 1000)

theorem unlisted_refused_and_blank_allowed :
    (FirstFallback sampleProviders listedAccount (policyLayers listedAccount none) 0
        "@p:large" "@p:small" ∧
      ¬Exhausted listedAccount (policyLayers listedAccount none) ∧
      (policyDecision sampleProviders listedAccount none (some "@p:large") 0).allowed = false) ∧
    Exhausted spentAccount (policyLayers spentAccount none) ∧
      (policyDecision sampleProviders spentAccount none none 0).allowed = true := by
  refine ⟨⟨find_fallback_some (by decide +kernel), ?_, by decide +kernel⟩, ?_, by decide +kernel⟩
  · rw [← check_budgets_error]
    rintro ⟨denial, raised⟩
    cases raised
  · exact check_budgets_error.mp ⟨_, rfl⟩

end AgentMate.ModelGovernance
