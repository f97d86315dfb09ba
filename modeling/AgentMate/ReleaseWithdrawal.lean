import AgentMate.CatalogPull

/-!
# Withdrawal of a release that is not live

`withdraw_release` disables the catalog item that the release names, whatever the state of the
release. The item is shared by all releases of the skill.
-/

namespace AgentMate.ReleaseWithdrawal

open SkillCatalog SkillReleases CatalogPull Table List Option

structure ReleaseTables extends ReleaseStore where
  item_ids : UniqueKey CatalogItem.id toReleaseStore.catalog.items
  release_ids : UniqueKey Release.id toReleaseStore.releases

def disable (row : CatalogItem) : CatalogItem := { row with enabled := false }

/-- The writes of `withdraw_release`. -/
def withdrawnStore (store : ReleaseStore) (releaseId : String) (release : Release)
    (account : SkillReleases.Account) : ReleaseStore :=
  let disabled := match release.catalogItemId.filter (· ≠ "") with
    | some itemId => store.updateItem itemId disable
    | none => store
  disabled.setState releaseId Release.withdrawnNow .withdrawn account

def withdrawRelease (store : ReleaseStore) (releaseId : String) (account : SkillReleases.Account) :
    Except CatalogError ReleaseStore := do
  requireAdmin account
  let release ← store.found releaseId
  refuseIf release.state.isClosed 409 "skill release is not active"
  return withdrawnStore store releaseId release account

/-- `_downlink_catalog_items()` -/
def listedItems (catalog : Catalog) : List CatalogItem :=
  ((catalog.items.filter fun row => row.enabled) ++ catalog.items.filter fun row =>
    !row.enabled && row.category ∈ recommendationCategories).insertionSort
      fun left right => left.category < right.category ∨
        (left.category = right.category ∧ left.sort ≤ right.sort)

def SameProjection (host : ReleaseHost) (before after : ReleaseStore) : Prop :=
  ∀ accountId now, after.projectSkillReleases host accountId now (listedItems after.catalog) =
        before.projectSkillReleases host accountId now (listedItems before.catalog) ∧
      after.projectSkillReleases host accountId now (downlinkItems after.catalog) =
        before.projectSkillReleases host accountId now (downlinkItems before.catalog)

def Unlisted (store : ReleaseStore) (release : Release) : Prop :=
  ∀ itemId ∈ release.catalogItemId, itemId ≠ "" →
    ∀ row ∈ store.catalog.items, row.id = itemId → row.enabled = false

variable {host : ReleaseHost} {store after : ReleaseStore} {accountId releaseId : String} {now : Time}

variable {row : CatalogItem}

theorem project_row_item {shown : ProjectedItem}
    (projected : store.projectRow host accountId now row = some shown) :
    shown.item.id = row.id ∧ shown.item.enabled = row.enabled := by
  rw [ReleaseStore.projectRow] at projected
  split_ifs at projected with plain
  · cases projected
    exact ⟨rfl, rfl⟩
  · obtain ⟨selected, -, rfl⟩ := map_eq_some_iff.mp projected
    exact ⟨rfl, rfl⟩

theorem project_row_disabled (disabled : row.enabled = false) :
    store.projectRow host accountId now row = some ⟨row, none⟩ := by
  rw [ReleaseStore.projectRow, if_pos (.inr (.inr (.inr disabled)))]

theorem omitted_skill (omitted : store.projectRow host accountId now row = none) :
    row.category = "APP_SKILLS" := by
  by_contra other
  rw [ReleaseStore.projectRow, if_pos (.inl other)] at omitted
  cases omitted

theorem mem_downlink {catalog : Catalog} : row ∈ downlinkItems catalog ↔ row ∈ catalog.items ∧
      (row.enabled = true ∨ row.category ∈ "APP_SKILLS" :: recommendationCategories) := by
  rw [downlinkItems, mem_insertionSort, mem_append, mem_filter, mem_filter]
  cases row.enabled <;> simp

theorem mem_projected {shown : ProjectedItem} {items : List CatalogItem} :
    shown ∈ store.projectSkillReleases host accountId now items ↔
      ∃ row ∈ items, store.projectRow host accountId now row = some shown :=
  mem_filterMap

theorem find_map_same {Row : Type*} (chosen : Row → Bool) (assign : Row → Row) (rows : List Row)
    (same : ∀ row ∈ rows, assign row = row ∨ chosen row = false ∧ chosen (assign row) = false) :
    (rows.map assign).find? chosen = rows.find? chosen := by
  induction rows with
  | nil => rfl
  | cons row rest ih =>
    have later := ih fun other listed => same other (mem_cons_of_mem _ listed)
    rw [map_cons, find?_cons, find?_cons, later]
    obtain kept | ⟨before, after⟩ := same row mem_cons_self
    · rw [kept]
    · rw [before, after]

def withdrawRow (releaseId : String) (row : Release) : Release :=
  if row.id = releaseId then row.withdrawnNow else row

theorem select_withdrawn {rows : List Release} (bucket : Nat) (now : Time)
    (quiet : ∀ row ∈ rows, row.id = releaseId → row.state.isLive = false ∧ row.state ≠ .superseded) :
    selectRelease (rows.map (withdrawRow releaseId)) bucket now = selectRelease rows bucket now := by
  have same (chosen : Release → Bool)
      (idle : ∀ row : Release, row.state.isLive = false → row.state ≠ .superseded →
        chosen row = false) : (rows.map (withdrawRow releaseId)).find? chosen = rows.find? chosen := by
    refine find_map_same chosen _ rows fun row listed => ?_
    rw [withdrawRow]
    by_cases own : row.id = releaseId
    · rw [if_pos own]
      exact .inr ⟨idle row (quiet row listed own).1 (quiet row listed own).2, idle _ rfl nofun⟩
    · exact .inl (if_neg own)
  rw [selectRelease, selectRelease, same _ fun row live _ => by simp [live],
    same _ fun row _ other => by simp [other]]
  cases rows.find? fun row => row.state.isLive && row.effectiveAt ≤ now with
  | none => rfl
  | some active => simp only [same (fun row => row.state = .superseded && row.version < active.version)
      fun row _ other => by simp [other]]

theorem project_withdrawn (catalog : after.catalog = store.catalog)
    (releases : after.releases = store.releases.map (withdrawRow releaseId))
    (quiet : ∀ row ∈ store.releases, row.id = releaseId →
      row.state.isLive = false ∧ row.state ≠ .superseded) :
    after.projectRow host accountId now = store.projectRow host accountId now := by
  have listed (slug : String) :
      after.slugReleases slug = (store.slugReleases slug).map (withdrawRow releaseId) := by
    rw [ReleaseStore.slugReleases, ReleaseStore.slugReleases]
    split_ifs
    · rfl
    · have column (row : Release) : (withdrawRow releaseId row).slug = row.slug ∧
          (withdrawRow releaseId row).version = row.version := by
        rw [withdrawRow]
        split_ifs <;> exact ⟨rfl, rfl⟩
      rw [releases, List.filter_map,
        map_insertionSort (r := fun left right : Release => right.version ≤ left.version)
          (s := fun left right : Release => right.version ≤ left.version)]
      · simp only [Function.comp_def, (column _).1]
      · simp [(column _).2]
  funext row
  have members : ∀ other ∈ store.slugReleases (row.data.strField host.toPyText "slug"),
      other ∈ store.releases := by
    intro other mem
    rw [ReleaseStore.slugReleases] at mem
    split_ifs at mem
    · cases mem
    · exact mem_of_mem_filter ((mem_insertionSort _).mp mem)
  have written : after.releaseRow host = store.releaseRow host := by
    funext original selected
    simp only [ReleaseStore.releaseRow, catalog]
  simp only [ReleaseStore.projectRow, listed, isEmpty_map, written]
  rw [select_withdrawn _ _ fun other mem => quiet other (members other mem)]

theorem withdraw_result {release : Release} {account : SkillReleases.Account}
    (found : store.release? releaseId = some release)
    (accepted : withdrawRelease store releaseId account = .ok after) :
    release.state.isClosed = false ∧
    after.releases = store.releases.map (withdrawRow releaseId) ∧
    after.catalog = ⟨updateWhere
      (fun row => release.catalogItemId = some row.id ∧ row.id ≠ "") disable store.catalog.items,
      store.catalog.tools⟩ := by
  rw [withdrawRelease, requireAdmin, ReleaseStore.found, found] at accepted
  cases admin : account.isPlatformAdmin <;> rw [admin] at accepted
  · cases accepted
  change (refuseIf release.state.isClosed 409 _ >>= fun _ =>
    pure (withdrawnStore store releaseId release account)) = Except.ok after at accepted
  cases closed : release.state.isClosed <;> rw [closed] at accepted
  · cases accepted
    refine ⟨rfl, ?_⟩
    have written (base : ReleaseStore) (same : base.releases = store.releases) :
        (base.setState releaseId Release.withdrawnNow .withdrawn account).releases =
          store.releases.map (withdrawRow releaseId) ∧
        (base.setState releaseId Release.withdrawnNow .withdrawn account).catalog = base.catalog := by
      have present : (base.release? releaseId).isNone = false := by
        rw [ReleaseStore.release?, same, ← ReleaseStore.release?, found]
        rfl
      rw [ReleaseStore.setState, present, ← same]
      exact ⟨rfl, rfl⟩
    unfold withdrawnStore
    cases named : release.catalogItemId.filter (· ≠ "") with
    | none =>
      refine ⟨(written store rfl).1, (written store rfl).2.trans ?_⟩
      rw [update_where_eq_self]
      rintro row - ⟨own, filled⟩
      exact absurd (by simpa using filter_eq_none_iff.mp named _ own) filled
    | some itemId =>
      obtain ⟨own, filled⟩ := filter_eq_some_iff.mp named
      obtain ⟨rows, items⟩ := written (store.updateItem itemId disable) rfl
      refine ⟨rows, items.trans (congrArg (Catalog.mk · _) ?_)⟩
      refine map_congr_left fun row _ => if_congr ?_ rfl rfl
      rw [own]
      refine ⟨fun same => ⟨congrArg some same.symm, ?_⟩, fun both => (Option.some.inj both.1).symm⟩
      exact (same : row.id = itemId) ▸ of_decide_eq_true filled
  · cases accepted

theorem idle_withdrawal_iff (host : ReleaseHost) (store : ReleaseTables) {release : Release}
    {account : SkillReleases.Account} (found : store.release? releaseId = some release)
    (idle : release.state.isLive = false)
    (accepted : withdrawRelease store.toReleaseStore releaseId account = .ok after) :
    SameProjection host store.toReleaseStore after ↔ Unlisted store.toReleaseStore release := by
  obtain ⟨active, releases, catalog⟩ := withdraw_result found accepted
  constructor
  · intro same itemId named filled row listed own
    by_contra enabled
    rw [Bool.not_eq_false] at enabled
    have disabled : disable row ∈ after.catalog.items := by
      rw [catalog]
      exact mem_update_of_chosen listed ⟨own ▸ named, own ▸ filled⟩
    have gone : ∀ other ∈ after.catalog.items, other.id = itemId → other.enabled = false := by
      intro other mem same
      rw [catalog] at mem
      obtain ⟨old, -, rfl⟩ := mem_update_where.mp mem
      split_ifs at same ⊢ with own
      · rfl
      · exact absurd ⟨same ▸ named, same ▸ filled⟩ own
    have equal := (same "" 0).2
    cases sent : store.projectRow host "" 0 row with
    | some shown =>
      obtain ⟨id, on⟩ := project_row_item sent
      have before := mem_projected.mpr ⟨row, mem_downlink.mpr ⟨listed, .inl enabled⟩, sent⟩
      rw [← equal] at before
      obtain ⟨other, mem, projected⟩ := mem_projected.mp before
      obtain ⟨otherId, off⟩ := project_row_item projected
      have hidden := gone other (mem_downlink.mp mem).1 (by rw [← otherId, id, own])
      rw [on, enabled, hidden] at off
      cases off
    | none =>
      have skill := omitted_skill sent
      have off : after.projectRow host "" 0 (disable row) = some ⟨disable row, none⟩ :=
        project_row_disabled rfl
      have shown := mem_projected.mpr ⟨disable row, mem_downlink.mpr ⟨disabled, .inr (by
        simp [disable, skill])⟩, off⟩
      rw [equal] at shown
      obtain ⟨other, mem, projected⟩ := mem_projected.mp shown
      obtain ⟨otherId, off⟩ := project_row_item projected
      obtain rfl := unique_key_eq store.item_ids (mem_downlink.mp mem).1 listed otherId.symm
      rw [enabled] at off
      cases off
  · intro unlisted
    have kept : after.catalog = store.catalog := by
      rw [catalog, update_where_eq_self]
      rintro row listed ⟨named, filled⟩
      rw [disable, ← unlisted row.id named filled row listed rfl]
    have quiet : ∀ row ∈ store.releases, row.id = releaseId →
        row.state.isLive = false ∧ row.state ≠ .superseded := by
      intro row listed own
      obtain rfl := unique_key_eq store.release_ids listed (lookup_mem found)
        (own.trans (lookup_key found).symm)
      exact ⟨idle, fun closed => by rw [closed] at active; cases active⟩
    intro accountId now
    rw [ReleaseStore.projectSkillReleases, ReleaseStore.projectSkillReleases,
      ReleaseStore.projectSkillReleases, ReleaseStore.projectSkillReleases, kept,
      project_withdrawn kept releases quiet]
    exact ⟨rfl, rfl⟩

def skillItem : CatalogItem := ⟨"i", "APP_SKILLS", "", .obj [("slug", .str "pdf")], 0, 1, true⟩

def pdfRelease (id : String) (version : Nat) (state : ReleaseState) : Release :=
  ⟨id, some "i", "pdf", version, state, .obj [("slug", .str "pdf")], 0, "", "", "0.0.0", "stable", 100,
    0, "a", "b", "passed", none, true⟩

theorem skill_item_unique : UniqueKey CatalogItem.id [skillItem] :=
  nodup_singleton _

theorem pdf_releases_unique :
    UniqueKey Release.id [pdfRelease "r1" 1 .published, pdfRelease "r2" 2 .draft] :=
  (by decide : ["r1", "r2"].Nodup)

def publishedSkill : ReleaseTables :=
  ⟨⟨[pdfRelease "r1" 1 .published, pdfRelease "r2" 2 .draft], ⟨[skillItem], []⟩, []⟩,
    skill_item_unique, pdf_releases_unique⟩

def draftWithdrawn : ReleaseStore :=
  withdrawnStore publishedSkill.toReleaseStore "r2" (pdfRelease "r2" 2 .draft) ⟨"a", true⟩

theorem draft_withdrawal :
    withdrawRelease publishedSkill.toReleaseStore "r2" ⟨"a", true⟩ = .ok draftWithdrawn := rfl

/-- A draft of the same slug that names no catalog item. -/
def looseDraft : Release := { pdfRelease "r2" 2 .draft with catalogItemId := none }

def looseSkill : ReleaseTables :=
  ⟨⟨[pdfRelease "r1" 1 .published, looseDraft], ⟨[skillItem], []⟩, []⟩, skill_item_unique,
    pdf_releases_unique⟩

def looseWithdrawn : ReleaseStore :=
  withdrawnStore looseSkill.toReleaseStore "r2" looseDraft ⟨"a", true⟩

theorem draft_withdrawal_iff :
    (SameProjection digestHost publishedSkill.toReleaseStore draftWithdrawn ↔
      Unlisted publishedSkill.toReleaseStore (pdfRelease "r2" 2 .draft)) ∧
    SameProjection digestHost looseSkill.toReleaseStore looseWithdrawn := by
  constructor
  · exact idle_withdrawal_iff digestHost publishedSkill rfl rfl draft_withdrawal
  · have accepted : withdrawRelease looseSkill.toReleaseStore "r2" ⟨"a", true⟩ =
        .ok looseWithdrawn := rfl
    have unlisted : Unlisted looseSkill.toReleaseStore looseDraft := by
      intro itemId named
      cases named
    exact (idle_withdrawal_iff digestHost looseSkill rfl rfl accepted).mpr unlisted

theorem draft_withdrawal_hides_skill :
    withdrawRelease publishedSkill.toReleaseStore "r2" ⟨"a", true⟩ = .ok draftWithdrawn ∧
      ¬ SameProjection digestHost publishedSkill.toReleaseStore draftWithdrawn := by
  refine ⟨rfl, fun same => ?_⟩
  have enabled := congrArg (List.map fun shown => shown.item.enabled) (same "" 0).2
  exact absurd enabled (by decide +kernel)

end AgentMate.ReleaseWithdrawal
