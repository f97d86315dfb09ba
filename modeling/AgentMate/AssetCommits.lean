import AgentMate.WorkingCopies

/-! # Committing a working copy -/

namespace AgentMate

open ChunkedBytes FileLinks KeptEffects TransitionSystem Rollback Table Option
open List hiding lookup lookup_eq_none_iff

def AssetServer.Holds (server : AssetServer) (assetId projectId runId : String) : Prop :=
  ∃ asset, server.asset? assetId = some asset ∧ asset.projectId = orNone projectId ∧
    asset.runId = orNone runId

structure AssetFollows (old row : DeliveredAsset) : Prop where
  id : row.id = old.id
  projectId : row.projectId = old.projectId
  runId : row.runId = old.runId
  clientRequestId : row.clientRequestId = old.clientRequestId
  requestHash : row.requestHash = old.requestHash
  deletedAt : row.deletedAt = old.deletedAt

theorem asset_follows_refl (asset : DeliveredAsset) : AssetFollows asset asset :=
  ⟨rfl, rfl, rfl, rfl, rfl, rfl⟩

structure ServerFollows (before after : AssetServer) : Prop where
  assets : ∃ assign : DeliveredAsset → DeliveredAsset,
    (∀ asset, AssetFollows asset (assign asset)) ∧ after.assets = before.assets.map assign
  uploads : UniqueKey (fun upload : DeliveryUpload => upload.id) before.uploads →
    UniqueKey (fun upload : DeliveryUpload => upload.id) after.uploads
  versions : before.versions.length ≤ after.versions.length

theorem same_assets (assets : List DeliveredAsset) : ∃ assign : DeliveredAsset → DeliveredAsset,
      (∀ asset, AssetFollows asset (assign asset)) ∧ assets = assets.map assign :=
  ⟨id, asset_follows_refl, (List.map_id assets).symm⟩

theorem server_follows_refl (server : AssetServer) : ServerFollows server server :=
  ⟨same_assets server.assets, id, le_refl _⟩

section

variable {before after : AssetServer}

theorem asset_follows (follows : ServerFollows before after) {assetId : String}
    {asset : DeliveredAsset} (stored : before.asset? assetId = some asset) :
    ∃ row, after.asset? assetId = some row ∧ AssetFollows asset row := by
  obtain ⟨assign, kept, written⟩ := follows.assets
  rw [AssetServer.asset?, filter_eq_some_iff, decide_eq_true_eq] at stored
  refine ⟨assign asset, ?_, kept asset⟩
  rw [AssetServer.asset?, filter_eq_some_iff, decide_eq_true_eq, (kept asset).deletedAt,
    written, lookup, find?_map]
  have named : (fun row : DeliveredAsset => decide (row.id = assetId)) ∘ assign =
      fun row => decide (row.id = assetId) := by
    funext row
    rw [Function.comp_apply, (kept row).id]
  rw [named]
  exact ⟨congrArg (Option.map assign) stored.1, stored.2⟩

theorem unique_assets_follows (follows : ServerFollows before after)
    (unique : UniqueKey DeliveredAsset.id before.assets) :
    UniqueKey DeliveredAsset.id after.assets := by
  obtain ⟨assign, kept, written⟩ := follows.assets
  have ids : DeliveredAsset.id ∘ assign = DeliveredAsset.id := by
    funext asset
    exact (kept asset).id
  rw [UniqueKey, written, List.map_map, ids]
  exact unique

theorem holds_follows (follows : ServerFollows before after) {assetId projectId runId : String}
    (holds : before.Holds assetId projectId runId) : after.Holds assetId projectId runId := by
  obtain ⟨asset, stored, project, run⟩ := holds
  obtain ⟨row, still, kept⟩ := asset_follows follows stored
  exact ⟨row, still, kept.projectId.trans project, kept.runId.trans run⟩

end

theorem payload_tidy (body : AssetCreate) : body.dump.Tidy := by
  have optional (text : Option String) : (optionalText text).Canonical := by
    cases text with
    | none => exact ⟨rfl, rfl⟩
    | some text => exact canonical_str text
  constructor
  · simp only [map_cons, map_nil]
    decide
  simp only [forall_mem_cons]
  refine ⟨canonical_str _, canonical_str _, canonical_str _, canonical_str _, optional _,
    optional _, optional _, canonical_str _, canonical_int _, canonical_str _, canonical_str _,
    ⟨rfl, rfl⟩, canonical_str _, ?_⟩
  intro field mem
  cases mem

section

variable {host : DeliveryHost} {accountId : String}

theorem payload_hash_scope {body other : AssetCreate}
    (same : body.payloadHash host = other.payloadHash host) :
    body.projectId = other.projectId ∧ body.runId = other.runId := by
  have texts := utf8_injective (host.sha256_injective same)
  have sorted := dumps_sorted_eq host.floats_lawful (tidy_distinct (payload_tidy body))
    (tidy_distinct (payload_tidy other)) texts
  have fields := tidy_get_eq (payload_tidy body) (payload_tidy other) sorted
  have optional {left right : Option String} (equal : optionalText left = optionalText right) :
      left = right := by
    cases left with
    | none =>
      cases right with
      | none => rfl
      | some text => cases equal
    | some text =>
      cases right with
      | none => cases equal
      | some text' =>
        cases equal
        rfl
  exact ⟨optional (Option.some.inj (fields "project_id")),
    optional (Option.some.inj (fields "run_id"))⟩

theorem or_project_named {project : String} (named : project ≠ "") (other : Option String) :
    orProject (some project) other = some project := if_neg named

variable {directory : AssetDirectory} {body : AssetCreate}

/-- What holds of the project of the body, and is kept when a session or a Run adds its own, holds
of the project that the asset is stored in. -/
theorem asset_project_fits
    {stored : Option String} (Fits : Option String → Prop) (given : Fits body.projectId)
    (sessions : ∀ sessionId ∈ body.sessionId, ∀ row, directory.session sessionId = .ok row →
      ∀ project, Fits project → Fits (orProject project row.projectId))
    (runs : ∀ runId ∈ body.runId, ∀ row, directory.run runId = .ok row →
      ∀ project, Fits project → Fits (orProject project row.projectId))
    (accepted : assetProject directory body = .ok stored) : Fits stored := by
  rw [assetProject] at accepted
  obtain ⟨session, scope, accepted⟩ := bind_ok accepted
  obtain ⟨projectId, run, accepted⟩ := bind_ok accepted
  have first : Fits session.1 := by
    rw [sessionScope] at scope
    split at scope
    · cases scope
      exact given
    · next sessionId named =>
      obtain ⟨row, found, scope⟩ := bind_ok scope
      obtain ⟨_, _, scope⟩ := bind_ok scope
      cases scope
      exact sessions sessionId named row found _ given
  have second : Fits projectId := by
    rw [runScope] at run
    split at run
    · cases run
      exact first
    · next runId named =>
      obtain ⟨row, found, run⟩ := bind_ok run
      obtain ⟨_, _, run⟩ := bind_ok run
      obtain ⟨_, _, run⟩ := bind_ok run
      cases run
      exact runs runId named row found _ first
  obtain ⟨_, _, accepted⟩ := bind_ok accepted
  cases accepted
  exact second

def isDeliveryKey (key : String) : Prop :=
  ∃ digest, requestKey ("working-copy:" ++ digest) = .ok key

/-- An asset under the key of a delivery was created with the scope its hash is of. -/
def Registered (host : DeliveryHost) (server : AssetServer) : Prop :=
  ∀ asset ∈ server.assets, asset.clientRequestId ≠ "" → isDeliveryKey asset.clientRequestId →
    ∃ body : AssetCreate, asset.requestHash = body.payloadHash host ∧
      asset.projectId = body.projectId ∧ asset.runId = body.runId ∧ asset.deletedAt = 0

theorem registered_follows {before after : AssetServer} (follows : ServerFollows before after)
    (registered : Registered host before) : Registered host after := by
  obtain ⟨assign, kept, written⟩ := follows.assets
  intro asset mem keyed delivery
  rw [written] at mem
  obtain ⟨old, oldMem, rfl⟩ := List.mem_map.mp mem
  have same := kept old
  rw [same.clientRequestId] at keyed delivery
  obtain ⟨body, hash, project, run, alive⟩ := registered old oldMem keyed delivery
  exact ⟨body, same.requestHash.trans hash, same.projectId.trans project, same.runId.trans run,
    same.deletedAt.trans alive⟩

theorem create_asset_ok {idempotencyKey assetId : String} {now : Time} {server after : AssetServer}
    {asset : DeliveredAsset}
    (done : createAsset host accountId directory body idempotencyKey assetId now server =
      .ok (after, asset)) :
    ∃ projectId key, assetProject directory body = .ok projectId ∧
      requestKey idempotencyKey = .ok key ∧
      ((after = server ∧ asset ∈ server.assets ∧ key ≠ "" ∧ asset.clientRequestId = key ∧
          asset.requestHash = body.payloadHash host) ∨
        (asset = newAsset host accountId body projectId assetId key now ∧
          lookup DeliveredAsset.id assetId server.assets = none ∧
          after = { server with assets := server.assets ++ [asset] })) := by
  rw [createAsset] at done
  obtain ⟨projectId, project, done⟩ := bind_ok done
  obtain ⟨key, keyed, done⟩ := bind_ok done
  refine ⟨projectId, key, project, keyed, ?_⟩
  rw [createAssetRecord] at done
  split at done
  · next other found =>
    left
    have nonempty : key ≠ "" := by
      intro empty
      rw [newAsset, if_pos empty] at found
      cases found
    rw [newAsset, if_neg nonempty] at found
    split at done
    · cases done
    · next same =>
      rw [not_ne_iff] at same
      cases done
      have matched := find?_some found
      rw [Bool.and_eq_true, decide_eq_true_eq, decide_eq_true_eq] at matched
      refine ⟨rfl, mem_of_find?_eq_some found, nonempty, matched.2, ?_⟩
      rw [same, newAsset, if_neg nonempty]
  · right
    split at done
    · cases done
    · next fresh =>
      rw [isSome_iff_exists, not_exists] at fresh
      cases done
      refine ⟨rfl, eq_none_iff_forall_ne_some.mpr fresh, rfl⟩

end

section

variable {host : DeliveryHost} {settings : DeliverySettings} {accountId : String}
  {server after : AssetServer}

theorem add_version_follows (asset : DeliveredAsset) (storageKey : String) (size : Nat)
    (sha256 versionId : String) (now : Time) :
    ServerFollows server (addVersion settings server asset storageKey size sha256 versionId now) := by
  constructor
  · refine ⟨_, ?_, rfl⟩
    intro row
    split
    · exact ⟨rfl, rfl, rfl, rfl, rfl, rfl⟩
    · exact asset_follows_refl row
  · exact id
  · rw [addVersion, length_append]
    exact Nat.le_add_right _ _

theorem add_version_length (asset : DeliveredAsset) (storageKey : String) (size : Nat)
    (sha256 versionId : String) (now : Time) :
    (addVersion settings server asset storageKey size sha256 versionId now).versions.length =
      server.versions.length + 1 := by
  rw [addVersion, length_append, length_singleton]

theorem insert_upload_ok {upload : DeliveryUpload} (done : insertUpload server upload = .ok after) :
    server.upload? upload.id = none ∧
      after = { server with uploads := server.uploads ++ [upload] } := by
  rw [insertUpload] at done
  split at done
  · cases done
  · next fresh =>
    rw [not_isSome_iff_eq_none] at fresh
    cases done
    exact ⟨fresh, rfl⟩

theorem insert_upload_follows {upload : DeliveryUpload}
    (done : insertUpload server upload = .ok after) : ServerFollows server after := by
  obtain ⟨fresh, rfl⟩ := insert_upload_ok done
  constructor
  · exact same_assets server.assets
  · intro unique
    exact unique_key_append unique (lookup_eq_none_iff.mp fresh)
  · exact le_refl _

theorem server_follows_trans {middle : AssetServer} (first : ServerFollows server middle)
    (second : ServerFollows middle after) : ServerFollows server after := by
  obtain ⟨assign, kept, written⟩ := first.assets
  obtain ⟨later, still, rewritten⟩ := second.assets
  constructor
  · refine ⟨later ∘ assign, ?_, ?_⟩
    · intro asset
      have one := kept asset
      have two := still (assign asset)
      exact ⟨two.id.trans one.id, two.projectId.trans one.projectId, two.runId.trans one.runId,
        two.clientRequestId.trans one.clientRequestId, two.requestHash.trans one.requestHash,
        two.deletedAt.trans one.deletedAt⟩
    · rw [rewritten, written, List.map_map]
  · exact fun unique => second.uploads (first.uploads unique)
  · exact first.versions.trans second.versions

/-- What `begin_upload` says of the upload that it answers with. -/
structure UploadBegun (server after : AssetServer) (started : StartedUpload) : Prop where
  committed : started.state = .committed → server.versions.length < after.versions.length
  uploading : started.state ≠ .committed →
    ∃ upload, after.upload? started.id = some upload ∧ upload.state = .uploading

theorem start_upload_ok {directory : AssetDirectory} {assetId sha256 : String} {size : Nat}
    {drawn : DrawnUpload} {now : Time} {started : StartedUpload}
    (unique : UniqueKey (fun upload : DeliveryUpload => upload.id) server.uploads)
    (done : startUpload settings accountId directory assetId size sha256 drawn now server =
      .ok (after, started)) :
    ServerFollows server after ∧ UploadBegun server after started := by
  rw [startUpload] at done
  obtain ⟨asset, _, done⟩ := bind_ok done
  obtain ⟨_, _, done⟩ := bind_ok done
  rw [openUpload] at done
  split at done
  · next active found =>
    cases done
    have mem := mem_of_mem_head? found
    rw [mem_insertionSort, mem_filter] at mem
    obtain ⟨stored, matched⟩ := mem
    simp only [Bool.and_eq_true, Upload.isActive, decide_eq_true_eq] at matched
    refine ⟨server_follows_refl server, ?_, ?_⟩
    · intro committed
      rw [matched.1.1.2.1] at committed
      cases committed
    · intro _
      exact ⟨active, lookup_of_mem unique stored, matched.1.1.2.1⟩
  · split at done
    · next duplicate _ =>
      obtain ⟨inserted, insert, done⟩ := bind_ok done
      cases done
      have follows := insert_upload_follows insert
      refine ⟨server_follows_trans (add_version_follows _ _ _ _ _ _) follows, ?_, ?_⟩
      · intro _
        have longer := follows.versions
        rw [add_version_length] at longer
        exact longer
      · intro other
        exact absurd rfl other
    · obtain ⟨inserted, insert, done⟩ := bind_ok done
      cases done
      refine ⟨insert_upload_follows insert, ?_, ?_⟩
      · intro committed
        cases committed
      · intro _
        obtain ⟨fresh, rfl⟩ := insert_upload_ok insert
        exact ⟨newUpload settings accountId asset size _ drawn.uploadId now,
          lookup_append_self fresh, rfl⟩

theorem update_uploads_follows {chosen : DeliveryUpload → Prop}
    [DecidablePred chosen] {assign : DeliveryUpload → DeliveryUpload} {parts : List DeliveryPart}
    (same : ∀ upload, (assign upload).id = upload.id) :
    ServerFollows server { server with
      parts := parts
      uploads := updateWhere chosen assign server.uploads } := by
  constructor
  · exact same_assets server.assets
  · intro unique
    exact unique_key_update same unique
  · exact le_refl _

theorem put_part_ok {uploadId declaredSha256 : String} {partNumber : Nat} {data : Bytes}
    {checked recorded : Time} {value : Unit}
    (done : putPart host settings accountId uploadId partNumber data declaredSha256 checked recorded
      server = .ok (after, value)) :
    ServerFollows server after ∧ ∀ id upload, server.upload? id = some upload →
      ∃ row, after.upload? id = some row ∧ row.state = upload.state := by
  rw [putPart] at done
  obtain ⟨_, _, done⟩ := bind_ok done
  obtain ⟨upload, _, done⟩ := bind_ok done
  obtain ⟨_, _, done⟩ := bind_ok done
  obtain ⟨_, _, done⟩ := bind_ok done
  cases done
  constructor
  · exact update_uploads_follows fun _ => rfl
  · intro id stored found
    have same (row : DeliveryUpload) : (renewedUpload settings recorded row).id = row.id := rfl
    refine ⟨_, (lookup_update_where same).trans (congrArg _ found), ?_⟩
    dsimp only
    split
    · rfl
    · rfl

theorem store_object_follows {storageKey : String} {content : Bytes}
    (done : storeObject server storageKey content = .ok after) :
    after.assets = server.assets ∧ after.uploads = server.uploads ∧
      after.versions = server.versions := by
  rw [storeObject] at done
  split at done
  · split at done
    · cases done
      exact ⟨rfl, rfl, rfl⟩
    · cases done
  · cases done
    exact ⟨rfl, rfl, rfl⟩

theorem complete_upload_ok {uploadId versionId answer : String} {now : Time}
    (done : completeUpload host settings accountId uploadId versionId now server =
      .ok (after, answer)) :
    ServerFollows server after ∧ ∀ upload, server.upload? uploadId = some upload →
      upload.state = .uploading → server.versions.length < after.versions.length := by
  rw [completeUpload] at done
  obtain ⟨upload, status, done⟩ := bind_ok done
  rw [uploadStatus] at status
  split at status
  · cases status
  · next stored found =>
    split at status
    · cases status
      split at done
      · next committed _ =>
        cases done
        refine ⟨server_follows_refl server, ?_⟩
        intro other same uploading
        rw [found] at same
        cases same
        rw [committed] at uploading
        cases uploading
      · obtain ⟨_, _, done⟩ := bind_ok done
        obtain ⟨_, _, done⟩ := bind_ok done
        obtain ⟨_, _, done⟩ := bind_ok done
        obtain ⟨object, placed, done⟩ := bind_ok done
        obtain ⟨finished, finish, done⟩ := bind_ok done
        cases done
        obtain ⟨assets, uploads, versions⟩ := store_object_follows placed
        have first : ServerFollows server object := by
          constructor
          · rw [assets]
            exact same_assets server.assets
          · rw [uploads]
            exact id
          · rw [versions]
        rw [finishUpload] at finish
        split at finish
        · cases finish
        · next asset _ =>
          cases finish
          have second : ServerFollows object (addVersion settings object asset
              (objectKey upload.expectedSha256) upload.expectedSize upload.expectedSha256
              versionId now) :=
            add_version_follows _ _ _ _ _ _
          refine ⟨server_follows_trans first (server_follows_trans second
            (update_uploads_follows fun _ => rfl)), ?_⟩
          intro other _ _
          dsimp only
          rw [add_version_length, versions]
          exact Nat.lt_succ_self _
    · cases status

end

/-- What an upsert of `row` does to the rows. -/
structure Upserted (copies after : List WorkingCopy) (row written : WorkingCopy) : Prop where
  fields : ∃ id createdAt, written = { row with id := id, createdAt := createdAt }
  stored : written ∈ after
  rows : ∀ copy ∈ after, copy = written ∨ (copy ∈ copies ∧ copy.key ≠ row.key)
  others : ∀ copy ∈ copies, copy.key ≠ row.key → copy ∈ after
  same : ∀ copy ∈ copies, copy.key = row.key → written.id = copy.id
  ids : UniqueKey WorkingCopy.id copies → UniqueKey WorkingCopy.id after

theorem upsert_row_ok {copies after : List WorkingCopy} {row written : WorkingCopy}
    (keys : UniqueKey WorkingCopy.key copies)
    (done : upsertRow copies row = .ok (written, after)) :
    Upserted copies after row written ∧ UniqueKey WorkingCopy.key after := by
  rw [upsertRow] at done
  split at done
  · next stored found =>
    cases done
    have one {copy : WorkingCopy} (mem : copy ∈ copies) (same : copy.key = row.key) :
        copy = stored :=
      unique_key_eq keys mem (lookup_mem found) (same.trans (lookup_key found).symm)
    have column {Value : Type} (field : WorkingCopy → Value)
        (kept : field { row with id := stored.id, createdAt := stored.createdAt } = field stored) :
        (updateWhere (fun copy => copy.key = row.key)
          (fun _ => { row with id := stored.id, createdAt := stored.createdAt })
            copies).map field = copies.map field := by
      rw [updateWhere, List.map_map]
      apply map_congr_left
      intro copy mem
      rw [Function.comp_apply]
      split
      · next same => rw [one mem same, kept]
      · rfl
    refine ⟨⟨⟨stored.id, stored.createdAt, rfl⟩, ?_, ?_, ?_, ?_, ?_⟩, ?_⟩
    · exact mem_update_where.mpr ⟨stored, lookup_mem found, if_pos (lookup_key found)⟩
    · intro copy mem
      obtain ⟨old, oldMem, rfl⟩ := mem_update_where.mp mem
      split
      · exact Or.inl rfl
      · next other => exact Or.inr ⟨oldMem, other⟩
    · intro copy mem other
      exact mem_update_of_not_chosen mem other
    · intro copy mem same
      rw [one mem same]
    · intro unique
      rw [UniqueKey, column WorkingCopy.id rfl]
      exact unique
    · rw [UniqueKey, column WorkingCopy.key (lookup_key found).symm]
      exact keys
  · next absent =>
    rw [lookup_eq_none_iff] at absent
    split at done
    · cases done
    · next fresh =>
      rw [not_isSome_iff_eq_none, lookup_eq_none_iff] at fresh
      cases done
      refine ⟨⟨⟨row.id, row.createdAt, rfl⟩, ?_, ?_, ?_, ?_, ?_⟩, ?_⟩
      · exact mem_append_right _ mem_cons_self
      · intro copy mem
        rcases mem_append.mp mem with old | new
        · exact Or.inr ⟨old, absent copy old⟩
        · exact Or.inl (mem_singleton.mp new)
      · intro copy mem _
        exact mem_append_left _ mem
      · intro copy mem same
        exact absurd same (absent copy mem)
      · intro unique
        exact unique_key_append unique fresh
      · exact unique_key_append keys absent

structure DeliveryTables (world : DeliveryWorld) : Prop where
  ids : UniqueKey WorkingCopy.id world.copies
  keys : UniqueKey WorkingCopy.key world.copies
  uploads : UniqueKey (fun upload : DeliveryUpload => upload.id) world.server.uploads
  assets : UniqueKey DeliveredAsset.id world.server.assets

def Backed (server : AssetServer) (copy : WorkingCopy) : Prop :=
  copy.assetId ≠ "" ∨ copy.state = .committed → server.Holds copy.assetId copy.projectId copy.runId

/-- Every row is backed, and those of `start` are still there for the same project. -/
structure Owned (host : DeliveryHost) (start : List WorkingCopy) (world : DeliveryWorld) :
    Prop where
  backed : ∀ copy ∈ world.copies, Backed world.server copy
  registered : Registered host world.server
  kept : ∀ old ∈ start, ∃ copy ∈ world.copies, copy.id = old.id ∧ copy.projectId = old.projectId

/-- What a commit at the key keeps on its way. The part about projects needs that it was careful
at the start. -/
structure During (host : DeliveryHost) (before : DeliveryWorld) (careful : Prop)
    (key : CopySource × String) (projectId : String) (world : DeliveryWorld) : Prop where
  tables : DeliveryTables world
  versions : before.server.versions.length ≤ world.server.versions.length
  owned : careful → Owned host before.copies world
  path : careful → ∀ copy ∈ world.copies, copy.key = key → copy.projectId = projectId

section

variable {host : DeliveryHost} {before world : DeliveryWorld} {careful : Prop}
  {key : CopySource × String} {projectId : String}

theorem during_server (during : During host before careful key projectId world)
    {server : AssetServer} (follows : ServerFollows world.server server) :
    During host before careful key projectId { world with server := server } := by
  constructor
  · exact ⟨during.tables.ids, during.tables.keys, follows.uploads during.tables.uploads,
      unique_assets_follows follows during.tables.assets⟩
  · exact during.versions.trans follows.versions
  · intro careful
    have owned := during.owned careful
    constructor
    · intro copy mem named
      exact holds_follows follows (owned.backed copy mem named)
    · exact registered_follows follows owned.registered
    · exact owned.kept
  · exact during.path

theorem during_upsert (during : During host before careful key projectId world)
    {row written : WorkingCopy} {copies : List WorkingCopy} (keyed : row.key = key)
    (project : row.projectId = projectId) (backed : careful → Backed world.server row)
    (done : upsertRow world.copies row = .ok (written, copies)) :
    During host before careful key projectId { world with copies := copies } := by
  obtain ⟨upserted, keys⟩ := upsert_row_ok during.tables.keys done
  obtain ⟨id, createdAt, fields⟩ := upserted.fields
  have ofProject : written.projectId = projectId := by
    rw [fields]
    exact project
  constructor
  · exact ⟨upserted.ids during.tables.ids, keys, during.tables.uploads, during.tables.assets⟩
  · exact during.versions
  · intro careful
    have owned := during.owned careful
    constructor
    · intro copy mem
      rcases upserted.rows copy mem with same | ⟨old, _⟩
      · rw [same, fields]
        exact backed careful
      · exact owned.backed copy old
    · exact owned.registered
    · intro old oldMem
      obtain ⟨copy, mem, same, still⟩ := owned.kept old oldMem
      by_cases own : copy.key = row.key
      · refine ⟨written, upserted.stored, (upserted.same copy mem own).trans same, ?_⟩
        rw [ofProject, ← still]
        exact (during.path careful copy mem (own.trans keyed)).symm
      · exact ⟨copy, upserted.others copy mem own, same, still⟩
  · intro careful copy mem own
    rcases upserted.rows copy mem with same | ⟨old, other⟩
    · rw [same]
      exact ofProject
    · exact absurd (own.trans keyed.symm) other

end

section

variable {host : DeliveryHost} {settings : DeliverySettings} {accountId : String}
  {body : AssetCommitBody} {call : CommitCall} {file : Commitment} {before : DeliveryWorld}
  {careful : Prop}

def Commitment.key (file : Commitment) : CopySource × String := (file.sourceKind, file.localKey)

variable {Inv Raised : DeliveryWorld → Prop} {world : DeliveryWorld} {server : AssetServer}
  {assetId : String}

theorem ends_upsert (Final : WorkingCopy → DeliveryWorld → Prop)
    {uploadId versionId : String} {state : CopyState} (during : ∀ world, Inv world →
      During host before careful file.key body.projectId world)
    (backed : ∀ world, Inv world → careful →
      Backed world.server (commitRow host body call file assetId uploadId versionId state))
    (final : ∀ world copies written, Inv world → Upserted world.copies copies
        (commitRow host body call file assetId uploadId versionId state) written →
      During host before careful file.key body.projectId { world with copies := copies } →
        Final written { world with copies := copies }) :
    Ends Inv (upsertWorkingCopy (commitRow host body call file assetId uploadId versionId state))
      Final (During host before careful file.key body.projectId) := by
  apply ends_transact
  · intro world written after inv done
    cases result : upsertRow world.copies
        (commitRow host body call file assetId uploadId versionId state) with
    | error error =>
      rw [result] at done
      cases done
    | ok rows =>
      rw [result] at done
      cases done
      have now := during world inv
      exact final world rows.2 rows.1 inv (upsert_row_ok now.tables.keys result).1
        (during_upsert now rfl rfl (backed world inv) result)
  · exact during

theorem ends_request {Value : Type} {fate : RequestFate}
    (Post : Value → DeliveryWorld → Prop) (Silent : DeliveryWorld → Prop)
    {handler : AssetServer → Except HttpError (AssetServer × Value)}
    (handled : ∀ world server value, Inv world → handler world.server = .ok (server, value) →
      Post value { world with server := server } ∧ Silent { world with server := server })
    (silent : ∀ world, Inv world → Silent world) (raised : ∀ world, Inv world → Raised world) :
    Ends Inv (request fate handler)
      (fun answer world => answer.elim (Silent world) fun value => Post value world) Raised := by
  have refusing {world after : DeliveryWorld} {answer : Option Value} {error : HttpError}
      (done : rejected world error = .ok (answer, after)) : answer = none ∧ after = world := by
    rw [rejected] at done
    split at done
    · cases done
    · cases done
      exact ⟨rfl, rfl⟩
  apply ends_transact
  · intro world answer after inv done
    unfold exchange at done
    split at done
    · cases done
      exact silent world inv
    · obtain ⟨rfl, rfl⟩ := refusing done
      exact silent after inv
    · split at done
      · next result ended =>
        cases done
        exact (handled world result.1 result.2 inv ended).2
      · cases done
        exact silent world inv
    · split at done
      · next result ended =>
        cases done
        exact (handled world result.1 result.2 inv ended).1
      · obtain ⟨rfl, rfl⟩ := refusing done
        exact silent after inv
  · exact raised

theorem ends_answered {Value : Type} {Post : Value → DeliveryWorld → Prop} {message : String}
    (answer : Option Value) :
    Ends (fun world => answer.elim (Raised world) fun value => Post value world)
      (answered message answer) Post Raised := by
  cases answer with
  | none => exact ends_throw fun _ holds => holds
  | some value => exact ends_pure fun _ holds => holds

def ScopeNamed (body : AssetCommitBody) (directory : AssetDirectory) : Prop :=
  body.projectId = "" → (∀ row, directory.session body.sessionId = .ok row → row.projectId = none) ∧
      ∀ row, directory.run body.runId = .ok row → row.projectId = none

theorem or_none_mem {text value : String} (mem : value ∈ orNone text) : value = text := by
  rw [orNone] at mem
  split at mem
  · cases mem
  · exact (mem_some.mp mem).symm

theorem asset_project_scope (named : ScopeNamed body call.directory) {stored : Option String}
    (accepted : assetProject call.directory (assetBody host body file) = .ok stored) :
    stored = orNone body.projectId := by
  by_cases absent : body.projectId = ""
  · obtain ⟨sessions, runs⟩ := named absent
    have none_given : orNone body.projectId = none := if_pos absent
    apply asset_project_fits (fun project => project = orNone body.projectId) rfl _ _ accepted
    · intro sessionId mem row found project fits
      rw [or_none_mem mem] at found
      rw [fits, none_given]
      exact sessions row found
    · intro runId mem row found project fits
      rw [or_none_mem mem] at found
      rw [fits, none_given]
      exact runs row found
  · have given : orNone body.projectId = some body.projectId := if_neg absent
    apply asset_project_fits (fun project => project = orNone body.projectId) rfl _ _ accepted
    · intro sessionId _ row _ project fits
      rw [fits, given]
      exact or_project_named absent row.projectId
    · intro runId _ row _ project fits
      rw [fits, given]
      exact or_project_named absent row.projectId

theorem during_create (named : careful → ScopeNamed body call.directory)
    (during : During host before careful file.key body.projectId world) {copyId : String}
    {asset : DeliveredAsset}
    (done : createAsset host accountId call.directory (assetBody host body file)
      (deliveryKey host body copyId (host.sha256 file.content)) call.assetId call.createdAt
        world.server = .ok (server, asset)) :
    During host before careful file.key body.projectId { world with server := server } ∧
      (careful → server.Holds asset.id body.projectId body.runId) := by
  obtain ⟨projectId, key, project, keyed, how⟩ := create_asset_ok done
  have delivery : isDeliveryKey key := ⟨_, keyed⟩
  rcases how with ⟨rfl, mem, nonempty, own, hash⟩ | ⟨made, fresh, rfl⟩
  · refine ⟨during, fun careful => ?_⟩
    obtain ⟨other, same, ofProject, ofRun, alive⟩ := (during.owned careful).registered asset mem
      (by rw [own]; exact nonempty) (by rw [own]; exact delivery)
    obtain ⟨projects, runs⟩ := payload_hash_scope (same.symm.trans hash)
    refine ⟨asset, ?_, ofProject.trans projects, ofRun.trans runs⟩
    rw [AssetServer.asset?, lookup_of_mem during.tables.assets mem, filter_eq_some_iff]
    exact ⟨rfl, decide_eq_true alive⟩
  · have id : asset.id = call.assetId := by rw [made]; rfl
    have absent : lookup DeliveredAsset.id asset.id world.server.assets = none := by
      rw [id]
      exact fresh
    have stays {assetId : String} {stored : DeliveredAsset}
        (found : world.server.asset? assetId = some stored) :
        AssetServer.asset? { world.server with assets := world.server.assets ++ [asset] } assetId =
          some stored := by
      rw [AssetServer.asset?, filter_eq_some_iff] at found ⊢
      refine ⟨?_, found.2⟩
      rw [lookup_append_singleton, found.1]
      intro same
      rw [← same, absent] at found
      cases found.1
    constructor
    · constructor
      · exact ⟨during.tables.ids, during.tables.keys, during.tables.uploads,
          unique_key_append during.tables.assets (lookup_eq_none_iff.mp absent)⟩
      · exact during.versions
      · intro careful
        have owned := during.owned careful
        constructor
        · intro copy mem names
          obtain ⟨stored, found, scope⟩ := owned.backed copy mem names
          exact ⟨stored, stays found, scope⟩
        · intro other mem nonempty marked
          rcases mem_append.mp mem with old | new
          · exact owned.registered other old nonempty marked
          · rw [mem_singleton.mp new, made] at nonempty ⊢
            refine ⟨assetBody host body file, if_neg nonempty, ?_, rfl, rfl⟩
            exact asset_project_scope (named careful) project
        · exact owned.kept
      · exact during.path
    · intro careful
      refine ⟨asset, ?_, ?_, ?_⟩
      · rw [AssetServer.asset?, lookup_append_self absent, made]
        rfl
      · rw [made]
        exact asset_project_scope (named careful) project
      · rw [made]
        rfl

structure Delivering (host : DeliveryHost) (before : DeliveryWorld) (careful : Prop)
    (file : Commitment) (body : AssetCommitBody) (assetId : String) (world : DeliveryWorld) :
    Prop where
  during : During host before careful file.key body.projectId world
  held : careful → world.server.Holds assetId body.projectId body.runId

theorem delivering_server (delivering : Delivering host before careful file body assetId world)
    (follows : ServerFollows world.server server) :
    Delivering host before careful file body assetId { world with server := server } :=
  ⟨during_server delivering.during follows,
    fun careful => holds_follows follows (delivering.held careful)⟩

theorem ends_delivery_asset (named : careful → ScopeNamed body call.directory)
    {copy : WorkingCopy} (sized : copy.sha256 = host.sha256 file.content) :
    Ends (fun world => During host before careful file.key body.projectId world ∧
        (careful → copy.assetId ≠ "" → world.server.Holds copy.assetId body.projectId body.runId))
      (deliveryAsset host accountId body call file copy)
      (Delivering host before careful file body)
      (During host before careful file.key body.projectId) := by
  rw [deliveryAsset, sized]
  split
  · apply ends_bind
    · apply ends_request (fun asset world =>
        Delivering host before careful file body asset.id world)
        (During host before careful file.key body.projectId)
      · intro world server asset inv done
        obtain ⟨during, held⟩ := during_create named inv.1 done
        exact ⟨⟨during, held⟩, during⟩
      · exact fun _ inv => inv.1
      · exact fun _ inv => inv.1
    · intro created
      apply ends_bind (ends_answered created)
      intro asset
      exact ends_pure fun _ delivering => delivering
  · next named =>
    apply ends_pure
    intro world inv
    exact ⟨inv.1, fun careful => inv.2 careful named⟩

def UploadKnown (before : DeliveryWorld) (started : StartedUpload) (world : DeliveryWorld) :
    Prop :=
  (started.state = .committed → before.server.versions.length < world.server.versions.length) ∧
    (started.state ≠ .committed →
      ∃ upload, world.server.upload? started.id = some upload ∧ upload.state = .uploading)

theorem ends_upload_file {started : StartedUpload} :
    Ends (fun world => Delivering host before careful file body assetId world ∧
        UploadKnown before started world)
      (uploadFile host settings accountId call started)
      (fun _ world => Delivering host before careful file body assetId world ∧
        before.server.versions.length < world.server.versions.length)
      (During host before careful file.key body.projectId) := by
  rw [uploadFile]
  split
  · next running =>
    have leaves (world : DeliveryWorld)
        (inv : Delivering host before careful file body assetId world ∧
          UploadKnown before started world) :
        During host before careful file.key body.projectId world := inv.1.during
    have listing : Ends (fun world => Delivering host before careful file body assetId world ∧
          UploadKnown before started world)
        (receivedParts accountId call started)
        (fun _ world => Delivering host before careful file body assetId world ∧
          UploadKnown before started world)
        (During host before careful file.key body.projectId) := by
      rw [receivedParts]
      split
      · apply ends_bind
        · apply ends_request (fun _ world =>
            Delivering host before careful file body assetId world ∧
              UploadKnown before started world)
            (During host before careful file.key body.projectId)
          · intro world server parts inv done
            obtain ⟨upload, _, done⟩ := bind_ok done
            cases done
            exact ⟨inv, inv.1.during⟩
          · exact leaves
          · exact leaves
        · exact fun status => ends_answered status
      · exact ends_pure fun _ inv => inv
    apply ends_bind listing
    intro received
    apply ends_bind
    · apply ends_for
      intro part _
      rw [sendPartOf]
      apply ends_bind
      · apply ends_request (fun _ world =>
          Delivering host before careful file body assetId world ∧ UploadKnown before started world)
          (During host before careful file.key body.projectId)
        · intro world server value inv done
          obtain ⟨follows, states⟩ := put_part_ok done
          have delivering := delivering_server inv.1 follows
          refine ⟨⟨delivering, ?_, ?_⟩, delivering.during⟩
          · exact fun committed => absurd committed running
          · intro _
            obtain ⟨upload, found, uploading⟩ := inv.2.2 running
            obtain ⟨row, still, same⟩ := states started.id upload found
            exact ⟨row, still, same.trans uploading⟩
        · exact leaves
        · exact leaves
      · exact fun sent => ends_answered sent
    · intro _
      apply ends_bind
      · apply ends_request (fun _ world =>
          Delivering host before careful file body assetId world ∧
            before.server.versions.length < world.server.versions.length)
          (During host before careful file.key body.projectId)
        · intro world server value inv done
          obtain ⟨follows, adds⟩ := complete_upload_ok done
          have delivering := delivering_server inv.1 follows
          obtain ⟨upload, found, uploading⟩ := inv.2.2 running
          refine ⟨⟨delivering, ?_⟩, delivering.during⟩
          exact inv.1.during.versions.trans_lt (adds upload found uploading)
        · exact leaves
        · exact leaves
      · exact fun completed => ends_answered completed
  · next finished =>
    rw [ne_eq, not_not] at finished
    apply ends_pure
    intro world inv
    exact ⟨inv.1, inv.2.1 finished⟩

structure Delivered (host : DeliveryHost) (before : DeliveryWorld) (careful : Prop)
    (file : Commitment) (body : AssetCommitBody) (answer : CommitAnswer) (after : DeliveryWorld) :
    Prop where
  during : During host before careful file.key body.projectId after
  stored : answer.workingCopy ∈ after.copies
  projectId : answer.workingCopy.projectId = body.projectId
  runId : answer.workingCopy.runId = body.runId
  held : careful → after.server.Holds answer.workingCopy.assetId body.projectId body.runId
  effect : answer.workingCopy.state = .localOnly ∨
    before.server.versions.length < after.server.versions.length

theorem delivered_upsert {copies : List WorkingCopy}
    {written : WorkingCopy} {uploadId versionId : String} {state : CopyState} {duplicate : Bool}
    (during : During host before careful file.key body.projectId { world with copies := copies })
    (upserted : Upserted world.copies copies
      (commitRow host body call file assetId uploadId versionId state) written)
    (held : careful → world.server.Holds assetId body.projectId body.runId)
    (effect : state = .localOnly ∨ before.server.versions.length < world.server.versions.length) :
    Delivered host before careful file body ⟨written, duplicate⟩
      { world with copies := copies } := by
  obtain ⟨id, createdAt, fields⟩ := upserted.fields
  constructor
  · exact during
  · exact upserted.stored
  · rw [fields]
    rfl
  · rw [fields]
    rfl
  · rw [fields]
    exact held
  · rw [fields]
    exact effect

theorem ends_deliver : Ends (Delivering host before careful file body assetId)
      (deliver host settings accountId body call file assetId)
      (Delivered host before careful file body)
      (During host before careful file.key body.projectId) := by
  rw [deliver]
  apply ends_bind
  · apply ends_request (fun started world =>
      Delivering host before careful file body assetId world ∧ UploadKnown before started world)
      (Delivering host before careful file body assetId)
    · intro world server started delivering done
      obtain ⟨follows, begun⟩ := start_upload_ok delivering.during.tables.uploads done
      have later := delivering_server delivering follows
      refine ⟨⟨later, ?_, begun.uploading⟩, later⟩
      intro committed
      exact delivering.during.versions.trans_lt (begun.committed committed)
    · exact fun _ delivering => delivering
    · exact fun _ delivering => delivering.during
  · intro begun
    cases begun with
    | none =>
      apply ends_bind
      · apply ends_upsert (fun _ => During host before careful file.key body.projectId)
          (fun _ delivering => delivering.during)
        · exact fun _ delivering careful _ => delivering.held careful
        · exact fun _ _ _ _ _ during => during
      · exact fun _ => ends_throw fun _ during => during
    | some started =>
      apply ends_bind
      · apply ends_upsert (fun _ world =>
            Delivering host before careful file body assetId world ∧
              UploadKnown before started world) (fun _ inv => inv.1.during)
        · exact fun _ inv careful _ => inv.1.held careful
        · exact fun _ _ _ inv _ during => ⟨⟨during, inv.1.held⟩, inv.2⟩
      · intro _
        apply ends_bind ends_upload_file
        intro versionId
        apply ends_bind
        · apply ends_upsert (fun copy world =>
              Delivered host before careful file body ⟨copy, started.deduplicated⟩ world)
            (fun _ inv => inv.1.during)
          · exact fun _ inv careful _ => inv.1.held careful
          · exact fun _ _ written inv upserted during => delivered_upsert during upserted
              (fun careful => inv.1.held careful) (Or.inr inv.2)
        · intro copy
          exact ends_pure fun _ delivered => delivered

theorem reusable_copy_some {prior : WorkingCopy}
    (found : reusableCopy? host body file before = some prior) :
    prior ∈ before.copies ∧ prior.key = file.key ∧ prior.runId = body.runId := by
  rw [reusableCopy?, filter_eq_some_iff, decide_eq_true_eq] at found
  obtain ⟨listed, run⟩ := found
  have mem := mem_of_find?_eq_some listed
  have matched := find?_some listed
  rw [listWorkingCopies, mem_insertionSort] at mem
  simp only [Bool.and_eq_true, decide_eq_true_eq] at matched
  exact ⟨mem, Prod.ext matched.1.1.1 matched.1.1.2, run⟩

theorem ends_commit (located : commitment call.files body = .ok file)
    (start : During host before careful file.key body.projectId before)
    (named : careful → ScopeNamed body call.directory) :
    Ends (fun world => world = before) (commitAsset host settings accountId body call)
      (Delivered host before careful file body)
      (During host before careful file.key body.projectId) := by
  rw [commitAsset, located]
  have backed (prior : WorkingCopy) (found : reusableCopy? host body file before = some prior)
      (careful : careful) (names : prior.assetId ≠ "" ∨ prior.state = .committed) :
      before.server.Holds prior.assetId body.projectId body.runId := by
    obtain ⟨mem, same, run⟩ := reusable_copy_some found
    have project := start.path careful prior mem same
    rw [← project, ← run]
    exact (start.owned careful).backed prior mem names
  have reading : Ends (fun world => world = before) (get : DeliveryCall DeliveryWorld)
      (fun world state => world = before ∧ state = before)
      (During host before careful file.key body.projectId) :=
    ends_get fun _ same => ⟨same, same⟩
  apply ends_bind reading
  intro world
  apply ends_assume
  intro same
  rw [same]
  dsimp only
  have during (state : DeliveryWorld) (same : state = before) :
      During host before careful file.key body.projectId state := by
    rw [same]
    exact start
  by_cases delivered : isDelivered (reusableCopy? host body file before) = true
  · rw [isDelivered, Option.any_eq_true] at delivered
    obtain ⟨prior, found, complete⟩ := delivered
    rw [Bool.and_eq_true, decide_eq_true_eq] at complete
    apply ends_bind
    · apply ends_upsert (fun copy world =>
        Delivered host before careful file body ⟨copy, true⟩ world) during
      · rintro state rfl careful (named | committed)
        · rw [found] at named ⊢
          exact backed prior found careful (Or.inl named)
        · cases committed
      · rintro state copies written rfl upserted during
        apply delivered_upsert during upserted _ (Or.inl rfl)
        intro careful
        rw [found]
        exact backed prior found careful (Or.inr complete.1)
    · intro copy
      rw [if_pos (by rw [isDelivered, Option.any_eq_true]; exact ⟨prior, found, by
        rw [Bool.and_eq_true, decide_eq_true_eq]; exact complete⟩)]
      exact ends_pure fun _ delivered => delivered
  · have names {server : AssetServer} (same : server = before.server) (careful : careful)
        (named : ((reusableCopy? host body file before).map WorkingCopy.assetId).getD "" ≠ "") :
        server.Holds (((reusableCopy? host body file before).map WorkingCopy.assetId).getD "")
          body.projectId body.runId := by
      cases found : reusableCopy? host body file before with
      | none =>
        rw [found] at named
        exact absurd rfl named
      | some prior =>
        rw [found] at named
        rw [same]
        exact backed prior found careful (Or.inl named)
    apply ends_bind
    · apply ends_upsert (fun copy world =>
          copy.sha256 = host.sha256 file.content ∧
            During host before careful file.key body.projectId world ∧
            (careful → copy.assetId ≠ "" →
              world.server.Holds copy.assetId body.projectId body.runId)) during
      · rintro state same careful (named | committed)
        · exact names (congrArg DeliveryWorld.server same) careful named
        · cases committed
      · intro state copies written same upserted during
        obtain ⟨id, createdAt, rfl⟩ := upserted.fields
        have server : state.server = before.server := congrArg DeliveryWorld.server same
        exact ⟨rfl, during, names server⟩
    · intro copy
      rw [if_neg delivered]
      apply ends_assume
      intro sized
      apply ends_bind
      · exact ends_ensure (fun _ inv _ => inv) fun _ inv => inv.1
      · intro _
        apply ends_bind (ends_delivery_asset named sized)
        exact fun assetId => ends_deliver

end

/-- One call of `commit_asset`, with what it finds around it. -/
structure CommitRequest where
  body : AssetCommitBody
  call : CommitCall

/-- The row at the path of the commit, if there is one, is of the same project; and a commit
without a project names no session or Run of one. -/
structure CarefulCommit (world : DeliveryWorld) (commit : CommitRequest) : Prop where
  path : ∀ file, commitment commit.call.files commit.body = .ok file →
    ∀ copy ∈ world.copies, copy.key = file.key → copy.projectId = commit.body.projectId
  scope : ScopeNamed commit.body commit.call.directory

section

variable (host : DeliveryHost) (settings : DeliverySettings) (accountId : String)

/-- `commit_asset` as the machine runs it. -/
def CommitRequest.run (commit : CommitRequest) : DeliveryCall CommitAnswer :=
  commitAsset host settings accountId commit.body commit.call

/-- No file was committed yet, and the Server has no asset under the key of a delivery. -/
structure DeliveryWorld.Fresh (world : DeliveryWorld) : Prop where
  copies : world.copies = []
  uploads : UniqueKey (fun upload : DeliveryUpload => upload.id) world.server.uploads
  assets : UniqueKey DeliveredAsset.id world.server.assets
  unclaimed : ∀ asset ∈ world.server.assets, ¬isDeliveryKey asset.clientRequestId

def deliveryMachine : Machine DeliveryWorld CommitRequest where
  Initial world := world.Fresh
  Step world commit after := leaves (commit.run host settings accountId) world = after

variable {host settings accountId} {world : DeliveryWorld} {commit : CommitRequest}

theorem during_start {careful : Prop} {file : Commitment} (tables : DeliveryTables world)
    (owned : careful → Owned host world.copies world)
    (path : careful → ∀ copy ∈ world.copies, copy.key = file.key →
      copy.projectId = commit.body.projectId) :
    During host world careful file.key commit.body.projectId world :=
  ⟨tables, le_refl _, owned, path⟩

theorem commit_keeps (settings : DeliverySettings) (accountId : String) (careful : Prop)
    (tables : DeliveryTables world)
    (owned : careful → Owned host world.copies world)
    (guarded : careful → CarefulCommit world commit) :
    DeliveryTables (leaves (commit.run host settings accountId) world) ∧
      (careful → Owned host world.copies (leaves (commit.run host settings accountId) world)) := by
  cases located : commitment commit.call.files commit.body with
  | error error =>
    have same : leaves (commit.run host settings accountId) world = world := by
      rw [leaves, CommitRequest.run, commitAsset, located]
      rfl
    rw [same]
    exact ⟨tables, owned⟩
  | ok file =>
    have ended : During host world careful file.key commit.body.projectId
        (leaves (commitAsset host settings accountId commit.body commit.call) world) :=
      ends_leaves (ends_weaken (fun state same => same) (fun _ _ delivered => delivered.during)
        (ends_commit located
          (during_start tables owned fun careful => (guarded careful).path file located)
          fun careful => (guarded careful).scope)) (rfl : world = world)
    exact ⟨ended.tables, ended.owned⟩

theorem owned_trans {start : List WorkingCopy} {after : DeliveryWorld}
    (first : Owned host start world) (second : Owned host world.copies after) :
    Owned host start after := by
  constructor
  · exact second.backed
  · exact second.registered
  · intro old oldMem
    obtain ⟨middle, mem, same, project⟩ := first.kept old oldMem
    obtain ⟨copy, copyMem, still, kept⟩ := second.kept middle mem
    exact ⟨copy, copyMem, still.trans same, kept.trans project⟩

theorem fresh_tables (fresh : world.Fresh) : DeliveryTables world := by
  constructor
  · rw [fresh.copies]
    exact nodup_nil
  · rw [fresh.copies]
    exact nodup_nil
  · exact fresh.uploads
  · exact fresh.assets

theorem fresh_owned (fresh : world.Fresh) : Owned host world.copies world := by
  rw [fresh.copies]
  constructor
  · rw [fresh.copies]
    intro copy mem
    cases mem
  · intro asset mem _ delivery
    exact absurd delivery (fresh.unclaimed asset mem)
  · intro old mem
    cases mem

theorem owned_self {start : List WorkingCopy} (owned : Owned host start world) :
    Owned host world.copies world :=
  ⟨owned.backed, owned.registered, fun old mem => ⟨old, mem, rfl, rfl⟩⟩

theorem reachable_tables {Guard : DeliveryWorld → CommitRequest → Prop}
    (reachable : (deliveryMachine host settings accountId).Reachable Guard world) :
    DeliveryTables world := by
  apply reachable_invariant DeliveryTables (fun _ => fresh_tables) _ reachable
  intro state commit next tables _ step
  have done : leaves (commit.run host settings accountId) state = next := step
  rw [← done]
  exact (commit_keeps settings accountId False tables False.elim False.elim).1

theorem careful_path {start : DeliveryWorld} (tables : DeliveryTables start)
    (owned : Owned host start.copies start)
    (path : (deliveryMachine host settings accountId).Path CarefulCommit start world) :
    DeliveryTables world ∧ Owned host start.copies world := by
  induction path with
  | refl => exact ⟨tables, owned⟩
  | step _ guarded step ih =>
    obtain ⟨middle, kept⟩ := ih
    obtain ⟨after, next⟩ := commit_keeps settings accountId True middle
      (fun _ => owned_self kept) fun _ => guarded
    have done : leaves _ _ = _ := step
    rw [← done]
    exact ⟨after, owned_trans kept (next trivial)⟩

theorem reachable_owned
    (reachable : (deliveryMachine host settings accountId).Reachable CarefulCommit world) :
    Owned host world.copies world := by
  obtain ⟨start, fresh, path⟩ := reachable
  exact owned_self (careful_path (fresh_tables fresh) (fresh_owned fresh) path).2

theorem commit_delivered (careful : Prop) (tables : DeliveryTables world)
    (owned : careful → Owned host world.copies world)
    (guarded : careful → CarefulCommit world commit) {answer : CommitAnswer}
    (answered : answer? (commit.run host settings accountId) world = some answer) :
    ∃ file, Delivered host world careful file commit.body answer
      (leaves (commit.run host settings accountId) world) := by
  have done := answer_some answered
  cases located : commitment commit.call.files commit.body with
  | error error =>
    rw [CommitRequest.run, commitAsset, located] at done
    cases done
  | ok file =>
    exact ⟨file, (ends_commit located
      (during_start tables owned fun careful => (guarded careful).path file located)
      fun careful => (guarded careful).scope).answered rfl done⟩

structure RepeatsDelivery (answer again : CommitAnswer) (world after : DeliveryWorld) : Prop where
  assetId : again.workingCopy.assetId = answer.workingCopy.assetId
  objectVersionId : again.workingCopy.objectVersionId = answer.workingCopy.objectVersionId
  state : ∀ copy ∈ after.copies, copy.id = again.workingCopy.id → copy.state = .committed
  assets : after.server.assets.length = world.server.assets.length
  versions : after.server.versions.length = world.server.versions.length

/-- Careful commits deliver to their project and Run, and working copies of two projects never
share a row. No repetition of a successful commit is answered and leaves everything as it was. -/
theorem working_copy_delivery (host : DeliveryHost) (settings : DeliverySettings)
    (accountId : String) :
    (∀ world, (deliveryMachine host settings accountId).Reachable CarefulCommit world →
      ∀ commit : CommitRequest, CarefulCommit world commit → ∀ answer,
        answer? (commit.run host settings accountId) world = some answer →
          answer.workingCopy ∈ (leaves (commit.run host settings accountId) world).copies ∧
          answer.workingCopy.projectId = commit.body.projectId ∧
          answer.workingCopy.runId = commit.body.runId ∧
          (leaves (commit.run host settings accountId) world).server.Holds
            answer.workingCopy.assetId commit.body.projectId commit.body.runId) ∧
    (∀ world later, (deliveryMachine host settings accountId).Reachable CarefulCommit world →
      (deliveryMachine host settings accountId).Path CarefulCommit world later →
        ∀ copy ∈ world.copies, ∀ row ∈ later.copies, row.id = copy.id →
          row.projectId = copy.projectId) ∧
    ∀ world, (deliveryMachine host settings accountId).Reachable Anything world →
      ∀ (commit repetition : CommitRequest) (answer again : CommitAnswer),
        answer? (commit.run host settings accountId) world = some answer →
        repetition.body = commit.body →
        commitment repetition.call.files repetition.body =
          commitment commit.call.files commit.body →
        answer? (repetition.run host settings accountId)
          (leaves (commit.run host settings accountId) world) = some again →
            ¬RepeatsDelivery answer again (leaves (commit.run host settings accountId) world)
              (leaves (repetition.run host settings accountId)
                (leaves (commit.run host settings accountId) world)) := by
  refine ⟨?_, ?_, ?_⟩
  · intro world reachable commit careful answer answered
    obtain ⟨file, delivered⟩ := commit_delivered True (reachable_tables reachable)
      (fun _ => reachable_owned reachable) (fun _ => careful) answered
    exact ⟨delivered.stored, delivered.projectId, delivered.runId, delivered.held trivial⟩
  · intro world later reachable path copy mem row rowMem same
    obtain ⟨tables, owned⟩ := careful_path (reachable_tables reachable)
      (reachable_owned reachable) path
    obtain ⟨stored, storedMem, named, project⟩ := owned.kept copy mem
    rw [unique_key_eq tables.ids rowMem storedMem (same.trans named.symm)]
    exact project
  · intro world reachable commit repetition answer again _ _ _ answered repeats
    have later := reachable_step reachable trivial
      (show (deliveryMachine host settings accountId).Step world commit _ from rfl)
    obtain ⟨file, delivered⟩ := commit_delivered False (reachable_tables later)
      False.elim False.elim answered
    rcases delivered.effect with uncommitted | added
    · have state := repeats.state _ delivered.stored rfl
      rw [uncommitted] at state
      cases state
    · exact absurd repeats.versions added.ne'

end

def contentDigest : String := "2d711642b726b04401627ca9fbac32f5c8530fb1903cc4db02258717921a4881"

def deliveryDigests : List (String × String) :=
  [("x", contentDigest), ("c1:r1:" ++ contentDigest,
      "06abe3315df8945aa62eb060a52b848ed76b89cb3492c2ab3cc7d4d0f2881d54"),
    ("c1:manual:" ++ contentDigest,
      "7e1919436df6067340547c3ec6e9f868d9e3614ecd5f31d7e8151483baffac49")]

theorem delivery_digests_injective : Function.Injective (listedDigest deliveryDigests) := by
  apply listed_digest_injective
  · rw [UniqueKey]
    decide +kernel
  · decide +kernel

def sampleDeliveryHost : DeliveryHost where
  floats := ratioFloats
  floats_lawful := ratio_floats_lawful
  sha256 := listedDigest deliveryDigests
  sha256_injective := delivery_digests_injective
  guessType _ := none

def sampleUploads : DeliverySettings := ⟨⟨3600, 86400⟩, 4⟩

def emptyDelivery : DeliveryWorld := ⟨[], ⟨[], [], [], [], []⟩⟩

/-- The commit of one file of a project; the identifiers end in `number`. -/
def sampleCommit (projectId runId number : String) (now : Time) : CommitRequest where
  body := ⟨projectId, "", runId, "notes.txt", "asset", false, false⟩
  call :=
    { files := ⟨fun _ path => .ok ⟨path, path, some [120]⟩, fun _ => none⟩
      reread := [120]
      identity := true
      directory :=
        { session := fun _ => refusal 404 "record not found"
          run := fun runId => .ok ⟨runId, some projectId, "s1"⟩
          projectRole := fun _ => .ok () }
      copyId := "c" ++ number
      assetId := "a" ++ number
      started := ⟨"u" ++ number, "v" ++ number⟩
      completedVersionId := "w" ++ number
      localTimes := fun _ => now
      createdAt := now
      startedAt := now
      partChecked := fun _ => now
      partRecorded := fun _ => now
      completedAt := now
      createFate := .answered
      startFate := .answered
      statusFate := .answered
      partFate := fun _ => .answered
      completeFate := .answered }

def sampleRun (commit : CommitRequest) : DeliveryCall CommitAnswer :=
  commit.run sampleDeliveryHost sampleUploads "account"

def firstCommit : CommitRequest := sampleCommit "p" "" "1" 1

def repeatedCommit : CommitRequest := sampleCommit "p" "" "2" 2

def otherCommit : CommitRequest := sampleCommit "q" "" "2" 2

def committedWorld : DeliveryWorld := leaves (sampleRun firstCommit) emptyDelivery

structure DeliveryView where
  copyId : String
  assetId : String
  projectId : String
  state : CopyState
  deriving DecidableEq

def WorkingCopy.view (copy : WorkingCopy) : DeliveryView :=
  ⟨copy.id, copy.assetId, copy.projectId, copy.state⟩

theorem sample_views :
    ((answer? (sampleRun firstCommit) emptyDelivery).map fun answer => answer.workingCopy.view) =
        some ⟨"c1", "a1", "p", .committed⟩ ∧
      ((answer? (sampleRun repeatedCommit) committedWorld).map
        fun answer => answer.workingCopy.view) = some ⟨"c1", "a1", "p", .localOnly⟩ ∧
      (leaves (sampleRun repeatedCommit) committedWorld).copies.map WorkingCopy.view =
        [⟨"c1", "a1", "p", .localOnly⟩] ∧
      ((answer? (sampleRun otherCommit) committedWorld).map
        fun answer => answer.workingCopy.view) = some ⟨"c1", "a1", "q", .localOnly⟩ ∧
      ((leaves (sampleRun otherCommit) committedWorld).server.asset? "a1").map
        (fun asset => asset.projectId) = some (some "p") := by
  decide +kernel

theorem empty_delivery_fresh : emptyDelivery.Fresh := by
  constructor
  · rfl
  · exact nodup_nil
  · exact nodup_nil
  · intro asset mem
    cases mem

theorem first_commit_careful : CarefulCommit emptyDelivery firstCommit := by
  constructor
  · intro file _ copy mem
    cases mem
  · intro absent
    have named : ("p" : String) ≠ "" := by decide
    exact absurd absent named

theorem working_copy_repeated :
    ∃ answer again other, answer? (sampleRun firstCommit) emptyDelivery = some answer ∧
      answer? (sampleRun repeatedCommit) committedWorld = some again ∧
      ¬RepeatsDelivery answer again committedWorld
        (leaves (sampleRun repeatedCommit) committedWorld) ∧
      answer? (sampleRun otherCommit) committedWorld = some other ∧
      other.workingCopy.projectId = "q" ∧ other.workingCopy.id = answer.workingCopy.id ∧
      ¬(leaves (sampleRun otherCommit) committedWorld).server.Holds
        other.workingCopy.assetId "q" "" := by
  obtain ⟨first, second, rows, third, asset⟩ := sample_views
  obtain ⟨answer, answered, view⟩ := map_eq_some_iff.mp first
  obtain ⟨again, repeated, viewAgain⟩ := map_eq_some_iff.mp second
  obtain ⟨other, taken, viewOther⟩ := map_eq_some_iff.mp third
  refine ⟨answer, again, other, answered, repeated, ?_, taken, ?_, ?_, ?_⟩
  · intro repeats
    have listed : DeliveryView.mk "c1" "a1" "p" .localOnly ∈
        (leaves (sampleRun repeatedCommit) committedWorld).copies.map WorkingCopy.view := by
      rw [rows]
      exact mem_singleton.mpr rfl
    obtain ⟨copy, mem, seen⟩ := List.mem_map.mp listed
    have id := (congrArg DeliveryView.copyId seen).trans
      (congrArg DeliveryView.copyId viewAgain).symm
    have state := (congrArg DeliveryView.state seen).symm.trans (repeats.state copy mem id)
    cases state
  · exact congrArg DeliveryView.projectId viewOther
  · exact (congrArg DeliveryView.copyId viewOther).trans (congrArg DeliveryView.copyId view).symm
  · rintro ⟨stored, found, project, _⟩
    have named : other.workingCopy.assetId = "a1" := congrArg DeliveryView.assetId viewOther
    rw [named] at found
    rw [found] at asset
    rw [map_some, project] at asset
    have apart : some (orNone "q") ≠ some (some "p") := by decide
    exact apart asset

theorem committed_views :
    committedWorld.copies.map WorkingCopy.view = [⟨"c1", "a1", "p", .committed⟩] := by
  decide +kernel

/-- The repetition finds the row of its own project. -/
theorem repeated_commit_careful : CarefulCommit committedWorld repeatedCommit := by
  constructor
  · intro file _ copy mem _
    have listed : copy.view ∈ committedWorld.copies.map WorkingCopy.view :=
      List.mem_map_of_mem mem
    rw [committed_views, mem_singleton] at listed
    exact congrArg DeliveryView.projectId listed
  · intro absent
    have named : ("p" : String) ≠ "" := by decide
    exact absurd absent named

theorem repeated_commit_delivered :
    ∃ answer again, answer? (sampleRun firstCommit) emptyDelivery = some answer ∧
      answer? (sampleRun repeatedCommit) committedWorld = some again ∧
      committedWorld.server.Holds answer.workingCopy.assetId "p" "" ∧
      (leaves (sampleRun repeatedCommit) committedWorld).server.Holds
        again.workingCopy.assetId "p" "" ∧
      (∀ copy ∈ committedWorld.copies,
        ∀ row ∈ (leaves (sampleRun repeatedCommit) committedWorld).copies, row.id = copy.id →
          row.projectId = copy.projectId) ∧
      ¬RepeatsDelivery answer again committedWorld
        (leaves (sampleRun repeatedCommit) committedWorld) := by
  obtain ⟨delivers, keeps, repeats⟩ :=
    working_copy_delivery sampleDeliveryHost sampleUploads "account"
  obtain ⟨first, second, -⟩ := sample_views
  obtain ⟨answer, answered, -⟩ := map_eq_some_iff.mp first
  obtain ⟨again, repeated, -⟩ := map_eq_some_iff.mp second
  have empty : (deliveryMachine sampleDeliveryHost sampleUploads "account").Reachable CarefulCommit
      emptyDelivery := ⟨emptyDelivery, empty_delivery_fresh, .refl _⟩
  have committed := reachable_step empty first_commit_careful
    (show (deliveryMachine sampleDeliveryHost sampleUploads "account").Step emptyDelivery
      firstCommit committedWorld from rfl)
  have onward := Machine.Path.step (.refl committedWorld) repeated_commit_careful
    (show (deliveryMachine sampleDeliveryHost sampleUploads "account").Step committedWorld
      repeatedCommit (leaves (sampleRun repeatedCommit) committedWorld) from rfl)
  refine ⟨answer, again, answered, repeated, ?_, ?_, ?_, ?_⟩
  · exact (delivers emptyDelivery empty firstCommit first_commit_careful answer answered).2.2.2
  · exact (delivers committedWorld committed repeatedCommit repeated_commit_careful again
      repeated).2.2.2
  · exact keeps committedWorld _ committed onward
  · exact repeats emptyDelivery ⟨emptyDelivery, empty_delivery_fresh, .refl _⟩ firstCommit
      repeatedCommit answer again answered rfl rfl repeated

end AgentMate
