import AgentMate.AssetObjectStore
import AgentMate.ChunkedBytes
import AgentMate.KeptEffects
import AgentMate.PlainText
import AgentMate.WebhookDeliveries

/-!
# Working copies and their delivery

The local agent keeps one row for each path of an owner and delivers the file as an asset of the
Server: it creates the asset, begins an upload, sends the parts and completes it. Every request
may get lost, and so may every answer. All calls are of one owner, whose Server account is
`accountId`; the local rows are those of the owner.
-/

namespace AgentMate

open ChunkedBytes FileLinks KeptEffects PlainText Table

/-- `HTTPException`. -/
structure HttpError where
  status : Nat
  detail : String
  deriving DecidableEq

def refusal {Value : Type} (status : Nat) (detail : String) : Except HttpError Value :=
  .error ⟨status, detail⟩

def require (condition : Bool) (status : Nat) (detail : String) : Except HttpError Unit :=
  if condition then .ok () else refusal status detail

/-- A row of `business_assets`. -/
structure DeliveredAsset where
  id : String
  ownerId : String
  projectId : Option String
  sessionId : Option String
  runId : Option String
  kind : String
  name : String
  mimeType : String
  size : Nat
  sha256 : String
  storageState : String
  objectRef : String
  sourceTool : String
  validationStatus : String
  version : Nat
  clientRequestId : String
  requestHash : String
  updatedAt : Time
  deletedAt : Time

/-- A row of `asset_uploads`. -/
structure DeliveryUpload extends Upload where
  projectId : Option String
  createdAt : Time

/-- A row of `asset_upload_parts`, with the bytes of its file. -/
structure DeliveryPart extends UploadPart where
  uploadId : String
  data : Bytes

/-- The tables, and the content-addressed files under `objects/`. -/
structure AssetServer where
  assets : List DeliveredAsset
  uploads : List DeliveryUpload
  parts : List DeliveryPart
  versions : List ObjectVersion
  objects : List (String × Bytes)

structure DeliverySettings extends UploadSettings where
  uploadPartBytes : Nat

namespace AssetServer

variable (server : AssetServer)

/-- `get_record`. -/
def asset? (assetId : String) : Option DeliveredAsset :=
  (lookup DeliveredAsset.id assetId server.assets).filter fun asset => asset.deletedAt = 0

def upload? (uploadId : String) : Option DeliveryUpload :=
  lookup (fun upload => upload.id) uploadId server.uploads

def object? (storageKey : String) : Option Bytes :=
  (server.objects.find? fun object => object.1 = storageKey).map Prod.snd

def partsOf (uploadId : String) : List DeliveryPart :=
  (server.parts.filter fun part => part.uploadId = uploadId).insertionSort fun left right =>
    left.partNumber ≤ right.partNumber

end AssetServer

/-- The body of `POST /api/assets` as the local agent sends it. -/
structure AssetCreate where
  projectId : Option String
  sessionId : Option String
  runId : Option String
  kind : String
  name : String
  mimeType : String
  size : Nat
  sha256 : String
  sourceTool : String

/-- `body.model_dump()`, with the fields in the order of their names. -/
def AssetCreate.dump (body : AssetCreate) : Json :=
  .obj [("kind", .str body.kind), ("mime_type", .str body.mimeType), ("name", .str body.name),
    ("object_ref", .str ""), ("project_id", optionalText body.projectId),
    ("run_id", optionalText body.runId), ("session_id", optionalText body.sessionId),
    ("sha256", .str body.sha256), ("size", .int body.size),
    ("source_tool", .str body.sourceTool), ("storage_state", .str "pending"),
    ("validation", .obj []), ("validation_status", .str "pending")]

/-- What both sides take from `hashlib` and `json`. SHA-256 is assumed free of collisions. -/
structure DeliveryHost where
  floats : FloatText
  floats_lawful : floats.Lawful
  sha256 : Bytes → String
  sha256_injective : Function.Injective sha256
  /-- `mimetypes.guess_type(name)[0]` -/
  guessType : String → Option String

structure AssetScope where
  id : String
  projectId : Option String
  sessionId : String

/-- What `_record` and `_project_role` answer for the account, with `write=True`. -/
structure AssetDirectory where
  session : String → Except HttpError AssetScope
  run : String → Except HttpError AssetScope
  projectRole : String → Except HttpError Unit

/-- `project_id or scope.get("project_id")`. -/
def orProject (projectId other : Option String) : Option String :=
  if projectId.getD "" = "" then other else projectId

def sessionScope (directory : AssetDirectory) (body : AssetCreate) :
    Except HttpError (Option String × Option AssetScope) :=
  match body.sessionId with
  | none => .ok (body.projectId, none)
  | some sessionId => do
      let session ← directory.session sessionId
      let projectId := orProject body.projectId session.projectId
      require (session.projectId = projectId) 400 "session scope mismatch"
      return (projectId, some session)

def runScope (directory : AssetDirectory) (body : AssetCreate) (projectId : Option String)
    (session : Option AssetScope) : Except HttpError (Option String) :=
  match body.runId with
  | none => .ok projectId
  | some runId => do
      let run ← directory.run runId
      let projectId := orProject projectId run.projectId
      require (run.projectId = projectId) 400 "run scope mismatch"
      require (session.all fun session => run.sessionId = session.id) 400
        "run does not belong to session"
      return projectId

def checkProject (directory : AssetDirectory) (projectId : Option String) : Except HttpError Unit :=
  if projectId.getD "" = "" then .ok () else directory.projectRole (projectId.getD "")

def assetProject (directory : AssetDirectory) (body : AssetCreate) :
    Except HttpError (Option String) := do
  let session ← sessionScope directory body
  let projectId ← runScope directory body session.1 session.2
  checkProject directory projectId
  return projectId

def isRequestKeyChar (char : Char) : Bool :=
  char.isAlphanum || char = '.' || char = '_' || char = ':' || char = '-'

def requestKey (value : String) : Except HttpError String :=
  let key := strip value
  let wellFormed := match key.toList with
    | [] => true
    | first :: rest =>
      first.isAlphanum && rest.all isRequestKeyChar && decide (rest.length ≤ 119)
  if wellFormed then .ok key else refusal 400 "invalid Idempotency-Key"

section

variable (host : DeliveryHost) (settings : DeliverySettings) (accountId : String)

def AssetCreate.payloadHash (body : AssetCreate) : String :=
  host.sha256 (utf8 (jsonDumps host.floats body.dump))

def newAsset (body : AssetCreate) (projectId : Option String) (assetId key : String)
    (now : Time) : DeliveredAsset where
  id := assetId
  ownerId := accountId
  projectId := projectId
  sessionId := body.sessionId
  runId := body.runId
  kind := body.kind
  name := body.name
  mimeType := body.mimeType
  size := body.size
  sha256 := body.sha256
  storageState := "pending"
  objectRef := ""
  sourceTool := body.sourceTool
  validationStatus := "pending"
  version := 1
  clientRequestId := key
  requestHash := if key = "" then "" else body.payloadHash host
  updatedAt := now
  deletedAt := 0

/-- `create_record` for an asset: a repeated key answers with the row it named first. -/
def createAssetRecord (server : AssetServer) (row : DeliveredAsset) :
    Except HttpError (AssetServer × DeliveredAsset) :=
  let existing :=
    if row.clientRequestId = "" then none
    else server.assets.find? fun asset =>
      asset.ownerId = row.ownerId && asset.clientRequestId = row.clientRequestId
  match existing with
  | some other =>
    if other.requestHash ≠ row.requestHash then
      refusal 409 "idempotency key payload mismatch"
    else .ok (server, other)
  | none =>
    if (lookup DeliveredAsset.id row.id server.assets).isSome then
      refusal 500 "UNIQUE constraint failed: business_assets.id"
    else .ok ({ server with assets := server.assets ++ [row] }, row)

def createAsset (directory : AssetDirectory) (body : AssetCreate) (idempotencyKey assetId : String)
    (now : Time) (server : AssetServer) : Except HttpError (AssetServer × DeliveredAsset) := do
  let projectId ← assetProject directory body
  let key ← requestKey idempotencyKey
  createAssetRecord server (newAsset host accountId body projectId assetId key now)

/-- `_asset`, with `write=True`. -/
def deliveredAsset (directory : AssetDirectory) (server : AssetServer) (assetId : String) :
    Except HttpError DeliveredAsset :=
  match server.asset? assetId with
  | none => refusal 404 "asset not found"
  | some asset =>
    if asset.projectId.getD "" = "" ∧ asset.ownerId ≠ accountId then
      refusal 404 "asset not found"
    else do
      checkProject directory asset.projectId
      return asset

/-- `_commit_version`: the new version, and the asset refers to it. -/
def addVersion (server : AssetServer) (asset : DeliveredAsset) (storageKey : String) (size : Nat)
    (sha256 versionId : String) (now : Time) : AssetServer :=
  let number := ((server.versions.filter fun version =>
    version.assetId = asset.id).map ObjectVersion.versionNumber).foldl max 0 + 1
  { server with
    versions := server.versions ++ [
      { id := versionId, assetId := asset.id, ownerId := asset.ownerId
        versionNumber := number, storageKey := storageKey, size := size, sha256 := sha256
        retainedUntil := now + settings.retentionSeconds, createdAt := now, deletedAt := 0 }]
    assets := updateWhere (fun row => row.id = asset.id ∧ row.deletedAt = 0) (fun row => { row with
        size := size
        sha256 := sha256
        storageState := "committed"
        objectRef := "object://sha256/" ++ sha256 ++ "?version=" ++ versionId
        validationStatus := "verified"
        version := row.version + 1
        updatedAt := now }) server.assets }

/-- The answer of `begin_upload`. -/
structure StartedUpload where
  id : String
  state : UploadState
  objectVersionId : Option String
  partSize : Nat
  deduplicated : Bool
  resumed : Bool

def insertUpload (server : AssetServer) (upload : DeliveryUpload) : Except HttpError AssetServer :=
  if (server.upload? upload.id).isSome then
    refusal 500 "UNIQUE constraint failed: asset_uploads.id"
  else .ok { server with uploads := server.uploads ++ [upload] }

/-- The upload that `begin_upload` resumes: `ORDER BY created_at DESC LIMIT 1`. -/
def activeUpload? (server : AssetServer) (assetId : String) (size : Nat) (sha256 : String)
    (now : Time) : Option DeliveryUpload :=
  ((server.uploads.filter fun upload =>
    upload.assetId = assetId && upload.ownerId = accountId && upload.isActive now &&
      upload.expectedSize = size && upload.expectedSha256 = sha256)
    |>.insertionSort fun left right => right.createdAt ≤ left.createdAt).head?

/-- The version whose object a new upload may share: `ORDER BY created_at DESC LIMIT 1`. -/
def duplicateVersion? (server : AssetServer) (ownerId : String) (size : Nat) (sha256 : String) :
    Option ObjectVersion :=
  ((server.versions.filter fun version =>
    version.ownerId = ownerId && version.sha256 = sha256 && version.size = size &&
      version.deletedAt = 0)
    |>.insertionSort fun left right => right.createdAt ≤ left.createdAt).head?

def newUpload (asset : DeliveredAsset) (size : Nat) (sha256 uploadId : String) (now : Time) :
    DeliveryUpload where
  id := uploadId
  assetId := asset.id
  ownerId := accountId
  expectedSize := size
  expectedSha256 := sha256
  partSize := settings.uploadPartBytes
  state := .uploading
  objectVersionId := none
  updatedAt := now
  expiresAt := now + settings.uploadTtlSeconds
  completedAt := none
  projectId := asset.projectId
  createdAt := now

structure DrawnUpload where
  uploadId : String
  versionId : String

def sharedUpload (asset : DeliveredAsset) (size : Nat) (sha256 : String) (drawn : DrawnUpload)
    (now : Time) : DeliveryUpload :=
  { newUpload settings accountId asset size sha256 drawn.uploadId now with
    state := .committed
    objectVersionId := some drawn.versionId
    expiresAt := now
    completedAt := some now }

/-- `str.lower` of a digest. -/
def lowered (text : String) : String := String.ofList (text.toList.map Char.toLower)

/-- The checks of `begin_upload` before its transaction. -/
def checkBegin (asset : DeliveredAsset) (size : Nat) (sha256 : String) : Except HttpError Unit := do
  require (sha256.length = 64) 400 "invalid object size or sha256"
  require (asset.size = 0 ∨ asset.size = size) 409 "asset size does not match upload"
  require (asset.sha256 = "" ∨ lowered asset.sha256 = sha256) 409
    "asset sha256 does not match upload"

/-- The transaction of `begin_upload`. -/
def openUpload (asset : DeliveredAsset) (size : Nat) (sha256 : String) (drawn : DrawnUpload)
    (now : Time) (server : AssetServer) : Except HttpError (AssetServer × StartedUpload) :=
  match activeUpload? accountId server asset.id size sha256 now with
  | some active =>
    .ok (server, ⟨active.id, active.state, active.objectVersionId, active.partSize, false, true⟩)
  | none =>
    match (duplicateVersion? server asset.ownerId size sha256).filter fun version =>
        (server.object? version.storageKey).isSome with
    | some duplicate => do
        let inserted ← insertUpload
          (addVersion settings server asset duplicate.storageKey size sha256 drawn.versionId now)
          (sharedUpload settings accountId asset size sha256 drawn now)
        return (inserted, ⟨drawn.uploadId, .committed, some drawn.versionId,
          settings.uploadPartBytes, true, false⟩)
    | none => do
        let inserted ← insertUpload server
          (newUpload settings accountId asset size sha256 drawn.uploadId now)
        return (inserted, ⟨drawn.uploadId, .uploading, none, settings.uploadPartBytes,
          false, false⟩)

def startUpload (directory : AssetDirectory) (assetId : String) (size : Nat) (sha256 : String)
    (drawn : DrawnUpload) (now : Time) (server : AssetServer) :
    Except HttpError (AssetServer × StartedUpload) := do
  let asset ← deliveredAsset accountId directory server assetId
  checkBegin asset size (lowered sha256)
  openUpload settings accountId asset size (lowered sha256) drawn now server

/-- `_error`. -/
def uploadError : UploadError → HttpError
  | .key _ => ⟨404, "asset upload not found"⟩
  | .conflict message => ⟨409, message⟩
  | .value message => ⟨400, message⟩

def uploadStatus (server : AssetServer) (uploadId : String) : Except HttpError DeliveryUpload :=
  match server.upload? uploadId with
  | none => .error (uploadError (.key uploadId))
  | some upload =>
    if upload.ownerId = accountId then .ok upload else .error (uploadError (.key uploadId))

def renewedUpload (now : Time) (upload : DeliveryUpload) : DeliveryUpload :=
  { upload with
    updatedAt := now
    expiresAt := now + settings.uploadTtlSeconds }

def finishedUpload (versionId : String) (now : Time) (upload : DeliveryUpload) : DeliveryUpload :=
  { upload with
    state := .committed
    objectVersionId := some versionId
    updatedAt := now
    completedAt := some now }

def storePart (server : AssetServer) (uploadId : String) (request : PartRequest) (now : Time) :
    List DeliveryPart :=
  let number := request.partNumber.toNat
  if (server.parts.find? fun part =>
      part.uploadId = uploadId && part.partNumber = number).isSome then
    updateWhere (fun part => part.uploadId = uploadId ∧ part.partNumber = number)
      (fun part => { part with
        size := request.data.length
        sha256 := host.sha256 request.data
        data := request.data }) server.parts
  else server.parts ++ [
    { partNumber := number, size := request.data.length, sha256 := host.sha256 request.data
      createdAt := now, uploadId := uploadId, data := request.data }]

/-- `upload_part` and `put_part`. -/
def putPart (uploadId : String) (partNumber : Nat) (data : Bytes) (declaredSha256 : String)
    (checked recorded : Time) (server : AssetServer) : Except HttpError (AssetServer × Unit) := do
  require (data.length ≤ settings.uploadPartBytes) 413 "upload part is too large"
  let upload ← uploadStatus accountId server uploadId
  let request : PartRequest := ⟨accountId, partNumber, data, declaredSha256⟩
  (checkPart host.sha256 upload.toUpload request checked).mapError uploadError
  (checkExistingPart host.sha256 ((server.partsOf uploadId).map DeliveryPart.toUploadPart)
    request).mapError uploadError
  return ({ server with
    parts := storePart host server uploadId request recorded
    uploads := updateWhere (fun row => row.id = uploadId)
      (renewedUpload settings recorded) server.uploads }, ())

/-- The object of a completed upload is put under its content address, unless it is there. -/
def storeObject (server : AssetServer) (storageKey : String) (content : Bytes) :
    Except HttpError AssetServer :=
  match server.object? storageKey with
  | some stored =>
    if stored.length = content.length then .ok server
    else refusal 409 "content-addressed object has an invalid size"
  | none => .ok { server with objects := server.objects ++ [(storageKey, content)] }

/-- The transaction of `complete_upload`. -/
def finishUpload (server : AssetServer) (upload : DeliveryUpload) (storageKey : String)
    (versionId : String) (now : Time) : Except HttpError AssetServer :=
  match server.asset? upload.assetId with
  | none => .error (uploadError (.key upload.assetId))
  | some asset =>
    let versioned := addVersion settings server asset storageKey upload.expectedSize
      upload.expectedSha256 versionId now
    .ok { versioned with
      uploads := updateWhere (fun row => row.id = upload.id)
        (finishedUpload versionId now) versioned.uploads }

/-- `complete_upload`: the answer is the id of the object version. -/
def completeUpload (uploadId versionId : String) (now : Time) (server : AssetServer) :
    Except HttpError (AssetServer × String) := do
  let upload ← uploadStatus accountId server uploadId
  match upload.state, upload.objectVersionId with
  | .committed, some committed => return (server, committed)
  | _, _ =>
    let parts := server.partsOf uploadId
    let content := (parts.map DeliveryPart.data).flatten
    require (upload.isActive now) 409 "upload is not active"
    require (parts.map (fun part => part.partNumber) = List.range upload.assembledParts) 409
      "upload has missing parts"
    require (content.length = upload.expectedSize ∧ host.sha256 content = upload.expectedSha256)
      409 "assembled object size or sha256 mismatch"
    let stored ← storeObject server (objectKey upload.expectedSha256) content
    let finished ← finishUpload settings stored upload (objectKey upload.expectedSha256)
      versionId now
    return (finished, versionId)

end

inductive CopyState where
  | localOnly
  | uploading
  | committed
  deriving DecidableEq, Repr

inductive CopySource where
  | workspace
  | external
  deriving DecidableEq

/-- A row of `asset_working_copies` of the owner. -/
structure WorkingCopy where
  id : String
  assetId : String
  projectId : String
  runId : String
  relativePath : String
  sourceKind : CopySource
  state : CopyState
  size : Nat
  sha256 : String
  uploadId : String
  objectVersionId : String
  createdAt : Time
  updatedAt : Time

/-- What `UNIQUE(owner_id,source_kind,relative_path)` ranges over for one owner. -/
def WorkingCopy.key (copy : WorkingCopy) : CopySource × String :=
  (copy.sourceKind, copy.relativePath)

structure DeliveryWorld where
  copies : List WorkingCopy
  server : AssetServer

abbrev DeliveryCall (Value : Type) := EStateM HttpError DeliveryWorld Value

/-- The statements of `upsert_working_copy`: a stored row keeps its id and its creation time. -/
def upsertRow (copies : List WorkingCopy) (copy : WorkingCopy) :
    Except HttpError (WorkingCopy × List WorkingCopy) :=
  match lookup WorkingCopy.key copy.key copies with
  | some stored =>
    let written := { copy with id := stored.id, createdAt := stored.createdAt }
    .ok (written, updateWhere (fun row => row.key = copy.key) (fun _ => written) copies)
  | none =>
    if (lookup WorkingCopy.id copy.id copies).isSome then
      refusal 500 "UNIQUE constraint failed: asset_working_copies.id"
    else .ok (copy, copies ++ [copy])

def upsertWorkingCopy (copy : WorkingCopy) : DeliveryCall WorkingCopy :=
  transact fun world => (upsertRow world.copies copy).map fun written =>
    (written.1, { world with copies := written.2 })

def listWorkingCopies (world : DeliveryWorld) : List WorkingCopy :=
  world.copies.insertionSort fun left right => right.updatedAt ≤ left.updatedAt

/-- What the file system has at a path of a request: `content` is none for what is no file. -/
structure LocalFile where
  localKey : String
  name : String
  content : Option Bytes

/-- Paths in the sandbox of a project, and absolute paths outside of it. -/
structure LocalFiles where
  workspace : String → String → Except String LocalFile
  external : String → Option LocalFile

structure AssetCommitBody where
  projectId : String
  sessionId : String
  runId : String
  localPath : String
  kind : String
  external : Bool
  explicitExternalUpload : Bool

inductive RequestFate where
  /-- It does not arrive, or the answer says nothing. -/
  | lost
  /-- It is handled, and the answer gets lost. -/
  | unanswered
  /-- It is refused before its handler runs. -/
  | refused (error : HttpError)
  | answered

/-- What a call finds around it: the files, the Server's directory, identifiers, clocks and the
fate of each request. -/
structure CommitCall where
  files : LocalFiles
  /-- the file's bytes when it is opened for the upload -/
  reread : Bytes
  identity : Bool
  directory : AssetDirectory
  copyId : String
  assetId : String
  started : DrawnUpload
  completedVersionId : String
  localTimes : CopyState → Time
  createdAt : Time
  startedAt : Time
  partChecked : Nat → Time
  partRecorded : Nat → Time
  completedAt : Time
  createFate : RequestFate
  startFate : RequestFate
  statusFate : RequestFate
  partFate : Nat → RequestFate
  completeFate : RequestFate

structure CommitAnswer where
  workingCopy : WorkingCopy
  duplicate : Bool

/-- A 4xx answer is raised; any other failure says nothing. -/
def rejected {Value : Type} (world : DeliveryWorld) (error : HttpError) :
    Except HttpError (Option Value × DeliveryWorld) :=
  if 400 ≤ error.status ∧ error.status < 500 then .error error else .ok (none, world)

def exchange {Value : Type} (fate : RequestFate)
    (handler : AssetServer → Except HttpError (AssetServer × Value)) (world : DeliveryWorld) :
    Except HttpError (Option Value × DeliveryWorld) :=
  match fate with
  | .lost => .ok (none, world)
  | .refused error => rejected world error
  | .unanswered =>
    match handler world.server with
    | .ok handled => .ok (none, { world with server := handled.1 })
    | .error _ => .ok (none, world)
  | .answered =>
    match handler world.server with
    | .ok handled => .ok (some handled.2, { world with server := handled.1 })
    | .error error => rejected world error

/-- One request of `server_client`. -/
def request {Value : Type} (fate : RequestFate)
    (handler : AssetServer → Except HttpError (AssetServer × Value)) :
    DeliveryCall (Option Value) :=
  transact (exchange fate handler)

def answered {Value : Type} (message : String) : Option Value → DeliveryCall Value
  | some value => pure value
  | none => throw ⟨503, message⟩

def resumable : String := "AgentMate Server is unavailable; upload can be resumed"

/-- The file of a request: its source kind, its key and what is there. -/
def locate (files : LocalFiles) (body : AssetCommitBody) :
    Except HttpError (CopySource × LocalFile) :=
  if body.external then
    if !body.explicitExternalUpload then
      refusal 409 "external files require explicit upload consent"
    else match files.external body.localPath with
      | none => refusal 400 "external file path must be absolute"
      | some file => .ok (.external, file)
  else match files.workspace body.projectId body.localPath with
    | .error message => refusal 400 message
    | .ok file => .ok (.workspace, file)

/-- The row that a commit stores at its path, before anything of the Server is known. -/
structure Commitment where
  sourceKind : CopySource
  localKey : String
  name : String
  content : Bytes

def commitment (files : LocalFiles) (body : AssetCommitBody) : Except HttpError Commitment := do
  let (sourceKind, file) ← locate files body
  match file.content with
  | none => refusal 404 "local working-copy file not found"
  | some content => return ⟨sourceKind, file.localKey, file.name, content⟩

variable (host : DeliveryHost) (settings : DeliverySettings) (accountId : String)
  (body : AssetCommitBody) (call : CommitCall)

def commitRow (file : Commitment) (assetId uploadId objectVersionId : String)
    (state : CopyState) : WorkingCopy where
  id := call.copyId
  assetId := assetId
  projectId := body.projectId
  runId := body.runId
  relativePath := file.localKey
  sourceKind := file.sourceKind
  state := state
  size := file.content.length
  sha256 := host.sha256 file.content
  uploadId := uploadId
  objectVersionId := objectVersionId
  createdAt := call.localTimes state
  updatedAt := call.localTimes state

def priorCopy? (file : Commitment) (world : DeliveryWorld) : Option WorkingCopy :=
  (listWorkingCopies world).find? fun copy =>
    copy.sourceKind = file.sourceKind && copy.relativePath = file.localKey &&
      copy.sha256 = host.sha256 file.content && copy.size = file.content.length

def reusableCopy? (file : Commitment) (world : DeliveryWorld) : Option WorkingCopy :=
  (priorCopy? host file world).filter fun copy => copy.runId = body.runId

/-- `value or None`. -/
def orNone (value : String) : Option String := if value = "" then none else some value

def assetBody (file : Commitment) : AssetCreate where
  projectId := orNone body.projectId
  sessionId := orNone body.sessionId
  runId := orNone body.runId
  kind := body.kind
  name := file.name
  mimeType := (host.guessType file.name).getD "application/octet-stream"
  size := file.content.length
  sha256 := host.sha256 file.content
  sourceTool :=
    if body.external then "local-agent.explicit-upload" else "local-agent.workspace-commit"

def deliveryKey (copyId sha256 : String) : String :=
  "working-copy:" ++ host.sha256 (utf8
    (copyId ++ ":" ++ (if body.runId = "" then "manual" else body.runId) ++ ":" ++ sha256))

def deliveryAsset (file : Commitment) (copy : WorkingCopy) : DeliveryCall String :=
  if copy.assetId = "" then do
    let created ← request call.createFate
      (createAsset host accountId call.directory (assetBody host body file)
        (deliveryKey host body copy.id copy.sha256) call.assetId call.createdAt)
    let asset ← answered "AgentMate Server is unavailable; working copy remains local-only" created
    return asset.id
  else pure copy.assetId

/-- The parts that the Server has: `status` is asked only for a resumed upload. -/
def receivedParts (started : StartedUpload) : DeliveryCall (List Nat) :=
  if started.resumed then do
    let status ← request call.statusFate fun server => do
      let upload ← uploadStatus accountId server started.id
      return (server, (server.partsOf upload.id).map fun part => part.partNumber)
    answered resumable status
  else pure []

def sendPartOf (started : StartedUpload) (part : Bytes × Nat) : DeliveryCall Unit := do
  let sent ← request (call.partFate part.2)
    (putPart host settings accountId started.id part.2 part.1 (host.sha256 part.1)
      (call.partChecked part.2) (call.partRecorded part.2))
  answered resumable sent

def uploadFile (started : StartedUpload) : DeliveryCall String :=
  if started.state ≠ .committed then do
    let received ← receivedParts accountId call started
    forM ((chunks started.partSize call.reread).zipIdx.filter fun part => part.2 ∉ received)
      (sendPartOf host settings accountId call started)
    let completed ← request call.completeFate
      (completeUpload host settings accountId started.id call.completedVersionId call.completedAt)
    answered resumable completed
  else pure (started.objectVersionId.getD "")

def deliver (file : Commitment) (assetId : String) : DeliveryCall CommitAnswer := do
  let begun ← request call.startFate
    (startUpload settings accountId call.directory assetId file.content.length
      (host.sha256 file.content) call.started call.startedAt)
  match begun with
  | none => do
      let _ ← upsertWorkingCopy (commitRow host body call file assetId "" "" .uploading)
      throw ⟨503, resumable⟩
  | some started => do
      let _ ← upsertWorkingCopy (commitRow host body call file assetId started.id
        (started.objectVersionId.getD "") .uploading)
      let versionId ← uploadFile host settings accountId call started
      let copy ← upsertWorkingCopy
        (commitRow host body call file assetId started.id versionId .committed)
      return ⟨copy, started.deduplicated⟩

/-- The row is a committed delivery, which a commit answers with at once. -/
def isDelivered (reusable : Option WorkingCopy) : Bool :=
  reusable.any fun prior => prior.state = .committed && prior.objectVersionId ≠ ""

def commitAsset : DeliveryCall CommitAnswer :=
  match commitment call.files body with
  | .error error => throw error
  | .ok file => do
      let world ← get
      let reusable := reusableCopy? host body file world
      let copy ← upsertWorkingCopy (commitRow host body call file
        ((reusable.map WorkingCopy.assetId).getD "") ((reusable.map WorkingCopy.uploadId).getD "")
        ((reusable.map WorkingCopy.objectVersionId).getD "") .localOnly)
      if isDelivered reusable then return ⟨copy, true⟩
      else do
        ensure call.identity ⟨401, "No valid Server identity is bound to this Local Agent"⟩
        let assetId ← deliveryAsset host accountId body call file copy
        deliver host settings accountId body call file assetId

end AgentMate
