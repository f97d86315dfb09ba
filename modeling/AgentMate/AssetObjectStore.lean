import AgentMate.FileLinks
import AgentMate.Interleaving
import AgentMate.RunStore

/-!
# Asset object store

One resumable upload of an asset: its row, the rows of its parts, and the files it
shares between calls. Every statement outside a transaction and every file operation
is a step of its own. Objects are content addressed, so the upload has one object
path.
-/

namespace AgentMate

open FileLinks Interleaving

inductive UploadState where
  | uploading
  | committed
  | aborted
  | expired
  deriving DecidableEq

/-- The row of `asset_uploads`. -/
structure Upload where
  id : String
  assetId : String
  ownerId : String
  expectedSize : Nat
  expectedSha256 : String
  partSize : Nat
  state : UploadState
  objectVersionId : Option String
  updatedAt : Time
  expiresAt : Time
  completedAt : Option Time

/-- A row of `asset_upload_parts`. -/
structure UploadPart where
  partNumber : Nat
  size : Nat
  sha256 : String
  createdAt : Time

/-- A row of `asset_object_versions`. -/
structure ObjectVersion where
  id : String
  assetId : String
  ownerId : String
  versionNumber : Nat
  storageKey : String
  size : Nat
  sha256 : String
  retainedUntil : Time
  createdAt : Time
  deletedAt : Time

/-- The row of `business_assets`, as far as a commit reads and writes it. -/
structure StoredAsset where
  id : String
  ownerId : String
  size : Nat
  sha256 : String
  storageState : String
  objectRef : String
  validationStatus : String
  version : Nat
  updatedAt : Time
  deletedAt : Time

inductive UploadPath where
  | part (number : Nat)
  | assembled
  | object
  deriving DecidableEq

def UploadPath.inDirectory : UploadPath → Bool
  | .object => false
  | .part _ | .assembled => true

structure ObjectStore where
  upload : Upload
  parts : List UploadPart
  versions : List ObjectVersion
  asset : StoredAsset
  directory : Bool
  disk : Disk UploadPath

structure UploadSettings where
  uploadTtlSeconds : Nat
  retentionSeconds : Nat

inductive UploadError where
  | key (id : String)
  | conflict (message : String)
  | value (message : String)

def Upload.isActive (upload : Upload) (now : Time) : Bool :=
  upload.state = .uploading && decide (now < upload.expiresAt)

/-- `shutil.rmtree`. -/
def ObjectStore.removeDirectory (store : ObjectStore) : ObjectStore :=
  { store with directory := false, disk := store.disk.unlink UploadPath.inDirectory }

structure PartRequest where
  ownerId : String
  partNumber : Int
  data : Bytes
  declaredSha256 : String

def Upload.totalParts (upload : Upload) : Nat :=
  max 1 ((upload.expectedSize + upload.partSize - 1) / upload.partSize)

def Upload.requiredSize (upload : Upload) (partNumber : Nat) : Nat :=
  if partNumber < upload.totalParts - 1 then upload.partSize
  else upload.expectedSize - upload.partSize * partNumber

/-- The checks of `put_part` against the upload row. -/
def checkPart (sha256 : Bytes → String) (upload : Upload) (request : PartRequest)
    (now : Time) : Except UploadError Unit :=
  if upload.ownerId ≠ request.ownerId then .error (.key upload.id)
  else if !upload.isActive now then .error (.conflict "upload is not active")
  else if request.partNumber < 0 ∨ (upload.totalParts : Int) ≤ request.partNumber then
    .error (.value "part number is out of range")
  else if request.data.length ≠ upload.requiredSize request.partNumber.toNat then
    .error (.conflict ("part size mismatch: expected " ++
        toString (upload.requiredSize request.partNumber.toNat)))
  else if request.declaredSha256.toLower ≠ sha256 request.data then
    .error (.conflict "part sha256 mismatch")
  else .ok ()

/-- The check of `put_part` against a stored part of that number. -/
def checkExistingPart (sha256 : Bytes → String) (parts : List UploadPart)
    (request : PartRequest) : Except UploadError Unit :=
  match Table.lookup UploadPart.partNumber request.partNumber.toNat parts with
  | none => .ok ()
  | some existing =>
    if existing.size ≠ request.data.length ∨ existing.sha256 ≠ sha256 request.data then
      .error (.conflict "part was already uploaded with different content")
    else .ok ()

def ObjectStore.writePart (store : ObjectStore) (request : PartRequest) : ObjectStore :=
  { store with
    directory := true
    disk := store.disk.add (.part request.partNumber.toNat) request.data }

def recordPart (settings : UploadSettings) (sha256 : Bytes → String) (store : ObjectStore)
    (request : PartRequest) (now : Time) : ObjectStore :=
  let number := request.partNumber.toNat
  let size := request.data.length
  { store with
    parts :=
      match Table.lookup UploadPart.partNumber number store.parts with
      | some _ => Table.updateWhere (fun part => part.partNumber = number)
          (fun part => { part with size := size, sha256 := sha256 request.data }) store.parts
      | none => store.parts ++ [⟨number, size, sha256 request.data, now⟩]
    upload := { store.upload with
      updatedAt := now
      expiresAt := now + settings.uploadTtlSeconds } }

/-- An open handle on the assembled file: the bytes read so far are what was written
and hashed, and the next part to read. -/
structure Assembly where
  file : Nat
  read : Bytes
  number : Nat

def Upload.assembledParts (upload : Upload) : Nat :=
  if upload.expectedSize = 0 then 0
  else (upload.expectedSize + upload.partSize - 1) / upload.partSize

inductive CompleteCheck where
  | duplicate (version : Option ObjectVersion)
  | proceed

def versionRow (store : ObjectStore) (versionId : String) : Option ObjectVersion :=
  (Table.lookup ObjectVersion.id versionId store.versions).filter fun version =>
    version.deletedAt = 0

/-- The checks of `complete_upload` before it opens a file: `upload` was read first,
the parts are read now, in the order of their numbers. -/
def checkComplete (store : ObjectStore) (upload : Upload) (now : Time) :
    Except UploadError CompleteCheck :=
  match upload.state, upload.objectVersionId with
  | .committed, some versionId => .ok (.duplicate (versionRow store versionId))
  | _, _ =>
    if !upload.isActive now then .error (.conflict "upload is not active")
    else if !((store.parts.map UploadPart.partNumber).isPerm
        (List.range upload.assembledParts)) then
      .error (.conflict "upload has missing parts")
    else .ok .proceed

/-- `assembled.open("wb")`: fails without the upload directory. -/
def openAssembled (store : ObjectStore) : Option (ObjectStore × Assembly) :=
  if store.directory then
    let opened := store.disk.truncate .assembled
    some ({ store with disk := opened.1 }, ⟨opened.2, [], 0⟩)
  else none

def copyPart (store : ObjectStore) (assembly : Assembly) : Option (ObjectStore × Assembly) :=
  (store.disk.read? (.part assembly.number)).map fun bytes =>
    ({ store with disk := store.disk.writeAt assembly.file assembly.read.length bytes },
      ⟨assembly.file, assembly.read ++ bytes, assembly.number + 1⟩)

def Assembly.matches (sha256 : Bytes → String) (upload : Upload) (assembly : Assembly) : Bool :=
  decide (assembly.read.length = upload.expectedSize) &&
    decide (sha256 assembly.read = upload.expectedSha256)

def ObjectStore.unlinkAssembled (store : ObjectStore) : ObjectStore :=
  { store with disk := store.disk.unlink fun path => path = .assembled }

def objectKey (sha256 : String) : String :=
  "objects/" ++ String.ofList (sha256.toList.take 2) ++ "/" ++ sha256

/-- `_commit_version`: the new version and the asset that refers to it. -/
def commitVersion (settings : UploadSettings) (store : ObjectStore) (size : Nat)
    (sha256 versionId : String) (now : Time) : ObjectStore :=
  let number := ((store.versions.filter fun version =>
    version.assetId = store.asset.id).map ObjectVersion.versionNumber).foldl max 0 + 1
  { store with
    versions := store.versions ++ [
      { id := versionId, assetId := store.asset.id, ownerId := store.asset.ownerId
        versionNumber := number, storageKey := objectKey sha256, size := size
        sha256 := sha256, retainedUntil := now + settings.retentionSeconds
        createdAt := now, deletedAt := 0 }]
    asset := { store.asset with
      size := size
      sha256 := sha256
      storageState := "committed"
      objectRef := "object://sha256/" ++ sha256 ++ "?version=" ++ versionId
      validationStatus := "verified"
      version := store.asset.version + 1
      updatedAt := now } }

/-- The transaction of `complete_upload`. -/
def commitUpload (settings : UploadSettings) (store : ObjectStore) (upload : Upload)
    (versionId : String) (now : Time) : Except UploadError ObjectStore :=
  if store.upload.state ≠ .uploading then
    .error (.conflict "upload was finalized concurrently")
  else if store.asset.deletedAt ≠ 0 then .error (.key upload.assetId)
  else
    let versioned := commitVersion settings store upload.expectedSize upload.expectedSha256
      versionId now
    .ok { versioned with upload := { store.upload with
      state := .committed
      objectVersionId := some versionId
      updatedAt := now
      completedAt := some now } }

def writeAbort (store : ObjectStore) (now : Time) : ObjectStore :=
  { store with upload := { store.upload with
    state := .aborted
    updatedAt := now
    expiresAt := now } }

def writeExpired (store : ObjectStore) (started : Time) : ObjectStore :=
  { store with upload := { store.upload with state := .expired, updatedAt := started } }

inductive UploadRequest where
  | putPart (request : PartRequest) (now : Time)
  | completeUpload (ownerId : String)
  | abortUpload (ownerId : String)
  | cleanupExpired (now : Time)
  | deleteAsset (now : Time)

inductive UploadTicket where
  | findPart (request : PartRequest)
  | writePart (request : PartRequest)
  | recordPart (request : PartRequest)
  | listParts (upload : Upload)
  | openAssembled (upload : Upload)
  | copyParts (upload : Upload) (assembly : Assembly)
  | findObject (upload : Upload)
  | replaceObject (upload : Upload)
  | commit (upload : Upload)
  | removeDirectory
  | writeAbort
  | removeExpired (started : Time)
  | writeExpired (started : Time)

structure UploadInput where
  now : Time
  uuid : String

/-- The first step of a call: its SELECT and the checks of the row. -/
def callUpload (sha256 : Bytes → String) (store : ObjectStore) :
    UploadRequest → Option (ObjectStore × Option UploadTicket)
  | .putPart request now =>
    match checkPart sha256 store.upload request now with
    | .ok _ => some (store, some (.findPart request))
    | .error _ => some (store, none)
  | .completeUpload ownerId =>
    if store.upload.ownerId = ownerId then some (store, some (.listParts store.upload))
    else some (store, none)
  | .abortUpload ownerId =>
    if store.upload.ownerId = ownerId ∧ store.upload.state = .uploading then
      some (store, some .writeAbort)
    else some (store, none)
  | .cleanupExpired now =>
    if store.upload.state = .uploading ∧ store.upload.expiresAt ≤ now then
      some (store, some (.removeExpired now))
    else some (store, none)
  | .deleteAsset now => some ({ store with asset := { store.asset with deletedAt := now } }, none)

def resumeUpload (settings : UploadSettings) (sha256 : Bytes → String) (store : ObjectStore)
    (ticket : UploadTicket) (input : UploadInput) :
    Option (ObjectStore × Option UploadTicket) :=
  match ticket with
  | .findPart request =>
    match checkExistingPart sha256 store.parts request with
    | .ok _ => some (store, some (.writePart request))
    | .error _ => some (store, none)
  | .writePart request => some (store.writePart request, some (.recordPart request))
  | .recordPart request => some (recordPart settings sha256 store request input.now, none)
  | .listParts upload =>
    match checkComplete store upload input.now with
    | .ok .proceed => some (store, some (.openAssembled upload))
    | .ok (.duplicate _) | .error _ => some (store, none)
  | .openAssembled upload =>
    match openAssembled store with
    | some opened => some (opened.1, some (.copyParts upload opened.2))
    | none => some (store, none)
  | .copyParts upload assembly =>
    if assembly.number < upload.assembledParts then
      match copyPart store assembly with
      | some copied => some (copied.1, some (.copyParts upload copied.2))
      | none => some (store, none)
    else if assembly.matches sha256 upload then some (store, some (.findObject upload))
    else some (store.unlinkAssembled, none)
  | .findObject upload =>
    match store.disk.read? .object with
    | some content =>
      some (store.unlinkAssembled,
        if content.length = upload.expectedSize then some (.commit upload) else none)
    | none => some (store, some (.replaceObject upload))
  | .replaceObject upload =>
    match store.disk.rename .assembled .object with
    | some disk => some ({ store with disk := disk }, some (.commit upload))
    | none => some (store, none)
  | .commit upload =>
    if store.versions.any fun version => version.id = input.uuid then none
    else match commitUpload settings store upload input.uuid input.now with
      | .ok committed => some (committed, some .removeDirectory)
      | .error _ => some (store, none)
  | .removeDirectory => some (store.removeDirectory, none)
  | .writeAbort => some (writeAbort store input.now, some .removeDirectory)
  | .removeExpired started => some (store.removeDirectory, some (.writeExpired started))
  | .writeExpired started => some (writeExpired store started, none)

def uploadRoutine (settings : UploadSettings) (sha256 : Bytes → String) :
    Routine ObjectStore UploadRequest UploadInput UploadTicket where
  call := callUpload sha256
  resume := resumeUpload settings sha256

/-- An upload as `begin_upload` leaves it; an object of that content may exist. -/
structure ObjectStore.Begun (store : ObjectStore) : Prop where
  uploading : store.upload.state = .uploading
  version : store.upload.objectVersionId = none
  parts : store.parts = []
  files : ∀ path, path.inDirectory = true → store.disk.link path = none

end AgentMate
