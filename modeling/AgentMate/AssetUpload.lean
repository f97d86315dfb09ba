import AgentMate.AssetObjectStore
import AgentMate.ChunkedBytes

/-!
# A chunked upload and what the Server assembles

The local agent reads its file in chunks of the Server's part size and sends the parts that
the Server does not list yet. Both sides count parts and sizes on their own.
-/

namespace AgentMate

open ChunkedBytes FileLinks Interleaving Table List Option

/-- When the Server handles the requests of the client: it checks and records a part, and
completes the upload. -/
structure UploadClock where
  checked : Nat → Time
  recorded : Nat → Time
  completed : Time

/-- The chunks that the client sends, with their numbers: those not in `received`. -/
def unsentParts (received : List Nat) (chunks : List Bytes) : List (Bytes × Nat) :=
  chunks.zipIdx.filter fun part => part.2 ∉ received

section

variable (settings : UploadSettings) (sha256 : Bytes → String) (clock : UploadClock)

/-- `upload_asset_part` and the `put_part` it calls: `none` when it is refused. -/
def sendPart (store : ObjectStore) (part : Bytes × Nat) : Option ObjectStore :=
  (uploadRoutine settings sha256).serve store
    (.putPart ⟨store.upload.ownerId, part.2, part.1, sha256 part.1⟩ (clock.checked part.2))
    (List.replicate 3 ⟨clock.recorded part.2, ""⟩)

def sendParts (store : ObjectStore) (parts : List (Bytes × Nat)) : Option ObjectStore :=
  parts.foldlM (sendPart settings sha256 clock) store

/-- Every request arrives before the upload expires; a recorded part renews it. -/
def InTime (expiresAt : Time) : List (Bytes × Nat) → Prop
  | [] => clock.completed < expiresAt
  | part :: rest => clock.checked part.2 < expiresAt ∧
      InTime (clock.recorded part.2 + settings.uploadTtlSeconds) rest

end

section

variable {upload : Upload} {content : Bytes}

theorem assembled_parts_chunks (positive : 0 < upload.partSize)
    (size : upload.expectedSize = content.length) :
    upload.assembledParts = (chunks upload.partSize content).length := by
  rw [chunks_length positive, Upload.assembledParts, size]
  split
  · next empty =>
    rw [empty, Nat.div_eq_of_lt (by omega)]
  · rfl

theorem chunk_admissible (positive : 0 < upload.partSize)
    (size : upload.expectedSize = content.length) {number : Nat} {chunk : Bytes}
    (found : (chunks upload.partSize content)[number]? = some chunk) :
    number < upload.totalParts ∧ chunk.length = upload.requiredSize number := by
  rw [chunks_get positive, ite_none_right_eq_some] at found
  obtain ⟨inside, same⟩ := found
  have below := (lt_ceil_iff positive number content.length).mpr inside
  have total : upload.totalParts = (content.length + upload.partSize - 1) / upload.partSize := by
    rw [Upload.totalParts, size]
    omega
  refine ⟨by rw [total]; exact below, ?_⟩
  have length : chunk.length = min upload.partSize (content.length - number * upload.partSize) := by
    rw [← Option.some.inj same, length_take, length_drop]
  have next := lt_ceil_iff positive (number + 1) content.length
  rw [Nat.add_mul, Nat.one_mul] at next
  rw [length, Upload.requiredSize, total, size, Nat.mul_comm upload.partSize number]
  split
  · next early =>
    have more := next.mp (by omega)
    omega
  · next last =>
    have none := mt next.mpr (by omega)
    omega

end

/-- An upload of this content that is under way: every recorded part is a chunk of the
client, and an object stored under its hash is the content itself. -/
structure Resumable (sha256 : Bytes → String) (content : Bytes) (store : ObjectStore) : Prop where
  state : store.upload.state = .uploading
  partSize : 0 < store.upload.partSize
  size : store.upload.expectedSize = content.length
  hash : store.upload.expectedSha256 = sha256 content
  asset : store.asset.deletedAt = 0
  directory : store.directory = true
  numbers : UniqueKey UploadPart.partNumber store.parts
  parts : ∀ part ∈ store.parts, ∃ chunk,
    (chunks store.upload.partSize content)[part.partNumber]? = some chunk ∧
    part.size = chunk.length ∧ part.sha256 = sha256 chunk ∧
    store.disk.read? (.part part.partNumber) = some chunk
  object : ∀ old, store.disk.read? .object = some old → old = content

section

variable {settings : UploadSettings} {sha256 : Bytes → String} {clock : UploadClock}
  {content : Bytes} {store : ObjectStore}

theorem put_part_accepted {request : PartRequest} {now : Time} {input : UploadInput}
    (checked : checkPart sha256 store.upload request now = .ok ())
    (existing : checkExistingPart sha256 store.parts request = .ok ()) :
    (uploadRoutine settings sha256).serve store (.putPart request now) (List.replicate 3 input) =
      some (recordPart settings sha256 (store.writePart request) request input.now) := by
  have first : (uploadRoutine settings sha256).call store (.putPart request now) =
      some (store, some (.findPart request)) := by
    simp [uploadRoutine, callUpload, checked]
  have second : (uploadRoutine settings sha256).resume store (.findPart request) input =
      some (store, some (.writePart request)) := by
    simp [uploadRoutine, resumeUpload, existing]
  rw [Routine.serve, first, bind_some, List.replicate, alone_cons, second]
  rfl

theorem record_part_numbers {request : PartRequest} {now : Time} :
    ((recordPart settings sha256 store request now).parts.map UploadPart.partNumber) =
      if request.partNumber.toNat ∈ store.parts.map UploadPart.partNumber then
        store.parts.map UploadPart.partNumber
      else store.parts.map UploadPart.partNumber ++ [request.partNumber.toNat] := by
  unfold recordPart
  dsimp only
  cases found : lookup UploadPart.partNumber request.partNumber.toNat store.parts with
  | none =>
    have absent := lookup_eq_none_iff.mp found
    rw [if_neg]
    · simp
    · rintro listed
      obtain ⟨part, mem, same⟩ := List.mem_map.mp listed
      exact absent part mem same
  | some part =>
    rw [if_pos]
    · exact map_update_where UploadPart.partNumber fun _ => rfl
    · rw [← lookup_key found]
      exact List.mem_map_of_mem (lookup_mem found)

theorem send_part_ok (settings : UploadSettings)
    (hexLower : ∀ bytes, (sha256 bytes).toLower = sha256 bytes)
    (resumable : Resumable sha256 content store) {part : Bytes × Nat}
    (chunk : (chunks store.upload.partSize content)[part.2]? = some part.1)
    (inTime : clock.checked part.2 < store.upload.expiresAt) :
    ∃ next, sendPart settings sha256 clock store part = some next ∧ Resumable sha256 content next ∧
      next.upload.partSize = store.upload.partSize ∧
      next.upload.expiresAt = clock.recorded part.2 + settings.uploadTtlSeconds ∧
      next.versions = store.versions ∧
      (∀ number, number ∈ next.parts.map UploadPart.partNumber ↔
        number ∈ store.parts.map UploadPart.partNumber ∨ number = part.2) := by
  obtain ⟨data, number⟩ := part
  obtain ⟨inRange, length⟩ := chunk_admissible resumable.partSize resumable.size chunk
  let request : PartRequest := ⟨store.upload.ownerId, number, data, sha256 data⟩
  have checked : checkPart sha256 store.upload request (clock.checked number) = .ok () := by
    simp only [checkPart, request, Upload.isActive, resumable.state, inTime, hexLower,
      Int.toNat_natCast, length]
    simp [inRange]
  have existing : checkExistingPart sha256 store.parts request = .ok () := by
    unfold checkExistingPart
    split
    · rfl
    · next row found =>
      obtain ⟨stored, storedChunk, size, hash, -⟩ :=
        resumable.parts row (lookup_mem found)
      have key : row.partNumber = number := lookup_key found
      rw [key, chunk, Option.some.injEq] at storedChunk
      rw [if_neg]
      show ¬(row.size ≠ data.length ∨ row.sha256 ≠ sha256 data)
      rw [size, hash, ← storedChunk]
      simp
  refine ⟨_, put_part_accepted checked existing, ?_, rfl, rfl, rfl, ?_⟩
  · have others : ∀ other, other ≠ number → (store.disk.add (.part number) data).read?
        (.part other) = store.disk.read? (.part other) := by
      intro other different
      apply read_add_other
      simpa using different
    constructor
    · exact resumable.state
    · exact resumable.partSize
    · exact resumable.size
    · exact resumable.hash
    · exact resumable.asset
    · rfl
    · rw [UniqueKey, record_part_numbers]
      split
      · exact resumable.numbers
      · next absent =>
        rw [← concat_eq_append]
        exact List.Nodup.concat absent resumable.numbers
    · intro row mem
      show ∃ stored, (chunks store.upload.partSize content)[row.partNumber]? = some stored ∧
        row.size = stored.length ∧ row.sha256 = sha256 stored ∧
        (store.disk.add (.part number) data).read? (.part row.partNumber) = some stored
      have kept : ∀ old ∈ store.parts, old.partNumber ≠ number → row = old → ∃ stored,
          (chunks store.upload.partSize content)[row.partNumber]? = some stored ∧
          row.size = stored.length ∧ row.sha256 = sha256 stored ∧
          (store.disk.add (.part number) data).read? (.part row.partNumber) = some stored := by
        rintro old oldMem different rfl
        obtain ⟨stored, storedChunk, size, hash, file⟩ := resumable.parts row oldMem
        exact ⟨stored, storedChunk, size, hash, (others _ different).trans file⟩
      unfold recordPart at mem
      dsimp only [request, ObjectStore.writePart, Int.toNat_natCast] at mem
      cases found : lookup UploadPart.partNumber number store.parts with
      | none =>
        rw [found] at mem
        rcases mem_append.mp mem with old | new
        · exact kept row old (lookup_eq_none_iff.mp found row old) rfl
        · rw [mem_singleton.mp new]
          exact ⟨data, chunk, rfl, rfl, read_add_self⟩
      | some stored =>
        rw [found] at mem
        obtain ⟨old, oldMem, same⟩ := mem_update_where.mp mem
        split at same
        · next own =>
          rw [← same, own]
          exact ⟨data, chunk, rfl, rfl, read_add_self⟩
        · next other => exact kept old oldMem other same.symm
    · intro old read
      apply resumable.object old
      rw [← read]
      exact (read_add_other (by simp)).symm
  · intro other
    rw [record_part_numbers]
    show other ∈ (if number ∈ _ then _ else _) ↔ _
    split
    · next listed =>
      constructor
      · exact Or.inl
      · rintro (old | rfl)
        · exact old
        · exact listed
    · rw [mem_append, mem_singleton]
      rfl

theorem send_parts_ok (hexLower : ∀ bytes, (sha256 bytes).toLower = sha256 bytes)
    {parts : List (Bytes × Nat)} (resumable : Resumable sha256 content store)
    (sent : ∀ part ∈ parts, (chunks store.upload.partSize content)[part.2]? = some part.1)
    (inTime : InTime settings clock store.upload.expiresAt parts) :
    ∃ next, sendParts settings sha256 clock store parts = some next ∧
      Resumable sha256 content next ∧ next.upload.partSize = store.upload.partSize ∧
      clock.completed < next.upload.expiresAt ∧ next.versions = store.versions ∧
      (∀ number, number ∈ next.parts.map UploadPart.partNumber ↔
        number ∈ store.parts.map UploadPart.partNumber ∨ number ∈ parts.map Prod.snd) := by
  induction parts generalizing store with
  | nil => exact ⟨store, rfl, resumable, rfl, inTime, rfl, by simp⟩
  | cons part rest ih =>
    obtain ⟨middle, accepted, still, partSize, expiry, versions, numbers⟩ :=
      send_part_ok settings hexLower resumable (sent part mem_cons_self) inTime.1
    have remaining : ∀ other ∈ rest,
        (chunks middle.upload.partSize content)[other.2]? = some other.1 := by
      intro other mem
      rw [partSize]
      exact sent other (mem_cons_of_mem part mem)
    obtain ⟨next, done, finally_, sameSize, ready, sameVersions, listed⟩ :=
      ih still remaining (expiry ▸ inTime.2)
    refine ⟨next, ?_, finally_, sameSize.trans partSize, ready, sameVersions.trans versions, ?_⟩
    · rw [sendParts, foldlM_cons, accepted]
      exact done
    · intro number
      rw [listed, numbers, map_cons, mem_cons]
      tauto

theorem sent_numbers_complete {received : List Nat} {next : ObjectStore}
    (known : ∀ number ∈ received, number ∈ store.parts.map UploadPart.partNumber)
    (resumable : Resumable sha256 content next)
    (partSize : next.upload.partSize = store.upload.partSize)
    (numbers : ∀ number, number ∈ next.parts.map UploadPart.partNumber ↔
      number ∈ store.parts.map UploadPart.partNumber ∨
      number ∈ (unsentParts received (chunks store.upload.partSize content)).map Prod.snd) :
    (next.parts.map UploadPart.partNumber).Perm
      (List.range (chunks store.upload.partSize content).length) := by
  rw [perm_ext_iff_of_nodup resumable.numbers nodup_range]
  intro number
  rw [mem_range]
  constructor
  · intro listed
    obtain ⟨part, mem, rfl⟩ := List.mem_map.mp listed
    obtain ⟨chunk, found, -⟩ := resumable.parts part mem
    rw [partSize] at found
    exact (List.getElem?_eq_some_iff.mp found).1
  · intro below
    rw [numbers]
    by_cases skipped : number ∈ received
    · exact .inl (known number skipped)
    · right
      obtain ⟨chunk, found⟩ : ∃ chunk,
          (chunks store.upload.partSize content)[number]? = some chunk :=
        ⟨_, getElem?_eq_getElem below⟩
      refine List.mem_map.mpr ⟨(chunk, number), mem_filter.mpr ⟨?_, by simpa using skipped⟩, rfl⟩
      exact mem_zipIdx_iff_getElem?.mpr found

structure Assembling (content : Bytes) (store next : ObjectStore) (assembly : Assembly) : Prop where
  rest : next = { store with disk := next.disk }
  link : next.disk.link .assembled = some assembly.file
  written : next.disk.contents[assembly.file]? = some assembly.read
  read : assembly.read = ((chunks store.upload.partSize content).take assembly.number).flatten
  parts : ∀ number, next.disk.read? (.part number) = store.disk.read? (.part number)
  object : next.disk.read? .object = store.disk.read? .object

theorem open_assembled_ok (resumable : Resumable sha256 content store) :
    ∃ opened, openAssembled store = some opened ∧ opened.2.number = 0 ∧
      Assembling content store opened.1 opened.2 := by
  refine ⟨_, by rw [openAssembled, if_pos resumable.directory], rfl, ?_⟩
  constructor
  · rfl
  · exact truncate_link_self
  · exact truncate_contents_self
  · rfl
  · intro number
    exact read_truncate_other (by simp)
  · exact read_truncate_other (by simp)

theorem copy_part_ok {next : ObjectStore} {assembly : Assembly} {chunk : Bytes}
    (assembling : Assembling content store next assembly)
    (found : (chunks store.upload.partSize content)[assembly.number]? = some chunk)
    (file : store.disk.read? (.part assembly.number) = some chunk) :
    ∃ copied, copyPart next assembly = some copied ∧
      copied.2.number = assembly.number + 1 ∧ Assembling content store copied.1 copied.2 := by
  have other : ∀ path : UploadPath, path ≠ .assembled →
      (next.disk.writeAt assembly.file assembly.read.length chunk).read? path =
        next.disk.read? path := by
    intro path different
    apply read_modify_other
    intro linked
    exact different (next.disk.single path .assembled assembly.file linked assembling.link)
  refine ⟨_, by rw [copyPart, assembling.parts, file]; rfl, rfl, ?_⟩
  constructor
  · rw [assembling.rest]
  · exact assembling.link
  · show (next.disk.modify _ _).contents[assembly.file]? = _
    rw [modify_contents_self, assembling.written, map_some, write_bytes_end]
  · show assembly.read ++ chunk = ((chunks _ content).take (assembly.number + 1)).flatten
    obtain ⟨bound, same⟩ := List.getElem?_eq_some_iff.mp found
    rw [assembling.read, ← take_concat_get' _ _ bound, same]
    simp
  · intro number
    exact (other (.part number) (by simp)).trans (assembling.parts number)
  · exact (other .object (by simp)).trans assembling.object

theorem copy_parts_ok {next : ObjectStore} {assembly : Assembly} {input : UploadInput}
    (stored : ∀ number chunk, (chunks store.upload.partSize content)[number]? = some chunk →
      store.disk.read? (.part number) = some chunk)
    (total : store.upload.assembledParts = (chunks store.upload.partSize content).length)
    (assembling : Assembling content store next assembly) (count : Nat)
    (left : assembly.number + count = (chunks store.upload.partSize content).length) :
    ∃ last whole, (uploadRoutine settings sha256).alone
        (next, some (.copyParts store.upload assembly)) (List.replicate count input) =
          some (last, some (.copyParts store.upload whole)) ∧
      whole.number = (chunks store.upload.partSize content).length ∧
      Assembling content store last whole := by
  induction count generalizing next assembly with
  | zero => exact ⟨next, assembly, rfl, left, assembling⟩
  | succ count ih =>
    have below : assembly.number < (chunks store.upload.partSize content).length := by omega
    obtain ⟨chunk, found⟩ : ∃ chunk,
        (chunks store.upload.partSize content)[assembly.number]? = some chunk :=
      ⟨_, getElem?_eq_getElem below⟩
    obtain ⟨copied, copy, number, assembled⟩ :=
      copy_part_ok assembling found (stored _ chunk found)
    obtain ⟨last, whole, ran, all, finished⟩ := ih assembled (by omega)
    refine ⟨last, whole, ?_, all, finished⟩
    have step : (uploadRoutine settings sha256).resume next
        (.copyParts store.upload assembly) input =
          some (copied.1, some (.copyParts store.upload copied.2)) := by
      simp [uploadRoutine, resumeUpload, total, below, copy]
    rw [replicate_succ, alone_cons, step]
    exact ran

theorem commit_upload_ok {placed : ObjectStore} {versionId : String} {now : Time}
    (upload : Upload) (uploading : placed.upload.state = .uploading)
    (live : placed.asset.deletedAt = 0) :
    ∃ committed, commitUpload settings placed upload versionId now = .ok committed ∧
      committed.upload.state = .committed ∧ committed.disk = placed.disk ∧
      ∃ version ∈ committed.versions, version.id = versionId ∧
        version.size = upload.expectedSize ∧ version.sha256 = upload.expectedSha256 := by
  let versioned := commitVersion settings placed upload.expectedSize upload.expectedSha256
    versionId now
  refine ⟨{ versioned with upload := { placed.upload with
      state := .committed
      objectVersionId := some versionId
      updatedAt := now
      completedAt := some now } }, ?_, rfl, rfl,
    _, mem_append_right _ (mem_singleton_self _), rfl, rfl, rfl⟩
  rw [commitUpload, if_neg (by simp [uploading]), if_neg (by simp [live])]

theorem finish_upload_ok {last : ObjectStore} {whole : Assembly} {input : UploadInput}
    (resumable : Resumable sha256 content store)
    (total : store.upload.assembledParts = (chunks store.upload.partSize content).length)
    (all : whole.number = (chunks store.upload.partSize content).length)
    (assembled : Assembling content store last whole)
    (fresh : ∀ version ∈ store.versions, version.id ≠ input.uuid) :
    ∃ steps done, (uploadRoutine settings sha256).alone
        (last, some (.copyParts store.upload whole)) (List.replicate steps input) =
          some (done, none) ∧
      done.upload.state = .committed ∧ done.disk.read? .object = some content ∧
      ∃ version ∈ done.versions, version.id = input.uuid ∧ version.size = content.length ∧
        version.sha256 = sha256 content := by
  have read : whole.read = content := by
    rw [assembled.read, all, take_length, chunks_flatten resumable.partSize]
  have matched : whole.matches sha256 store.upload = true := by
    simp [Assembly.matches, read, resumable.size, resumable.hash]
  have checked : (uploadRoutine settings sha256).resume last
      (.copyParts store.upload whole) input = some (last, some (.findObject store.upload)) := by
    simp [uploadRoutine, resumeUpload, total, all, matched]
  -- The transaction, from any store that still has the row, the asset and the object.
  have commits : ∀ placed : ObjectStore, placed = { store with disk := placed.disk } →
      placed.disk.read? .object = some content →
      ∃ done, (uploadRoutine settings sha256).alone (placed, some (.commit store.upload))
          (List.replicate 2 input) = some (done, none) ∧
        done.upload.state = .committed ∧ done.disk.read? .object = some content ∧
        ∃ version ∈ done.versions, version.id = input.uuid ∧ version.size = content.length ∧
          version.sha256 = sha256 content := by
    intro placed same object
    have unused : (placed.versions.any fun version => decide (version.id = input.uuid)) =
        false := by
      rw [same, List.any_eq_false]
      intro version mem
      simpa using fresh version mem
    have uploading : placed.upload.state = .uploading := by
      rw [same]
      exact resumable.state
    have live : placed.asset.deletedAt = 0 := by
      rw [same]
      exact resumable.asset
    obtain ⟨committed, written, state, disk, version, mem, id, size, hash⟩ :=
      @commit_upload_ok settings placed input.uuid input.now store.upload uploading live
    refine ⟨committed.removeDirectory, ?_, state, ?_, version, mem, id, ?_, ?_⟩
    · have step : (uploadRoutine settings sha256).resume placed (.commit store.upload) input =
          some (committed, some .removeDirectory) := by
        simp only [uploadRoutine, resumeUpload, unused, written]
        rfl
      rw [replicate_succ, alone_cons, step]
      rfl
    · rw [← object, ← disk]
      exact read_unlink_kept rfl
    · exact size.trans resumable.size
    · exact hash.trans resumable.hash
  cases present : last.disk.read? .object with
  | some old =>
    have same : old = content := by
      apply resumable.object
      rw [← assembled.object, present]
    have unlinked : last.unlinkAssembled.disk.read? .object = some content := by
      rw [← same, ← present]
      exact read_unlink_kept (by simp)
    obtain ⟨done, ran, facts⟩ := commits last.unlinkAssembled
      (by rw [ObjectStore.unlinkAssembled, assembled.rest]) unlinked
    refine ⟨4, done, ?_, facts⟩
    have step : (uploadRoutine settings sha256).resume last (.findObject store.upload) input =
        some (last.unlinkAssembled, some (.commit store.upload)) := by
      simp [uploadRoutine, resumeUpload, present, same, resumable.size]
    rw [replicate_succ, alone_cons, checked, bind_some, replicate_succ, alone_cons, step]
    exact ran
  | none =>
    obtain ⟨disk, renamed⟩ : ∃ disk, last.disk.rename .assembled .object = some disk := by
      unfold Disk.rename
      split
      · next absent =>
        rw [assembled.link] at absent
        cases absent
      · exact ⟨_, rfl⟩
    have moved : disk.read? .object = some content := by
      rw [rename_read_target renamed, Disk.read?, assembled.link, bind_some,
        assembled.written, read]
    obtain ⟨done, ran, facts⟩ := commits { last with disk := disk } (by rw [assembled.rest]) moved
    refine ⟨5, done, ?_, facts⟩
    have absent : (uploadRoutine settings sha256).resume last (.findObject store.upload) input =
        some (last, some (.replaceObject store.upload)) := by
      simp [uploadRoutine, resumeUpload, present]
    have step : (uploadRoutine settings sha256).resume last (.replaceObject store.upload)
        input = some ({ last with disk := disk }, some (.commit store.upload)) := by
      simp [uploadRoutine, resumeUpload, renamed]
    rw [replicate_succ, alone_cons, checked, bind_some, replicate_succ,
      alone_cons, absent, bind_some, replicate_succ, alone_cons, step]
    exact ran

/-- The client's parts are all accepted, make up with the received ones exactly the parts
that `complete_upload` expects, and the object it stores is the content. -/
theorem chunked_upload_round_trip (versionId : String)
    (hexLower : ∀ bytes, (sha256 bytes).toLower = sha256 bytes)
    (resumable : Resumable sha256 content store) (received : List Nat)
    (known : ∀ number ∈ received, number ∈ store.parts.map UploadPart.partNumber)
    (inTime : InTime settings clock store.upload.expiresAt
      (unsentParts received (chunks store.upload.partSize content)))
    (fresh : ∀ version ∈ store.versions, version.id ≠ versionId) :
    ∃ sent, sendParts settings sha256 clock store
        (unsentParts received (chunks store.upload.partSize content)) = some sent ∧
      store.upload.assembledParts = (chunks store.upload.partSize content).length ∧
      (sent.parts.map UploadPart.partNumber).Perm
        (List.range (chunks store.upload.partSize content).length) ∧
      ∃ steps done, (uploadRoutine settings sha256).serve sent (.completeUpload sent.upload.ownerId)
          (List.replicate steps ⟨clock.completed, versionId⟩) = some done ∧
        done.upload.state = .committed ∧ done.disk.read? .object = some content ∧
        ∃ version ∈ done.versions, version.id = versionId ∧ version.size = content.length ∧
          version.sha256 = sha256 content := by
  have requested : ∀ part ∈ unsentParts received (chunks store.upload.partSize content),
      (chunks store.upload.partSize content)[part.2]? = some part.1 := by
    intro part mem
    exact mem_zipIdx_iff_getElem?.mp (mem_of_mem_filter mem)
  obtain ⟨sent, accepted, still, partSize, active, versions, numbers⟩ :=
    send_parts_ok hexLower resumable requested inTime
  have complete := sent_numbers_complete known still partSize numbers
  have total := assembled_parts_chunks resumable.partSize resumable.size
  refine ⟨sent, accepted, total, complete, ?_⟩
  rw [← partSize] at complete
  have sentTotal := assembled_parts_chunks still.partSize still.size
  have stored : ∀ number chunk, (chunks sent.upload.partSize content)[number]? = some chunk →
      sent.disk.read? (.part number) = some chunk := by
    intro number chunk found
    have below := (List.getElem?_eq_some_iff.mp found).1
    obtain ⟨part, mem, rfl⟩ :=
      List.mem_map.mp (complete.mem_iff.mpr (mem_range.mpr below))
    obtain ⟨own, ownFound, -, -, file⟩ := still.parts part mem
    rwa [← Option.some.inj (ownFound.symm.trans found)]
  obtain ⟨opened, opens, first, assembling⟩ := open_assembled_ok still
  obtain ⟨last, whole, ran, all, assembled⟩ := copy_parts_ok stored sentTotal assembling
    (chunks sent.upload.partSize content).length (by omega)
  have unused : ∀ version ∈ sent.versions,
      version.id ≠ (⟨clock.completed, versionId⟩ : UploadInput).uuid := versions ▸ fresh
  obtain ⟨steps, done, finished, facts⟩ :=
    finish_upload_ok still sentTotal all assembled unused
  refine ⟨2 + ((chunks sent.upload.partSize content).length + steps), done, ?_, facts⟩
  have called : (uploadRoutine settings sha256).call sent
      (.completeUpload sent.upload.ownerId) = some (sent, some (.listParts sent.upload)) := by
    simp [uploadRoutine, callUpload]
  have listed : (uploadRoutine settings sha256).resume sent (.listParts sent.upload)
      ⟨clock.completed, versionId⟩ = some (sent, some (.openAssembled sent.upload)) := by
    have checked : checkComplete sent sent.upload clock.completed = .ok .proceed := by
      have exact_ : (sent.parts.map UploadPart.partNumber).isPerm
          (List.range sent.upload.assembledParts) = true := by
        rw [isPerm_iff, sentTotal]
        exact complete
      simp [checkComplete, still.state, Upload.isActive, active, exact_]
    simp [uploadRoutine, resumeUpload, checked]
  have opening : (uploadRoutine settings sha256).resume sent (.openAssembled sent.upload)
      ⟨clock.completed, versionId⟩ = some (opened.1, some (.copyParts sent.upload opened.2)) := by
    simp [uploadRoutine, resumeUpload, opens]
  rw [Routine.serve, called, bind_some, replicate_add, replicate_succ,
    replicate_succ, replicate_zero, cons_append, cons_append, nil_append,
    alone_cons, listed, bind_some, alone_cons, opening, bind_some,
    replicate_add, alone_append ran, finished]
  rfl

end

def uploadDefaultSettings : UploadSettings := ⟨86400, 2592000⟩

def letters : Bytes := [97, 98, 99, 100, 101]

def letterDigests : List (Bytes × String) :=
  [([97, 98], "fb8e20fc2e4c3f248c60c39bd652f3c1347298bb977b8b4d5903b85055620603"),
    ([99, 100], "21e721c35a5823fdb452fa2f9f0a612c74fb952e06927489c6b27a43b817bed4"),
    ([101], "3f79bb7b435b05321651daefd374cdc681dc06faa65e374e38337b88ca046dea"),
    (letters, "36bbe50ed96841d10443bcb670d6554f0a34b761be67ec9c4a8ad2c0c44ca42c")]

def letterDigest (bytes : Bytes) : String :=
  ((letterDigests.find? fun entry => entry.1 = bytes).map Prod.snd).getD ""

theorem letter_digest_lower (bytes : Bytes) : (letterDigest bytes).toLower = letterDigest bytes := by
  have listed : ∀ entry ∈ letterDigests, entry.2.toLower = entry.2 := by decide +kernel
  unfold letterDigest
  cases found : letterDigests.find? fun entry => entry.1 = bytes with
  | none => decide +kernel
  | some entry => exact listed entry (mem_of_find?_eq_some found)

def interruptedUpload : ObjectStore where
  upload :=
    { id := "upload", assetId := "asset", ownerId := "owner", expectedSize := 5
      expectedSha256 := letterDigest letters, partSize := 2, state := .uploading
      objectVersionId := none, updatedAt := 0, expiresAt := 86400, completedAt := none }
  parts := [⟨1, 2, letterDigest [99, 100], 0⟩]
  versions := []
  asset :=
    { id := "asset", ownerId := "owner", size := 5, sha256 := "", storageState := "metadata"
      objectRef := "", validationStatus := "pending", version := 1, updatedAt := 0
      deletedAt := 0 }
  directory := true
  disk := noFiles.add (.part 1) [99, 100]

theorem interrupted_upload_resumable : Resumable letterDigest letters interruptedUpload := by
  constructor
  · rfl
  · decide
  · rfl
  · rfl
  · rfl
  · rfl
  · simp [UniqueKey, interruptedUpload]
  · intro part mem
    rw [mem_singleton.mp mem]
    exact ⟨[99, 100], by decide +kernel, rfl, rfl, read_add_self⟩
  · intro old read
    have absent : interruptedUpload.disk.read? .object = none := by decide +kernel
    rw [absent] at read
    cases read

theorem resumed_upload_round_trip : ∃ sent,
    sendParts uploadDefaultSettings letterDigest ⟨fun _ => 1, fun _ => 2, 3⟩ interruptedUpload
      (unsentParts [1] (chunks 2 letters)) = some sent ∧
    ∃ steps done, (uploadRoutine uploadDefaultSettings letterDigest).serve sent
        (.completeUpload sent.upload.ownerId) (List.replicate steps ⟨3, "version"⟩) = some done ∧
      done.disk.read? .object = some letters := by
  have inTime : InTime uploadDefaultSettings ⟨fun _ => 1, fun _ => 2, 3⟩
      interruptedUpload.upload.expiresAt
      (unsentParts [1] (chunks interruptedUpload.upload.partSize letters)) := by
    have parts : unsentParts [1] (chunks interruptedUpload.upload.partSize letters) =
        [([97, 98], 0), ([101], 2)] := by decide +kernel
    rw [parts]
    simp only [InTime]
    norm_num [interruptedUpload, uploadDefaultSettings]
  obtain ⟨sent, accepted, -, -, steps, done, served, -, object, -⟩ :=
    chunked_upload_round_trip "version" letter_digest_lower interrupted_upload_resumable [1]
      (by simp [interruptedUpload]) inTime (by simp [interruptedUpload])
  exact ⟨sent, accepted, steps, done, served, object⟩

end AgentMate
