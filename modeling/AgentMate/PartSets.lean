import AgentMate.AssetUpload
import AgentMate.Rollback
import Mathlib.Algebra.BigOperators.Group.Finset.Basic
import Mathlib.Algebra.Order.BigOperators.Group.Finset
import Mathlib.Data.Finset.Dedup

/-!
# The parts that an upload takes and the parts that it waits for

`put_part` counts at least one part, `complete_upload` none for an empty object. The sizes that
`put_part` asks for leave no other difference.
-/

namespace AgentMate.PartSets

open FileLinks List

/-- One call of `put_part`, checked and recorded at the two times. -/
structure PartCall where
  request : PartRequest
  checked : Time
  recorded : Time

section

variable {settings : UploadSettings} {sha256 : Bytes → String} {store next finish : ObjectStore}

/-- `put_part` without another call in between. -/
def putPart (settings : UploadSettings) (sha256 : Bytes → String) (store : ObjectStore)
    (call : PartCall) : Except UploadError ObjectStore := do
  checkPart sha256 store.upload call.request call.checked
  checkExistingPart sha256 store.parts call.request
  return recordPart settings sha256 (store.writePart call.request) call.request call.recorded

/-- The stored parts have different numbers, each below the count, and the sizes asked for. -/
structure PartsFit (store : ObjectStore) : Prop where
  unique : (store.parts.map UploadPart.partNumber).Nodup
  below : ∀ number ∈ store.parts.map UploadPart.partNumber, number < store.upload.totalParts
  sizes : ∀ part ∈ store.parts, part.size = store.upload.requiredSize part.partNumber

structure PartTaken (store next : ObjectStore) (call : PartCall) : Prop where
  expectedSize : next.upload.expectedSize = store.upload.expectedSize
  partSize : next.upload.partSize = store.upload.partSize
  numbers : ∀ number, number ∈ next.parts.map UploadPart.partNumber ↔
    number ∈ store.parts.map UploadPart.partNumber ∨ number = call.request.partNumber.toNat

theorem check_part_ok {upload : Upload} {request : PartRequest} {now : Time}
    (accepted : checkPart sha256 upload request now = .ok ()) :
    request.partNumber.toNat < upload.totalParts ∧
      request.data.length = upload.requiredSize request.partNumber.toNat := by
  simp only [checkPart] at accepted
  split at accepted
  · cases accepted
  · split at accepted
    · cases accepted
    · split at accepted
      · cases accepted
      · next inside =>
        split at accepted
        · cases accepted
        · next size => exact ⟨by omega, not_not.mp size⟩

theorem put_part_fits {call : PartCall} (fits : PartsFit store)
    (done : putPart settings sha256 store call = .ok next) :
    PartsFit next ∧ PartTaken store next call := by
  obtain ⟨⟨⟩, checked, rest⟩ := Rollback.bind_ok done
  obtain ⟨_, -, rest⟩ := Rollback.bind_ok rest
  cases rest
  obtain ⟨inside, size⟩ := check_part_ok checked
  have numbers : (recordPart settings sha256 (store.writePart call.request) call.request
      call.recorded).parts.map UploadPart.partNumber = _ := record_part_numbers
  have listed : ∀ number, number ∈ (recordPart settings sha256 (store.writePart call.request)
        call.request call.recorded).parts.map UploadPart.partNumber ↔
      number ∈ store.parts.map UploadPart.partNumber ∨ number = call.request.partNumber.toNat := by
    intro number
    rw [numbers]
    split
    · next known =>
      constructor
      · exact .inl
      · rintro (old | rfl)
        · exact old
        · exact known
    · simp [ObjectStore.writePart]
  refine ⟨⟨?_, ?_, ?_⟩, rfl, rfl, listed⟩
  · rw [numbers]
    split
    · exact fits.unique
    · next fresh => exact nodup_append.mpr ⟨fits.unique, nodup_singleton _, by
        intro left old right single same
        rw [mem_singleton.mp single] at same
        exact fresh (same ▸ old)⟩
  · intro number mem
    rcases (listed number).mp mem with old | rfl
    · exact fits.below number old
    · exact inside
  · intro part mem
    change part.size = store.upload.requiredSize part.partNumber
    simp only [recordPart, ObjectStore.writePart] at mem
    split at mem
    · obtain ⟨row, old, rfl⟩ := Table.mem_update_where.mp mem
      split
      · next same =>
        rw [← same] at size
        exact size
      · exact fits.sizes row old
    · rcases mem_append.mp mem with old | new
      · exact fits.sizes part old
      · rw [mem_singleton.mp new]
        exact size

def putParts (settings : UploadSettings) (sha256 : Bytes → String) (store : ObjectStore)
    (calls : List PartCall) : Except UploadError ObjectStore :=
  calls.foldlM (putPart settings sha256) store

theorem put_parts_fit {calls : List PartCall} (fits : PartsFit store)
    (done : putParts settings sha256 store calls = .ok finish) :
    PartsFit finish ∧ finish.upload.expectedSize = store.upload.expectedSize ∧
      finish.upload.partSize = store.upload.partSize ∧
      ∀ number, number ∈ finish.parts.map UploadPart.partNumber ↔
        number ∈ store.parts.map UploadPart.partNumber ∨
          ∃ call ∈ calls, number = call.request.partNumber.toNat := by
  induction calls generalizing store with
  | nil =>
    cases done
    exact ⟨fits, rfl, rfl, by simp⟩
  | cons call rest ih =>
    obtain ⟨middle, first, remaining⟩ := Rollback.fold_cons_ok done
    obtain ⟨middleFits, taken⟩ := put_part_fits fits first
    obtain ⟨finishFits, size, partSize, numbers⟩ := ih middleFits remaining
    refine ⟨finishFits, size.trans taken.expectedSize, partSize.trans taken.partSize, ?_⟩
    intro number
    rw [numbers, taken.numbers, or_assoc]
    simp

/-- The sizes that `put_part` asks for add up to the declared size. -/
theorem required_sizes (upload : Upload) (positive : 0 < upload.partSize) :
    ∑ number ∈ Finset.range upload.totalParts, upload.requiredSize number =
      upload.expectedSize := by
  obtain ⟨last, total⟩ : ∃ last, upload.totalParts = last + 1 := by
    refine ⟨upload.totalParts - 1, ?_⟩
    have least : 1 ≤ upload.totalParts := le_max_left 1 _
    omega
  have whole : ∀ number ∈ Finset.range last, upload.requiredSize number = upload.partSize := by
    intro number mem
    rw [Upload.requiredSize, if_pos (by rw [total]; simpa using mem)]
  have covered : last * upload.partSize ≤ upload.expectedSize := by
    rcases Nat.eq_zero_or_pos last with zero | many
    · simp [zero]
    · have below : last < upload.totalParts := by omega
      rw [Upload.totalParts] at below total
      have inside := (ChunkedBytes.lt_ceil_iff positive last upload.expectedSize).mp (by omega)
      exact inside.le
  rw [total, Finset.sum_range_succ, Finset.sum_const_nat whole, Finset.card_range,
    Upload.requiredSize, if_neg (by omega), mul_comm last]
  rw [mul_comm] at covered
  omega

theorem required_size_pos {upload : Upload} (positive : 0 < upload.partSize)
    (content : 0 < upload.expectedSize) {number : Nat} (inside : number < upload.totalParts) :
    0 < upload.requiredSize number := by
  rw [Upload.requiredSize]
  split
  · exact positive
  · have many : 1 ≤ (upload.expectedSize + upload.partSize - 1) / upload.partSize := by
      rw [Nat.le_div_iff_mul_le positive]
      omega
    rw [Upload.totalParts, max_eq_right many] at inside
    have starts := (ChunkedBytes.lt_ceil_iff positive number upload.expectedSize).mp inside
    rw [mul_comm] at starts
    omega

/-- Parts that fit and have the declared size together are all the parts. -/
theorem all_parts_of_size (positive : 0 < store.upload.partSize)
    (content : 0 < store.upload.expectedSize) (fits : PartsFit store)
    (whole : (store.parts.map UploadPart.size).sum = store.upload.expectedSize) :
    (store.parts.map UploadPart.partNumber).Perm (List.range store.upload.totalParts) := by
  have sizes : (store.parts.map UploadPart.size).sum =
      ∑ number ∈ (store.parts.map UploadPart.partNumber).toFinset,
        store.upload.requiredSize number := by
    rw [sum_toFinset _ fits.unique, map_map]
    exact congrArg List.sum (map_congr_left fits.sizes)
  have inside : (store.parts.map UploadPart.partNumber).toFinset ⊆
      Finset.range store.upload.totalParts := by
    intro number mem
    exact Finset.mem_range.mpr (fits.below number (mem_toFinset.mp mem))
  rw [perm_ext_iff_of_nodup fits.unique nodup_range]
  intro number
  constructor
  · exact fun mem => mem_range.mpr (fits.below number mem)
  · intro mem
    by_contra missing
    have less := Finset.sum_lt_sum_of_subset (f := store.upload.requiredSize) inside
      (Finset.mem_range.mpr (mem_range.mp mem)) (fun listed =>
        missing (mem_toFinset.mp listed))
      (required_size_pos positive content (mem_range.mp mem)) (by simp)
    rw [required_sizes store.upload positive, ← sizes, whole] at less
    exact lt_irrefl _ less

theorem check_complete_iff {now : Time} (active : store.upload.isActive now = true) :
    checkComplete store store.upload now = .ok .proceed ↔
      (store.parts.map UploadPart.partNumber).Perm (List.range store.upload.assembledParts) := by
  have uploading : store.upload.state = .uploading := by
    simp only [Upload.isActive, Bool.and_eq_true, decide_eq_true_eq] at active
    exact active.1
  rw [checkComplete, uploading]
  simp only [active, Bool.not_true, Bool.false_eq_true, if_false, Bool.not_eq_true', ← isPerm_iff]
  split <;> simp_all

/-- Parts of the declared size that were taken make a complete upload, exactly when the object is
not empty or no part was taken. -/
theorem part_set_complete (positive : 0 < store.upload.partSize) (fresh : store.parts = [])
    {calls : List PartCall} (accepted : putParts settings sha256 store calls = .ok finish)
    (whole : (finish.parts.map UploadPart.size).sum = store.upload.expectedSize) {now : Time}
    (active : finish.upload.isActive now = true) :
    (checkComplete finish finish.upload now = .ok .proceed ∧ ∀ call ∈ calls,
      call.request.partNumber.toNat ∈ List.range finish.upload.assembledParts) ↔
      (store.upload.expectedSize ≠ 0 ∨ calls = []) := by
  have start : PartsFit store := ⟨by simp [fresh], by simp [fresh], by simp [fresh]⟩
  obtain ⟨fits, size, partSize, numbers⟩ := put_parts_fit start accepted
  simp only [fresh, map_nil, not_mem_nil, false_or] at numbers
  rw [check_complete_iff active]
  by_cases empty : store.upload.expectedSize = 0
  · have none : finish.upload.assembledParts = 0 := by
      rw [Upload.assembledParts, if_pos (size.trans empty)]
    rw [none, range_zero, perm_nil]
    constructor
    · intro both
      refine .inr (eq_nil_iff_forall_not_mem.mpr ?_)
      intro call mem
      exact absurd (both.2 call mem) (not_mem_nil)
    · rintro (nonzero | rfl)
      · exact absurd empty nonzero
      · refine ⟨eq_nil_iff_forall_not_mem.mpr ?_, by simp⟩
        intro number mem
        obtain ⟨call, listed, -⟩ := (numbers number).mp mem
        cases listed
  · have counts : finish.upload.assembledParts = finish.upload.totalParts := by
      rw [Upload.assembledParts, if_neg (by omega), Upload.totalParts, max_eq_right]
      rw [Nat.le_div_iff_mul_le (by omega)]
      omega
    have all := all_parts_of_size (by omega) (by omega) fits (whole.trans size.symm)
    rw [counts]
    refine iff_of_true ⟨all, ?_⟩ (.inl empty)
    intro call mem
    exact all.mem_iff.mp ((numbers _).mpr ⟨call, mem, rfl⟩)

end

def freshUpload (size : Nat) : ObjectStore :=
  { interruptedUpload with
    upload := { interruptedUpload.upload with expectedSize := size }
    parts := [] }

def emptyDigest : String := "e3b0c44298fc1c149afbf4c8996fb92427ae41e4649b934ca495991b7852b855"

def digestOrEmpty (bytes : Bytes) : String := if bytes = [] then emptyDigest else letterDigest bytes

def onePart (data : Bytes) : PartCall := ⟨⟨"owner", 0, data, digestOrEmpty data⟩, 1, 1⟩

def afterPart (size : Nat) (data : Bytes) : ObjectStore :=
  recordPart uploadDefaultSettings digestOrEmpty
    ((freshUpload size).writePart (onePart data).request) (onePart data).request 1

theorem one_part_taken : ∀ data ∈ [[], [97, 98]],
    putParts uploadDefaultSettings digestOrEmpty (freshUpload data.length) [onePart data] =
      .ok (afterPart data.length data) := by
  have lower : ∀ data ∈ [[], [97, 98]], (digestOrEmpty data).toLower = digestOrEmpty data := by
    decide +kernel
  intro data mem
  have taken : ∀ size, size = 0 ∨ size = 2 → data.length = size →
      checkPart digestOrEmpty (freshUpload size).upload (onePart data).request 1 = .ok () := by
    intro size either same
    rw [checkPart]
    rcases either with rfl | rfl <;>
      simp [freshUpload, interruptedUpload, onePart, Upload.isActive, Upload.totalParts,
        Upload.requiredSize, same, lower data mem]
  have size : data.length = 0 ∨ data.length = 2 := by
    rcases mem_cons.mp mem with rfl | mem
    · exact .inl rfl
    · rw [mem_singleton.mp mem]
      exact .inr rfl
  have checked := taken data.length size rfl
  simp only [putParts, foldlM_cons, foldlM_nil, putPart, onePart] at checked ⊢
  rw [checked]
  rfl

theorem two_bytes_complete :
    checkComplete (afterPart 2 [97, 98]) (afterPart 2 [97, 98]).upload 1 = .ok .proceed := by
  have taken := one_part_taken [97, 98] (by simp)
  refine ((part_set_complete (by decide) rfl taken rfl ?_).mpr (.inl (by decide))).1
  decide +kernel

theorem empty_part_rejected :
    putParts uploadDefaultSettings digestOrEmpty (freshUpload 0) [onePart []] =
      .ok (afterPart 0 []) ∧
    ((afterPart 0 []).parts.map UploadPart.size).sum = 0 ∧
    (afterPart 0 []).upload.isActive 1 = true ∧
    checkComplete (afterPart 0 []) (afterPart 0 []).upload 1 =
      .error (.conflict "upload has missing parts") := by
  have active : (afterPart 0 []).upload.isActive 1 = true := by decide +kernel
  refine ⟨one_part_taken [] (by simp), rfl, active, ?_⟩
  have uploading : (afterPart 0 []).upload.state = .uploading := rfl
  simp only [checkComplete, uploading, active]
  rfl

end AgentMate.PartSets
