import AgentMate.WebhookDeliveries

/-!
# The content hash of a skill package

`_content_hash` writes the files one after another, each as its path, a zero byte and its
data. Neither the number of files nor the length of a file is written.
-/

namespace AgentMate.PackageHash

open TextKeys List

/-- `path.replace("\\", "/")` -/
def slashed (text : String) : String :=
  String.ofList (text.toList.map fun char => if char = '\\' then '/' else char)

theorem slashed_plain {text : String} (plain : '\\' ∉ text.toList) : slashed text = text := by
  have same : text.toList.map (fun char => if char = '\\' then '/' else char) = text.toList.map id :=
    map_congr_left fun char listed => if_neg fun back => plain (by rwa [← back])
  rw [slashed, same, map_id, String.ofList_toList]

theorem slashed_back (text : String) : '\\' ∉ (slashed text).toList := by
  rw [slashed, String.toList_ofList]
  intro listed
  obtain ⟨char, -, same⟩ := mem_map.mp listed
  split_ifs at same with back
  · exact absurd same (by decide)
  · exact back same

/-- A path without NUL: no file system takes one, and `zipfile` cuts a name there. -/
@[ext] structure PackagePath where
  text : String
  plain : 0 ∉ utf8 (slashed text)
  deriving DecidableEq

def PackagePath.slashed (path : PackagePath) : PackagePath where
  text := PackageHash.slashed path.text
  plain := by
    rw [slashed_plain (slashed_back _)]
    exact path.plain

@[ext] structure PackageFile where
  path : PackagePath
  data : List UInt8

/-- A file as `scan_package` takes it up. -/
def PackageFile.material (file : PackageFile) : PackageFile := { file with path := file.path.slashed }

structure Package where
  files : List PackageFile
  distinct : (files.map (·.path)).Nodup

inductive Verdict where
  | safe | warning | dangerous
  deriving DecidableEq, Repr

/-- SHA-256 is taken as collision-free; `verdict` is what the rules of `scan_package` find. -/
structure SecurityHost where
  casefold : String → String
  sha256 : List UInt8 → String
  sha256_injective : Function.Injective sha256
  verdict : List PackageFile → Verdict

def PackageFile.bytes (file : PackageFile) : List UInt8 := utf8 (slashed file.path.text) ++ 0 :: file.data

structure ScanReport where
  trustLevel : String
  verdict : Verdict
  contentHash : String

def ScanReport.requiresConfirmation (report : ScanReport) : Bool :=
  report.verdict = .warning && report.trustLevel ∉ ["agentmate", "trusted"]

def ScanReport.allowsRuntime (report : ScanReport) (warningsAccepted : Bool) : Bool :=
  report.verdict ≠ .dangerous && (!report.requiresConfirmation || warningsAccepted)

section

variable (host : SecurityHost)

def SecurityHost.sorted (files : List PackageFile) : List PackageFile :=
  files.insertionSort fun left right => host.casefold left.path.text ≤ host.casefold right.path.text

/-- The bytes that `_content_hash` feeds to the digest. -/
def SecurityHost.contentBytes (files : List PackageFile) : List UInt8 :=
  (host.sorted files).flatMap PackageFile.bytes

def SecurityHost.contentHash (files : List PackageFile) : String := host.sha256 (host.contentBytes files)

def SecurityHost.scanPackage (files : List PackageFile) (trustLevel : String) : ScanReport :=
  let material := files.map PackageFile.material
  ⟨trustLevel, host.verdict material, host.contentHash material⟩

/-- `security_allows_runtime`: the live files, the stored acceptance and the hash of the stored
report. -/
def SecurityHost.securityAllowsRuntime (files : List PackageFile) (trustLevel : String)
    (setting persisted : Option String) : Bool :=
  let report := host.scanPackage files trustLevel
  report.allowsRuntime (setting = some report.contentHash && persisted = some report.contentHash)

def Identifies (package : Package) : Prop :=
  ∀ other : Package, host.contentHash other.files = host.contentHash package.files ↔
    other.files.Perm package.files

/-- What was accepted for the package lets no other package with a warning run. -/
def CoversOnly (package : Package) : Prop :=
  ∀ (other : Package) (trustLevel reviewed : String),
    let accepted := (host.scanPackage package.files reviewed).contentHash
    (host.scanPackage other.files trustLevel).requiresConfirmation = true →
    host.securityAllowsRuntime other.files trustLevel (some accepted) (some accepted) = true →
      other.files.Perm package.files

/-- The package has at most one file, whose path has no separator and whose data does not read
as the end of one file and another file that sorts behind it. -/
def Separable (package : Package) : Prop :=
  package.files = [] ∨ ∃ file, package.files = [file] ∧
    ('/' ∉ file.path.text.toList ∧ '\\' ∉ file.path.text.toList) ∧
    ∀ (before : List UInt8) (next : PackageFile), next.path ≠ file.path →
      host.casefold file.path.text ≤ host.casefold next.path.text → file.data ≠ before ++ next.bytes

end

theorem path_unique {path other : PackagePath}
    (plain : '/' ∉ path.text.toList ∧ '\\' ∉ path.text.toList)
    (same : slashed other.text = slashed path.text) : other = path := by
  have forward : '\\' ∉ other.text.toList := by
    intro back
    apply plain.1
    rw [← slashed_plain plain.2, ← same, slashed, String.toList_ofList]
    exact mem_map.mpr ⟨'\\', back, rfl⟩
  rw [slashed_plain plain.2, slashed_plain forward] at same
  exact PackagePath.ext same

theorem other_path {path : PackagePath} (separated : '/' ∈ path.text.toList ∨ '\\' ∈ path.text.toList) :
    ∃ other : PackagePath, other ≠ path ∧ slashed other.text = slashed path.text := by
  by_cases back : '\\' ∈ path.text.toList
  · have same : slashed (slashed path.text) = slashed path.text := slashed_plain (slashed_back _)
    refine ⟨⟨slashed path.text, by rw [same]; exact path.plain⟩, fun equal => ?_, same⟩
    have texts : slashed path.text = path.text := congrArg PackagePath.text equal
    exact slashed_back path.text (by rwa [texts])
  · obtain ⟨text, same, backward⟩ : ∃ text, slashed text = slashed path.text ∧ '\\' ∈ text.toList := by
      refine ⟨String.ofList (path.text.toList.map fun char => if char = '/' then '\\' else char), ?_, ?_⟩
      · rw [slashed, slashed, String.toList_ofList, map_map]
        congr 1
        refine map_congr_left fun char listed => ?_
        have other : char ≠ '\\' := fun own => back (by rwa [← own])
        by_cases forward : char = '/' <;> simp [forward, other]
      · rw [String.toList_ofList]
        exact mem_map.mpr ⟨'/', separated.resolve_right back, rfl⟩
    refine ⟨⟨text, by rw [same]; exact path.plain⟩, fun equal => back ?_, same⟩
    rw [← congrArg PackagePath.text equal]
    exact backward

section

variable {host : SecurityHost}

variable (host) in
theorem sorted_perm (files : List PackageFile) : (host.sorted files).Perm files :=
  perm_insertionSort _ files

theorem hash_eq_iff {left right : List PackageFile} :
    host.contentHash left = host.contentHash right ↔ host.contentBytes left = host.contentBytes right :=
  host.sha256_injective.eq_iff

theorem content_single (file : PackageFile) : host.contentBytes [file] = file.bytes := by
  simp [SecurityHost.contentBytes, SecurityHost.sorted]

variable (host) in
theorem content_merged {files : List PackageFile} (filled : files ≠ []) :
    ∃ file, host.contentBytes [file] = host.contentBytes files := by
  cases order : host.sorted files with
  | nil => exact absurd (perm_nil.mp (order ▸ (sorted_perm host files).symm)) filled
  | cons first rest =>
    refine ⟨⟨first.path, first.data ++ rest.flatMap PackageFile.bytes⟩, ?_⟩
    rw [content_single, SecurityHost.contentBytes, order]
    simp [PackageFile.bytes]

theorem single_distinct (file : PackageFile) : ([file].map (·.path)).Nodup := nodup_singleton _

variable {package : Package}

theorem content_empty {files : List PackageFile} (same : host.contentBytes files = host.contentBytes []) :
    files = [] := by
  by_contra filled
  obtain ⟨file, merged⟩ := content_merged host filled
  rw [same, content_single] at merged
  simp [PackageFile.bytes, SecurityHost.contentBytes, SecurityHost.sorted] at merged

/-- Of the files that give the bytes of the one file, the first has its path and the others have
other paths, so that there are no others. -/
theorem content_alone {file : PackageFile} {files : List PackageFile}
    (plain : '/' ∉ file.path.text.toList ∧ '\\' ∉ file.path.text.toList)
    (apart : ∀ (before : List UInt8) (next : PackageFile), next.path ≠ file.path →
      host.casefold file.path.text ≤ host.casefold next.path.text → file.data ≠ before ++ next.bytes)
    (once : (files.map (·.path)).count file.path ≤ 1)
    (same : host.contentBytes files = host.contentBytes [file]) : files = [file] := by
  rw [content_single] at same
  cases order : host.sorted files with
  | nil => simp [SecurityHost.contentBytes, order, PackageFile.bytes] at same
  | cons first rest =>
    rw [SecurityHost.contentBytes, order, flatMap_cons] at same
    simp only [PackageFile.bytes, append_assoc, cons_append] at same
    obtain ⟨texts, data⟩ := first_mark_unique first.path.plain file.path.plain same
    have path := path_unique plain (utf8_injective texts)
    have perm := order ▸ sorted_perm host files
    cases rest with
    | nil =>
      obtain rfl : first = file := PackageFile.ext path (by simpa using data)
      exact perm_singleton.mp perm.symm
    | cons next rest =>
      have other : next.path ≠ file.path := by
        intro again
        rw [← (perm.map (·.path)).count_eq, map_cons, map_cons, path, again] at once
        simp at once
      have ordered : (host.sorted files).Pairwise _ := pairwise_insertionSort _ _
      rw [order, pairwise_cons] at ordered
      refine absurd ?_ (apart first.data ⟨next.path, next.data ++ rest.flatMap PackageFile.bytes⟩
        other (path ▸ ordered.1 next mem_cons_self))
      simp [← data, PackageFile.bytes]

theorem separable_identifies (separable : Separable host package) : Identifies host package := by
  refine fun other => ⟨fun same => ?_, fun perm => ?_⟩
  · rw [hash_eq_iff] at same
    obtain none | ⟨file, alone, plain, apart⟩ := separable
    · rw [none] at same ⊢
      rw [content_empty same]
    · rw [alone] at same ⊢
      rw [content_alone plain apart (nodup_iff_count_le_one.mp other.distinct _) same]
  · obtain none | ⟨file, alone, -⟩ := separable
    · rw [none] at perm ⊢
      rw [perm.eq_nil]
    · rw [alone] at perm ⊢
      rw [perm_singleton.mp perm]

theorem identifies_separable (identifies : Identifies host package) : Separable host package := by
  have unique (other : Package) (same : host.contentBytes other.files = host.contentBytes package.files) :
      other.files.Perm package.files := (identifies other).mp (hash_eq_iff.mpr same)
  by_cases none : package.files = []
  · exact .inl none
  obtain ⟨merged, same⟩ := content_merged host none
  have alone := (unique ⟨[merged], single_distinct _⟩ same).length_eq
  obtain ⟨file, files⟩ := length_eq_one_iff.mp alone.symm
  refine .inr ⟨file, files, ?_, fun before next differs later split => ?_⟩
  · rw [← not_or]
    intro separated
    obtain ⟨path, differs, written⟩ := other_path separated
    have perm := unique ⟨[⟨path, file.data⟩], single_distinct _⟩
      (by rw [files, content_single, content_single, PackageFile.bytes, PackageFile.bytes, written])
    rw [files, perm_singleton, singleton_inj] at perm
    exact differs (congrArg PackageFile.path perm)
  · have perm := unique ⟨[⟨file.path, before⟩, next], by simpa using differs.symm⟩ (by
      rw [files, content_single, PackageFile.bytes, split]
      simp [SecurityHost.contentBytes, SecurityHost.sorted, later, PackageFile.bytes])
    have lengths := perm.length_eq
    rw [files] at lengths
    cases lengths

theorem material_path_iff {file : PackageFile} {path : PackagePath}
    (plain : '/' ∉ path.text.toList ∧ '\\' ∉ path.text.toList) :
    file.material.path = path ↔ file.path = path := by
  constructor
  · rintro rfl
    have same : slashed file.path.text = slashed file.material.path.text :=
      (slashed_plain (slashed_back _)).symm
    exact path_unique plain same
  · rintro rfl
    exact PackagePath.ext (slashed_plain plain.2)

theorem material_self {file : PackageFile}
    (plain : '/' ∉ file.path.text.toList ∧ '\\' ∉ file.path.text.toList) : file.material = file :=
  PackageFile.ext ((material_path_iff plain).mpr rfl) rfl

/-- Two paths that become one have a separator, so that `scan_package` keeps the path of the file
apart from the others. -/
theorem material_alone {file : PackageFile}
    (plain : '/' ∉ file.path.text.toList ∧ '\\' ∉ file.path.text.toList)
    (apart : ∀ (before : List UInt8) (next : PackageFile), next.path ≠ file.path →
      host.casefold file.path.text ≤ host.casefold next.path.text → file.data ≠ before ++ next.bytes)
    (other : Package)
    (same : host.contentBytes (other.files.map PackageFile.material) = host.contentBytes [file]) :
    other.files = [file] := by
  have once : ((other.files.map PackageFile.material).map (·.path)).count file.path ≤ 1 := by
    have raw := nodup_iff_count_le_one.mp other.distinct file.path
    rw [List.count, countP_map] at raw ⊢
    rw [countP_map]
    refine le_trans (le_of_eq ?_) raw
    refine countP_congr fun listed _ => ?_
    simpa using material_path_iff plain
  have alone := content_alone plain apart once same
  obtain ⟨raw, files, taken⟩ := map_eq_singleton_iff.mp alone
  have path : raw.path = file.path := (material_path_iff plain).mp (congrArg PackageFile.path taken)
  have own : raw.material = raw := material_self (path ▸ plain)
  rw [files, ← own, taken]

theorem separable_covers (separable : Separable host package) : CoversOnly host package := by
  intro other trustLevel reviewed accepted confirms allowed
  rw [SecurityHost.securityAllowsRuntime, ScanReport.allowsRuntime, confirms] at allowed
  have hashes : host.contentHash (package.files.map PackageFile.material) =
      host.contentHash (other.files.map PackageFile.material) := by
    simpa [SecurityHost.scanPackage, accepted] using (Bool.and_eq_true_iff.mp allowed).2
  have same := (hash_eq_iff.mp hashes).symm
  obtain none | ⟨file, alone, plain, apart⟩ := separable
  · rw [none] at same ⊢
    rw [map_eq_nil_iff.mp (content_empty same)]
  · rw [alone, map_singleton, material_self plain] at same
    rw [alone, material_alone plain apart other same]

end

theorem acceptance_covers_package (host : SecurityHost) (package : Package) :
    Identifies host package ∧ CoversOnly host package ↔ Separable host package :=
  ⟨fun both => identifies_separable both.1, fun separable =>
    ⟨separable_identifies separable, separable_covers separable⟩⟩

theorem byte_text_injective : Function.Injective fun bytes : List UInt8 =>
    String.ofList (bytes.map fun byte => Char.ofNat byte.toNat) := by
  intro left right same
  refine map_injective_iff.mpr (fun first second chars => ?_) (String.ofList_injective same)
  have code (byte : UInt8) : (Char.ofNat byte.toNat).toNat = byte.toNat := by
    have valid : byte.toNat.isValidChar := .inl (byte.toNat_lt.trans (by decide))
    rw [Char.ofNat, dif_pos valid]
    rfl
  exact UInt8.toNat_inj.mp (by rw [← code first, ← code second, chars])

def byteHost : SecurityHost := ⟨id, _, byte_text_injective, fun _ => .warning⟩

theorem plain_a : 0 ∉ utf8 (slashed "a") := by decide +kernel

theorem plain_b : 0 ∉ utf8 (slashed "b") := by decide +kernel

def reviewed : Package := ⟨[⟨⟨"a", plain_a⟩, [98, 0, 99]⟩], single_distinct _⟩

theorem two_files_distinct : (⟨"a", plain_a⟩ : PackagePath) ∉ [⟨"b", plain_b⟩] := by simp

def extended : Package :=
  ⟨[⟨⟨"a", plain_a⟩, []⟩, ⟨⟨"b", plain_b⟩, [99]⟩],
    nodup_cons.mpr ⟨two_files_distinct, nodup_singleton _⟩⟩

theorem extended_runs_unreviewed : ¬ (Identifies byteHost reviewed ∧ CoversOnly byteHost reviewed) := by
  rintro ⟨identifies, -⟩
  have perm := (identifies extended).mp (by decide +kernel)
  exact absurd perm.length_eq (by decide)

end AgentMate.PackageHash
