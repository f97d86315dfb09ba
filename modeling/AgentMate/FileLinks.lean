import Mathlib.Data.List.Basic
import Mathlib.Logic.Function.Basic

/-!
# Paths, files and open handles

A path links to at most one file, and a file has at most one path. Renaming moves
the link, so a handle that is still open on a file goes on writing to it under its
new path.
-/

namespace AgentMate.FileLinks

open List Option

universe u

abbrev Bytes := List UInt8

structure Disk (Path : Type u) where
  link : Path → Option Nat
  contents : List Bytes
  linked : ∀ path file, link path = some file → file < contents.length
  single : ∀ left right file, link left = some file → link right = some file → left = right

variable {Path : Type u}

def noFiles : Disk Path where
  link _ := none
  contents := []
  linked _ _ found := absurd found (some_ne_none _).symm
  single _ _ _ found := absurd found (some_ne_none _).symm

def Disk.read? (disk : Disk Path) (path : Path) : Option Bytes :=
  (disk.link path).bind fun file => disk.contents[file]?

def writeBytes (content : Bytes) (offset : Nat) (bytes : Bytes) : Bytes :=
  (content ++ List.replicate (offset - content.length) 0).take offset ++ bytes ++
    content.drop (offset + bytes.length)

def Disk.modify (disk : Disk Path) (file : Nat) (change : Bytes → Bytes) : Disk Path where
  link := disk.link
  contents := disk.contents.modify file change
  linked path file found := by
    rw [length_modify]
    exact disk.linked path file found
  single := disk.single

def Disk.writeAt (disk : Disk Path) (file offset : Nat) (bytes : Bytes) : Disk Path :=
  disk.modify file fun content => writeBytes content offset bytes

def Disk.unlink (disk : Disk Path) (chosen : Path → Bool) : Disk Path where
  link target := if chosen target then none else disk.link target
  contents := disk.contents
  linked target file found := by
    rw [ite_none_left_eq_some] at found
    exact disk.linked target file found.2
  single left right file leftFound rightFound := by
    rw [ite_none_left_eq_some] at leftFound rightFound
    exact disk.single left right file leftFound.2 rightFound.2

section

variable {disk : Disk Path} {path : Path} {file own offset : Nat} {bytes : Bytes}
  {change : Bytes → Bytes} {chosen : Path → Bool}

@[simp] theorem modify_link : (disk.modify file change).link = disk.link := rfl

@[simp] theorem write_at_link : (disk.writeAt file offset bytes).link = disk.link := rfl

theorem read_modify_other (other : disk.link path ≠ some file) :
    (disk.modify file change).read? path = disk.read? path := by
  simp only [Disk.read?, modify_link]
  cases found : disk.link path with
  | none => rfl
  | some own =>
    have differs : file ≠ own := fun same => other (same ▸ found)
    exact getElem?_modify_ne change disk.contents differs

theorem modify_contents_self :
    (disk.modify file change).contents[file]? = disk.contents[file]?.map change := by
  simp [Disk.modify]

theorem write_bytes_end (content bytes : Bytes) :
    writeBytes content content.length bytes = content ++ bytes := by
  simp [writeBytes]

theorem unlink_link_kept (kept : chosen path = false) :
    (disk.unlink chosen).link path = disk.link path := by
  simp [Disk.unlink, kept]

theorem read_unlink_kept (kept : chosen path = false) :
    (disk.unlink chosen).read? path = disk.read? path := by
  rw [Disk.read?, unlink_link_kept kept]
  rfl

end

variable [DecidableEq Path]

def Disk.add (disk : Disk Path) (path : Path) (bytes : Bytes) : Disk Path where
  link := Function.update disk.link path (some disk.contents.length)
  contents := disk.contents ++ [bytes]
  linked target file found := by
    rw [length_append, length_singleton]
    by_cases same : target = path
    · rw [same, Function.update_self, Option.some.injEq] at found
      omega
    · rw [Function.update_of_ne same] at found
      exact Nat.lt_succ_of_lt (disk.linked target file found)
  single left right file leftFound rightFound := by
    have old : ∀ target, target ≠ path →
        Function.update disk.link path (some disk.contents.length) target = some file →
        file < disk.contents.length := by
      intro target differs found
      rw [Function.update_of_ne differs] at found
      exact disk.linked target file found
    by_cases leftSame : left = path
    · by_cases rightSame : right = path
      · rw [leftSame, rightSame]
      · rw [leftSame, Function.update_self, Option.some.injEq] at leftFound
        have below := old right rightSame rightFound
        omega
    · by_cases rightSame : right = path
      · rw [rightSame, Function.update_self, Option.some.injEq] at rightFound
        have below := old left leftSame leftFound
        omega
      · rw [Function.update_of_ne leftSame] at leftFound
        rw [Function.update_of_ne rightSame] at rightFound
        exact disk.single left right file leftFound rightFound

def Disk.truncate (disk : Disk Path) (path : Path) : Disk Path × Nat :=
  match disk.link path with
  | some file => (disk.modify file fun _ => [], file)
  | none => (disk.add path [], disk.contents.length)

/-- The file at `source` takes the place of whatever `target` links to. -/
def Disk.rename (disk : Disk Path) (source target : Path) : Option (Disk Path) :=
  match found : disk.link source with
  | none => none
  | some moved => some
      { link := Function.update (Function.update disk.link source none) target (some moved)
        contents := disk.contents
        linked := by
          intro path file linked
          by_cases isTarget : path = target
          · rw [isTarget, Function.update_self] at linked
            exact disk.linked source file (found.trans linked)
          · rw [Function.update_of_ne isTarget] at linked
            by_cases isSource : path = source
            · rw [isSource, Function.update_self] at linked
              cases linked
            · rw [Function.update_of_ne isSource] at linked
              exact disk.linked path file linked
        single := by
          -- Besides the target, no remaining path links to the moved file.
          have others : ∀ path file, path ≠ target →
              Function.update (Function.update disk.link source none) target (some moved) path =
                some file → disk.link path = some file ∧ path ≠ source := by
            intro path file differs linked
            rw [Function.update_of_ne differs] at linked
            by_cases isSource : path = source
            · rw [isSource, Function.update_self] at linked
              cases linked
            · rw [Function.update_of_ne isSource] at linked
              exact ⟨linked, isSource⟩
          intro left right file leftFound rightFound
          by_cases leftTarget : left = target
          · by_cases rightTarget : right = target
            · rw [leftTarget, rightTarget]
            · obtain ⟨old, differs⟩ := others right file rightTarget rightFound
              rw [leftTarget, Function.update_self] at leftFound
              exact absurd (disk.single right source file old (found.trans leftFound)) differs
          · obtain ⟨old, differs⟩ := others left file leftTarget leftFound
            by_cases rightTarget : right = target
            · rw [rightTarget, Function.update_self] at rightFound
              exact absurd (disk.single left source file old (found.trans rightFound)) differs
            · exact disk.single left right file old (others right file rightTarget rightFound).1 }

variable {disk next : Disk Path} {path other source target : Path} {bytes : Bytes}

theorem add_link_other (differs : path ≠ other) :
    (disk.add other bytes).link path = disk.link path :=
  Function.update_of_ne differs _ _

theorem read_add_other (differs : path ≠ other) :
    (disk.add other bytes).read? path = disk.read? path := by
  rw [Disk.read?, add_link_other differs, Disk.read?]
  cases found : disk.link path with
  | none => rfl
  | some file => exact getElem?_append_left (disk.linked path file found)

theorem read_add_self : (disk.add path bytes).read? path = some bytes := by
  simp [Disk.read?, Disk.add]

theorem truncate_contents_self :
    (disk.truncate path).1.contents[(disk.truncate path).2]? = some [] := by
  rw [Disk.truncate]
  split
  · next file found =>
    have bound := disk.linked path file found
    rw [modify_contents_self, getElem?_eq_getElem bound]
    rfl
  · simp [Disk.add]

theorem truncate_link_self : (disk.truncate path).1.link path = some (disk.truncate path).2 := by
  rw [Disk.truncate]
  split
  · next file found => exact found
  · exact Function.update_self ..

theorem truncate_link_other (differs : path ≠ other) :
    (disk.truncate other).1.link path = disk.link path := by
  rw [Disk.truncate]
  split
  · rfl
  · exact add_link_other differs

theorem read_truncate_other (differs : path ≠ other) :
    (disk.truncate other).1.read? path = disk.read? path := by
  rw [Disk.truncate]
  split
  · next file found =>
    apply read_modify_other
    intro same
    exact differs (disk.single path other file same found)
  · exact read_add_other differs

theorem rename_link_target (renamed : disk.rename source target = some next) :
    next.link target = disk.link source ∧ (next.link target).isSome = true := by
  rw [Disk.rename] at renamed
  split at renamed
  · cases renamed
  · next moved found =>
    cases renamed
    simp [found]

theorem rename_read_target (renamed : disk.rename source target = some next) :
    next.read? target = disk.read? source := by
  have linked := (rename_link_target renamed).1
  rw [Disk.rename] at renamed
  split at renamed
  · cases renamed
  · cases renamed
    rw [Disk.read?, linked]
    rfl

end AgentMate.FileLinks
