import Mathlib.Data.List.Dedup
import Mathlib.Data.List.Sort
import Mathlib.Data.Rat.Defs

/-!
# The migration ledger

`run_migrations` of `migrations.py`. A migration runs statements on the tables and may look at
their answers; any call on the connection can fail. What one migration writes and its ledger
entry are one transaction.
-/

namespace AgentMate.Migrations

open List

inductive Script (Tables Answer : Type) where
  | finish
  | raise (error : String)
  | execute (statement : ℚ → Tables → Except String (Tables × Answer))
      (next : Answer → Script Tables Answer)

structure Migration (Tables Answer : Type) where
  version : Int
  name : String
  apply : Script Tables Answer

/-- A row of `schema_migrations`. -/
structure LedgerRow where
  scope : String
  version : Int
  name : String
  appliedAt : ℚ
  deriving DecidableEq

/-- What is committed; without a ledger table there is no ledger. -/
structure Database (Tables : Type) where
  tables : Tables
  schemaMigrations : Option (List LedgerRow)
  deriving DecidableEq

inductive Failure where
  | valueError (text : String)
  | runtimeError (text : String)
  /-- The error of a call on the connection, or one that a migration raises. -/
  | raised (text : String)
  deriving DecidableEq

/-- The clock, and which call on the connection fails with which error. -/
structure World where
  clock : Nat → ℚ
  fault : Nat → Option String

def World.call (world : World) (calls : Nat) : Except Failure Unit :=
  match world.fault calls with
  | some error => .error (.raised error)
  | none => .ok ()

section

variable {Tables Answer : Type} (repr : String → String) (scope : String) (world : World)

/-- `migration.apply(conn)`, from the given call on. -/
def runScript : Script Tables Answer → Nat → Tables → Except Failure (Tables × Nat)
  | .finish, calls, tables => .ok (tables, calls)
  | .raise error, _, _ => .error (.raised error)
  | .execute statement next, calls, tables =>
    match world.fault calls, statement (world.clock calls) tables with
    | some error, _ => .error (.raised error)
    | none, .error error => .error (.raised error)
    | none, .ok (later, answer) => runScript (next answer) (calls + 1) later

/-- The `INSERT`; `(scope, version)` is the primary key. -/
def insertRow (row : LedgerRow) (rows : List LedgerRow) : Except Failure (List LedgerRow) :=
  if rows.any fun other => other.scope = row.scope ∧ other.version = row.version then
    .error (.raised "UNIQUE constraint failed: schema_migrations.scope, schema_migrations.version")
  else .ok (rows ++ [row])

def Database.rows (db : Database Tables) : List LedgerRow := db.schemaMigrations.getD []

/-- The transaction of one migration, from `BEGIN IMMEDIATE` to the commit. -/
def applyMigration (migration : Migration Tables Answer) (calls : Nat) (db : Database Tables) :
    Except Failure (Database Tables × Nat) := do
  world.call calls
  let (tables, calls) ← runScript world migration.apply (calls + 1) db.tables
  world.call calls
  let rows ← insertRow ⟨scope, migration.version, migration.name, world.clock calls⟩ db.rows
  world.call (calls + 1)
  return (⟨tables, some rows⟩, calls + 2)

def renamedText (version : Int) (recorded listed : String) : String :=
  "migration " ++ scope ++ ":" ++ toString version ++ " was " ++ repr recorded ++ ", not " ++
    repr listed

def migrateAll (applied : List (Int × String)) : List (Migration Tables Answer) → Nat →
    Database Tables → Database Tables × Except Failure Unit
  | [], _, db => (db, .ok ())
  | migration :: rest, calls, db =>
    match applied.lookup migration.version with
    | some recorded =>
      if recorded = migration.name then migrateAll applied rest calls db
      else (db, .error (.runtimeError
        (renamedText repr scope migration.version recorded migration.name)))
    | none =>
      match applyMigration scope world migration calls db with
      | .error error => (db, .error error)
      | .ok (later, calls) => migrateAll applied rest calls later

/-- The entries of the scope, as the `SELECT` gives them. -/
def Database.applied (db : Database Tables) : List (Int × String) :=
  (db.rows.filter fun row => row.scope = scope).map fun row => (row.version, row.name)

def runMigrations (migrations : List (Migration Tables Answer)) (db : Database Tables) :
    Database Tables × Except Failure Unit :=
  match world.call 0 with
  | .error error => (db, .error error)
  | .ok () =>
    let db := { db with schemaMigrations := some db.rows }
    match world.call 1 with
    | .error error => (db, .error error)
    | .ok () =>
      let ordered := migrations.insertionSort fun left right => left.version ≤ right.version
      if (ordered.map Migration.version).dedup.length ≠ ordered.length then
        (db, .error (.valueError ("duplicate migration version for " ++ scope)))
      else
        match world.call 2 with
        | .error error => (db, .error error)
        | .ok () => migrateAll repr scope world (db.applied scope) ordered 3 db

end

section

variable {Tables Answer : Type}

inductive Completes : Script Tables Answer → Tables → Tables → Prop
  | finish (tables : Tables) : Completes .finish tables tables
  | execute {statement : ℚ → Tables → Except String (Tables × Answer)}
      {next : Answer → Script Tables Answer} {start middle final : Tables} {answer : Answer}
      (time : ℚ) (done : statement time start = .ok (middle, answer))
      (rest : Completes (next answer) middle final) : Completes (.execute statement next) start final

def Effects : List (Migration Tables Answer) → Tables → Tables → Prop
  | [], start, final => final = start
  | migration :: rest, start, final =>
    ∃ middle, Completes migration.apply start middle ∧ Effects rest middle final

theorem effects_append {first second : List (Migration Tables Answer)}
    {start middle final : Tables} (left : Effects first start middle)
    (right : Effects second middle final) : Effects (first ++ second) start final := by
  induction first generalizing start with
  | nil =>
    cases left
    exact right
  | cons migration rest ih =>
    obtain ⟨next, done, remaining⟩ := left
    exact ⟨next, done, ih remaining⟩

/-- The script ends on these tables, whatever the clock says. -/
def Script.Ends : Script Tables Answer → Tables → Prop
  | .finish, _ => True
  | .raise _, _ => False
  | .execute statement next, tables => ∀ time, ∃ later answer,
      statement time tables = .ok (later, answer) ∧ (next answer).Ends later

/-- Every migration ends on the tables that those before it leave. -/
def AllEnd : List (Migration Tables Answer) → Tables → Prop
  | [], _ => True
  | migration :: rest, tables => migration.apply.Ends tables ∧
      ∀ later, Completes migration.apply tables later → AllEnd rest later

def entry (migration : Migration Tables Answer) : Int × String :=
  (migration.version, migration.name)

def Records (scope : String) (db : Database Tables) (listed : List (Migration Tables Answer)) :
    Prop :=
  db.applied scope = listed.map entry

theorem run_script_completes {world : World} {script : Script Tables Answer} {calls finish : Nat}
    {start final : Tables} (done : runScript world script calls start = .ok (final, finish)) :
    Completes script start final := by
  induction script generalizing calls start with
  | finish =>
    cases done
    exact .finish final
  | raise error => cases done
  | execute statement next ih =>
    rw [runScript] at done
    split at done
    · cases done
    · cases done
    · next middle answer _ ran => exact .execute (world.clock calls) ran (ih answer done)

theorem run_script_ends {world : World} (calm : ∀ call, world.fault call = none)
    {script : Script Tables Answer} {tables : Tables} (ends : script.Ends tables) (calls : Nat) :
    ∃ result, runScript world script calls tables = .ok result := by
  induction script generalizing calls tables with
  | finish => exact ⟨_, rfl⟩
  | raise error => exact ends.elim
  | execute statement next ih =>
    obtain ⟨later, answer, ran, rest⟩ := ends (world.clock calls)
    rw [runScript, calm, ran]
    exact ih answer rest (calls + 1)

end

section

variable {Tables Answer : Type} {repr : String → String} {scope : String} {world : World}

theorem apply_migration_commits {migration : Migration Tables Answer} {calls finish : Nat}
    {db later : Database Tables}
    (done : applyMigration scope world migration calls db = .ok (later, finish)) :
    Completes migration.apply db.tables later.tables ∧
      later.applied scope = db.applied scope ++ [entry migration] := by
  simp only [applyMigration, bind, Except.bind, pure, Except.pure] at done
  split at done
  · cases done
  · split at done
    · cases done
    · next result ran =>
      split at done
      · cases done
      · split at done
        · cases done
        · next rows inserted =>
          split at done
          · cases done
          · cases done
            rw [insertRow] at inserted
            split at inserted
            · cases inserted
            · cases inserted
              refine ⟨run_script_completes ran, ?_⟩
              simp [Database.applied, Database.rows, entry]

theorem apply_migration_ends (calm : ∀ call, world.fault call = none)
    {migration : Migration Tables Answer} {db : Database Tables}
    (ends : migration.apply.Ends db.tables)
    (unrecorded : migration.version ∉ (db.applied scope).map Prod.fst) (calls : Nat) :
    ∃ result, applyMigration scope world migration calls db = .ok result := by
  obtain ⟨⟨tables, finish⟩, ran⟩ := run_script_ends calm ends (calls + 1)
  have inserted (row : LedgerRow) (own : row.scope = scope ∧ row.version = migration.version) :
      insertRow row db.rows = .ok (db.rows ++ [row]) := by
    refine if_neg ?_
    rw [any_eq_true]
    rintro ⟨other, stored, same⟩
    obtain ⟨otherScope, otherVersion⟩ := of_decide_eq_true same
    apply unrecorded
    rw [Database.applied, map_map, mem_map]
    refine ⟨other, mem_filter.mpr ⟨stored, ?_⟩, otherVersion.trans own.2⟩
    exact decide_eq_true (otherScope.trans own.1)
  simp [applyMigration, World.call, calm, ran, inserted, bind, Except.bind, pure, Except.pure]

variable {applied : List (Int × String)} {listed : List (Migration Tables Answer)}

theorem migrate_ends (repr : String → String) (calm : ∀ call, world.fault call = none)
    {fresh : List (Migration Tables Answer)}
    (absent : ∀ migration ∈ fresh, applied.lookup migration.version = none)
    (distinct : (fresh.map Migration.version).Nodup) (calls : Nat) {db : Database Tables}
    (unrecorded : ∀ migration ∈ fresh, migration.version ∉ (db.applied scope).map Prod.fst)
    (ends : AllEnd fresh db.tables) :
    (migrateAll repr scope world applied fresh calls db).2 = .ok () := by
  induction fresh generalizing calls db with
  | nil => rfl
  | cons migration rest ih =>
    obtain ⟨result, ran⟩ :=
      apply_migration_ends calm ends.1 (unrecorded migration mem_cons_self) calls
    obtain ⟨completes, recorded⟩ := apply_migration_commits ran
    obtain ⟨apart, distinct⟩ := nodup_cons.mp distinct
    rw [migrateAll, absent migration mem_cons_self]
    dsimp only
    rw [ran]
    apply ih
    · exact fun other mem => absent other (mem_cons_of_mem _ mem)
    · exact distinct
    · intro other mem
      rw [recorded, map_append, mem_append]
      rintro (before | own)
      · exact unrecorded other (mem_cons_of_mem _ mem) before
      · rw [map_singleton, mem_singleton] at own
        have same : other.version = migration.version := own
        exact apart (same ▸ mem_map_of_mem mem)
    · exact ends.2 _ completes

theorem migrate_fresh (repr : String → String) (scope : String) (world : World)
    {fresh : List (Migration Tables Answer)}
    (absent : ∀ migration ∈ fresh, applied.lookup migration.version = none) (calls : Nat)
    (db : Database Tables) :
    ∃ count ≤ fresh.length, (migrateAll repr scope world applied fresh calls db).1.applied scope =
        db.applied scope ++ (fresh.take count).map entry ∧
      Effects (fresh.take count) db.tables
        (migrateAll repr scope world applied fresh calls db).1.tables ∧
      ((migrateAll repr scope world applied fresh calls db).2 = .ok () → count = fresh.length) := by
  induction fresh generalizing calls db with
  | nil => exact ⟨0, le_rfl, by simp [migrateAll], by simp [migrateAll, Effects], fun _ => rfl⟩
  | cons migration rest ih =>
    rw [migrateAll, absent migration mem_cons_self]
    cases ran : applyMigration scope world migration calls db with
    | error error => exact ⟨0, Nat.zero_le _, by simp, by simp [Effects], by simp⟩
    | ok result =>
      obtain ⟨completes, recorded⟩ := apply_migration_commits ran
      obtain ⟨count, within, ledger, effects, whole⟩ :=
        ih (fun other mem => absent other (mem_cons_of_mem _ mem)) result.2 result.1
      refine ⟨count + 1, Nat.succ_le_succ within, ?_, ⟨_, completes, effects⟩, ?_⟩
      · simp [ledger, recorded]
      · intro ended
        rw [whole ended, length_cons]

theorem migrate_recorded (repr : String → String) (scope : String) (world : World)
    (recorded : ∀ migration ∈ listed, (applied.lookup migration.version).isSome)
    (rest : List (Migration Tables Answer)) (calls : Nat) (db : Database Tables) :
    ((∀ migration ∈ listed, applied.lookup migration.version = some migration.name) ∧
      migrateAll repr scope world applied (listed ++ rest) calls db =
        migrateAll repr scope world applied rest calls db) ∨
    ∃ migration ∈ listed, ∃ name, applied.lookup migration.version = some name ∧
      name ≠ migration.name ∧
      migrateAll repr scope world applied (listed ++ rest) calls db = (db, .error (.runtimeError
        (renamedText repr scope migration.version name migration.name))) := by
  induction listed with
  | nil => exact .inl ⟨by simp, rfl⟩
  | cons migration others ih =>
    obtain ⟨name, found⟩ := Option.isSome_iff_exists.mp (recorded migration mem_cons_self)
    simp only [cons_append, migrateAll, found]
    by_cases same : name = migration.name
    · simp only [if_pos same]
      rcases ih (fun other mem => recorded other (mem_cons_of_mem _ mem)) with
        ⟨names, passed⟩ | ⟨other, mem, different⟩
      · refine .inl ⟨?_, passed⟩
        intro other mem
        rcases mem_cons.mp mem with rfl | mem
        · rw [found, same]
        · exact names other mem
      · exact .inr ⟨other, mem_cons_of_mem _ mem, different⟩
    · simp only [if_neg same]
      exact .inr ⟨migration, mem_cons_self, name, found, same, rfl⟩

theorem lookup_entries (versions : applied.map Prod.fst = listed.map Migration.version)
    (unique : (listed.map Migration.version).Nodup) :
    (∀ migration ∈ listed, applied.lookup migration.version = some migration.name) ↔
      applied = listed.map entry := by
  induction listed generalizing applied with
  | nil => simpa using versions
  | cons migration others ih =>
    cases applied with
    | nil => cases versions
    | cons first rest =>
      obtain ⟨version, name⟩ := first
      obtain ⟨same, tail⟩ := List.cons.inj versions
      obtain ⟨apart, unique⟩ := nodup_cons.mp unique
      have later : ∀ other ∈ others, ((version, name) :: rest).lookup other.version =
          rest.lookup other.version := by
        intro other mem
        have differs : other.version ≠ version := by
          intro equal
          exact apart ((same.symm.trans equal.symm).symm ▸ mem_map_of_mem mem)
        simp [lookup_cons, beq_false_of_ne differs]
      have head : ((version, name) :: rest).lookup migration.version = some name := by
        simp only [lookup_cons, beq_iff_eq.mpr same.symm]
      rw [forall_mem_cons, head, map_cons, List.cons.injEq, ← ih tail unique]
      apply and_congr
      · simp only [entry, Prod.mk.injEq, Option.some.injEq]
        exact (and_iff_right same).symm
      · exact forall₂_congr fun other mem => by rw [later other mem]

variable {migrations : List (Migration Tables Answer)} {start : Database Tables}

theorem versions_nodup
    (increasing : migrations.Pairwise fun left right => left.version < right.version) :
    (migrations.map Migration.version).Nodup :=
  pairwise_map.mpr (increasing.imp Int.ne_of_lt)

theorem run_opens (repr : String → String) (scope : String) (world : World)
    (increasing : migrations.Pairwise fun left right => left.version < right.version) :
    ((∃ call < 3, world.fault call ≠ none) ∧
      (∃ error, (runMigrations repr scope world migrations start).2 = .error error) ∧
      (runMigrations repr scope world migrations start).1.tables = start.tables ∧
      (runMigrations repr scope world migrations start).1.rows = start.rows) ∨
    runMigrations repr scope world migrations start = migrateAll repr scope world
      (start.applied scope) migrations 3 ⟨start.tables, some start.rows⟩ := by
  have sorted : (migrations.insertionSort fun left right => left.version ≤ right.version) =
      migrations := by
    apply List.Pairwise.insertionSort_eq
    apply increasing.imp
    intro left right before
    exact Int.le_of_lt before
  simp only [runMigrations, sorted, (versions_nodup increasing).dedup, length_map, ne_eq,
    not_true_eq_false, if_false, World.call]
  cases creates : world.fault 0 with
  | some error => exact .inl ⟨⟨0, by omega, by simp [creates]⟩, ⟨_, rfl⟩, rfl, rfl⟩
  | none =>
    cases commits : world.fault 1 with
    | some error => exact .inl ⟨⟨1, by omega, by simp [commits]⟩, ⟨_, rfl⟩, rfl, rfl⟩
    | none =>
      cases selects : world.fault 2 with
      | some error => exact .inl ⟨⟨2, by omega, by simp [selects]⟩, ⟨_, rfl⟩, rfl, rfl⟩
      | none => exact .inr rfl

variable {done : Nat}

/-- The migrations that the ledger has by version are passed over, or one of them has another
name there and the run is refused. -/
theorem run_recorded (repr : String → String) (world : World)
    (increasing : migrations.Pairwise fun left right => left.version < right.version)
    (versions : (start.applied scope).map Prod.fst = (migrations.take done).map Migration.version) :
    (Records scope start (migrations.take done) ∧
      migrateAll repr scope world (start.applied scope) migrations 3
          ⟨start.tables, some start.rows⟩ =
        migrateAll repr scope world (start.applied scope) (migrations.drop done) 3
          ⟨start.tables, some start.rows⟩) ∨
    (¬ Records scope start (migrations.take done) ∧
      ∃ migration ∈ migrations.take done, ∃ name, (migration.version, name) ∈ start.applied scope ∧
        name ≠ migration.name ∧
        migrateAll repr scope world (start.applied scope) migrations 3
            ⟨start.tables, some start.rows⟩ =
          (⟨start.tables, some start.rows⟩, .error (.runtimeError
            (renamedText repr scope migration.version name migration.name)))) := by
  have unique : ((migrations.take done).map Migration.version).Nodup := by
    rw [map_take]
    exact (versions_nodup increasing).sublist (take_sublist done _)
  have found : ∀ migration ∈ migrations.take done,
      ((start.applied scope).lookup migration.version).isSome := by
    intro migration mem
    have listed : migration.version ∈ (start.applied scope).map Prod.fst := by
      rw [versions]
      exact mem_map_of_mem mem
    obtain ⟨row, stored, same⟩ := mem_map.mp listed
    by_contra missing
    rw [Option.not_isSome_iff_eq_none, List.lookup_eq_none_iff] at missing
    exact absurd (beq_iff_eq.mpr same.symm) (by simpa using missing row stored)
  have parts := migrate_recorded repr scope world found
    (migrations.drop done) 3 ⟨start.tables, some start.rows⟩
  rw [take_append_drop] at parts
  rcases parts with ⟨names, passed⟩ | ⟨migration, mem, name, stored, differs, refused⟩
  · exact .inl ⟨(lookup_entries versions unique).mp names, passed⟩
  · refine .inr ⟨?_, migration, mem, name, ?_, differs, refused⟩
    · intro records
      have recorded := (lookup_entries versions unique).mpr records migration mem
      exact differs (Option.some.inj (stored.symm.trans recorded))
    · obtain ⟨before, after, split, -⟩ := lookup_eq_some_iff.mp stored
      rw [split]
      exact mem_append_right before mem_cons_self

theorem rest_unrecorded
    (increasing : migrations.Pairwise fun left right => left.version < right.version)
    (records : Records scope start (migrations.take done)) :
    ∀ migration ∈ migrations.drop done, migration.version ∉ (start.applied scope).map Prod.fst := by
  intro migration mem recorded
  rw [records, map_map] at recorded
  obtain ⟨before, earlier, same⟩ := mem_map.mp recorded
  rw [← take_append_drop done migrations, pairwise_append] at increasing
  have less := increasing.2.2 before earlier migration mem
  have equal : before.version = migration.version := same
  omega

theorem lookup_unrecorded {version : Int} (unrecorded : version ∉ applied.map Prod.fst) :
    applied.lookup version = none := by
  rw [List.lookup_eq_none_iff]
  intro row stored
  rw [bne_iff_ne]
  rintro rfl
  exact unrecorded (mem_map_of_mem stored)

theorem run_ends (repr : String → String) (calm : ∀ call, world.fault call = none)
    (increasing : migrations.Pairwise fun left right => left.version < right.version)
    (records : Records scope start (migrations.take done))
    (ends : AllEnd (migrations.drop done) start.tables) :
    (runMigrations repr scope world migrations start).2 = .ok () := by
  rcases run_opens repr scope world increasing with ⟨⟨call, -, fault⟩, -⟩ | opened
  · exact absurd (calm call) fault
  · have versions : (start.applied scope).map Prod.fst =
        (migrations.take done).map Migration.version := by
      rw [records, map_map]
      rfl
    rcases run_recorded repr world increasing versions with ⟨-, passed⟩ | ⟨other, -⟩
    · have unrecorded := rest_unrecorded increasing records
      rw [opened, passed]
      apply migrate_ends repr calm
      · exact fun migration mem => lookup_unrecorded (unrecorded migration mem)
      · rw [map_drop]
        exact (versions_nodup increasing).sublist (drop_sublist done _)
      · exact unrecorded
      · exact ends
    · exact absurd records other

theorem run_resumes (repr : String → String)
    (increasing : migrations.Pairwise fun left right => left.version < right.version)
    (records : Records scope start (migrations.take done)) (within : done ≤ migrations.length)
    (world : World) :
    ∃ count, done ≤ count ∧ count ≤ migrations.length ∧
      Records scope (runMigrations repr scope world migrations start).1 (migrations.take count) ∧
      Effects ((migrations.take count).drop done) start.tables
        (runMigrations repr scope world migrations start).1.tables ∧
      ((runMigrations repr scope world migrations start).2 = .ok () →
        count = migrations.length) := by
  rcases run_opens repr scope world increasing with ⟨-, ⟨error, failed⟩, tables, rows⟩ | opened
  · refine ⟨done, le_rfl, within, ?_, ?_, ?_⟩
    · rw [Records, Database.applied, rows]
      exact records
    · rw [drop_eq_nil_of_le (length_take_le done migrations), tables]
      rfl
    · intro ended
      cases failed.symm.trans ended
  · have versions : (start.applied scope).map Prod.fst =
        (migrations.take done).map Migration.version := by
      rw [records, map_map]
      rfl
    rcases run_recorded repr world increasing versions with
      ⟨-, passed⟩ | ⟨other, -⟩
    · have absent : ∀ migration ∈ migrations.drop done,
          (start.applied scope).lookup migration.version = none :=
        fun migration mem => lookup_unrecorded (rest_unrecorded increasing records migration mem)
      obtain ⟨count, bound, ledger, effects, whole⟩ :=
        migrate_fresh repr scope world absent 3 ⟨start.tables, some start.rows⟩
      rw [opened, passed]
      have prefixes : migrations.take (done + count) =
          migrations.take done ++ (migrations.drop done).take count := take_add
      have size : (migrations.take done).length = done := length_take_of_le within
      have rest : (migrations.drop done).length = migrations.length - done := length_drop
      refine ⟨done + count, Nat.le_add_right done count, by omega, ?_, ?_, ?_⟩
      · rw [Records, ledger, prefixes, map_append, ← records]
        rfl
      · rw [prefixes, drop_append_of_le_length size.ge, drop_eq_nil_of_le size.le]
        exact effects
      · intro ended
        have all := whole ended
        omega
    · exact absurd records other

def reruns (repr : String → String) (scope : String) (migrations : List (Migration Tables Answer))
    (worlds : List World) (start : Database Tables) : Database Tables :=
  worlds.foldl (fun db world => (runMigrations repr scope world migrations db).1) start

theorem take_drop_split {Item : Type} (items : List Item) {first second third : Nat}
    (before : first ≤ second) (after : second ≤ third) (within : second ≤ items.length) :
    (items.take third).drop first =
      (items.take second).drop first ++ (items.take third).drop second := by
  have split := take_append_drop second (items.take third)
  rw [take_take, Nat.min_eq_left after] at split
  rw [← split, drop_append_of_le_length, drop_left' (length_take_of_le within)]
  rw [length_take_of_le within]
  exact before

theorem reruns_resume (repr : String → String)
    (increasing : migrations.Pairwise fun left right => left.version < right.version)
    (records : Records scope start (migrations.take done)) (within : done ≤ migrations.length)
    (worlds : List World) :
    ∃ count, done ≤ count ∧ count ≤ migrations.length ∧
      Records scope (reruns repr scope migrations worlds start) (migrations.take count) ∧
      Effects ((migrations.take count).drop done) start.tables
        (reruns repr scope migrations worlds start).tables := by
  induction worlds generalizing start done with
  | nil =>
    refine ⟨done, le_rfl, within, records, ?_⟩
    rw [drop_eq_nil_of_le (length_take_le done migrations)]
    rfl
  | cons world rest ih =>
    obtain ⟨middle, first, bound, ledger, effects, -⟩ :=
      run_resumes repr increasing records within world
    obtain ⟨count, second, all, recorded, remaining⟩ := ih ledger bound
    refine ⟨count, first.trans second, all, recorded, ?_⟩
    rw [take_drop_split migrations first second bound]
    exact effects_append effects remaining

end

/-- The ledger is a prefix of the list that says whose effects are in the tables, whatever fails
in how many runs, and a run goes on right after it: to the end of the list, where nothing fails. A
listed version under another name in the ledger ends the run before anything is written. -/
theorem migration_ledger {Tables Answer : Type} (repr : String → String) (scope : String)
    {migrations : List (Migration Tables Answer)}
    (increasing : migrations.Pairwise fun left right => left.version < right.version)
    (start : Database Tables) {done : Nat} (within : done ≤ migrations.length)
    (versions : (start.applied scope).map Prod.fst = (migrations.take done).map Migration.version) :
    (Records scope start (migrations.take done) → ∀ worlds : List World, ∃ count, done ≤ count ∧
      Records scope (reruns repr scope migrations worlds start) (migrations.take count) ∧
      Effects ((migrations.take count).drop done) start.tables
        (reruns repr scope migrations worlds start).tables ∧
      ∀ world : World, ∃ later, count ≤ later ∧ later ≤ migrations.length ∧
        Records scope (reruns repr scope migrations (worlds ++ [world]) start)
          (migrations.take later) ∧
        Effects ((migrations.take later).drop count)
          (reruns repr scope migrations worlds start).tables
          (reruns repr scope migrations (worlds ++ [world]) start).tables ∧
        ((runMigrations repr scope world migrations
          (reruns repr scope migrations worlds start)).2 = .ok () → later = migrations.length) ∧
        ((∀ call, world.fault call = none) →
          AllEnd (migrations.drop count) (reruns repr scope migrations worlds start).tables →
            (runMigrations repr scope world migrations
              (reruns repr scope migrations worlds start)).2 = .ok ())) ∧
    (¬ Records scope start (migrations.take done) → ∀ world : World,
      (runMigrations repr scope world migrations start).1.tables = start.tables ∧
      (runMigrations repr scope world migrations start).1.rows = start.rows ∧
      ∃ error, (runMigrations repr scope world migrations start).2 = .error error ∧
        ((∀ call < 3, world.fault call = none) → ∃ migration ∈ migrations.take done, ∃ name,
          (migration.version, name) ∈ start.applied scope ∧ name ≠ migration.name ∧
          error = .runtimeError
            (renamedText repr scope migration.version name migration.name))) := by
  constructor
  · intro records worlds
    obtain ⟨count, first, bound, ledger, effects⟩ :=
      reruns_resume repr increasing records within worlds
    refine ⟨count, first, ledger, effects, ?_⟩
    intro world
    obtain ⟨later, second, all, recorded, remaining, whole⟩ :=
      run_resumes repr increasing ledger bound world
    rw [reruns, foldl_append]
    exact ⟨later, second, all, recorded, remaining, whole,
      fun calm ends => run_ends repr calm increasing ledger ends⟩
  · intro renamed world
    rcases run_opens repr scope world increasing with
      ⟨⟨call, early, fault⟩, ⟨error, failed⟩, tables, rows⟩ | opened
    · refine ⟨tables, rows, error, failed, ?_⟩
      intro calm
      exact absurd (calm call early) fault
    · rcases run_recorded repr world increasing versions with
        ⟨same, -⟩ | ⟨-, migration, mem, name, stored, differs, refused⟩
      · exact absurd same renamed
      · rw [opened, refused]
        exact ⟨rfl, rfl, _, rfl, fun _ => ⟨migration, mem, name, stored, differs, rfl⟩⟩

def createTable (name : String) : Script (List String) Unit :=
  .execute (fun _ tables => .ok (tables ++ [name], ())) fun _ => .finish

def accountTables : List (Migration (List String) Unit) :=
  [⟨1, "accounts", createTable "accounts"⟩, ⟨2, "tokens", createTable "tokens"⟩]

theorem account_tables_increasing :
    accountTables.Pairwise fun left right => left.version < right.version := by
  simp [accountTables]

def emptyDatabase : Database (List String) := ⟨[], none⟩

def failingInsert : World :=
  ⟨fun _ => 0, fun call => if call = 9 then some "disk I/O error" else none⟩

def calmWorld : World := ⟨fun _ => 0, fun _ => none⟩

theorem account_tables_end (listed : List (Migration (List String) Unit))
    (inside : ∀ migration ∈ listed, migration ∈ accountTables) (tables : List String) :
    AllEnd listed tables := by
  induction listed generalizing tables with
  | nil => trivial
  | cons migration rest ih =>
    refine ⟨?_, fun later _ =>
      ih (fun other mem => inside other (mem_cons_of_mem _ mem)) later⟩
    have either := inside migration mem_cons_self
    simp only [accountTables, mem_cons, not_mem_nil, or_false] at either
    rcases either with rfl | rfl
    · exact fun _ => ⟨_, _, rfl, trivial⟩
    · exact fun _ => ⟨_, _, rfl, trivial⟩

/-- The second entry cannot be inserted; the next run resumes with the second migration. -/
theorem failed_insert_resumed :
    (reruns id "server" accountTables [failingInsert] emptyDatabase).tables = ["accounts"] ∧
    Records "server" (reruns id "server" accountTables [failingInsert, calmWorld] emptyDatabase)
      accountTables ∧
    Effects (accountTables.drop 1) ["accounts"]
      (reruns id "server" accountTables [failingInsert, calmWorld] emptyDatabase).tables := by
  obtain ⟨count, -, ledger, -, resumes⟩ := (migration_ledger id "server"
    account_tables_increasing emptyDatabase (Nat.zero_le _) rfl).1 rfl [failingInsert]
  have tables : (reruns id "server" accountTables [failingInsert] emptyDatabase).tables =
      ["accounts"] := by decide +kernel
  have one : count = 1 := by
    have length := congrArg List.length ledger
    have rows : ((reruns id "server" accountTables [failingInsert] emptyDatabase).applied
        "server").length = 1 := by decide +kernel
    rw [rows, length_map, length_take] at length
    have two : accountTables.length = 2 := rfl
    omega
  subst one
  obtain ⟨later, -, -, recorded, effects, whole, ends⟩ := resumes calmWorld
  have all := whole (ends (fun _ => rfl)
    (account_tables_end _ (fun _ mem => mem_of_mem_drop mem) _))
  subst all
  rw [take_length] at recorded effects
  rw [tables] at effects
  exact ⟨tables, recorded, effects⟩

end AgentMate.Migrations
