import LlmGateway.Lib.Effects
import LlmGateway.Lib.JsValue
import LlmGateway.Lib.Resumption

/-!
`MigrationRunner`, and the commands of `migrate-cli.ts` that call it or read
beside it. The SQL of a file may have done part of its work when it fails; the
transaction around it takes that part back.
-/

namespace LlmGateway.Database

open Effects Resumption

inductive MigrationKind where
  | schema
  | seed
  deriving DecidableEq, Repr

structure MigrationRecord where
  name : String
  appliedAt : ℤ
  kind : MigrationKind
  deriving DecidableEq, Repr

/-- The rows of `_migrations`, whose primary key is the name. -/
structure Ledger where
  rows : List MigrationRecord
  unique : (rows.map MigrationRecord.name).Nodup

structure File (Db : Type) where
  name : String
  /-- What executing the content does to the rest of the database. -/
  exec : EStateM String Db Unit

structure Store (Db : Type) where
  db : Db
  /-- `none` as long as the table does not exist. -/
  ledger : Option Ledger

/-- What goes wrong in a run apart from the SQL, by the file's name. -/
structure Faults where
  readFails : String → Option String
  transactionFails : String → Option String

structure Attempt (Db : Type) where
  applied : List String
  skipped : List String
  /-- The file at which the run threw, and the message. -/
  failed : Option (String × String)
  store : Store Db

variable {Db : Type}

section Runner

def Faults.none : Faults where
  readFails := fun _ => .none
  transactionFails := fun _ => .none

def Ledger.empty : Ledger where
  rows := []
  unique := List.nodup_nil

def Ledger.names (ledger : Ledger) : List String := ledger.rows.map MigrationRecord.name

def Ledger.insert (ledger : Ledger) (record : MigrationRecord) : Except String Ledger :=
  if fresh : record.name ∉ ledger.names then
    .ok
      { rows := ledger.rows ++ [record]
        unique := by
          rw [List.map_append]
          exact List.nodup_append_comm.mp (List.nodup_cons.mpr ⟨fresh, ledger.unique⟩) }
  else .error "UNIQUE constraint failed: _migrations.name"

def ensureSchema (store : Store Db) : Store Db :=
  { store with ledger := some (store.ledger.getD Ledger.empty) }

def listKnownNames (store : Store Db) : List String :=
  match store.ledger with
  | none => []
  | some ledger => ledger.names

def listMigrationFiles (directory : List (File Db)) : List (File Db) :=
  (directory.filter fun file => Js.endsWith file.name ".sql").insertionSort
    fun left right => ¬ Js.before right.name left.name = true

def execContent (file : File Db) : EStateM String (Store Db) Unit := fun store =>
  match file.exec store.db with
  | .ok _ db => .ok () { store with db := db }
  | .error message db => .error message { store with db := db }

def insertRecord (record : MigrationRecord) : EStateM String (Store Db) Unit := fun store =>
  match store.ledger with
  | none => .error "no such table: _migrations" store
  | some ledger =>
      match ledger.insert record with
      | .ok ledger => .ok () { store with ledger := some ledger }
      | .error message => .error message store

/-- `db.transaction(body)()`. -/
def transaction (fails : Option String) (body : EStateM String (Store Db) Unit) :
    EStateM String (Store Db) Unit := fun before =>
  match fails with
  | some message => .error message before
  | none =>
      match body before with
      | .ok _ after => .ok () after
      -- Rolled back.
      | .error message _ => .error message before

/-- The function that `run` hands to `db.transaction`. -/
def migration (recordedAt : ℤ) (file : File Db) : EStateM String (Store Db) Unit := do
  execContent file
  insertRecord { name := file.name, appliedAt := recordedAt, kind := .schema }

def applyFile (faults : Faults) (recordedAt : ℤ) (file : File Db) :
    EStateM String (Store Db) Unit :=
  match faults.readFails file.name with
  -- The read stands before the `try`.
  | some message => throw message
  | none =>
      tryCatch (transaction (faults.transactionFails file.name) (migration recordedAt file))
        fun message => throw ("Migration " ++ file.name ++ " failed: " ++ message)

def applyAll (faults : Faults) (recordedAt : ℤ) (known : List String) :
    List (File Db) → Store Db → Attempt Db
  | [], store => { applied := [], skipped := [], failed := none, store := store }
  | file :: rest, store =>
      if file.name ∈ known then
        let later := applyAll faults recordedAt known rest store
        { later with skipped := file.name :: later.skipped }
      else
        match applyFile faults recordedAt file store with
        | .ok _ after =>
            let later := applyAll faults recordedAt known rest after
            { later with applied := file.name :: later.applied }
        | .error message after =>
            { applied := [], skipped := [], failed := some (file.name, message), store := after }

/-- `MigrationRunner.run`, as the server calls it when it boots. -/
def runMigrations (faults : Faults) (recordedAt : ℤ) (directory : List (File Db))
    (store : Store Db) : Attempt Db :=
  let store := ensureSchema store
  applyAll faults recordedAt (listKnownNames store) (listMigrationFiles directory) store

end Runner

namespace Cli

structure StatusReport where
  applied : List String
  pending : List String
  deriving DecidableEq, Repr

/-- The command's own copy of the listing. -/
def listMigrationFiles (directory : List (File Db)) : List (File Db) :=
  (directory.filter fun file => Js.endsWith file.name ".sql").insertionSort
    fun left right => ¬ Js.before right.name left.name = true

def listAppliedRecords (store : Store Db) : List MigrationRecord :=
  match store.ledger with
  | none => []
  | some ledger => ledger.rows.insertionSort fun left right => left.name ≤ right.name

/-- A database file that does not exist is not created. -/
def runStatus (directory : List (File Db)) (database : Option (Store Db)) : StatusReport :=
  let files := (listMigrationFiles directory).map File.name
  let applied :=
    match database with
    | none => []
    | some store => listAppliedRecords store
  let appliedNames := applied.map MigrationRecord.name
  { applied := appliedNames, pending := files.filter (· ∉ appliedNames) }

/-- With `--backup` the copy comes first, and nothing runs when it fails. -/
def runApply (backupFails : Option String) (faults : Faults) (recordedAt : ℤ)
    (directory : List (File Db)) (store : Store Db) : Except String (Attempt Db) :=
  match backupFails with
  | some message => .error message
  | none => .ok (runMigrations faults recordedAt directory store)

end Cli

section Contents

abbrev Content (Db : Type) := Db × Option (List (String × MigrationKind))

def Store.rows (store : Store Db) : List MigrationRecord :=
  match store.ledger with
  | none => []
  | some ledger => ledger.rows

def Store.content (store : Store Db) : Content Db :=
  (store.db, store.ledger.map fun ledger => ledger.rows.map fun row => (row.name, row.kind))

def recorded (entry : String × MigrationKind) (content : Content Db) :
    Except String (Content Db) :=
  match content.2 with
  | none => .error "no such table: _migrations"
  | some entries =>
      if entry.1 ∉ entries.map Prod.fst then .ok (content.1, some (entries ++ [entry]))
      else .error "UNIQUE constraint failed: _migrations.name"

/-- What applying a file is for: its SQL and its record, both or neither. -/
def migrated (file : File Db) (content : Content Db) : Except String (Content Db) :=
  match file.exec content.1 with
  | .error message _ => .error message
  | .ok _ db => recorded (file.name, .schema) (db, content.2)

end Contents

section Applying

variable (faults : Faults) (recordedAt : ℤ) (file : File Db) (before : Store Db)

theorem insert_fresh (ledger : Ledger) (record : MigrationRecord)
    (fresh : record.name ∉ ledger.names) :
    ∃ longer, ledger.insert record = .ok longer ∧ longer.rows = ledger.rows ++ [record] := by
  rw [Ledger.insert, dif_pos fresh]
  exact ⟨_, rfl, rfl⟩

theorem insert_taken (ledger : Ledger) (record : MigrationRecord)
    (taken : ¬ record.name ∉ ledger.names) :
    ledger.insert record = .error "UNIQUE constraint failed: _migrations.name" :=
  dif_neg taken

theorem names_of_entries (rows : List MigrationRecord) :
    (rows.map fun row => (row.name, row.kind)).map Prod.fst = rows.map MigrationRecord.name := by
  rw [List.map_map]
  rfl

theorem knownNames_rows : listKnownNames before = before.rows.map MigrationRecord.name := by
  cases present : before.ledger with
  | none => simp only [listKnownNames, Store.rows, present, List.map_nil]
  | some ledger => simp only [listKnownNames, Store.rows, present, Ledger.names]

theorem insertRecord_cases (record : MigrationRecord) :
    (∃ after, insertRecord record before = .ok () after ∧
      recorded (record.name, record.kind) before.content = .ok after.content ∧
      after.rows = before.rows ++ [record]) ∨
    ∃ message, insertRecord record before = .error message before ∧
      recorded (record.name, record.kind) before.content = .error message := by
  cases present : before.ledger with
  | none =>
      right
      refine ⟨"no such table: _migrations", ?_, ?_⟩
      · simp only [insertRecord, present]
      · simp only [recorded, Store.content, present, Option.map_none]
  | some ledger =>
      by_cases fresh : record.name ∉ ledger.names
      · obtain ⟨longer, inserted, rows⟩ := insert_fresh ledger record fresh
        left
        refine ⟨{ before with ledger := some longer }, ?_, ?_, ?_⟩
        · simp only [insertRecord, present, inserted]
        · simp only [recorded, Store.content, present, Option.map_some, names_of_entries, rows,
            List.map_append, List.map_cons, List.map_nil]
          exact if_pos fresh
        · simp only [Store.rows, present, rows]
      · right
        refine ⟨"UNIQUE constraint failed: _migrations.name", ?_, ?_⟩
        · simp only [insertRecord, present, insert_taken ledger record fresh]
        · simp only [recorded, Store.content, present, Option.map_some, names_of_entries]
          exact if_neg fresh

theorem migration_cases :
    (∃ after, migration recordedAt file before = .ok () after ∧
      migrated file before.content = .ok after.content ∧
      after.rows = before.rows ++ [⟨file.name, recordedAt, .schema⟩]) ∨
    ∃ message reached, migration recordedAt file before = .error message reached ∧
      migrated file before.content = .error message := by
  cases executed : file.exec before.db with
  | error message db =>
      right
      have throws : execContent file before = .error message { before with db := db } := by
        simp only [execContent, executed]
      refine ⟨message, { before with db := db }, bind_error _ _ _ _ message throws, ?_⟩
      simp only [migrated, Store.content, executed]
  | ok value db =>
      have returns : execContent file before = .ok () { before with db := db } := by
        simp only [execContent, executed]
      have outcome : migrated file before.content =
          recorded (file.name, .schema) ({ before with db := db } : Store Db).content := by
        simp only [migrated, Store.content, executed]
      have next := bind_ok (execContent file)
        (fun _ => insertRecord ⟨file.name, recordedAt, .schema⟩) before _ () returns
      rcases insertRecord_cases { before with db := db } ⟨file.name, recordedAt, .schema⟩ with
        ⟨after, inserted, content, rows⟩ | ⟨message, refused, content⟩
      · exact .inl ⟨after, next.trans inserted, outcome.trans content, rows⟩
      · exact .inr ⟨message, _, next.trans refused, outcome.trans content⟩

theorem transaction_cases (fails : Option String) (body : EStateM String (Store Db) Unit) :
    (∃ after, transaction fails body before = .ok () after ∧ body before = .ok () after) ∨
    ∃ message, transaction fails body before = .error message before ∧
      (fails = none → ∃ reached, body before = .error message reached) := by
  cases fails with
  | some message => exact .inr ⟨message, rfl, fun none => by cases none⟩
  | none =>
      cases outcome : body before with
      | ok value after =>
          left
          exact ⟨after, by simp only [transaction, outcome], rfl⟩
      | error message reached =>
          right
          exact ⟨message, by simp only [transaction, outcome], fun _ => ⟨reached, rfl⟩⟩

/-- A file that returns has done its SQL and its record. One that throws has
done nothing, and without faults the reason is its own. -/
theorem applyFile_cases :
    (∃ after, applyFile faults recordedAt file before = .ok () after ∧
      migrated file before.content = .ok after.content ∧
      after.rows = before.rows ++ [⟨file.name, recordedAt, .schema⟩]) ∨
    ∃ message, applyFile faults recordedAt file before = .error message before ∧
      (faults = .none → ∃ reason, migrated file before.content = .error reason ∧
        message = "Migration " ++ file.name ++ " failed: " ++ reason) := by
  cases unread : faults.readFails file.name with
  | some message =>
      right
      refine ⟨message, by simp only [applyFile, unread]; rfl, ?_⟩
      intro calm
      rw [calm] at unread
      cases unread
  | none =>
      rcases transaction_cases before (faults.transactionFails file.name)
          (migration recordedAt file) with ⟨after, committed, did⟩ | ⟨reason, rolledBack, threw⟩
      · left
        refine ⟨after, ?_, ?_⟩
        · simp only [applyFile, unread]
          exact tryCatch_ok _ _ _ _ () committed
        · rcases migration_cases recordedAt file before with
            ⟨other, returned, content, rows⟩ | ⟨message, reached, thrown, _⟩
          · cases did.symm.trans returned
            exact ⟨content, rows⟩
          · cases did.symm.trans thrown
      · right
        refine ⟨"Migration " ++ file.name ++ " failed: " ++ reason, ?_, ?_⟩
        · simp only [applyFile, unread]
          exact tryCatch_error _ _ _ _ reason rolledBack
        · intro calm
          obtain ⟨reached, thrown⟩ := threw (by rw [calm]; rfl)
          rcases migration_cases recordedAt file before with
            ⟨after, returned, _, _⟩ | ⟨message, other, again, content⟩
          · cases thrown.symm.trans returned
          · cases thrown.symm.trans again
            exact ⟨reason, content, rfl⟩

end Applying

section Runs

variable (faults : Faults) (recordedAt : ℤ)

theorem applyFile_atomic : Atomic (fun file : File Db => applyFile faults recordedAt file) := by
  intro file before message after throws
  rcases applyFile_cases faults recordedAt file before with
    ⟨other, returned, _⟩ | ⟨reason, thrown, _⟩
  · cases throws.symm.trans returned
  · cases throws.symm.trans thrown
    rfl

theorem applyFile_follows (otherAt : ℤ) (file : File Db) (left right next : Store Db)
    (same : left.content = right.content)
    (returns : applyFile faults recordedAt file left = .ok () next) :
    ∃ reached, applyFile .none otherAt file right = .ok () reached ∧
      next.content = reached.content := by
  rcases applyFile_cases faults recordedAt file left with
    ⟨after, returned, content, _⟩ | ⟨message, thrown, _⟩
  · cases returns.symm.trans returned
    rcases applyFile_cases .none otherAt file right with
      ⟨reached, again, sameContent, _⟩ | ⟨message, thrown, own⟩
    · rw [← same, content] at sameContent
      exact ⟨reached, again, Except.ok.inj sameContent⟩
    · obtain ⟨reason, refused, _⟩ := own rfl
      rw [← same, content] at refused
      cases refused
  · cases returns.symm.trans thrown

theorem applyFile_refuses (otherAt : ℤ) (file : File Db) (left right : Store Db)
    (message : String) (next : Store Db) (same : left.content = right.content)
    (throws : applyFile .none recordedAt file left = .error message next) :
    ∃ reached, applyFile .none otherAt file right = .error message reached ∧
      next.content = reached.content := by
  rcases applyFile_cases .none recordedAt file left with
    ⟨after, returned, _⟩ | ⟨other, thrown, own⟩
  · cases throws.symm.trans returned
  · cases throws.symm.trans thrown
    obtain ⟨reason, refused, text⟩ := own rfl
    rcases applyFile_cases .none otherAt file right with
      ⟨after, _, content, _⟩ | ⟨again, thrownThere, ownThere⟩
    · rw [← same, refused] at content
      cases content
    · obtain ⟨sameReason, refusedThere, textThere⟩ := ownThere rfl
      rw [← same, refused] at refusedThere
      cases refusedThere
      rw [text, ← textThere]
      exact ⟨right, thrownThere, same⟩

theorem applyAll_work (known : List String) (files : List (File Db)) (store : Store Db) :
    (applyAll faults recordedAt known files store).applied =
        (work (applyFile faults recordedAt) (files.filter (·.name ∉ known)) store).done.map
          File.name ∧
      (applyAll faults recordedAt known files store).failed =
        (work (applyFile faults recordedAt) (files.filter (·.name ∉ known)) store).stopped.map
          (fun stop => (stop.1.name, stop.2)) ∧
      (applyAll faults recordedAt known files store).store =
        (work (applyFile faults recordedAt) (files.filter (·.name ∉ known)) store).state := by
  induction files generalizing store with
  | nil => exact ⟨rfl, rfl, rfl⟩
  | cons file rest ih =>
      by_cases skipped : file.name ∈ known
      · rw [applyAll, if_pos skipped, List.filter_cons_of_neg (by simpa using skipped)]
        exact ih store
      · rw [applyAll, if_neg skipped, List.filter_cons_of_pos (by simpa using skipped)]
        cases outcome : applyFile faults recordedAt file store with
        | ok value after =>
            obtain ⟨applied, failed, states⟩ := ih after
            rw [work_ok _ _ store file after outcome]
            exact ⟨congrArg (file.name :: ·) applied, failed, states⟩
        | error message after =>
            rw [work_error _ _ store file message after outcome]
            exact ⟨rfl, rfl, rfl⟩

def pendingFiles (directory : List (File Db)) (store : Store Db) : List (File Db) :=
  (listMigrationFiles directory).filter (·.name ∉ listKnownNames store)

theorem rows_ensureSchema (store : Store Db) : (ensureSchema store).rows = store.rows := by
  cases present : store.ledger with
  | none => simp only [ensureSchema, Store.rows, present, Option.getD_none, Ledger.empty]
  | some ledger => simp only [ensureSchema, Store.rows, present, Option.getD_some]

theorem knownNames_ensureSchema (store : Store Db) :
    listKnownNames (ensureSchema store) = listKnownNames store := by
  rw [knownNames_rows, knownNames_rows, rows_ensureSchema]

theorem content_ensureSchema (store : Store Db) :
    (ensureSchema store).content = (store.content.1, some (store.content.2.getD [])) := by
  cases present : store.ledger with
  | none => simp only [ensureSchema, Store.content, present, Option.getD_none, Ledger.empty,
      Option.map_some, Option.map_none, List.map_nil]
  | some ledger => simp only [ensureSchema, Store.content, present, Option.getD_some,
      Option.map_some]

theorem recorded_ledger (entry : String × MigrationKind) (before after : Content Db)
    (returns : recorded entry before = .ok after) : after = (after.1, some (after.2.getD [])) := by
  obtain ⟨db, entries⟩ := before
  cases entries with
  | none => cases returns
  | some entries =>
      by_cases fresh : entry.1 ∉ entries.map Prod.fst
      · have inserted : recorded entry (db, some entries) = .ok (db, some (entries ++ [entry])) :=
          if_pos fresh
        cases inserted.symm.trans returns
        rfl
      · have refused : recorded entry (db, some entries) =
            .error "UNIQUE constraint failed: _migrations.name" := if_neg fresh
        cases refused.symm.trans returns

theorem migrated_ledger (file : File Db) (before after : Content Db)
    (returns : migrated file before = .ok after) : after = (after.1, some (after.2.getD [])) := by
  cases executed : file.exec before.1 with
  | ok value db =>
      simp only [migrated, executed] at returns
      exact recorded_ledger _ _ after returns
  | error message db =>
      simp only [migrated, executed] at returns
      cases returns

theorem runMigrations_work (directory : List (File Db)) (store : Store Db) :
    let progress := work (applyFile faults recordedAt) (pendingFiles directory store)
      (ensureSchema store)
    (runMigrations faults recordedAt directory store).applied = progress.done.map File.name ∧
      (runMigrations faults recordedAt directory store).failed =
        progress.stopped.map (fun stop => (stop.1.name, stop.2)) ∧
      (runMigrations faults recordedAt directory store).store = progress.state := by
  have whole := applyAll_work faults recordedAt (listKnownNames (ensureSchema store))
    (listMigrationFiles directory) (ensureSchema store)
  rw [knownNames_ensureSchema] at whole
  rw [runMigrations, knownNames_ensureSchema]
  exact whole

theorem work_rows (files : List (File Db)) (store : Store Db) :
    (work (applyFile faults recordedAt) files store).state.rows = store.rows ++
      (work (applyFile faults recordedAt) files store).done.map
        fun file => ⟨file.name, recordedAt, .schema⟩ := by
  induction files generalizing store with
  | nil => exact (List.append_nil _).symm
  | cons file rest ih =>
      rcases applyFile_cases faults recordedAt file store with
        ⟨after, returned, _, rows⟩ | ⟨message, thrown, _⟩
      · rw [work_ok _ _ store file after returned]
        change (work (applyFile faults recordedAt) rest after).state.rows = _
        rw [ih after, rows, List.append_assoc]
        rfl
      · rw [work_error _ _ store file message store thrown]
        exact (List.append_nil _).symm

theorem pending_status (directory : List (File Db)) (database : Option (Store Db)) (db : Db) :
    (Cli.runStatus directory database).pending =
      (pendingFiles directory (database.getD ⟨db, none⟩)).map File.name := by
  have known : ∀ name, name ∈ (Cli.runStatus directory database).applied ↔
      name ∈ listKnownNames (database.getD ⟨db, none⟩) := by
    intro name
    cases database with
    | none => exact Iff.rfl
    | some store =>
        cases present : store.ledger with
        | none => simp only [Cli.runStatus, Cli.listAppliedRecords, present, List.map_nil,
            Option.getD_some, listKnownNames]
        | some ledger => simp only [Cli.runStatus, Cli.listAppliedRecords, present, List.mem_map,
            List.mem_insertionSort, Option.getD_some, listKnownNames, Ledger.names]
  calc (Cli.runStatus directory database).pending
      = ((listMigrationFiles directory).map File.name).filter
          (· ∉ (Cli.runStatus directory database).applied) := rfl
    _ = ((listMigrationFiles directory).map File.name).filter
          (· ∉ listKnownNames (database.getD ⟨db, none⟩)) := by simp only [known]
    _ = (pendingFiles directory (database.getD ⟨db, none⟩)).map File.name := List.filter_map

end Runs

end LlmGateway.Database
