import LlmGateway.Database.Migrations
import LlmGateway.Lib.Runs

/-!
The migrations of one database over its life: files are added to the end of
the directory, a file that was never applied may be rewritten, and the server
or the command runs what is pending, with faults at any point.
-/

namespace LlmGateway.Database

open Resumption Runs

structure Deployment (Db : Type) where
  directory : List (File Db)
  store : Store Db
  /-- The records that runs have committed, in the order of the commits. -/
  commits : List MigrationRecord

inductive Change (Db : Type) where
  | publish (file : File Db)
  /-- The file of this name gets a new content. -/
  | fix (file : File Db)
  | boot (recordedAt : ℤ) (faults : Faults)
  | apply (backupFails : Option String) (recordedAt : ℤ) (faults : Faults)

variable {Db : Type}

section Histories

def recordsAt (recordedAt : ℤ) (names : List String) : List MigrationRecord :=
  names.map fun name => { name := name, appliedAt := recordedAt, kind := .schema }

def revised (file old : File Db) : File Db := if old.name = file.name then file else old

def Deployment.fresh (store : Store Db) : Deployment Db where
  directory := []
  store := store
  commits := []

def Deployment.ran (deployment : Deployment Db) (recordedAt : ℤ) (attempt : Attempt Db) :
    Deployment Db :=
  { deployment with
    store := attempt.store
    commits := deployment.commits ++ recordsAt recordedAt attempt.applied }

def Deployment.step (deployment : Deployment Db) : Change Db → Deployment Db
  | .publish file => { deployment with directory := deployment.directory ++ [file] }
  | .fix file => { deployment with directory := deployment.directory.map (revised file) }
  | .boot recordedAt faults => deployment.ran recordedAt
      (runMigrations faults recordedAt deployment.directory deployment.store)
  | .apply backupFails recordedAt faults =>
      match Cli.runApply backupFails faults recordedAt deployment.directory deployment.store with
      | .ok attempt => deployment.ran recordedAt attempt
      | .error _ => deployment

/-- A new migration comes after all that are there, and none that the ledger
holds is rewritten. -/
def AppendOnly (deployment : Deployment Db) : Change Db → Prop
  | .publish file => file.name ∉ deployment.directory.map File.name ∧
      (Js.endsWith file.name ".sql" = true → ∀ earlier ∈ listMigrationFiles deployment.directory,
        Js.before earlier.name file.name = true)
  | .fix file => file.name ∉ listKnownNames deployment.store
  | .boot _ _ | .apply _ _ _ => True

instance AppendOnly.decidable (deployment : Deployment Db) :
    (change : Change Db) → Decidable (AppendOnly deployment change)
  | .publish file => inferInstanceAs (Decidable (file.name ∉ deployment.directory.map File.name ∧
      (Js.endsWith file.name ".sql" = true → ∀ earlier ∈ listMigrationFiles deployment.directory,
        Js.before earlier.name file.name = true)))
  | .fix file => inferInstanceAs (Decidable (file.name ∉ listKnownNames deployment.store))
  | .boot _ _ => inferInstanceAs (Decidable True)
  | .apply _ _ _ => inferInstanceAs (Decidable True)

end Histories

section Listing

variable (directory : List (File Db)) (file : File Db)

theorem insertionSort_append_last {Item : Type} (before : Item → Item → Prop)
    [DecidableRel before] (items : List Item) (last : Item)
    (ahead : ∀ item ∈ items, before item last) :
    (items ++ [last]).insertionSort before = items.insertionSort before ++ [last] := by
  have insert_last : ∀ (sorted : List Item) (item : Item), before item last →
      (sorted ++ [last]).orderedInsert before item =
        sorted.orderedInsert before item ++ [last] := by
    intro sorted item precedes
    induction sorted with
    | nil => exact if_pos precedes
    | cons first rest ih =>
        rw [List.cons_append, List.orderedInsert_cons, List.orderedInsert_cons]
        by_cases inFront : before item first
        · rw [if_pos inFront, if_pos inFront]
          rfl
        · rw [if_neg inFront, if_neg inFront, ih]
          rfl
  induction items with
  | nil => rfl
  | cons first rest ih =>
      rw [List.cons_append, List.insertionSort_cons, List.insertionSort_cons,
        ih fun item member => ahead item (List.mem_cons_of_mem first member)]
      exact insert_last _ first (ahead first List.mem_cons_self)

theorem listing_publish_other (other : ¬ Js.endsWith file.name ".sql" = true) :
    listMigrationFiles (directory ++ [file]) = listMigrationFiles directory := by
  have dropped : [file].filter (fun file => Js.endsWith file.name ".sql") = [] :=
    List.filter_cons_of_neg other
  rw [listMigrationFiles, List.filter_append, dropped, List.append_nil]
  rfl

theorem listing_publish_sql (sql : Js.endsWith file.name ".sql" = true)
    (last : ∀ earlier ∈ listMigrationFiles directory,
      Js.before earlier.name file.name = true) :
    listMigrationFiles (directory ++ [file]) = listMigrationFiles directory ++ [file] := by
  have kept : [file].filter (fun file => Js.endsWith file.name ".sql") = [file] :=
    List.filter_cons_of_pos sql
  rw [listMigrationFiles, List.filter_append, kept]
  apply insertionSort_append_last
  intro earlier member
  exact Js.not_before _ _ (last earlier ((List.mem_insertionSort _).mpr member))

theorem revised_name (old : File Db) : (revised file old).name = old.name := by
  by_cases same : old.name = file.name
  · rw [revised, if_pos same, same]
  · rw [revised, if_neg same]

theorem listing_fix : listMigrationFiles (directory.map (revised file)) =
    (listMigrationFiles directory).map (revised file) := by
  have same_names : ((fun file => Js.endsWith file.name ".sql") ∘ revised file) =
      fun file : File Db => Js.endsWith file.name ".sql" := by
    funext old
    simp only [Function.comp_apply, revised_name]
  rw [listMigrationFiles, List.filter_map, same_names]
  symm
  apply List.map_insertionSort
  intro left _ right _
  rw [revised_name, revised_name]

end Listing

section Invariant

variable (start : Store Db) (deployment : Deployment Db)

/-- The files of the split so far: those done, and those one run would still
have ahead of it. What was done can be replayed on the start in one go. -/
structure Reached (done rest : List (File Db)) : Prop where
  named : (deployment.directory.map File.name).Nodup
  pending : pendingFiles deployment.directory start = done ++ rest
  commits : deployment.commits.map MigrationRecord.name = done.map File.name
  rows : deployment.store.rows = start.rows ++ deployment.commits
  replayed : ∀ recordedAt,
    (work (applyFile .none recordedAt) done (ensureSchema start)).stopped = none ∧
      (ensureSchema deployment.store).content =
        (work (applyFile .none recordedAt) done (ensureSchema start)).state.content

variable {start deployment} {done rest : List (File Db)}

theorem reached_fresh : Reached start (.fresh start) [] [] where
  named := List.nodup_nil
  pending := rfl
  commits := rfl
  rows := (List.append_nil _).symm
  replayed := fun _ => ⟨rfl, rfl⟩

theorem pending_named (directory : List (File Db)) (store : Store Db)
    (named : (directory.map File.name).Nodup) :
    ((pendingFiles directory store).map File.name).Nodup := by
  have sub : (pendingFiles directory store).Sublist (listMigrationFiles directory) :=
    List.filter_sublist
  have listed : ((listMigrationFiles directory).map File.name).Perm
      ((directory.filter fun file => Js.endsWith file.name ".sql").map File.name) :=
    (List.perm_insertionSort _ _).map File.name
  have kept : ((directory.filter fun file => Js.endsWith file.name ".sql").map File.name).Nodup :=
    named.sublist (List.filter_sublist.map File.name)
  exact (listed.nodup_iff.mpr kept).sublist (sub.map File.name)

theorem known_reached (reached : Reached start deployment done rest) :
    listKnownNames deployment.store = listKnownNames start ++ done.map File.name := by
  rw [knownNames_rows, knownNames_rows, reached.rows, List.map_append, reached.commits]

theorem pending_reached (reached : Reached start deployment done rest) :
    pendingFiles deployment.directory deployment.store = rest := by
  have distinct := pending_named deployment.directory start reached.named
  rw [reached.pending, List.map_append] at distinct
  have apart := List.nodup_append.mp distinct
  calc pendingFiles deployment.directory deployment.store
      = (pendingFiles deployment.directory start).filter (·.name ∉ done.map File.name) := by
        rw [pendingFiles, pendingFiles, List.filter_filter, known_reached reached]
        simp only [List.mem_append, not_or, Bool.decide_and, Bool.and_comm]
    _ = (done ++ rest).filter (·.name ∉ done.map File.name) := by rw [reached.pending]
    _ = rest := by
        have gone : done.filter (·.name ∉ done.map File.name) = [] := by
          apply List.filter_eq_nil_iff.mpr
          intro file member
          simpa using ⟨file, member, rfl⟩
        have kept : rest.filter (·.name ∉ done.map File.name) = rest := by
          apply List.filter_eq_self.mpr
          intro file member
          apply decide_eq_true
          intro before
          exact apart.2.2 _ before _ (List.mem_map_of_mem member) rfl
        rw [List.filter_append, gone, kept]
        rfl

theorem reached_publish (file : File Db) (reached : Reached start deployment done rest)
    (appendOnly : AppendOnly deployment (.publish file)) :
    ∃ later, Reached start (deployment.step (.publish file)) done later := by
  have named : ((deployment.directory ++ [file]).map File.name).Nodup := by
    rw [List.map_append]
    exact List.nodup_append_comm.mp (List.nodup_cons.mpr ⟨appendOnly.1, reached.named⟩)
  by_cases sql : Js.endsWith file.name ".sql" = true
  · have listing := listing_publish_sql deployment.directory file sql (appendOnly.2 sql)
    refine ⟨rest ++ [file].filter (·.name ∉ listKnownNames start), named, ?_, reached.commits,
      reached.rows, reached.replayed⟩
    change pendingFiles (deployment.directory ++ [file]) start = _
    rw [pendingFiles, listing, List.filter_append, ← List.append_assoc, ← reached.pending]
    rfl
  · have listing := listing_publish_other deployment.directory file sql
    refine ⟨rest, named, ?_, reached.commits, reached.rows, reached.replayed⟩
    change pendingFiles (deployment.directory ++ [file]) start = _
    rw [pendingFiles, listing]
    exact reached.pending

theorem reached_fix (file : File Db) (reached : Reached start deployment done rest)
    (appendOnly : AppendOnly deployment (.fix file)) :
    ∃ later, Reached start (deployment.step (.fix file)) done later := by
  have known := known_reached reached
  have same_names : File.name ∘ revised file = File.name := funext (revised_name file)
  have named : ((deployment.directory.map (revised file)).map File.name).Nodup := by
    rw [List.map_map, same_names]
    exact reached.named
  have untouched : done.map (revised file) = done := by
    have same : ∀ old ∈ done, revised file old = id old := by
      intro old member
      apply if_neg
      intro equal
      apply appendOnly
      rw [known]
      exact List.mem_append_right _ (List.mem_map.mpr ⟨old, member, equal⟩)
    rw [List.map_congr_left same, List.map_id]
  refine ⟨rest.map (revised file), named, ?_, reached.commits, reached.rows, reached.replayed⟩
  calc pendingFiles (deployment.directory.map (revised file)) start
      = (pendingFiles deployment.directory start).map (revised file) := by
        rw [pendingFiles, listing_fix, List.filter_map]
        simp only [pendingFiles, Function.comp_def, revised_name]
    _ = done ++ rest.map (revised file) := by rw [reached.pending, List.map_append, untouched]

theorem run_reached (faults : Faults) (recordedAt : ℤ)
    (reached : Reached start deployment done rest) :
    let progress := work (applyFile faults recordedAt) rest (ensureSchema deployment.store)
    let attempt := runMigrations faults recordedAt deployment.directory deployment.store
    attempt.applied = progress.done.map File.name ∧
      attempt.failed = progress.stopped.map (fun stop => (stop.1.name, stop.2)) ∧
      attempt.store = progress.state := by
  have whole := runMigrations_work faults recordedAt deployment.directory deployment.store
  rw [pending_reached reached] at whole
  exact whole

theorem recordsAt_files (recordedAt : ℤ) (files : List (File Db)) :
    files.map (fun file => (⟨file.name, recordedAt, .schema⟩ : MigrationRecord)) =
      recordsAt recordedAt (files.map File.name) := by
  rw [recordsAt, List.map_map]
  rfl

theorem ensured_work (faults : Faults) (recordedAt : ℤ) (files : List (File Db))
    (store : Store Db) :
    (ensureSchema (work (applyFile faults recordedAt) files (ensureSchema store)).state).content =
      (work (applyFile faults recordedAt) files (ensureSchema store)).state.content := by
  apply work_invariant (applyFile faults recordedAt) files (ensureSchema store)
    (fun store => (ensureSchema store).content = store.content)
    (applyFile_atomic faults recordedAt)
  · intro file before after _ returns
    rcases applyFile_cases faults recordedAt file before with
      ⟨other, returned, content, _⟩ | ⟨message, thrown, _⟩
    · cases returns.symm.trans returned
      rw [content_ensureSchema]
      exact (migrated_ledger file before.content after.content content).symm
    · cases returns.symm.trans thrown
  · rw [content_ensureSchema, content_ensureSchema]
    rfl

theorem reached_ran (faults : Faults) (recordedAt : ℤ)
    (reached : Reached start deployment done rest) :
    ∃ later, Reached start (deployment.ran recordedAt
        (runMigrations faults recordedAt deployment.directory deployment.store))
      (done ++ (work (applyFile faults recordedAt) rest (ensureSchema deployment.store)).done)
      later := by
  obtain ⟨applied, _, stores⟩ := run_reached faults recordedAt reached
  obtain ⟨later, split, _⟩ := work_splits (applyFile faults recordedAt) rest
    (ensureSchema deployment.store)
  have rows := work_rows faults recordedAt rest (ensureSchema deployment.store)
  refine ⟨later, ?_⟩
  constructor
  · exact reached.named
  · rw [List.append_assoc, ← split]
    exact reached.pending
  · change (deployment.commits ++ recordsAt recordedAt _).map MigrationRecord.name = _
    rw [List.map_append, reached.commits, applied, ← recordsAt_files, List.map_map,
      List.map_append]
    rfl
  · change (runMigrations faults recordedAt deployment.directory deployment.store).store.rows =
      start.rows ++ (deployment.commits ++ recordsAt recordedAt _)
    rw [stores, applied, rows, rows_ensureSchema, reached.rows, recordsAt_files,
      List.append_assoc]
  · intro readAt
    obtain ⟨finished, content⟩ := reached.replayed readAt
    -- The files of this run, done again undisturbed from where the replay stands.
    have again := work_done_related (applyFile faults recordedAt) (applyFile .none readAt)
      (fun left right => left.content = right.content) (applyFile_atomic faults recordedAt)
      (fun file left right next same returns =>
        applyFile_follows faults recordedAt readAt file left right next same returns)
      rest (ensureSchema deployment.store) _ content
    have whole := work_append (applyFile .none readAt) done (ensureSchema start)
      (work (applyFile faults recordedAt) rest (ensureSchema deployment.store)).done finished
    rw [whole]
    refine ⟨again.1, ?_⟩
    change (ensureSchema (runMigrations faults recordedAt deployment.directory
      deployment.store).store).content = _
    rw [stores, ensured_work]
    exact again.2

theorem reached_step (change : Change Db) (reached : Reached start deployment done rest)
    (appendOnly : AppendOnly deployment change) :
    ∃ before after, Reached start (deployment.step change) before after := by
  cases change with
  | publish file => exact ⟨done, reached_publish file reached appendOnly⟩
  | fix file => exact ⟨done, reached_fix file reached appendOnly⟩
  | boot recordedAt faults => exact ⟨_, reached_ran faults recordedAt reached⟩
  | apply backupFails recordedAt faults =>
      cases backupFails with
      | some message => exact ⟨done, rest, reached⟩
      | none => exact ⟨_, reached_ran faults recordedAt reached⟩

theorem reached_run (start : Store Db) (changes : List (Change Db))
    (appendOnly : Guarded Deployment.step AppendOnly (.fresh start) changes) :
    ∃ done rest, Reached start (run Deployment.step (.fresh start) changes) done rest :=
  always_last Deployment.step _ _ changes
    (always_of_guarded Deployment.step
      (fun deployment => ∃ done rest, Reached start deployment done rest) AppendOnly
      (fun _ change ⟨_, _, reached⟩ allowed => reached_step change reached allowed)
      (.fresh start) changes ⟨[], [], reached_fresh⟩ appendOnly)

end Invariant

section Whole

/-- The last run of a split, beside one undisturbed run over the same files.
The two ledgers may differ in the times alone, and the times of the split are
those of the runs that committed. -/
structure SameAsWhole (start : Store Db) (split : Deployment Db) (lastAt : ℤ)
    (last whole : Attempt Db) : Prop where
  content : last.store.content = whole.store.content
  failed : last.failed = whole.failed
  applied : split.commits.map MigrationRecord.name ++ last.applied = whole.applied
  rows : last.store.rows = start.rows ++ (split.commits ++ recordsAt lastAt last.applied)
  once : whole.applied.Nodup
  every : whole.failed = none →
    whole.applied = (pendingFiles split.directory start).map File.name
  folded : whole.failed = none →
    (pendingFiles split.directory start).foldlM (fun content file => migrated file content)
      (ensureSchema start).content = .ok whole.store.content

/-- A run that throws leaves the store as it was before the file at which it
threw, that is, after the pending files before that one. -/
def StopsBefore (faults : Faults) (recordedAt : ℤ) (directory : List (File Db))
    (store : Store Db) : Prop :=
  ∀ name message, (runMigrations faults recordedAt directory store).failed = some (name, message) →
    ∃ before file later, pendingFiles directory store = before ++ file :: later ∧
      file.name = name ∧
      (runMigrations faults recordedAt directory store).applied = before.map File.name ∧
      (applyAll faults recordedAt (listKnownNames store) before (ensureSchema store)).failed =
        none ∧
      (runMigrations faults recordedAt directory store).store =
        (applyAll faults recordedAt (listKnownNames store) before (ensureSchema store)).store

/-- The pending list of the status is what the next run applies, up to the file
at which that run throws. -/
def StatusExact (directory : List (File Db))
    (database : Option (Store Db)) (next : Attempt Db) : Prop :=
  (next.failed = none → next.applied = (Cli.runStatus directory database).pending) ∧
    ∀ name message, next.failed = some (name, message) →
      ∃ later, (Cli.runStatus directory database).pending = next.applied ++ name :: later

theorem run_stops_before (faults : Faults) (recordedAt : ℤ) (directory : List (File Db))
    (store : Store Db) : StopsBefore faults recordedAt directory store := by
  intro name message failed
  obtain ⟨applied, stopped, stores⟩ := runMigrations_work faults recordedAt directory store
  obtain ⟨rest, split, _, at_file⟩ := work_splits (applyFile faults recordedAt)
    (pendingFiles directory store) (ensureSchema store)
  have again := work_done (applyFile faults recordedAt) (applyFile_atomic faults recordedAt)
    (pendingFiles directory store) (ensureSchema store)
  obtain ⟨⟨file, reason⟩, at_stop, same⟩ := Option.map_eq_some_iff.mp (stopped.symm.trans failed)
  cases same
  obtain ⟨later, first⟩ := at_file file _ at_stop
  -- None of the files before is known, so the loop over them skips nothing.
  have unknown : (work (applyFile faults recordedAt) (pendingFiles directory store)
      (ensureSchema store)).done.filter (·.name ∉ listKnownNames store) =
        (work (applyFile faults recordedAt) (pendingFiles directory store)
          (ensureSchema store)).done := by
    apply List.filter_eq_self.mpr
    intro before member
    have inPending : before ∈ pendingFiles directory store := by
      rw [split]
      exact List.mem_append_left _ member
    exact (List.mem_filter.mp inPending).2
  obtain ⟨_, finished, reached⟩ := applyAll_work faults recordedAt (listKnownNames store)
    (work (applyFile faults recordedAt) (pendingFiles directory store) (ensureSchema store)).done
    (ensureSchema store)
  rw [unknown] at finished reached
  refine ⟨_, file, later, first ▸ split, rfl, applied, ?_, ?_⟩
  · rw [finished, again.1]
    rfl
  · rw [stores, reached, again.2]

theorem status_exact (faults : Faults) (recordedAt : ℤ) (directory : List (File Db))
    (database : Option (Store Db)) (empty : Db) : StatusExact directory database
      (runMigrations faults recordedAt directory (database.getD ⟨empty, none⟩)) := by
  have listed := pending_status directory database empty
  obtain ⟨applied, stopped, _⟩ := runMigrations_work faults recordedAt directory
    (database.getD ⟨empty, none⟩)
  obtain ⟨rest, split, finished, at_file⟩ := work_splits (applyFile faults recordedAt)
    (pendingFiles directory (database.getD ⟨empty, none⟩))
    (ensureSchema (database.getD ⟨empty, none⟩))
  constructor
  · intro succeeded
    have nothing := finished (Option.map_eq_none_iff.mp (stopped.symm.trans succeeded))
    rw [nothing, List.append_nil] at split
    rw [listed, applied, ← split]
  · intro name message failed
    obtain ⟨⟨file, reason⟩, at_stop, same⟩ := Option.map_eq_some_iff.mp (stopped.symm.trans failed)
    cases same
    obtain ⟨later, first⟩ := at_file file _ at_stop
    rw [first] at split
    refine ⟨later.map File.name, ?_⟩
    rw [listed, applied, ← List.map_cons, ← List.map_append, ← split]

theorem work_folds (recordedAt : ℤ) (files : List (File Db)) (store : Store Db)
    (finished : (work (applyFile .none recordedAt) files store).stopped = none) :
    files.foldlM (fun content file => migrated file content) store.content =
      .ok (work (applyFile .none recordedAt) files store).state.content := by
  induction files generalizing store with
  | nil => rfl
  | cons file rest ih =>
      rcases applyFile_cases .none recordedAt file store with
        ⟨after, returned, content, _⟩ | ⟨message, thrown, _⟩
      · rw [work_ok _ _ store file after returned] at finished ⊢
        rw [List.foldlM_cons, content]
        exact ih after finished
      · rw [work_error _ _ store file message store thrown] at finished
        cases finished

/-- The last run does with what is left what one run would do with it, if no
fault disturbs it, or if it gets through. -/
theorem last_matches {start : Store Db} {split : Deployment Db} {done rest : List (File Db)}
    (reached : Reached start split done rest) (faults : Faults) (lastAt wholeAt : ℤ)
    (through : faults = .none ∨
      (runMigrations faults lastAt split.directory split.store).failed = none) :
    let last := work (applyFile faults lastAt) rest (ensureSchema split.store)
    let whole := work (applyFile .none wholeAt) (done ++ rest) (ensureSchema start)
    whole.done = done ++ last.done ∧ whole.stopped = last.stopped ∧
      last.state.content = whole.state.content := by
  intro last whole
  obtain ⟨finished, content⟩ := reached.replayed wholeAt
  have resumed := work_append (applyFile .none wholeAt) done (ensureSchema start) rest finished
  obtain calm | succeeded := through
  · subst calm
    obtain ⟨sameDone, sameStop, states⟩ := work_related (applyFile .none lastAt)
      (applyFile .none wholeAt) (fun left right => left.content = right.content)
      (fun file left right next same returns =>
        applyFile_follows .none lastAt wholeAt file left right next same returns)
      (fun file left right message next same throws =>
        applyFile_refuses lastAt wholeAt file left right message next same throws)
      rest (ensureSchema split.store) _ content
    rw [show whole = _ from resumed]
    exact ⟨congrArg (done ++ ·) sameDone, sameStop, states⟩
  · obtain ⟨_, failed, _⟩ := run_reached faults lastAt reached
    have unstopped : last.stopped = none := Option.map_eq_none_iff.mp (failed.symm.trans succeeded)
    have all := done_of_finished (applyFile faults lastAt) rest (ensureSchema split.store) unstopped
    have again := work_done_related (applyFile faults lastAt) (applyFile .none wholeAt)
      (fun left right => left.content = right.content) (applyFile_atomic faults lastAt)
      (fun file left right next same returns =>
        applyFile_follows faults lastAt wholeAt file left right next same returns)
      rest (ensureSchema split.store) _ content
    rw [all] at again
    have allAgain := done_of_finished (applyFile .none wholeAt) rest _ again.1
    rw [show whole = _ from resumed, unstopped, show last.done = rest from all]
    exact ⟨congrArg (done ++ ·) allAgain, again.1, again.2⟩

theorem reached_whole {start : Store Db} {split : Deployment Db} {done rest : List (File Db)}
    (reached : Reached start split done rest) (faults : Faults) (lastAt wholeAt : ℤ)
    (through : faults = .none ∨
      (runMigrations faults lastAt split.directory split.store).failed = none) :
    SameAsWhole start split lastAt (runMigrations faults lastAt split.directory split.store)
      (runMigrations .none wholeAt split.directory start) := by
  obtain ⟨dones, stops, contents⟩ := last_matches reached faults lastAt wholeAt through
  obtain ⟨lastApplied, lastFailed, lastStore⟩ := run_reached faults lastAt reached
  obtain ⟨applied, failed, stores⟩ := runMigrations_work .none wholeAt split.directory start
  have rows := work_rows faults lastAt rest (ensureSchema split.store)
  obtain ⟨others, parts, _⟩ := work_splits (applyFile .none wholeAt)
    (pendingFiles split.directory start) (ensureSchema start)
  rw [reached.pending] at applied failed stores parts
  constructor
  · rw [lastStore, stores, contents]
  · rw [lastFailed, failed, stops]
  · rw [reached.commits, lastApplied, applied, dones, List.map_append]
  · rw [lastStore, rows, rows_ensureSchema, reached.rows, lastApplied, recordsAt_files,
      List.append_assoc]
  · have distinct := pending_named split.directory start reached.named
    rw [reached.pending, parts, List.map_append] at distinct
    rw [applied]
    exact (List.nodup_append.mp distinct).1
  · intro succeeded
    have unstopped := Option.map_eq_none_iff.mp (failed.symm.trans succeeded)
    rw [applied, done_of_finished _ _ _ unstopped, reached.pending]
  · intro succeeded
    have unstopped := Option.map_eq_none_iff.mp (failed.symm.trans succeeded)
    rw [stores, reached.pending]
    exact work_folds wholeAt (done ++ rest) (ensureSchema start) unstopped

/-- However the files reach the database, it ends as after one run over all of
them. No run leaves half a file, and the status names what the next one does. -/
theorem splits_match_whole (start : Store Db) (changes : List (Change Db))
    (appendOnly : Guarded Deployment.step AppendOnly (.fresh start) changes) :
    (∀ faults lastAt wholeAt,
      let split := run Deployment.step (.fresh start) changes
      let last := runMigrations faults lastAt split.directory split.store
      faults = .none ∨ last.failed = none →
        SameAsWhole start split lastAt last
          (runMigrations .none wholeAt split.directory start)) ∧
      (∀ faults recordedAt directory (store : Store Db),
        StopsBefore faults recordedAt directory store) ∧
      ∀ faults recordedAt directory (database : Option (Store Db)) empty,
        StatusExact directory database
          (runMigrations faults recordedAt directory (database.getD ⟨empty, none⟩)) := by
  obtain ⟨done, rest, reached⟩ := reached_run start changes appendOnly
  refine ⟨?_, run_stops_before, ?_⟩
  · intro faults lastAt wholeAt split last through
    exact reached_whole reached faults lastAt wholeAt through
  · intro faults recordedAt directory database empty
    exact status_exact faults recordedAt directory database empty

end Whole

section Examples

def exampleFile (name : String) (works : Bool) : File (List String) where
  name := name
  exec := fun db => if works then .ok () (db ++ [name]) else .error "syntax error" (db ++ [name])

def exampleStart : Store (List String) where
  db := []
  ledger := none

def boots : List (Change (List String)) :=
  [.publish (exampleFile "0001_a.sql" true), .boot 100 .none,
    .publish (exampleFile "0002_b.sql" true), .boot 200 .none]

def booted : Deployment (List String) := run Deployment.step (.fresh exampleStart) boots

/-- Two boots leave two times in the ledger, and one run leaves one. -/
theorem boots_keep_times : Guarded Deployment.step AppendOnly (.fresh exampleStart) boots ∧
    (Cli.runStatus booted.directory (some booted.store)).pending = [] ∧
    ∀ wholeAt, booted.store.rows ≠
      (runMigrations .none wholeAt booted.directory exampleStart).store.rows := by
  refine ⟨by decide +kernel, by decide +kernel, ?_⟩
  intro wholeAt same
  obtain ⟨_, _, stores⟩ := runMigrations_work .none wholeAt booted.directory exampleStart
  have rows := work_rows .none wholeAt (pendingFiles booted.directory exampleStart)
    (ensureSchema exampleStart)
  have alike : ∀ row ∈ booted.store.rows, row.appliedAt = wholeAt := by
    intro row member
    rw [same, stores, rows] at member
    rcases List.mem_append.mp member with before | during
    · cases before
    · obtain ⟨file, _, rfl⟩ := List.mem_map.mp during
      rfl
  have first : (100 : ℤ) = wholeAt :=
    alike { name := "0001_a.sql", appliedAt := 100, kind := .schema } (by decide +kernel)
  have second : (200 : ℤ) = wholeAt :=
    alike { name := "0002_b.sql", appliedAt := 200, kind := .schema } (by decide +kernel)
  omega

def locked : Faults where
  readFails := fun _ => none
  transactionFails := fun name => if name = "0001_a.sql" then some "database is locked" else none

def repairs : List (Change (List String)) :=
  [.publish (exampleFile "0001_a.sql" true), .publish (exampleFile "0002_b.sql" false),
    .boot 50 locked, .boot 100 .none, .publish (exampleFile "README.md" false),
    .fix (exampleFile "0002_b.sql" true), .apply none 200 .none,
    .publish (exampleFile "0003_c.sql" true)]

def repaired : Deployment (List String) := run Deployment.step (.fresh exampleStart) repairs

theorem repairs_match_whole : SameAsWhole exampleStart repaired 300
    (runMigrations .none 300 repaired.directory repaired.store)
    (runMigrations .none 400 repaired.directory exampleStart) :=
  (splits_match_whole exampleStart repairs (by decide +kernel)).1 .none 300 400 (.inl rfl)

end Examples

end LlmGateway.Database
