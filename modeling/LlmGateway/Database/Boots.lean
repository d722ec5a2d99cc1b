import LlmGateway.Database.SeedReading

/-!
The database file over many starts of the program, with what is written in
between. The seed is applied by one start at most, and from then on no start
touches what the seed wrote, whatever its file has become.
-/

namespace LlmGateway.Seed

open Database Resumption

structure Boot where
  faults : Faults
  /-- The files of `migrations/`, where it exists. -/
  directory : Option (List (File Tables))
  /-- Path and content of the seed file, where it exists. -/
  seedFile : Option (String × Except String String)
  recordedAt : ℤ

def seedName : String := "0001_initial_providers"

section Run

variable (platform : Platform)

/-- What `useFactory` of the database does before it returns the service. -/
def Boot.run (start : Boot) (store : Store Tables) : Option SeedResult × Store Tables :=
  match start.directory with
  | none => (none, store)
  | some directory =>
      let attempt := runMigrations start.faults start.recordedAt directory store
      match attempt.failed, start.seedFile with
      | none, some (path, raw) =>
          match seedProvidersFromFile platform ⟨seedName, path, raw⟩ start.recordedAt
            attempt.store with
          | .ok result next => (some result, next)
          | .error _ next => (none, next)
      -- The run has thrown, or there is nothing to seed from.
      | _, _ => (none, attempt.store)

inductive Event where
  | boot (start : Boot)
  /-- What the program writes to the tables while it runs. -/
  | requests (change : Tables → Tables)

def Event.step (store : Store Tables) : Event → Store Tables
  | .boot start => (start.run platform store).2
  | .requests change => { store with db := change store.db }

/-- The boot has applied its seed. -/
def Event.seeds (store : Store Tables) : Event → Bool
  | .boot start => (start.run platform store).1.any SeedResult.applied
  | .requests _ => false

def run (events : List Event) (store : Store Tables) : Store Tables :=
  events.foldl (Event.step platform) store

def seedings : List Event → Store Tables → ℕ
  | [], _ => 0
  | event :: rest, store =>
      (if event.seeds platform store then 1 else 0) + seedings rest (event.step platform store)

/-- The same event where there is no seed file. -/
def Event.unseeded : Event → Event
  | .boot start => .boot { start with seedFile := none }
  | .requests change => .requests change

end Run

section Recorded

variable (platform : Platform) (store next : Store Tables)

theorem alreadySeeded_grown (rows : List MigrationRecord) (name : String)
    (grown : next.rows = store.rows ++ rows) (seeded : alreadySeeded store name = true) :
    alreadySeeded next name = true := by
  unfold alreadySeeded at seeded ⊢
  rw [grown, List.any_append, seeded, Bool.true_or]

theorem alreadySeeded_runMigrations (faults : Faults) (recordedAt : ℤ)
    (directory : List (File Tables)) (name : String) (seeded : alreadySeeded store name = true) :
    alreadySeeded (runMigrations faults recordedAt directory store).store name = true := by
  rw [(runMigrations_work faults recordedAt directory store).2.2]
  have rows := work_rows faults recordedAt (pendingFiles directory store) (ensureSchema store)
  rw [rows_ensureSchema] at rows
  exact alreadySeeded_grown store _ _ name rows seeded

theorem ensureSchema_seeded (name : String) (seeded : alreadySeeded store name = true) :
    ensureSchema store = store := by
  obtain ⟨db, ledger⟩ := store
  cases ledger with
  | none => cases seeded
  | some ledger => rfl

theorem run_seeded (start : Boot) (seeded : alreadySeeded store seedName = true) :
    (start.run platform store).2 = (Boot.run platform { start with seedFile := none } store).2 ∧
      (start.run platform store).1.any SeedResult.applied = false ∧
      alreadySeeded (start.run platform store).2 seedName = true := by
  obtain ⟨faults, directory, seedFile, recordedAt⟩ := start
  cases directory with
  | none => exact ⟨rfl, rfl, seeded⟩
  | some directory =>
      have recorded := alreadySeeded_runMigrations store faults recordedAt directory seedName seeded
      unfold Boot.run
      dsimp only
      generalize runMigrations faults recordedAt directory store = attempt at recorded ⊢
      cases attempt.failed with
      | some failure => exact ⟨rfl, rfl, recorded⟩
      | none =>
          cases seedFile with
          | none => exact ⟨rfl, rfl, recorded⟩
          | some file =>
              obtain ⟨path, raw⟩ := file
              rcases seedProvidersFromFile_cases platform ⟨seedName, path, raw⟩ recordedAt
                attempt.store with ⟨_, call⟩ | ⟨fresh, _⟩
              · simp only [call, ensureSchema_seeded attempt.store seedName recorded]
                exact ⟨trivial, rfl, recorded⟩
              · exact absurd (recorded.symm.trans fresh) (by decide)

theorem run_applied (start : Boot)
    (applied : (start.run platform store).1.any SeedResult.applied = true) :
    alreadySeeded (start.run platform store).2 seedName = true := by
  obtain ⟨faults, directory, seedFile, recordedAt⟩ := start
  cases directory with
  | none => cases applied
  | some directory =>
      unfold Boot.run at applied ⊢
      dsimp only at applied ⊢
      generalize runMigrations faults recordedAt directory store = attempt at applied ⊢
      cases failed : attempt.failed with
      | some failure =>
          rw [failed] at applied
          cases applied
      | none =>
          rw [failed] at applied
          cases seedFile with
          | none => cases applied
          | some file =>
              obtain ⟨path, raw⟩ := file
              dsimp only at applied ⊢
              rcases seedProvidersFromFile_cases platform ⟨seedName, path, raw⟩ recordedAt
                attempt.store with
                ⟨_, call⟩ | ⟨_, ⟨message, _, call⟩ |
                  ⟨file, _, ⟨next, _, _, rows, call⟩ | ⟨_, _, call⟩⟩⟩
              · simp only [call] at applied
                cases applied
              · simp only [call] at applied
                cases applied
              · simp only [call, alreadySeeded, rows, List.any_append]
                simp
              · simp only [call] at applied
                cases applied

end Recorded

section Once

variable (platform : Platform) (store : Store Tables)

theorem step_seeded (event : Event) (seeded : alreadySeeded store seedName = true) :
    event.step platform store = event.unseeded.step platform store ∧
      event.seeds platform store = false ∧
      alreadySeeded (event.step platform store) seedName = true := by
  cases event with
  | boot start => exact run_seeded platform store start seeded
  | requests change => exact ⟨rfl, rfl, seeded⟩

theorem run_unseeded (events : List Event) (seeded : alreadySeeded store seedName = true) :
    run platform events store = run platform (events.map Event.unseeded) store ∧
      seedings platform events store = 0 ∧
      alreadySeeded (run platform events store) seedName = true := by
  induction events generalizing store with
  | nil => exact ⟨rfl, rfl, seeded⟩
  | cons event rest ih =>
      obtain ⟨same, none, still⟩ := step_seeded platform store event seeded
      obtain ⟨later, zero, kept⟩ := ih (event.step platform store) still
      refine ⟨?_, ?_, kept⟩
      · exact later.trans (by rw [same]; rfl)
      · rw [seedings, none, zero]
        rfl

theorem seeds_recorded (event : Event) (seeds : event.seeds platform store = true) :
    alreadySeeded (event.step platform store) seedName = true := by
  cases event with
  | boot start => exact run_applied platform store start seeds
  | requests change => cases seeds

theorem seedings_recorded (events : List Event) (some : 0 < seedings platform events store) :
    alreadySeeded (run platform events store) seedName = true := by
  induction events generalizing store with
  | nil => cases some
  | cons event rest ih =>
      cases first : event.seeds platform store with
      | true => exact (run_unseeded platform _ rest (seeds_recorded platform store event first)).2.2
      | false =>
          rw [seedings, first] at some
          exact ih (event.step platform store) (by simpa using some)

/-- One boot of a run applies the seed at most; what follows it is what would
follow without a seed file. -/
theorem seeded_once (events : List Event) :
    seedings platform events store ≤ 1 ∧
      ∀ earlier later, events = earlier ++ later → 0 < seedings platform earlier store →
        run platform later (run platform earlier store) =
          run platform (later.map Event.unseeded) (run platform earlier store) := by
  constructor
  · induction events generalizing store with
    | nil => exact Nat.zero_le 1
    | cons event rest ih =>
        rw [seedings]
        cases first : event.seeds platform store with
        | true =>
            rw [(run_unseeded platform _ rest (seeds_recorded platform store event first)).2.1]
            exact Nat.le_refl 1
        | false => simpa using ih (event.step platform store)
  · rintro earlier later rfl seeded
    exact (run_unseeded platform _ later (seedings_recorded platform store earlier seeded)).1

end Once

end LlmGateway.Seed
