import LlmGateway.Lib.JsText

/-!
Which database file is opened: `resolveTarget` of the migration CLI, and the
server from its first import to `DatabaseService`. Both merge the shell, the
`.env` file and Doppler; no `DOTENV_CONFIG_` variable sends dotenv elsewhere.
-/

namespace LlmGateway.Database

/-- `process.env`. -/
abbrev Environment := String → Option String

/-- A call of `doppler.secrets.download`. -/
structure Lookup where
  token : String
  project : String
  config : String
  deriving DecidableEq, Repr

/-- What the Doppler SDK rejects with; a field that is not of the type asked for is absent. -/
inductive SecretsError where
  | nullish
  | text (value : String)
  | object (statusCode : Option ℕ) (title message : Option String)
  deriving DecidableEq, Repr

/-- What a process finds around it: `node:path`, the parsed `.env` file of its
directory, and Doppler. -/
structure Host where
  cwd : String
  isAbsolute : String → Bool
  resolve : String → String → String
  toUpperCase : String → String
  dotenvFile : Environment
  download : Lookup → Except SecretsError (List (String × String))

def defaultDatabasePath : String := "./data/ms-gateway.db"

/-- The value is there and converts to `true`. -/
def truthy (value : Option String) : Bool := value.any (· ≠ "")

section Loading

variable (host : Host)

/-- dotenv sets the variables that are not set yet; the empty text counts as set. -/
def loadDotenv (env : Environment) : Environment := fun name => (env name).or (host.dotenvFile name)

/-- `PROJECT` and `ENV` of `app.enviroment.ts`, fixed when it is imported. -/
structure Enviroment where
  project : String
  config : String
  deriving DecidableEq, Repr

def enviroment (env : Environment) : Enviroment where
  project := ((env "MS").filter (· ≠ "")).getD "ms-ap4"
  config :=
    if env "NODE_ENV" = some "production" then "prd"
    else if env "NODE_ENV" = some "staging" then "stg"
    else "dev"

structure EnvLoadResult where
  loaded : Bool
  project : String
  config : String

/-- How `inyectEnv` ends, the environment it leaves and the lookups it made. -/
structure EnvLoad where
  result : Except SecretsError EnvLoadResult
  env : Environment
  consulted : List Lookup

/-- `process.env[key.toUpperCase()] = result[key]`. -/
def writeSecret (env : Environment) (secret : String × String) : Environment :=
  Function.update env (host.toUpperCase secret.1) (some secret.2)

def inyectEnv (constants : Enviroment) (env : Environment) : EnvLoad :=
  if truthy (env "START_TOKEN") then
    let lookup := ⟨(env "START_TOKEN").getD "", constants.project, constants.config⟩
    match host.download lookup with
    | .ok secrets =>
        { result := .ok ⟨true, constants.project, constants.config⟩
          env := secrets.foldl (writeSecret host) env
          consulted := [lookup] }
    | .error error => { result := .error error, env, consulted := [lookup] }
  else { result := .ok ⟨false, constants.project, constants.config⟩, env, consulted := [] }

/-- Importing `app.enviroment.ts` loads the `.env` file once more. -/
def importAndInyect (env : Environment) : EnvLoad :=
  let env := loadDotenv host env
  inyectEnv host (enviroment env) env

end Loading

section Cli

variable (host : Host)

structure CliError where
  code : ℕ
  message : String
  deriving DecidableEq, Repr

def trim (text : String) : String := String.ofList (Js.trimChars text.toList)

def describeSecretsError : SecretsError → String
  | .nullish => "unknown error"
  | .text value => if trim value ≠ "" then trim value else "unknown error"
  | .object statusCode title message =>
      let status := (statusCode.map toString).toList
      let reason :=
        match title.filter fun title => trim title ≠ "" with
        | some title => [trim title]
        | none =>
            ((message.filter fun message =>
              trim message ≠ "" && trim message ≠ "[object Object]").map trim).toList
      if status ++ reason ≠ [] then " ".intercalate (status ++ reason) else "unknown error"

def secretsFailure (error : SecretsError) : CliError where
  code := 1
  message := "\n".intercalate
    ["the database path could not be resolved safely: the Doppler secrets the",
      "server loads at boot could not be loaded (" ++ describeSecretsError error ++ ").",
      "",
      "The gateway takes DATABASE_PATH from Doppler, so continuing with the .env or",
      "schema default here could migrate a DIFFERENT file than the one the gateway",
      "will read. Nothing was written and no migration was applied.",
      "",
      "Fix START_TOKEN / MS / NODE_ENV so the lookup succeeds, or pass --db <path>",
      "to target a database deliberately (--db never contacts Doppler)."]

structure ResolvedTarget where
  dbPath : String
  provenance : String
  deriving DecidableEq, Repr

def dopplerProvenanceLabel (secrets : EnvLoadResult) : String :=
  "Doppler " ++ secrets.project ++ "/" ++ secrets.config

/-- `resolveDatabasePath` of the CLI. -/
def resolveDatabasePath (db : Option String) (env : Environment) : String :=
  let raw := (db.or (env "DATABASE_PATH")).getD defaultDatabasePath
  if raw = ":memory:" then ":memory:"
  else if host.isAbsolute raw then raw
  else host.resolve host.cwd raw

structure TargetRun where
  target : Except CliError ResolvedTarget
  consulted : List Lookup

/-- `shell` is the environment before the `.env` file, which overrides nothing. -/
def localProvenance (shell env : Environment) : String :=
  if truthy (shell "DATABASE_PATH") then "shell"
  else if truthy (env "DATABASE_PATH") then ".env"
  else "default"

/-- `resolveTarget` without `--db`, from the merged environment on. -/
def resolveMerged (shell env : Environment) : TargetRun :=
  if truthy (env "START_TOKEN") then
    let load := importAndInyect host env
    match load.result with
    | .error error =>
        { target := .error (secretsFailure error)
          consulted := load.consulted }
    | .ok secrets =>
        let dopplerLabel := dopplerProvenanceLabel secrets
        let path := load.env "DATABASE_PATH"
        let suppliedByDoppler := path ≠ none ∧ path ≠ env "DATABASE_PATH"
        { target := .ok
            { dbPath := resolveDatabasePath host none load.env
              provenance :=
                if suppliedByDoppler then dopplerLabel
                else dopplerLabel ++ " + " ++ localProvenance shell env }
          consulted := load.consulted }
  else
    { target := .ok ⟨resolveDatabasePath host none env, localProvenance shell env⟩
      consulted := [] }

def resolveTarget (db : Option String) (loadEnv : Bool) (shell : Environment) : TargetRun :=
  let env := if loadEnv then loadDotenv host shell else shell
  match db with
  | some db =>
      { target := .ok ⟨resolveDatabasePath host (some db) env, "--db"⟩
        consulted := [] }
  | none => resolveMerged host shell env

end Cli

section Server

variable (host : Host)

inductive BootError where
  | doppler (error : SecretsError)
  /-- `getEnv` throws. -/
  | invalidEnvironment
  deriving DecidableEq, Repr

/-- `resolveDatabasePath` of `database.service.ts`. -/
def DatabaseService.resolveDatabasePath (raw : String) : String :=
  if raw = ":memory:" then ":memory:"
  else if host.isAbsolute raw then raw
  else host.resolve host.cwd raw

/-- `main.ts` up to `getEnv`: `dotenv/config`, `ConfigModule.forRoot`, which sets what
is not set as well, and `inyectEnv`. -/
def boot (shell : Environment) : EnvLoad :=
  importAndInyect host (loadDotenv host (loadDotenv host shell))

/-- The path that `DatabaseService` opens; `accepts` is what `envSchema` asks of
the other variables. -/
def serverDatabase (accepts : Environment → Bool) (shell : Environment) : Except BootError String :=
  match (boot host shell).result with
  | .error error => .error (.doppler error)
  | .ok _ =>
      let env := (boot host shell).env
      if accepts env then
        .ok (DatabaseService.resolveDatabasePath host
          ((env "DATABASE_PATH").getD defaultDatabasePath))
      else .error .invalidEnvironment

end Server

section Agreement

variable (host : Host)

@[simp] theorem loadDotenv_again (env : Environment) :
    loadDotenv host (loadDotenv host env) = loadDotenv host env := by
  funext name
  unfold loadDotenv
  rw [Option.or_assoc, Option.or_self]

theorem boot_eq (shell : Environment) :
    boot host shell = importAndInyect host (loadDotenv host shell) := by
  unfold boot
  rw [loadDotenv_again]

/-- The two functions of this name agree once a missing path has its default. -/
theorem resolveDatabasePath_eq (env : Environment) :
    resolveDatabasePath host none env =
      DatabaseService.resolveDatabasePath host ((env "DATABASE_PATH").getD defaultDatabasePath) := by
  unfold resolveDatabasePath DatabaseService.resolveDatabasePath
  rw [Option.none_or]

theorem importAndInyect_tokenless (env : Environment)
    (tokenless : truthy (loadDotenv host env "START_TOKEN") = false) :
    (importAndInyect host env).env = loadDotenv host env ∧
      (importAndInyect host env).consulted = [] ∧
      ∃ skipped, (importAndInyect host env).result = .ok skipped := by
  unfold importAndInyect inyectEnv
  dsimp only
  rw [tokenless]
  exact ⟨rfl, rfl, _, rfl⟩

theorem resolveTarget_boot (shell : Environment) :
    (resolveTarget host none true shell).consulted = (boot host shell).consulted ∧
      ((∃ secrets provenance, (boot host shell).result = .ok secrets ∧
          (resolveTarget host none true shell).target =
            .ok ⟨resolveDatabasePath host none (boot host shell).env, provenance⟩) ∨
        ∃ error, (boot host shell).result = .error error ∧
          (resolveTarget host none true shell).target = .error (secretsFailure error)) := by
  rw [boot_eq]
  change (resolveMerged host shell (loadDotenv host shell)).consulted = _ ∧
    ((∃ secrets provenance, _ ∧ (resolveMerged host shell (loadDotenv host shell)).target = _) ∨
      ∃ error, _ ∧ (resolveMerged host shell (loadDotenv host shell)).target = _)
  unfold resolveMerged
  dsimp only
  split
  next token =>
    split
    next error result => exact ⟨rfl, Or.inr ⟨error, result, rfl⟩⟩
    next secrets result => exact ⟨rfl, Or.inl ⟨secrets, _, result, rfl⟩⟩
  next tokenless =>
    obtain ⟨env, consulted, skipped, result⟩ :=
      importAndInyect_tokenless host (loadDotenv host shell)
        (by rw [loadDotenv_again]; simpa using tokenless)
    rw [env, consulted, result, loadDotenv_again]
    exact ⟨rfl, Or.inl ⟨skipped, _, rfl, rfl⟩⟩

theorem inyectEnv_lookup (constants : Enviroment) (env : Environment) (lookup : Lookup)
    (made : lookup ∈ (inyectEnv host constants env).consulted) (error : SecretsError)
    (fails : host.download lookup = .error error) :
    (inyectEnv host constants env).result = .error error := by
  unfold inyectEnv at made ⊢
  dsimp only at made ⊢
  split at made
  next token =>
    rw [if_pos token]
    split at made
    next secrets found =>
      rw [← List.mem_singleton.mp made, fails] at found
      cases found
    next other found =>
      rw [← List.mem_singleton.mp made, fails] at found
      cases found
      rfl
  next => cases made

end Agreement

/-- Without `--db` the CLI finds the path that the server opens, unless `getEnv`
stops the server; a lookup that fails leaves no path, and `--db` makes none. -/
theorem cli_agrees_with_server (host : Host) (accepts : Environment → Bool)
    (shell : Environment) :
    (∀ target, (resolveTarget host none true shell).target = .ok target →
        serverDatabase host accepts shell =
          if accepts (boot host shell).env then .ok target.dbPath else .error .invalidEnvironment) ∧
      (∀ lookup ∈ (resolveTarget host none true shell).consulted, ∀ error,
        host.download lookup = .error error →
          (resolveTarget host none true shell).target = .error (secretsFailure error) ∧
            serverDatabase host accepts shell = .error (.doppler error)) ∧
      ∀ db loadEnv, (resolveTarget host (some db) loadEnv shell).consulted = [] := by
  obtain ⟨consulted, outcome⟩ := resolveTarget_boot host shell
  refine ⟨?_, ?_, fun db loadEnv => rfl⟩
  · intro target found
    rcases outcome with ⟨secrets, provenance, result, resolved⟩ | ⟨error, result, failed⟩
    · rw [resolved] at found
      cases found
      rw [serverDatabase, result, resolveDatabasePath_eq]
    · rw [failed] at found
      cases found
  · intro lookup made error fails
    rw [consulted] at made
    have result : (boot host shell).result = .error error :=
      inyectEnv_lookup host _ _ lookup made error fails
    rcases outcome with ⟨secrets, provenance, loaded, _⟩ | ⟨other, failed, target⟩
    · rw [result] at loaded
      cases loaded
    · rw [result] at failed
      cases failed
      exact ⟨target, by rw [serverDatabase, result]⟩

end LlmGateway.Database
