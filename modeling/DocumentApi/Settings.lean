import DocumentApi.Settings.Entry
import DocumentApi.Settings.Environment
import DocumentApi.Settings.Toml

/-!
# Settings

The settings of a service: where its documents are kept, how often it tries to connect, and what it
logs. Everything has a default. A settings file in TOML is laid over the defaults, and the variables
of the environment are laid over the file.

* `Settings.load` finds the settings from the text of the file and the environment;
* `Settings.ofValue?` reads settings that are written out as one value.
-/

namespace DocumentApi

/-- Where documents are kept. -/
structure StoreSettings where
  /-- The address of the database. -/
  connection : String
  database : String
  retry : RetryPolicy
  deriving DecidableEq

namespace StoreSettings

/-- A database on this machine. -/
def standard : StoreSettings := ⟨"mongodb://localhost:27017", "docrest", .standard⟩

instance : Inhabited StoreSettings := ⟨standard⟩

variable {σ : Type} [Readable σ]

/-- Reads the parts of store settings; absent ones are the standard ones. -/
def ofFields? (fields : Fields σ) : Option StoreSettings := do
  let connection ←
    Record.optional Readable.text? standard.connection fields "connection_string"
  let database ← Record.optional Readable.text? standard.database fields "database"
  let retry ← Record.optional RetryPolicy.ofValue? standard.retry fields "retry"
  some ⟨connection, database, retry⟩

/-- Reads store settings. -/
def ofValue? (value : σ) : Option StoreSettings :=
  Record.read ["connection_string", "database", "retry"] ofFields? value

end StoreSettings

/-- The settings of a service. -/
structure Settings where
  store : StoreSettings
  /-- What is logged: a level, or levels of single parts. -/
  logLevel : String
  deriving DecidableEq

namespace Settings

/-- The name that the settings file has unless another one is asked for. -/
def defaultFile : String := "docrest.toml"

/-- The settings that hold where no source says anything else. -/
def standard : Settings := ⟨.standard, "info"⟩

instance : Inhabited Settings := ⟨standard⟩

section

variable {σ : Type} [Readable σ]

/-- Reads the parts of settings; absent ones are the standard ones. -/
def ofFields? (fields : Fields σ) : Option Settings := do
  let store ← Record.optional StoreSettings.ofValue? standard.store fields "store"
  let logLevel ← Record.optional Readable.text? standard.logLevel fields "log_level"
  some ⟨store, logLevel⟩

/-- Reads settings. -/
def ofValue? (value : σ) : Option Settings :=
  Record.read ["store", "log_level"] ofFields? value

end

/-- A retry policy as entries. -/
def retryEntries (policy : RetryPolicy) : Fields Entry :=
  [("max_attempts", .int policy.maxAttempts.toNat), ("delay_ms", .int policy.delayMillis.toNat)]

/-- Store settings as entries. -/
def storeEntries (settings : StoreSettings) : Fields Entry :=
  [("connection_string", .text settings.connection), ("database", .text settings.database),
    ("retry", .table (retryEntries settings.retry))]

/-- Settings as entries. -/
def entries (settings : Settings) : Fields Entry :=
  [("store", .table (storeEntries settings.store)), ("log_level", .text settings.logLevel)]

/-- The settings that the text of a file, if there is one, and the variables of the environment
leave of the standard ones; none if the file is malformed or something has the wrong type. -/
def load (file : Option String) (environment : List (String × String)) : Option Settings := do
  let fromFile ← match file with
    | some text => Toml.read? text
    | none => some []
  let merged := Entry.overlay (Entry.overlay standard.entries fromFile)
    (Environment.entries environment)
  ofFields? merged

end Settings

end DocumentApi
