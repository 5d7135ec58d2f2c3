import Sluice.Log.Event
import Sluice.Number.Reading
import Sluice.Resource.Access
import Sluice.Resource.CacheRule
import Sluice.Resource.Office
import Sluice.Server.StartFault
import Sluice.Text.Split

/-!
# Settings

The settings of a server, each read from a variable of its own and with a default of its own. A
number or a flag that cannot be read counts as not set; only a rule for caching that cannot be read
is a fault. Whether the settings make sense together is a question of its own, asked before a server
is started.
-/

namespace Sluice.Server

/-- Where the texts of variables come from. -/
abbrev Variables := String → Option String

namespace Variables

/-- The text of a variable as it is. -/
def text (vars : Variables) (name default : String) : String :=
  (vars name).getD default

/-- The number of a variable. -/
def number (vars : Variables) (name : String) (bound default : Nat) : Nat :=
  ((vars name).bind fun text =>
    (Number.readNatural bound (Text.trim text)).toOption).getD default

/-- The truth value that a text spells. -/
def truth? (text : String) : Option Bool :=
  if text = "true" then some true else if text = "false" then some false else none

/-- The flag of a variable. -/
def flag (vars : Variables) (name : String) (default : Bool) : Bool :=
  ((vars name).bind fun text => truth? (Text.trim text)).getD default

/-- The items of a variable that lists them with commas, as the text that holds by default does. -/
def list (vars : Variables) (name default : String) : List String :=
  Text.items ',' (vars.text name default)

end Variables

/-- Where the server listens, what it serves there and how it ends. -/
structure Listening where
  host : String
  port : Nat
  shutdownSeconds : Nat
  /-- The path under which the resources are mounted. -/
  contextPath : String
  deriving Repr, DecidableEq

/-- Which database is used, and with how many connections. -/
structure DatabaseSettings where
  url : String
  maxConnections : Nat
  minConnections : Nat
  connectSeconds : Nat
  idleSeconds : Nat
  deriving Repr, DecidableEq

/-- From where browsers may ask. -/
structure OriginSettings where
  allowed : List String
  credentials : Bool
  deriving Repr, DecidableEq

/-- Who may do what. -/
structure AccessSettings where
  /-- Any one of these roles allows writes. -/
  writeRoles : List String
  /-- Whether reads need one of these roles as well. -/
  restrictReads : Bool
  /-- Whether the headers that name the caller are believed. -/
  trustIdentity : Bool
  deriving Repr, DecidableEq

/-- The policy of every resource. -/
def AccessSettings.policy (access : AccessSettings) : Resource.AccessPolicy :=
  let policy := Resource.AccessPolicy.writtenBy access.writeRoles
  if access.restrictReads then policy.restrictReads else policy

/-- The settings of a server. -/
structure Settings where
  server : Listening
  database : DatabaseSettings
  origins : OriginSettings
  access : AccessSettings
  cache : Resource.CacheRule
  /-- The office that counts whatever the context path says. -/
  office : Option String
  deriving Repr, DecidableEq

namespace Settings

/-- The names of the variables that are read. -/
def variableNames : List String :=
  [ "CDA_HOST", "CDA_PORT", "CDA_SHUTDOWN_TIMEOUT", "CDA_CONTEXT_PATH", "DATABASE_URL",
    "DATABASE_MAX_CONNECTIONS", "DATABASE_MIN_CONNECTIONS", "DATABASE_CONNECT_TIMEOUT",
    "DATABASE_IDLE_TIMEOUT", "CORS_ALLOWED_ORIGINS", "CORS_ALLOW_CREDENTIALS", "CDA_WRITE_ROLES",
    "CDA_RESTRICT_READS", "CDA_TRUST_IDENTITY_HEADERS", "CDA_DEFAULT_CACHE", "CDA_OFFICE" ]

/-- Where the server listens by default. -/
def defaultHost : String := "127.0.0.1"

/-- The port by default. -/
def defaultPort : Nat := 7000

/-- For how many seconds requests may go on when the server ends, by default. -/
def defaultShutdownSeconds : Nat := 30

/-- The path under which the resources are mounted by default. -/
def defaultContextPath : String := "/cwms-data"

/-- The database by default. -/
def defaultUrl : String := "postgresql://localhost/cwms"

/-- The greatest number of connections by default. -/
def defaultMaxConnections : Nat := 10

/-- The least number of connections by default. -/
def defaultMinConnections : Nat := 2

/-- For how many seconds a connection is awaited by default. -/
def defaultConnectSeconds : Nat := 10

/-- For how many seconds a connection may be idle by default. -/
def defaultIdleSeconds : Nat := 600

/-- The origin from which browsers may ask by default: any. -/
def defaultOrigin : String := "*"

/-- The role that writes need by default. -/
def defaultWriteRole : String := "CWMS Users"

/-- The settings that hold where no variable is set. -/
def standard : Settings where
  server := ⟨defaultHost, defaultPort, defaultShutdownSeconds, defaultContextPath⟩
  database :=
    { url := defaultUrl
      maxConnections := defaultMaxConnections
      minConnections := defaultMinConnections
      connectSeconds := defaultConnectSeconds
      idleSeconds := defaultIdleSeconds }
  origins := ⟨[defaultOrigin], false⟩
  access := ⟨[defaultWriteRole], false, false⟩
  cache := .standard
  office := none

/-- The rule for caching that the variables give. -/
def readCache (vars : Variables) : Except StartError Resource.CacheRule :=
  match vars "CDA_DEFAULT_CACHE" with
  | some text => Resource.CacheRule.parse text
  | none => .ok .standard

/-- The settings that the variables give, the rule for caching having been read. -/
def ofVariables (vars : Variables) (cache : Resource.CacheRule) : Settings where
  server :=
    { host := vars.text "CDA_HOST" defaultHost
      port := vars.number "CDA_PORT" Number.max16 defaultPort
      shutdownSeconds := vars.number "CDA_SHUTDOWN_TIMEOUT" Number.max64 defaultShutdownSeconds
      contextPath := vars.text "CDA_CONTEXT_PATH" defaultContextPath }
  database :=
    { url := vars.text "DATABASE_URL" defaultUrl
      maxConnections :=
        vars.number "DATABASE_MAX_CONNECTIONS" Number.max32 defaultMaxConnections
      minConnections :=
        vars.number "DATABASE_MIN_CONNECTIONS" Number.max32 defaultMinConnections
      connectSeconds :=
        vars.number "DATABASE_CONNECT_TIMEOUT" Number.max64 defaultConnectSeconds
      idleSeconds := vars.number "DATABASE_IDLE_TIMEOUT" Number.max64 defaultIdleSeconds }
  origins :=
    { allowed := vars.list "CORS_ALLOWED_ORIGINS" defaultOrigin
      credentials := vars.flag "CORS_ALLOW_CREDENTIALS" false }
  access :=
    { writeRoles := vars.list "CDA_WRITE_ROLES" defaultWriteRole
      restrictReads := vars.flag "CDA_RESTRICT_READS" false
      trustIdentity := vars.flag "CDA_TRUST_IDENTITY_HEADERS" false }
  cache := cache
  office := (vars "CDA_OFFICE").bind Text.trimmed?

/-- Reads the settings. -/
def read (vars : Variables) : Except StartError Settings :=
  (readCache vars).map (ofVariables vars)

/-- What is reported when the headers that name the caller are believed. -/
def trustEvent : Log.Event :=
  .plain .warn "Trusting x-cda-user/x-cda-roles; only the auth proxy may reach this server" []

/-- A setting that cannot be used. -/
def unusable (name reason : String) : StartFault :=
  .refused (.invalidSetting name reason)

/-- Checks that the settings can be used together; the first fault counts. Yields what is reported
about settings that deserve attention. -/
def validate (settings : Settings) : Except StartFault (List Log.Event) :=
  if settings.server.port = 0 then .error (unusable "CDA_PORT" "must be greater than 0")
  else if settings.server.contextPath.toList.head? ≠ some '/' then
    .error (unusable "CDA_CONTEXT_PATH" "must start with '/'")
  else if settings.database.url.isEmpty then .error (unusable "DATABASE_URL" "cannot be empty")
  else if settings.database.maxConnections = 0 then
    .error (unusable "DATABASE_MAX_CONNECTIONS" "must be greater than 0")
  else if settings.database.maxConnections < settings.database.minConnections then
    .error (.poolBounds settings.database.minConnections settings.database.maxConnections)
  else if settings.access.writeRoles.isEmpty then
    .error (unusable "CDA_WRITE_ROLES" "at least one role is required")
  else .ok (if settings.access.trustIdentity then [trustEvent] else [])

/-- Reads the settings and checks them. -/
def load (vars : Variables) : Except StartFault (Settings × List Log.Event) :=
  match read vars with
  | .error error => .error (.refused error)
  | .ok settings => settings.validate.map fun events => (settings, events)

/-- How the office of a request is found. -/
def offices (settings : Settings) : Resource.OfficeResolver :=
  match settings.office with
  | some office => .fixed office
  | none => .derived

/-- The office of every request. -/
def servedOffice (settings : Settings) : String :=
  settings.offices.resolve settings.server.contextPath

end Settings

end Sluice.Server
