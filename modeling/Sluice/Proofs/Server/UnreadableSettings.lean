import Sluice.Proofs.Number.Decimal
import Sluice.Proofs.Resource.CacheGrammar
import Sluice.Proofs.Server.Roles

/-!
# Settings that cannot be read

Nine of the settings are numbers and truth values, and the text of a variable need not spell one. What
happens then is the same for all of them: the variable counts as unset. `Settings.get_ofVariables` says
how each of these settings is read, and `Settings.load_of_leftOut` that leaving out variables which
cannot be read changes neither the settings nor whether they can be loaded. The rule for caching is the
only setting whose text can stop loading.
-/

namespace Sluice.Server

/-- The value of a setting that is no text. -/
inductive Value where
  | number (n : Nat)
  | truth (b : Bool)
  deriving DecidableEq

/-- What can be the value of a setting: a number up to a bound, or a truth value. -/
inductive Kind where
  | number (bound : Nat)
  | truth
  deriving DecidableEq

namespace Kind

/-- A text spells a value of a kind. -/
inductive Spells : Kind → String → Value → Prop
  | number {bound n : Nat} {text : String} (written : Number.Writes text n) (within : n ≤ bound) :
      Spells (.number bound) text (.number n)
  | yes : Spells .truth "true" (.truth true)
  | no : Spells .truth "false" (.truth false)

/-- The value of a kind that a text spells. -/
def read? : Kind → String → Option Value
  | .number bound, text => (Number.readNatural bound text).toOption.map .number
  | .truth, text => (Variables.truth? text).map .truth

theorem read?_eq_some_iff {kind : Kind} {text : String} {value : Value} :
    kind.read? text = some value ↔ kind.Spells text value := by
  cases kind with
  | number bound =>
    rw [read?, Option.map_eq_some_iff]
    constructor
    · rintro ⟨n, read, rfl⟩
      cases result : Number.readNatural bound text with
      | error fault =>
        rw [result] at read
        cases read
      | ok m =>
        rw [result] at read
        obtain rfl := Option.some.inj read
        obtain ⟨written, within⟩ := Number.readNatural_eq_ok_iff.mp result
        exact .number written within
    · intro spells
      cases spells with
      | number written within =>
        refine ⟨_, ?_, rfl⟩
        rw [Number.readNatural_eq_ok_iff.mpr ⟨written, within⟩]
        rfl
  | truth =>
    rw [read?, Option.map_eq_some_iff]
    constructor
    · rintro ⟨b, read, rfl⟩
      unfold Variables.truth? at read
      split at read
      · next isTrue =>
        obtain rfl := Option.some.inj read
        exact isTrue ▸ .yes
      · split at read
        · next isFalse =>
          obtain rfl := Option.some.inj read
          exact isFalse ▸ .no
        · cases read
    · intro spells
      cases spells with
      | yes => exact ⟨true, rfl, rfl⟩
      | no => exact ⟨false, rfl, rfl⟩

theorem unspelled_of_read? {kind : Kind} {text : String} (unread : kind.read? text = none)
    (value : Value) : ¬ kind.Spells text value := by
  intro spells
  rw [read?_eq_some_iff.mpr spells] at unread
  cases unread

/-- The value of a variable with a default, which counts for a text that spells none as well. -/
def reading (kind : Kind) (text? : Option String) (default : Value) : Value :=
  (text?.bind fun text => kind.read? (Text.trim text)).getD default

theorem reading_of_spells {kind : Kind} {text : String} {value : Value}
    (spells : kind.Spells (Text.trim text) value) (default : Value) :
    kind.reading (some text) default = value := by
  rw [reading, Option.bind_some, read?_eq_some_iff.mpr spells, Option.getD_some]

theorem reading_of_unspelled {kind : Kind} {text? : Option String}
    (unspelled : ∀ text ∈ text?, ∀ value, ¬ kind.Spells (Text.trim text) value) (default : Value) :
    kind.reading text? default = default := by
  cases text? with
  | none => rfl
  | some text =>
    have unread : kind.read? (Text.trim text) = none := by
      rw [Option.eq_none_iff_forall_ne_some]
      intro value read
      exact unspelled text rfl value (read?_eq_some_iff.mp read)
    rw [reading, Option.bind_some, unread, Option.getD_none]

/-- Numbers of variables are read as one of their kind. -/
theorem reading_number (vars : Variables) (name : String) (bound default : Nat) :
    Kind.reading (.number bound) (vars name) (.number default) =
      .number (vars.number name bound default) := by
  unfold Variables.number
  cases vars name with
  | none => rfl
  | some text =>
    rw [reading, Option.bind_some, Option.bind_some, read?]
    cases (Number.readNatural bound (Text.trim text)).toOption <;> rfl

/-- So are flags. -/
theorem reading_truth (vars : Variables) (name : String) (default : Bool) :
    Kind.reading .truth (vars name) (.truth default) = .truth (vars.flag name default) := by
  unfold Variables.flag
  cases vars name with
  | none => rfl
  | some text =>
    rw [reading, Option.bind_some, Option.bind_some, read?]
    cases Variables.truth? (Text.trim text) <;> rfl

end Kind

/-- A setting that is a number or a truth value, with its variable. -/
structure ValuedSetting where
  name : String
  kind : Kind
  get : Settings → Value

namespace ValuedSetting

/-- A whole number up to a bound. -/
def natural (name : String) (bound : Nat) (get : Settings → Nat) : ValuedSetting :=
  ⟨name, .number bound, fun settings => .number (get settings)⟩

/-- A truth value. -/
def flag (name : String) (get : Settings → Bool) : ValuedSetting :=
  ⟨name, .truth, fun settings => .truth (get settings)⟩

def port : ValuedSetting :=
  natural "CDA_PORT" Number.max16 (·.server.port)

def shutdownSeconds : ValuedSetting :=
  natural "CDA_SHUTDOWN_TIMEOUT" Number.max64 (·.server.shutdownSeconds)

def maxConnections : ValuedSetting :=
  natural "DATABASE_MAX_CONNECTIONS" Number.max32 (·.database.maxConnections)

def minConnections : ValuedSetting :=
  natural "DATABASE_MIN_CONNECTIONS" Number.max32 (·.database.minConnections)

def connectSeconds : ValuedSetting :=
  natural "DATABASE_CONNECT_TIMEOUT" Number.max64 (·.database.connectSeconds)

def idleSeconds : ValuedSetting :=
  natural "DATABASE_IDLE_TIMEOUT" Number.max64 (·.database.idleSeconds)

def credentials : ValuedSetting :=
  flag "CORS_ALLOW_CREDENTIALS" (·.origins.credentials)

def restrictReads : ValuedSetting :=
  flag "CDA_RESTRICT_READS" (·.access.restrictReads)

def trustIdentity : ValuedSetting :=
  flag "CDA_TRUST_IDENTITY_HEADERS" (·.access.trustIdentity)

/-- The settings that are numbers and truth values. -/
def all : List ValuedSetting :=
  [port, shutdownSeconds, maxConnections, minConnections, connectSeconds, idleSeconds, credentials,
    restrictReads, trustIdentity]

/-- Each variable is that of one setting. -/
theorem kind_eq_of_name_eq : ∀ setting ∈ all, ∀ other ∈ all,
    setting.name = other.name → setting.kind = other.kind := by
  decide

end ValuedSetting

namespace Settings

/-- Each of these settings is read from its variable as one of its kind. -/
theorem get_ofVariables (vars : Variables) (cache : Resource.CacheRule) :
    ∀ setting ∈ ValuedSetting.all, setting.get (ofVariables vars cache) =
      setting.kind.reading (vars setting.name) (setting.get standard) := by
  have number (name : String) (bound default : Nat) :=
    (Kind.reading_number vars name bound default).symm
  have truth (name : String) (default : Bool) := (Kind.reading_truth vars name default).symm
  simp only [ValuedSetting.all, List.forall_mem_cons, List.not_mem_nil, false_implies, implies_true,
    and_true]
  exact ⟨number _ _ _, number _ _ _, number _ _ _, number _ _ _, number _ _ _, number _ _ _,
    truth _ _, truth _ _, truth _ _⟩

/-- Settings are determined by those of this list and by the texts of the other variables. -/
theorem ofVariables_congr {vars others : Variables} (cache : Resource.CacheRule)
    (values : ∀ setting ∈ ValuedSetting.all,
      setting.get (ofVariables vars cache) = setting.get (ofVariables others cache))
    (texts : ∀ name, (∀ setting ∈ ValuedSetting.all, setting.name ≠ name) → vars name = others name) :
    ofVariables vars cache = ofVariables others cache := by
  simp only [ValuedSetting.all, List.forall_mem_cons, List.not_mem_nil, false_implies, implies_true,
    and_true, ValuedSetting.port, ValuedSetting.shutdownSeconds, ValuedSetting.maxConnections,
    ValuedSetting.minConnections, ValuedSetting.connectSeconds, ValuedSetting.idleSeconds,
    ValuedSetting.credentials, ValuedSetting.restrictReads, ValuedSetting.trustIdentity,
    ValuedSetting.natural, ValuedSetting.flag, Value.number.injEq, Value.truth.injEq] at values
  obtain ⟨port, shutdown, most, least, connect, idle, credentials, restrict, trust⟩ := values
  have host := texts "CDA_HOST" (by decide)
  have path := texts "CDA_CONTEXT_PATH" (by decide)
  have url := texts "DATABASE_URL" (by decide)
  have allowed := texts "CORS_ALLOWED_ORIGINS" (by decide)
  have roles := texts "CDA_WRITE_ROLES" (by decide)
  have office := texts "CDA_OFFICE" (by decide)
  simp only [ofVariables] at port shutdown most least connect idle credentials restrict trust
  simp only [ofVariables, port, shutdown, most, least, connect, idle, credentials, restrict, trust,
    office, Variables.text, Variables.list, host, path, url, allowed, roles]

end Settings

/-- The variable of such a setting is set to a text that spells no value of the setting's kind. -/
def Variables.Unreadable (vars : Variables) (name : String) : Prop :=
  ∃ setting ∈ ValuedSetting.all, setting.name = name ∧
    ∃ text, vars name = some text ∧ ∀ value, ¬ setting.kind.Spells (Text.trim text) value

/-- A variable that cannot be read spells no value of the setting whose variable it is. -/
theorem Variables.Unreadable.unspelled {vars : Variables} {setting : ValuedSetting}
    (unreadable : vars.Unreadable setting.name) (member : setting ∈ ValuedSetting.all) :
    ∀ text ∈ vars setting.name, ∀ value, ¬ setting.kind.Spells (Text.trim text) value := by
  obtain ⟨other, isOther, name, found, isFound, unspelled⟩ := unreadable
  intro text isSet
  obtain rfl := Option.some.inj (isFound.symm.trans isSet)
  rwa [← ValuedSetting.kind_eq_of_name_eq other isOther setting member name]

/-- Variables of which some that cannot be read are left out. -/
def Variables.LeftOut (vars others : Variables) : Prop :=
  ∀ name, others name = vars name ∨ vars.Unreadable name ∧ others name = none

namespace Settings

/-- A variable that cannot be read counts as unset. -/
theorem reading_of_leftOut {vars others : Variables} (leftOut : vars.LeftOut others)
    {setting : ValuedSetting} (member : setting ∈ ValuedSetting.all) (default : Value) :
    setting.kind.reading (others setting.name) default =
      setting.kind.reading (vars setting.name) default := by
  rcases leftOut setting.name with same | ⟨unreadable, unset⟩
  · rw [same]
  · rw [unset, Kind.reading_of_unspelled (unreadable.unspelled member)]
    rfl

/-- Leaving out variables that cannot be read leaves all settings as they are. -/
theorem read_of_leftOut {vars others : Variables} (leftOut : vars.LeftOut others) :
    read others = read vars := by
  have texts : ∀ name, (∀ setting ∈ ValuedSetting.all, setting.name ≠ name) →
      others name = vars name := by
    intro name unvalued
    rcases leftOut name with same | ⟨⟨setting, member, is, _⟩, _⟩
    · exact same
    · exact absurd is (unvalued setting member)
  have cache : readCache others = readCache vars := by
    rw [readCache, readCache, texts "CDA_DEFAULT_CACHE" (by decide)]
  have settings (rule : Resource.CacheRule) : ofVariables others rule = ofVariables vars rule := by
    refine ofVariables_congr rule (fun setting member => ?_) texts
    rw [get_ofVariables others rule setting member, get_ofVariables vars rule setting member,
      reading_of_leftOut leftOut member]
  rw [read, read, cache, funext settings]

/-- Leaving out such variables does not change whether the settings can be loaded either. -/
theorem load_of_leftOut {vars others : Variables} (leftOut : vars.LeftOut others) :
    load others = load vars := by
  rw [load, load, read_of_leftOut leftOut]

/-- What is read is read with the rule for caching that the variables give. -/
theorem exists_of_read {vars : Variables} {settings : Settings} (isRead : read vars = .ok settings) :
    ∃ cache, readCache vars = .ok cache ∧ settings = ofVariables vars cache := by
  unfold read at isRead
  cases cached : readCache vars with
  | error fault =>
    rw [cached] at isRead
    cases isRead
  | ok cache =>
    rw [cached] at isRead
    exact ⟨cache, rfl, (Except.ok.inj isRead).symm⟩

/-- Settings that can be loaded are read from the variables and pass the checks. -/
theorem load_eq_ok_iff {vars : Variables} {settings : Settings} {events : List Log.Event} :
    load vars = .ok (settings, events) ↔
      read vars = .ok settings ∧ settings.validate = .ok events := by
  unfold load
  cases read vars with
  | error fault => simp
  | ok found =>
    dsimp only
    cases checked : found.validate with
    | error fault =>
      simp only [Except.map, reduceCtorEq, Except.ok.injEq, false_iff, not_and]
      rintro rfl valid
      rw [checked] at valid
      cases valid
    | ok reported =>
      simp only [Except.map, Except.ok.injEq, Prod.mk.injEq]
      constructor
      · rintro ⟨rfl, rfl⟩
        exact ⟨rfl, checked⟩
      · rintro ⟨rfl, valid⟩
        exact ⟨rfl, Except.ok.inj (checked.symm.trans valid)⟩

/-- A text for caching that is no rule stops loading. -/
theorem load_of_unwritten_cache {vars : Variables} {text : String}
    (isSet : vars "CDA_DEFAULT_CACHE" = some text)
    (unwritten : ∀ rule, ¬ Resource.CacheRule.Writes text rule) :
    load vars = .error (.refused (.invalidCacheDuration (Text.trim text))) := by
  have refused := (Resource.CacheRule.parse_eq_error_iff text _).mpr ⟨unwritten, rfl⟩
  rw [load, read, readCache, isSet]
  simp only [refused, Except.map]

/-- A setting whose variable spells a value has that value. -/
theorem get_of_spells {vars : Variables} {settings : Settings} (isRead : read vars = .ok settings)
    {setting : ValuedSetting} (member : setting ∈ ValuedSetting.all) {text : String} {value : Value}
    (isSet : vars setting.name = some text)
    (spells : setting.kind.Spells (Text.trim text) value) : setting.get settings = value := by
  obtain ⟨cache, _, rfl⟩ := exists_of_read isRead
  rw [get_ofVariables vars cache setting member, isSet, Kind.reading_of_spells spells]

/-- A setting whose variable is unset or cannot be read has its default. -/
theorem get_of_unreadable {vars : Variables} {settings : Settings}
    (isRead : read vars = .ok settings) {setting : ValuedSetting} (member : setting ∈ ValuedSetting.all)
    (none_spelled : vars setting.name = none ∨ vars.Unreadable setting.name) :
    setting.get settings = setting.get standard := by
  obtain ⟨cache, _, rfl⟩ := exists_of_read isRead
  rw [get_ofVariables vars cache setting member]
  rcases none_spelled with unset | unreadable
  · rw [unset]
    rfl
  · exact Kind.reading_of_unspelled (unreadable.unspelled member) _

/-- Reads that are not restricted are open to everybody. -/
theorem authorize_of_unrestricted {access : AccessSettings} (unrestricted : access.restrictReads = false)
    {operation : Resource.Operation} (isRead : operation.isRead = true) (held : Resource.Roles) :
    access.policy.authorize operation held = .allow := by
  have built := access.built_policy
  rw [unrestricted] at built
  exact built.authorize_of_unrestricted isRead held

end Settings

/-- One variable alone. -/
def Variables.only (name text : String) : Variables := fun other =>
  if other = name then some text else none

namespace Settings

/-- A variable that cannot be read, set alone, loads the settings of no variable at all. -/
theorem load_only_of_unspelled {setting : ValuedSetting} (member : setting ∈ ValuedSetting.all) {text : String}
    (unspelled : ∀ value, ¬ setting.kind.Spells (Text.trim text) value) :
    load (.only setting.name text) = .ok (standard, []) := by
  have unreadable : (Variables.only setting.name text).Unreadable setting.name :=
    ⟨setting, member, rfl, text, if_pos rfl, unspelled⟩
  have leftOut : (Variables.only setting.name text).LeftOut fun _ => none := by
    intro name
    by_cases same : name = setting.name
    · exact .inr ⟨same ▸ unreadable, rfl⟩
    · exact .inl (if_neg same).symm
  rw [← load_of_leftOut leftOut]
  rfl

/-- Numbers and truth values that cannot be read never stop loading. Leaving out any of their variables
changes nothing; a setting has the value that its variable spells, and its default where the variable is
unset or cannot be read. So reads are open to everybody if the variable that restricts them cannot be
read, and each such variable alone gives the settings of no variable. Only a rule for caching that cannot
be read stops loading. -/
theorem unreadable_settings_ignored (vars : Variables) :
    (∀ others, vars.LeftOut others → load others = load vars) ∧
      (∀ settings, read vars = .ok settings → ∀ setting ∈ ValuedSetting.all,
        (∀ text value, vars setting.name = some text →
          setting.kind.Spells (Text.trim text) value → setting.get settings = value) ∧
        (vars setting.name = none ∨ vars.Unreadable setting.name →
          setting.get settings = setting.get standard)) ∧
      (vars.Unreadable "CDA_RESTRICT_READS" →
        ∀ settings events, load vars = .ok (settings, events) →
          ∀ operation held, operation.isRead = true →
            settings.access.policy.authorize operation held = .allow) ∧
      (∀ setting ∈ ValuedSetting.all, ∀ text,
        (∀ value, ¬ setting.kind.Spells (Text.trim text) value) →
          load (.only setting.name text) = .ok (standard, [])) ∧
      ∀ text, vars "CDA_DEFAULT_CACHE" = some text →
        (∀ rule, ¬ Resource.CacheRule.Writes text rule) →
          load vars = .error (.refused (.invalidCacheDuration (Text.trim text))) := by
  refine ⟨fun others leftOut => load_of_leftOut leftOut, ?values, ?reads, ?alone, ?cache⟩
  case values =>
    intro settings isRead setting member
    exact ⟨fun text value isSet spells => get_of_spells isRead member isSet spells,
      get_of_unreadable isRead member⟩
  case reads =>
    intro unreadable settings events loaded operation held readOnly
    obtain ⟨isRead, _⟩ := load_eq_ok_iff.mp loaded
    have unrestricted : ValuedSetting.restrictReads.get settings = .truth false :=
      get_of_unreadable isRead (by simp [ValuedSetting.all]) (.inr unreadable)
    exact authorize_of_unrestricted (Value.truth.inj unrestricted) readOnly held
  case alone =>
    intro setting member text unspelled
    exact load_only_of_unspelled member unspelled
  case cache =>
    intro text isSet unwritten
    exact load_of_unwritten_cache isSet unwritten

/-- Variables of which two cannot be read and one can, the same without these two, and a rule for caching
that cannot be read. -/
theorem restriction_and_port_ignored :
    let vars : Variables := fun name =>
      if name = "CDA_RESTRICT_READS" then some "yes"
      else if name = "CDA_PORT" then some "65536"
      else if name = "DATABASE_MAX_CONNECTIONS" then some " +020 " else none
    let readable : Variables := .only "DATABASE_MAX_CONNECTIONS" " +020 "
    let unwritten : Variables := .only "CDA_DEFAULT_CACHE" "5 weeks "
    vars.LeftOut readable ∧ load readable = load vars ∧
      ∃ settings, load vars = .ok (settings, []) ∧ settings.server.port = 7000 ∧
        settings.database.maxConnections = 20 ∧
        settings.access.policy.authorize .fetchAll [] = .allow ∧
        load (.only "CDA_PORT" "65536") = .ok (standard, []) ∧
        load unwritten = .error (.refused (.invalidCacheDuration "5 weeks")) := by
  intro vars readable unwritten
  have isPort : ValuedSetting.port ∈ ValuedSetting.all := by simp [ValuedSetting.all]
  have isMost : ValuedSetting.maxConnections ∈ ValuedSetting.all := by simp [ValuedSetting.all]
  have isRestrict : ValuedSetting.restrictReads ∈ ValuedSetting.all := by simp [ValuedSetting.all]
  have noPort : ∀ value, ¬ ValuedSetting.port.kind.Spells (Text.trim "65536") value :=
    Kind.unspelled_of_read? (by decide +kernel)
  have noTruth : ∀ value, ¬ Kind.truth.Spells (Text.trim "yes") value :=
    Kind.unspelled_of_read? (by decide +kernel)
  have twenty : ValuedSetting.maxConnections.kind.Spells (Text.trim " +020 ") (.number 20) :=
    Kind.read?_eq_some_iff.mp (by decide +kernel)
  have portUnreadable : vars.Unreadable "CDA_PORT" :=
    ⟨.port, isPort, rfl, "65536", rfl, noPort⟩
  have restrictUnreadable : vars.Unreadable "CDA_RESTRICT_READS" :=
    ⟨.restrictReads, isRestrict, rfl, "yes", rfl, noTruth⟩
  have leftOut : vars.LeftOut readable := by
    intro name
    by_cases restricts : name = "CDA_RESTRICT_READS"
    · exact .inr ⟨restricts ▸ restrictUnreadable, by rw [restricts]; rfl⟩
    · by_cases isName : name = "CDA_PORT"
      · exact .inr ⟨isName ▸ portUnreadable, by rw [isName]; rfl⟩
      · exact .inl (by simp only [vars, readable, Variables.only, if_neg restricts, if_neg isName])
  have noRule : ∀ rule, ¬ Resource.CacheRule.Writes "5 weeks " rule :=
    ((Resource.CacheRule.parse_eq_error_iff _ _).mp
      (by decide +kernel :
        Resource.CacheRule.parse "5 weeks " = .error (.invalidCacheDuration "5 weeks"))).1
  obtain ⟨same, values, opened, alone, _⟩ := unreadable_settings_ignored vars
  obtain ⟨_, _, _, _, stops⟩ := unreadable_settings_ignored unwritten
  have isRead : read vars = .ok (ofVariables vars .standard) := rfl
  have loaded : load vars = .ok (ofVariables vars .standard, []) :=
    load_eq_ok_iff.mpr ⟨isRead, by decide +kernel⟩
  refine ⟨leftOut, same readable leftOut, _, loaded, ?_, ?_,
    opened restrictUnreadable _ _ loaded .fetchAll [] rfl, alone .port isPort "65536" noPort,
    stops "5 weeks " rfl noRule⟩
  · exact Value.number.inj ((values _ isRead .port isPort).2 (.inr portUnreadable))
  · exact Value.number.inj ((values _ isRead .maxConnections isMost).1 _ _ rfl twenty)

/-- A variable that is to restrict reads and spells no truth value lets everybody read. -/
theorem restriction_unread_and_reads_open :
    let vars : Variables := .only "CDA_RESTRICT_READS" "yes"
    vars.Unreadable "CDA_RESTRICT_READS" ∧ (¬ ∃ fault, load vars = .error fault) ∧
      ∃ settings, load vars = .ok (settings, []) ∧ settings.access.restrictReads = false ∧
        settings.access.policy.authorize .fetchAll [] = .allow := by
  intro vars
  have member : ValuedSetting.restrictReads ∈ ValuedSetting.all := by simp [ValuedSetting.all]
  have noTruth : ∀ value, ¬ Kind.truth.Spells (Text.trim "yes") value :=
    Kind.unspelled_of_read? (by decide +kernel)
  have loaded : load vars = .ok (standard, []) := load_only_of_unspelled member noTruth
  refine ⟨⟨.restrictReads, member, rfl, "yes", rfl, noTruth⟩, ?_, standard, loaded, rfl, rfl⟩
  rintro ⟨fault, failed⟩
  rw [loaded] at failed
  cases failed

end Settings

end Sluice.Server
