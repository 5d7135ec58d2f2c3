import Sluice.Proofs.Server.UnreadableSettings
import Sluice.Proofs.Text.Padding

/-!
# Fields of settings and their variables

Settings have sixteen fields, and each is read from a variable of its own. What counts of the text of a
variable depends on the field (`Spacing`): all of it, what is left of it after trimming, or the items of
a list. `Settings.get_of_agree` says that two sources of variables which agree on that for the variable
of a field give the field one value, whatever they say of the other variables. That a field whose
variable is unset has its default, and that white space which does not count can be added anywhere, are
cases of it.
-/

namespace Sluice.Server

/-- What counts of the text of a variable. -/
inductive Spacing where
  | verbatim
  | trimmed
  | listed

namespace Spacing

/-- Two variables agree on what counts. -/
def Agree : Spacing → Option String → Option String → Prop
  | .verbatim, text?, other? => text? = other?
  | .trimmed, text?, other? => text?.map Text.trim = other?.map Text.trim
  | .listed, text?, other? => text?.map (Text.items ',') = other?.map (Text.items ',')

/-- A text with white space added that does not count: around the text, or around the items of a list
and in blank items. -/
def Respaces : Spacing → String → String → Prop
  | .verbatim, text, more => text = more
  | .trimmed, text, more => Text.Padded text.toList more.toList
  | .listed, text, more => Text.Spread text.toList more.toList

theorem agree_of_eq (spacing : Spacing) {text? other? : Option String} (same : text? = other?) :
    spacing.Agree text? other? := by
  subst same
  cases spacing <;> rfl

/-- White space that does not count can be added. -/
theorem agree_of_respaces {spacing : Spacing} {text more : String}
    (respaces : spacing.Respaces text more) : spacing.Agree (some more) (some text) := by
  cases spacing with
  | verbatim => exact congrArg some (Eq.symm respaces)
  | trimmed => exact congrArg some (congrArg String.ofList (Text.Padded.trimChars_eq respaces))
  | listed =>
    have items := Text.Spread.items_eq respaces
    rw [String.ofList_toList, String.ofList_toList] at items
    exact congrArg some items

end Spacing

/-! ## Single variables -/

namespace Variables

variable {vars others : Variables} {name : String}

theorem text_congr (agree : vars name = others name) (default : String) :
    vars.text name default = others.text name default := by
  rw [text, text, agree]

theorem number_congr (agree : (vars name).map Text.trim = (others name).map Text.trim)
    (bound default : Nat) : vars.number name bound default = others.number name bound default := by
  have trimmed (vars : Variables) : vars.number name bound default =
      (((vars name).map Text.trim).bind fun text =>
        (Number.readNatural bound text).toOption).getD default := by
    rw [number, Option.bind_map, Function.comp_def]
  rw [trimmed, trimmed, agree]

theorem flag_congr (agree : (vars name).map Text.trim = (others name).map Text.trim)
    (default : Bool) : vars.flag name default = others.flag name default := by
  have trimmed (vars : Variables) :
      vars.flag name default = (((vars name).map Text.trim).bind truth?).getD default := by
    rw [flag, Option.bind_map, Function.comp_def]
  rw [trimmed, trimmed, agree]

theorem list_congr
    (agree : (vars name).map (Text.items ',') = (others name).map (Text.items ','))
    (default : String) : vars.list name default = others.list name default := by
  have listed (vars : Variables) : vars.list name default =
      ((vars name).map (Text.items ',')).getD (Text.items ',' default) := by
    rw [list, text]
    cases vars name <;> rfl
  rw [listed, listed, agree]

end Variables

namespace Settings

/-! ## Fields -/

/-- The fields of settings. -/
inductive Field where
  | host
  | port
  | shutdownSeconds
  | contextPath
  | url
  | maxConnections
  | minConnections
  | connectSeconds
  | idleSeconds
  | origins
  | credentials
  | writeRoles
  | restrictReads
  | trustIdentity
  | cache
  | office
  deriving DecidableEq

/-- The value of a field. -/
inductive FieldValue where
  | text (text : String)
  | number (n : Nat)
  | truth (b : Bool)
  | texts (texts : List String)
  | rule (rule : Resource.CacheRule)
  | office (name : Option String)
  deriving DecidableEq

namespace Field

/-- The variable that a field is documented for. -/
def variableName : Field → String
  | .host => "CDA_HOST"
  | .port => "CDA_PORT"
  | .shutdownSeconds => "CDA_SHUTDOWN_TIMEOUT"
  | .contextPath => "CDA_CONTEXT_PATH"
  | .url => "DATABASE_URL"
  | .maxConnections => "DATABASE_MAX_CONNECTIONS"
  | .minConnections => "DATABASE_MIN_CONNECTIONS"
  | .connectSeconds => "DATABASE_CONNECT_TIMEOUT"
  | .idleSeconds => "DATABASE_IDLE_TIMEOUT"
  | .origins => "CORS_ALLOWED_ORIGINS"
  | .credentials => "CORS_ALLOW_CREDENTIALS"
  | .writeRoles => "CDA_WRITE_ROLES"
  | .restrictReads => "CDA_RESTRICT_READS"
  | .trustIdentity => "CDA_TRUST_IDENTITY_HEADERS"
  | .cache => "CDA_DEFAULT_CACHE"
  | .office => "CDA_OFFICE"

/-- The value of a field in settings. -/
def get (settings : Settings) : Field → FieldValue
  | .host => .text settings.server.host
  | .port => .number settings.server.port
  | .shutdownSeconds => .number settings.server.shutdownSeconds
  | .contextPath => .text settings.server.contextPath
  | .url => .text settings.database.url
  | .maxConnections => .number settings.database.maxConnections
  | .minConnections => .number settings.database.minConnections
  | .connectSeconds => .number settings.database.connectSeconds
  | .idleSeconds => .number settings.database.idleSeconds
  | .origins => .texts settings.origins.allowed
  | .credentials => .truth settings.origins.credentials
  | .writeRoles => .texts settings.access.writeRoles
  | .restrictReads => .truth settings.access.restrictReads
  | .trustIdentity => .truth settings.access.trustIdentity
  | .cache => .rule settings.cache
  | .office => .office settings.office

/-- What counts of the text of the variable of a field. -/
def spacing : Field → Spacing
  | .host | .contextPath | .url => .verbatim
  | .port | .shutdownSeconds | .maxConnections | .minConnections | .connectSeconds | .idleSeconds =>
    .trimmed
  | .credentials | .restrictReads | .trustIdentity => .trimmed
  | .cache | .office => .trimmed
  | .origins | .writeRoles => .listed

/-- All fields, in the order of their variables. -/
def all : List Field :=
  [.host, .port, .shutdownSeconds, .contextPath, .url, .maxConnections, .minConnections,
    .connectSeconds, .idleSeconds, .origins, .credentials, .writeRoles, .restrictReads,
    .trustIdentity, .cache, .office]

theorem mem_all (field : Field) : field ∈ all := by
  cases field <;> simp [all]

/-- The variables of the fields are those that are read. -/
theorem map_variableName_all : all.map variableName = variableNames := rfl

/-- No two fields share a variable. -/
theorem eq_of_variableName_eq {field other : Field}
    (same : field.variableName = other.variableName) : field = other := by
  have distinct : (all.map variableName).Nodup := by
    rw [map_variableName_all]
    decide
  exact List.inj_on_of_nodup_map distinct field.mem_all other.mem_all same

end Field

/-- Settings are determined by their fields. -/
theorem ext_of_fields {settings other : Settings}
    (same : ∀ field : Field, field.get settings = field.get other) : settings = other := by
  obtain ⟨⟨host, port, shutdown, path⟩, ⟨url, most, least, connect, idle⟩, ⟨allowed, credentials⟩,
    ⟨roles, restrict, trust⟩, cache, office⟩ := settings
  obtain ⟨⟨host', port', shutdown', path'⟩, ⟨url', most', least', connect', idle'⟩,
    ⟨allowed', credentials'⟩, ⟨roles', restrict', trust'⟩, cache', office'⟩ := other
  obtain rfl := FieldValue.text.inj (same .host)
  obtain rfl := FieldValue.number.inj (same .port)
  obtain rfl := FieldValue.number.inj (same .shutdownSeconds)
  obtain rfl := FieldValue.text.inj (same .contextPath)
  obtain rfl := FieldValue.text.inj (same .url)
  obtain rfl := FieldValue.number.inj (same .maxConnections)
  obtain rfl := FieldValue.number.inj (same .minConnections)
  obtain rfl := FieldValue.number.inj (same .connectSeconds)
  obtain rfl := FieldValue.number.inj (same .idleSeconds)
  obtain rfl := FieldValue.texts.inj (same .origins)
  obtain rfl := FieldValue.truth.inj (same .credentials)
  obtain rfl := FieldValue.texts.inj (same .writeRoles)
  obtain rfl := FieldValue.truth.inj (same .restrictReads)
  obtain rfl := FieldValue.truth.inj (same .trustIdentity)
  obtain rfl := FieldValue.rule.inj (same .cache)
  obtain rfl := FieldValue.office.inj (same .office)
  rfl

/-! ## Reading -/

variable {vars others : Variables} {settings changed : Settings}

/-- Two sources of variables agree on what counts for a field. -/
def Field.Agree (field : Field) (vars others : Variables) : Prop :=
  field.spacing.Agree (vars field.variableName) (others field.variableName)

/-- The rule for caching is read from what is left of its variable after trimming. -/
theorem readCache_congr (agree : Field.cache.Agree vars others) :
    readCache vars = readCache others := by
  have trimmed (vars : Variables) : readCache vars =
      (((vars "CDA_DEFAULT_CACHE").map Text.trim).map Resource.CacheRule.parse).getD
        (.ok .standard) := by
    unfold readCache
    cases vars "CDA_DEFAULT_CACHE" with
    | none => rfl
    | some text =>
      simp only [Option.map_some, Option.getD_some, Resource.CacheRule.parse, Text.trim,
        String.toList_ofList, Text.trimChars_trimChars]
  have same : (vars "CDA_DEFAULT_CACHE").map Text.trim = (others "CDA_DEFAULT_CACHE").map Text.trim :=
    agree
  rw [trimmed, trimmed, same]

/-- The office is read from what is left of its variable after trimming. -/
theorem office_congr (agree : Field.office.Agree vars others) :
    (vars "CDA_OFFICE").bind Text.trimmed? = (others "CDA_OFFICE").bind Text.trimmed? := by
  have trimmed (vars : Variables) : (vars "CDA_OFFICE").bind Text.trimmed? =
      ((vars "CDA_OFFICE").map Text.trim).bind fun inner =>
        if inner.isEmpty then none else some inner := by
    rw [Option.bind_map, Function.comp_def]
    rfl
  have same : (vars "CDA_OFFICE").map Text.trim = (others "CDA_OFFICE").map Text.trim := agree
  rw [trimmed, trimmed, same]

/-- Each field other than the rule for caching depends on what counts of its own variable. -/
theorem get_ofVariables_congr {field : Field} (agree : field.Agree vars others)
    {cache other : Resource.CacheRule} (cached : field = .cache → cache = other) :
    field.get (ofVariables vars cache) = field.get (ofVariables others other) := by
  cases field with
  | host | contextPath | url =>
    exact congrArg FieldValue.text (Variables.text_congr agree _)
  | port | shutdownSeconds | maxConnections | minConnections | connectSeconds | idleSeconds =>
    exact congrArg FieldValue.number (Variables.number_congr agree _ _)
  | credentials | restrictReads | trustIdentity =>
    exact congrArg FieldValue.truth (Variables.flag_congr agree _)
  | origins | writeRoles => exact congrArg FieldValue.texts (Variables.list_congr agree _)
  | cache => exact congrArg FieldValue.rule (cached rfl)
  | office => exact congrArg FieldValue.office (office_congr agree)

/-- A field has one value in settings whose sources agree on what counts for it. -/
theorem get_of_agree (isRead : read vars = .ok settings) (isChanged : read others = .ok changed)
    {field : Field} (agree : field.Agree vars others) : field.get settings = field.get changed := by
  obtain ⟨cache, cached, rfl⟩ := exists_of_read isRead
  obtain ⟨other, othered, rfl⟩ := exists_of_read isChanged
  refine get_ofVariables_congr agree fun isCache => ?_
  subst isCache
  exact Except.ok.inj (cached.symm.trans ((readCache_congr agree).trans othered))

/-- Sources that agree on what counts for every field are read alike, faults included. -/
theorem read_congr (agree : ∀ field : Field, field.Agree vars others) : read vars = read others := by
  have settings : ofVariables vars = ofVariables others := by
    funext cache
    exact ext_of_fields fun field => get_ofVariables_congr (agree field) fun _ => rfl
  rw [read, read, readCache_congr (agree .cache), settings]

/-- Without any variable the settings are the standard ones. -/
theorem read_unset : read (fun _ => none) = .ok standard := by decide +kernel

/-- A field whose variable is unset has its default. -/
theorem get_of_unset (isRead : read vars = .ok settings) {field : Field}
    (unset : vars field.variableName = none) : field.get settings = field.get standard :=
  get_of_agree isRead read_unset (field.spacing.agree_of_eq unset)

/-- Sources that differ in one variable differ at most in the field of that variable. -/
theorem variableName_eq_of_get_ne {name : String}
    (same : ∀ other, other ≠ name → vars other = others other) (isRead : read vars = .ok settings)
    (isChanged : read others = .ok changed) {field : Field}
    (different : field.get settings ≠ field.get changed) : field.variableName = name := by
  by_contra other
  exact different (get_of_agree isRead isChanged (field.spacing.agree_of_eq (same _ other)))

/-- Every field can be changed by its variable. -/
theorem exists_get_ne_standard (field : Field) :
    ∃ text settings, read (.only field.variableName text) = .ok settings ∧
      field.get settings ≠ field.get standard := by
  cases field with
  | host | contextPath | url | origins | writeRoles | office =>
    exact ⟨"other", _, rfl, by decide +kernel⟩
  | port | shutdownSeconds | maxConnections | minConnections | connectSeconds | idleSeconds =>
    exact ⟨"1", _, rfl, by decide +kernel⟩
  | credentials | restrictReads | trustIdentity => exact ⟨"true", _, rfl, by decide +kernel⟩
  | cache =>
    have isRead : read (.only "CDA_DEFAULT_CACHE" "1h") =
        .ok (ofVariables (.only "CDA_DEFAULT_CACHE" "1h") ⟨1, .hours⟩) := by decide +kernel
    exact ⟨"1h", _, isRead, by decide +kernel⟩

end Settings

/-- Variables with white space added that does not count. -/
def Variables.Respaced (vars others : Variables) : Prop :=
  ∀ name, others name = vars name ∨
    ∃ field : Settings.Field, field.variableName = name ∧
      ∃ text more, vars name = some text ∧ others name = some more ∧
        field.spacing.Respaces text more

namespace Settings

variable {vars others : Variables}

/-- White space that does not count changes nothing, not even a fault. -/
theorem read_of_respaced (respaced : vars.Respaced others) : read others = read vars := by
  apply read_congr
  intro field
  rcases respaced field.variableName with same | ⟨other, named, text, more, isSet, isMore, respaces⟩
  · exact field.spacing.agree_of_eq same
  · obtain rfl := Field.eq_of_variableName_eq named
    rw [Field.Agree, isSet, isMore]
    exact Spacing.agree_of_respaces respaces

/-- Each field of the settings is read from its own variable. Sources that agree on all variables but
one give settings that differ at most in the field of that variable, every variable does change its
field, and no two fields share one; the fields are all that there is of settings. A field whose variable
is unset has the value of the standard settings. White space around the text of a variable changes
nothing, the variables of texts that are taken as they are apart, and in lists neither does white space
around the items, nor do blank items. -/
theorem fields_read_from_own_variables :
    (∀ name vars others settings changed, (∀ other, other ≠ name → vars other = others other) →
        read vars = .ok settings → read others = .ok changed →
          ∀ field : Field, field.get settings ≠ field.get changed → field.variableName = name) ∧
      (∀ field : Field, ∃ text settings, read (.only field.variableName text) = .ok settings ∧
        field.get settings ≠ field.get standard) ∧
      (∀ field other : Field, field.variableName = other.variableName → field = other) ∧
      (∀ settings other, (∀ field : Field, field.get settings = field.get other) →
        settings = other) ∧
      (∀ vars settings, read vars = .ok settings →
        ∀ field : Field, vars field.variableName = none →
          field.get settings = field.get standard) ∧
      ∀ vars others : Variables, vars.Respaced others → read others = read vars := by
  refine ⟨?frame, exists_get_ne_standard, ?apart, ?fields, ?unset, ?spacing⟩
  case frame =>
    intro name vars others settings changed same isRead isChanged field different
    exact variableName_eq_of_get_ne same isRead isChanged different
  case apart =>
    intro field other same
    exact Field.eq_of_variableName_eq same
  case fields =>
    intro settings other same
    exact ext_of_fields same
  case unset =>
    intro vars settings isRead field unset
    exact get_of_unset isRead unset
  case spacing =>
    intro vars others respaced
    exact read_of_respaced respaced

/-- A list of two roles, which is the only field that its variable changes, and the same list with white
space around the first role and a blank item in front of the second. -/
theorem padded_list_read_alike :
    let vars : Variables := .only "CDA_WRITE_ROLES" "CWMS Users,Data Entry"
    let padded : Variables := .only "CDA_WRITE_ROLES" " CWMS Users , ,Data Entry"
    vars.Respaced padded ∧ ∃ settings, read vars = .ok settings ∧ read padded = .ok settings ∧
      Field.writeRoles.get settings = .texts ["CWMS Users", "Data Entry"] ∧
      Field.port.get settings = Field.port.get standard ∧
      ∀ field : Field, field.get settings ≠ field.get standard → field = .writeRoles := by
  intro vars padded
  have spread : Text.Spread "CWMS Users,Data Entry".toList " CWMS Users , ,Data Entry".toList := by
    have gap : ∀ c ∈ [' '], Text.isBlank c = true := List.forall_mem_singleton.mpr (by decide)
    have first : Text.Padded "CWMS Users".toList ([' '] ++ "CWMS Users".toList ++ [' ']) :=
      .intro gap gap
    have second : Text.Padded "Data Entry".toList ([] ++ "Data Entry".toList ++ []) :=
      .intro (List.forall_mem_nil _) (List.forall_mem_nil _)
    exact .comma (.around first) (.blankFirst gap (.around second))
  have respaced : vars.Respaced padded := by
    intro name
    by_cases isRoles : name = "CDA_WRITE_ROLES"
    · subst isRoles
      exact .inr ⟨.writeRoles, rfl, _, _, rfl, rfl, spread⟩
    · exact .inl ((if_neg isRoles).trans (if_neg isRoles).symm)
  have isRead : read vars = .ok (ofVariables vars .standard) := rfl
  obtain ⟨frame, _, apart, _, unset, spacing⟩ := fields_read_from_own_variables
  refine ⟨respaced, _, isRead, (spacing vars padded respaced).trans isRead, by decide +kernel,
    unset vars _ isRead .port rfl, ?_⟩
  intro field different
  apply apart
  exact frame "CDA_WRITE_ROLES" vars (fun _ => none) _ _ (fun other isOther => if_neg isOther) isRead
    read_unset field different

end Settings

end Sluice.Server
