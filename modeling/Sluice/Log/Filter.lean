import Sluice.Log.Directive

/-!
# The filter of the log

Directives about targets decide from what is known in advance; of those that apply, the most specific
one counts. Directives about spans decide from the spans that are open: such a span is always
reported, and within it everything up to its threshold is. A directive that names the same things as
an earlier one takes its place.
-/

namespace Sluice.Log

/-- What is known in advance of something that may be reported. -/
structure Site where
  target : String
  level : Level
  /-- The name of a span; an event has none. -/
  span : Option String
  /-- The names of the fields. -/
  fields : List String
  deriving Repr, DecidableEq

/-- A directive that decides from what is known in advance. -/
structure TargetDirective where
  threshold : Threshold
  target : Option String
  fields : List String
  deriving Repr, DecidableEq

namespace TargetDirective

/-- The order of directives: the most specific one comes first. -/
def order (directive other : TargetDirective) : Ordering :=
  let size (directive : TargetDirective) : Nat :=
    match directive.target with
    | some target => target.utf8ByteSize + 1
    | none => 0
  ((compare (size other) (size directive)).then
    (compare other.fields.length directive.fields.length)).then
    ((compareOfLessAndEq (other.target.getD "") (directive.target.getD "")).then
      (compareOfLessAndEq other.fields directive.fields))

/-- Whether a directive applies; its fields matter to events alone. -/
def applies (directive : TargetDirective) (site : Site) : Bool :=
  (match directive.target with
    | some target => target.toList.isPrefixOf site.target.toList
    | none => true) &&
    (site.span.isSome || directive.fields.all site.fields.contains)

/-- Adds a directive at its place, or in place of the one with which it agrees but for the
threshold. -/
def insert (directive : TargetDirective) : List TargetDirective → List TargetDirective
  | [] => [directive]
  | other :: rest =>
    match order directive other with
    | .lt => directive :: other :: rest
    | .eq => directive :: rest
    | .gt => other :: insert directive rest

end TargetDirective

namespace Directive

/-- Whether the directive concerns spans. -/
def concernsSpans (directive : Directive) : Bool :=
  directive.span.isSome || !directive.fields.isEmpty

/-- The directive as one that decides from what is known in advance, if it names no span and asks for
no value. -/
def forTargets? (directive : Directive) : Option TargetDirective :=
  if directive.span.isNone && directive.fields.all (·.value.isNone) then
    some ⟨directive.threshold, directive.target, directive.fields.map (·.name)⟩
  else none

/-- Whether a directive applies to a span. -/
def applies (directive : Directive) (site : Site) : Bool :=
  (match directive.target with
    | some target => target.toList.isPrefixOf site.target.toList
    | none => true) &&
    (match directive.span with
      | some name => site.span == some name
      | none => true) &&
    directive.fields.all fun field => site.fields.contains field.name

/-- Whether two directives agree but for the threshold. -/
def sameAs (directive other : Directive) : Bool :=
  directive.target == other.target && directive.span == other.span &&
    directive.fields == other.fields

end Directive

/-- Whether a field has the value that is asked for. -/
def FieldMatch.holds (field : FieldMatch) (values : List (String × Int)) : Bool :=
  match field.value with
  | none => true
  | some wanted =>
    match values.lookup field.name with
    | some value => wanted.isNumber value
    | none => false

/-- The more detailed of two thresholds. -/
def Threshold.max (threshold other : Threshold) : Threshold :=
  if Threshold.detail threshold < Threshold.detail other then other else threshold

/-- The filter of the log. -/
structure Filter where
  targets : List TargetDirective
  /-- The most detailed threshold that a directive about targets ever had. -/
  targetLimit : Threshold
  spans : List Directive
  /-- The most detailed threshold that a directive about spans ever had. -/
  spanLimit : Threshold
  deriving Repr, DecidableEq

namespace Filter

/-- The filter without directives. -/
def empty : Filter := ⟨[], none, [], none⟩

/-- Adds a directive about targets. -/
def addTarget (filter : Filter) (directive : TargetDirective) : Filter :=
  { filter with
    targets := directive.insert filter.targets
    targetLimit := Threshold.max filter.targetLimit directive.threshold }

/-- Adds a directive about spans. -/
def addSpan (filter : Filter) (directive : Directive) : Filter :=
  { filter with
    spans := filter.spans.filter (!·.sameAs directive) ++ [directive]
    spanLimit := Threshold.max filter.spanLimit directive.threshold }

/-- Adds a directive. One that can decide from what is known in advance does so. -/
def add (filter : Filter) (directive : Directive) : Filter :=
  match directive.forTargets? with
  | some target => filter.addTarget target
  | none => filter.addSpan directive

/-- The filter that some directives make. Here one that concerns spans decides about spans even if it
could decide in advance, and does both then. -/
def ofDirectives (directives : List Directive) : Filter :=
  let plain := directives.filter (!·.concernsSpans)
  let spanned := directives.filter (·.concernsSpans)
  let withSpans := spanned.foldl addSpan empty
  ((plain ++ spanned).filterMap Directive.forTargets?).foldl addTarget withSpans

/-- The directive for everything up to a threshold. -/
def upTo (threshold : Threshold) : Directive := ⟨threshold, none, none, []⟩

/-- The filter of a variable, whose directives are separated by commas. Those that cannot be read do
not count; if none is left, only errors are logged. There is no filter if a directive cannot even be
cut into its parts. -/
def ofVariable? (text : Option String) : Option Filter :=
  let pieces := (Text.pieces ',' (text.getD "")).filter (!·.isEmpty)
  let isUncuttable (piece : String) : Bool :=
    match Directive.parse piece with
    | .error .uncuttable => true
    | _ => false
  let directives := pieces.filterMap fun piece => (Directive.parse piece).toOption
  if pieces.any isUncuttable then none
  else if directives.isEmpty then some (empty.add (upTo (some .error)))
  else some (ofDirectives directives)

/-- Whether some directive asks for the value of a field. -/
def asksForValues (filter : Filter) : Bool :=
  filter.spans.any fun directive => directive.fields.any (·.value.isSome)

/-- The most detailed level that can be reported at all. -/
def limit (filter : Filter) : Threshold :=
  if filter.asksForValues then some .trace
  else Threshold.max filter.targetLimit filter.spanLimit

/-- Whether the directives about targets let something through. -/
def passesInAdvance (filter : Filter) (site : Site) : Bool :=
  match filter.targets.find? (·.applies site) with
  | some directive => Threshold.passes directive.threshold site.level
  | none => false

/-- The directives about spans that apply to one. -/
def applying (filter : Filter) (site : Site) : List Directive :=
  filter.spans.filter (·.applies site)

/-- Whether the spans that are open let something through. -/
def passesWithin (filter : Filter) (thresholds : List Threshold) (level : Level) : Bool :=
  Threshold.passes filter.spanLimit level && thresholds.any (Threshold.passes · level)

/-- Whether something is reported while spans with some thresholds are open. -/
def reports (filter : Filter) (thresholds : List Threshold) (site : Site) : Bool :=
  Threshold.passes filter.limit site.level &&
    ((site.span.isSome && !(filter.applying site).isEmpty) || filter.passesInAdvance site ||
      filter.passesWithin thresholds site.level)

/-- The threshold within a span with some values, if a directive applies to the span. -/
def thresholdWithin (filter : Filter) (site : Site) (values : List (String × Int)) :
    List Threshold :=
  let applying := filter.applying site
  if applying.isEmpty then []
  else
    let holding := applying.filter fun directive => directive.fields.all (·.holds values)
    [holding.foldl (fun threshold directive => Threshold.max threshold directive.threshold) none]

end Filter

end Sluice.Log
