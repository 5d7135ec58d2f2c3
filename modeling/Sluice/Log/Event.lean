import Sluice.Log.Level

/-!
# What the server reports

Events are part of the outcome of serving: a request's answer comes with the events that were
reported on the way, in order. The fields of an event are texts as the log shows them. An event that
was reported while a request was dispatched lies in the span of that dispatch. Left out is what is of
no interest but to those who trace the server itself: that a context was seeded, that the default of
caching was applied, and what the layer around all routes notes of each request and answer.
-/

namespace Sluice.Log

/-- Named texts that belong to an event or a span. -/
abbrev Fields := List (String × String)

/-- Something that was reported. -/
structure Event where
  level : Level
  message : String
  fields : Fields
  /-- The fields of the dispatch that the event lies in. -/
  span : Option Fields
  deriving Repr, DecidableEq

/-- An event that lies in no span. -/
def Event.plain (level : Level) (message : String) (fields : Fields) : Event :=
  ⟨level, message, fields, none⟩

/-- The event as reported within a span. -/
def Event.within (event : Event) (span : Fields) : Event :=
  { event with span := some span }

end Sluice.Log
