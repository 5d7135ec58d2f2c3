import Sluice.Log.Event
import Sluice.Resource.Caller
import Sluice.Resource.Filters
import Sluice.Resource.Payload
import Sluice.Resource.Reply

/-!
# Handlers

What a resource does. A handler implements any of the five operations; each takes the context of the
request and the inputs that belong to the operation, and acts on the data that all requests share. An
operation that is left out is bound to an invocation that fails without touching that data.
-/

namespace Sluice.Resource

/-- For whom a request is served. -/
structure Context where
  office : String
  caller : Option Caller
  deriving Repr, DecidableEq

/-- The form of a context in diagnostics. -/
def Context.debugText (context : Context) : String :=
  let caller :=
    match context.caller with
    | some caller => "Some(" ++ caller.debugText ++ ")"
    | none => "None"
  "RequestContext \x7b office: " ++ Text.Quoted.quote context.office ++ ", caller: " ++ caller ++
    ", .. \x7d"

/-- What comes of an operation: a reply or a failure, the shared data afterwards and what was
reported. -/
structure Outcome (σ : Type) where
  result : Except Failure Reply
  store : σ
  events : List Log.Event

/-- Something that is done to the shared data. -/
abbrev Action (σ : Type) := σ → Outcome σ

namespace Action

variable {σ : Type}

/-- Leaves the data alone. -/
def pure (result : Except Failure Reply) : Action σ := fun store => ⟨result, store, []⟩

/-- Fails and leaves the data alone. -/
def fail (failure : Failure) : Action σ := pure (.error failure)

end Action

/-- How an operation is called, by the inputs that it takes. -/
inductive Invocation (σ : Type) where
  /-- A single item: the identifier. -/
  | item (run : Context → String → Action σ)
  /-- The collection: the filters of the query. -/
  | filters (run : Context → Filters → Action σ)
  /-- A new item: the body of the request. -/
  | payload (run : Context → Payload → Action σ)
  /-- A changed item: the identifier and the body of the request. -/
  | itemPayload (run : Context → String → Payload → Action σ)

namespace Invocation

variable {σ : Type}

/-- Whether an identifier is needed. -/
def takesIdentifier : Invocation σ → Bool
  | .item _ | .itemPayload _ => true
  | .filters _ | .payload _ => false

/-- Whether the body of the request is read. -/
def takesPayload : Invocation σ → Bool
  | .payload _ | .itemPayload _ => true
  | .item _ | .filters _ => false

/-- The invocation of an operation that a resource does not implement. -/
def notImplemented (operation : Operation) (resource : String) : Invocation σ :=
  let failure : Failure := .notImplemented operation resource
  match operation with
  | .fetchOne | .delete => .item fun _ _ => .fail failure
  | .fetchAll => .filters fun _ _ => .fail failure
  | .create => .payload fun _ _ => .fail failure
  | .update => .itemPayload fun _ _ _ => .fail failure

end Invocation

/-- The operations that a resource implements. -/
structure Handler (σ : Type) where
  fetchOne : Option (Context → String → Action σ) := none
  fetchAll : Option (Context → Filters → Action σ) := none
  create : Option (Context → Payload → Action σ) := none
  update : Option (Context → String → Payload → Action σ) := none
  delete : Option (Context → String → Action σ) := none

namespace Handler

variable {σ : Type}

/-- The implementation of an operation, if there is one. -/
def invocation? (handler : Handler σ) : Operation → Option (Invocation σ)
  | .fetchOne => handler.fetchOne.map .item
  | .fetchAll => handler.fetchAll.map .filters
  | .create => handler.create.map .payload
  | .update => handler.update.map .itemPayload
  | .delete => handler.delete.map .item

/-- Whether an operation is implemented. -/
def implements (handler : Handler σ) (operation : Operation) : Bool :=
  (handler.invocation? operation).isSome

end Handler

end Sluice.Resource
