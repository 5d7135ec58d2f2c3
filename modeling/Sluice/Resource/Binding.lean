import Sluice.Resource.Handler
import Sluice.Resource.Template

/-!
# Bindings

A resource is bound to five pairs of a method and a path, one for each operation, whether the
operation is implemented or not. Binding checks the template first and the policy second.
-/

namespace Sluice.Resource

/-- An operation of a resource at its method and path. -/
structure Binding (σ : Type) where
  method : Http.Method
  path : String
  operation : Operation
  invocation : Invocation σ
  /-- Whether the resource implements the operation. -/
  implemented : Bool
  template : Template
  policy : AccessPolicy

namespace Binding

variable {σ : Type}

/-- The path of an operation: that of an item or that of the collection. -/
def pathFor (template : Template) (operation : Operation) : String :=
  if operation.targetsItem then template.itemPath else template.collectionPath

/-- The binding of one operation. -/
def ofOperation (template : Template) (handler : Handler σ) (policy : AccessPolicy)
    (operation : Operation) : Binding σ where
  method := operation.method
  path := pathFor template operation
  operation := operation
  invocation := (handler.invocation? operation).getD (.notImplemented operation template.text)
  implemented := handler.implements operation
  template := template
  policy := policy

/-- The bindings of a resource. -/
def ofResource (text : String) (handler : Handler σ) (policy : AccessPolicy) :
    Except StartError (List (Binding σ)) := do
  let template ← Template.validate text
  policy.check text
  return Operation.all.map (ofOperation template handler policy)

/-- The form of a binding in diagnostics. -/
def debugText (binding : Binding σ) : String :=
  "RouteBinding \x7b method: " ++ binding.method.name ++ ", path: " ++
    Text.Quoted.quote binding.path ++ ", operation: " ++ binding.operation.label ++
    ", implemented: " ++ (if binding.implemented then "true" else "false") ++ ", .. \x7d"

/-- The path under which the router would match the binding, with any identifier alike. -/
def routeKey (binding : Binding σ) : String :=
  if binding.operation.targetsItem then binding.template.routeCollection ++ "/:"
  else binding.template.routeCollection

/-- Whether two bindings would answer the same requests. -/
def clashes (binding other : Binding σ) : Bool :=
  binding.method == other.method && binding.routeKey == other.routeKey

/-- The paths of the router on which the binding answers: a collection with and without a separator
at its end. -/
def routes (binding : Binding σ) : List String :=
  if binding.operation.targetsItem then [binding.template.routeItem]
  else [binding.template.routeCollection ++ "/", binding.template.routeCollection]

/-- What is reported when the binding has been accepted. -/
def boundEvent (binding : Binding σ) : Log.Event :=
  .plain .info "route bound"
    [("method", binding.method.name), ("path", binding.path),
      ("operation", binding.operation.name),
      ("implemented", if binding.implemented then "true" else "false")]

end Binding

/-- The bindings of all resources of a server. -/
structure Registry (σ : Type) where
  bindings : List (Binding σ)

namespace Registry

variable {σ : Type}

/-- No resource. -/
def empty : Registry σ := ⟨[]⟩

/-- The fault of binding a resource next to those that are bound already: the first of its bindings
that would answer the requests of another one. -/
def clash? (registry : Registry σ) (bindings : List (Binding σ)) : Option StartError :=
  (bindings.find? fun binding => registry.bindings.any (·.clashes binding)).map fun binding =>
    .duplicateBinding binding.method.name binding.path

/-- Adds a resource, with all of its bindings or not at all; yields what is reported as well. -/
def register (registry : Registry σ) (template : String) (handler : Handler σ)
    (policy : AccessPolicy) : Except StartError (Registry σ × List Log.Event) := do
  let bindings ← Binding.ofResource template handler policy
  match registry.clash? bindings with
  | some fault => .error fault
  | none => return (⟨registry.bindings ++ bindings⟩, bindings.map Binding.boundEvent)

end Registry

end Sluice.Resource
