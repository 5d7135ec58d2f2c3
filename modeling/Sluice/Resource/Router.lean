import Sluice.Resource.CacheRule
import Sluice.Resource.Dispatch
import Sluice.Route.Pattern

/-!
# The router of the resources

The routes of all bindings, each with the bindings that answer on it. A path that matches a route is
answered by the binding of the method of the request, and otherwise with the list of methods that are
bound. The request for the methods of a path is answered with that list as well. A read of the header
fields alone is served like a read and loses its body at the end.
-/

namespace Sluice.Resource

variable {σ : Type}

namespace Registry

/-- The routes of all bindings, each once. -/
def routeTexts (registry : Registry σ) : List String :=
  (registry.bindings.flatMap Binding.routes).eraseDups

/-- The bindings that answer on a route. -/
def bindingsOn (registry : Registry σ) (route : String) : List (Binding σ) :=
  registry.bindings.filter fun binding => binding.routes.contains route

/-- The routes under a path with the bindings that answer on them. -/
def routesUnder (registry : Registry σ) (mount : String) : List (String × List (Binding σ)) :=
  registry.routeTexts.map fun route => (mount ++ route, registry.bindingsOn route)

end Registry

/-- The method under which a binding is found: header fields alone are read like the whole. -/
def boundMethod (method : Http.Method) : Http.Method :=
  if method = .head then .get else method

/-- The methods of a route as the answer to the request for them. -/
def offeredMethods (bindings : List (Binding σ)) : String :=
  ", ".intercalate (bindings.map (·.method.name) ++ [Http.Method.options.name])

/-- The methods of a route as the answer to a request with another method. -/
def allowedMethods (bindings : List (Binding σ)) : String :=
  ",".intercalate
    (bindings.flatMap (fun binding =>
      if binding.method = .get then ["GET", "HEAD"] else [binding.method.name]) ++ ["OPTIONS"])

/-- The texts of parameters with their escapes decoded; otherwise the first parameter whose text is
not UTF-8. Every parameter of a route counts, whatever its name; names that a library keeps for the
parameters of its own routes are not told apart. -/
def decodeCaptures : Route.Captures → Except String (List String)
  | [] => .ok []
  | (name, value) :: rest =>
    match Text.Utf8.decode? (Text.Percent.decode (Text.Utf8.encodeChars value)) with
    | none => .error (String.ofList name)
    | some text => (decodeCaptures rest).map (text :: ·)

/-- The failure for a parameter that is not UTF-8. -/
def undecodable (binding : Binding σ) (name : String) : Failure :=
  .badQueryParameter binding.template.identifierName
    ("Invalid URL: Invalid UTF-8 in `" ++ name ++ "`")

/-- Serves a request through a binding on the route of its path. The identifier is the last of the
parameters. -/
def dispatchOn (engine : Engine σ) (binding : Binding σ) (captures : Route.Captures)
    (request : Request) (incident : Incident) (shared : Shared σ) : Exchange σ :=
  if binding.operation.targetsItem then
    match decodeCaptures captures with
    | .ok texts => dispatch engine binding texts.getLast? request incident shared
    | .error name =>
      let ruling := Ruling.of incident (undecodable binding name)
      ⟨ruling.toResponse, shared, [ruling.event]⟩
  else dispatch engine binding none request incident shared

/-- How a route answers a request. -/
inductive Endpoint (σ : Type) where
  /-- Through a binding. -/
  | bound (binding : Binding σ)
  /-- With the methods of the route, as asked for. -/
  | methods
  /-- With the methods of the route, since the method of the request is none of them. -/
  | unbound

/-- How a route answers requests with a method. -/
def endpoint (bindings : List (Binding σ)) (method : Http.Method) : Endpoint σ :=
  if method = .options then .methods
  else
    match bindings.find? (·.method == boundMethod method) with
    | some binding => .bound binding
    | none => .unbound

/-- The answer of a route before the parts of the server around it take part, with the default of
caching applied. -/
def answerOn (engine : Engine σ) (cache : CacheRule) (bindings : List (Binding σ))
    (captures : Route.Captures) (request : Request) (incident : Incident) (shared : Shared σ) :
    Exchange σ :=
  match endpoint bindings request.method with
  | .bound binding =>
    let exchange := dispatchOn engine binding captures request incident shared
    { exchange with response := cache.apply request.method exchange.response }
  | .methods =>
    let response := Http.Response.empty 204
    { response :=
        { response with headers := response.headers.setText "allow" (offeredMethods bindings) }
      shared
      events := [] }
  | .unbound => ⟨.empty 405, shared, []⟩

/-- Adds the methods of a route to the answer to a method that is not bound. -/
def withAllow (bindings : List (Binding σ)) (method : Http.Method) (response : Http.Response) :
    Http.Response :=
  match endpoint bindings method with
  | .unbound =>
    { response with
      headers := response.headers.setIfAbsent "allow" (.ofText (allowedMethods bindings)) }
  | _ => response

/-- The answer to a request for header fields alone has no body. -/
def forMethod (method : Http.Method) (response : Http.Response) : Http.Response :=
  if method = .head then response.withoutBody else response

/-- The resources of a server as a router. -/
structure Router (σ : Type) where
  engine : Engine σ
  cache : CacheRule
  table : Route.Table (List (Binding σ))

namespace Router

/-- The router of some resources, unless their routes cannot stand together. -/
def build? (registry : Registry σ) (engine : Engine σ) (cache : CacheRule) : Option (Router σ) :=
  (Route.Table.build? (registry.routesUnder "")).map fun table => ⟨engine, cache, table⟩

/-- Serves a request. -/
def serve (router : Router σ) (request : Request) (incident : Incident) (shared : Shared σ) :
    Exchange σ :=
  match router.table.find? request.uri.path with
  | none => ⟨(Http.Response.empty 404).withLength, shared, []⟩
  | some (bindings, captures) =>
    let exchange :=
      answerOn router.engine router.cache bindings captures request incident shared
    let response := withAllow bindings request.method exchange.response
    { exchange with response := forMethod request.method response.withLength }

end Router

end Sluice.Resource
