import Sluice.Proofs.Resource.Recording
import Sluice.Proofs.Server.Leases

/-!
# Servers that record

A server whose resources record what is called is assembled exactly if the server is, and serves every
request and every series of requests as that does, with a record beside its data. So what such a server
records is what the server calls.
-/

namespace Sluice.Server

open Resource

variable {σ : Type}

/-- What a path leads to where calls are recorded. -/
def Destination.recording : Destination σ → Destination (σ × List Operation)
  | .resource bindings => .resource (bindings.map Binding.recording)
  | .health => .health

/-- An arrival at a server that records, whose record nothing else changes. -/
def Arrival.recording (arrival : Arrival σ) : Arrival (σ × List Operation) :=
  ⟨arrival.request, arrival.incident, fun (store, recorded) => (arrival.meanwhile store, recorded)⟩

namespace Application

/-- A server that records what it calls. -/
def recording (application : Application σ) : Application (σ × List Operation) where
  engine := application.engine.recording
  cache := application.cache
  trustIdentity := application.trustIdentity
  cross := application.cross
  table := application.table.map fun row => (row.1, row.2.recording)

/-- The server of resources that record is the server of the resources, recording. -/
theorem assemble?_recording (settings : Settings) (registry : Registry σ) (source : Source σ) :
    assemble? settings registry.recording source.recording =
      (assemble? settings registry source).map recording := by
  have places (mount : String) : destinations registry.recording mount =
      (destinations registry mount).map fun entry => (entry.1, entry.2.recording) := by
    simp only [destinations, Registry.routesUnder_recording, List.map_append, List.map_map]
    rfl
  simp only [assemble?, places, Route.Table.build?_map]
  split
  · rfl
  · simp only [Option.map_map]
    rfl

/-- The answer of a resource is the same where calls are recorded. -/
theorem resourceAnswer_recording (application : Application σ) (bindings : List (Binding σ))
    (captures : Route.Captures) (request : Request) (incident : Incident)
    (shared : Shared (σ × List Operation)) :
    (application.recording.resourceAnswer (bindings.map Binding.recording) captures request incident
        shared).unrecorded =
      application.resourceAnswer bindings captures request incident shared.unrecorded := by
  have answered (request : Request) :=
    answerOn_recording application.engine application.cache bindings captures request incident shared
  have trusts : application.recording.trustIdentity = application.trustIdentity := rfl
  unfold resourceAnswer
  rw [trusts]
  cases application.trustIdentity with
  | false => exact answered request
  | true =>
    simp only [if_true, identified]
    cases Caller.ofHeaders request.headers with
    | error failure => rfl
    | ok caller? =>
      cases caller? with
      | none => exact answered request
      | some caller => exact congrArg (Exchange.after [identifiedEvent caller]) (answered _)

/-- A health check is answered the same where calls are recorded. -/
theorem healthAnswer_recording (application : Application σ) (method : Http.Method)
    (shared : Shared (σ × List Operation)) :
    (application.recording.healthAnswer method shared).unrecorded =
      application.healthAnswer method shared.unrecorded := by
  have checked : application.recording.engine.source.check shared =
      ((application.engine.source.check shared.unrecorded).1,
        (application.engine.source.check shared.unrecorded).2.withRecord shared.store.2) := rfl
  unfold healthAnswer
  rw [checked]
  split
  · cases application.engine.source.check shared.unrecorded with
    | mk outcome after => cases outcome <;> rfl
  · rfl

/-- A server that records serves every request as the server does. -/
theorem serve_recording (application : Application σ) (request : Request) (incident : Incident)
    (shared : Shared (σ × List Operation)) :
    (application.recording.serve request incident shared).unrecorded =
      application.serve request incident shared.unrecorded := by
  have found : application.recording.table.find? request.uri.path = _ :=
    Route.Table.find?_map application.table Destination.recording request.uri.path
  -- The layers around an answer change nothing but the response.
  have around (exchange : Exchange (σ × List Operation)) (last : Http.Response → Http.Response) :
      (answering (application.recording.around request exchange) last).unrecorded =
        answering (application.around request exchange.unrecorded) last := rfl
  cases reached : application.table.find? request.uri.path with
  | none =>
    rw [reached] at found
    simp only [serve, found, reached, Option.map_none]
    split
    · rfl
    · rw [around]
      rfl
  | some entry =>
    obtain ⟨destination, captures⟩ := entry
    rw [reached] at found
    cases destination with
    | resource bindings =>
      simp only [serve, found, reached, Option.map_some, Destination.recording, withAllow_recording]
      split
      · rfl
      · rw [around, resourceAnswer_recording]
    | health =>
      simp only [serve, found, reached, Option.map_some, Destination.recording]
      split
      · rfl
      · rw [around, healthAnswer_recording]

/-- A server that records serves every series of requests as the server does. -/
theorem visits_recording (application : Application σ) (arrivals : List (Arrival σ))
    (shared : Shared (σ × List Operation)) :
    ((application.recording.visits shared (arrivals.map Arrival.recording)).map
        (·.exchange.unrecorded)) =
      (application.visits shared.unrecorded arrivals).map (·.exchange) := by
  induction arrivals generalizing shared with
  | nil => rfl
  | cons arrival later ih =>
    have served := application.serve_recording arrival.request arrival.incident
      { shared with store := (arrival.meanwhile shared.store.1, shared.store.2) }
    simp only [List.map_cons, visits, List.cons.injEq]
    refine ⟨served, ?_⟩
    rw [ih]
    exact congrArg (fun exchange : Exchange σ =>
      (application.visits exchange.shared later).map (·.exchange)) served

end Application

end Sluice.Server
