import Sluice.Server.Address
import Sluice.Server.Application

/-!
# From start to shutdown

A server is started with settings and resources, listens at its address until it is told to stop, and
then waits for open connections. Whatever keeps it from being started is found before it listens.
-/

namespace Sluice.Server

open Resource

/-- What tells a server to stop. -/
inductive StopSignal where
  | terminate
  | interrupt
  deriving Repr, DecidableEq

/-- What is reported when a server is told to stop. -/
def StopSignal.message : StopSignal → String
  | .terminate => "Received terminate signal, starting graceful shutdown"
  | .interrupt => "Received Ctrl+C, starting graceful shutdown"

/-- How the start of a server ends. -/
inductive Start (σ : Type) where
  | refused (fault : StartFault)
  /-- The routes or the settings for browsers cannot stand together. -/
  | broken
  | ready (application : Application σ) (host : HostAddress)

variable {σ : Type}

/-- Starts a server with resources that may have been refused. -/
def start (settings : Settings) (registry : Except StartError (Registry σ)) (source : Source σ) :
    Start σ :=
  match registry with
  | .error error => .refused (.refused error)
  | .ok registry =>
    match Application.assemble? settings registry source with
    | none => .broken
    | some application =>
      match HostAddress.parse? settings.server.host with
      | none => .refused .badAddress
      | some host => .ready application host

/-- What is reported when a server listens. -/
def listeningEvent (settings : Settings) (host : HostAddress) : Log.Event :=
  .plain .info ("Listening on " ++ host.text ++ ":" ++ toString settings.server.port)
    [("context_path", settings.server.contextPath), ("office", settings.servedOffice)]

/-- What is reported from the moment a server is told to stop. -/
def stopEvents (settings : Settings) (signal : StopSignal) : List Log.Event :=
  [ .plain .info signal.message [],
    .plain .info
      ("Waiting up to " ++ toString settings.server.shutdownSeconds ++
        " seconds for connections to close") [],
    .plain .info "Server shut down gracefully" [] ]

/-- What a server reports that is only started and stopped. -/
def lifetimeEvents (settings : Settings) (host : HostAddress) (signal : StopSignal) :
    List Log.Event :=
  listeningEvent settings host :: stopEvents settings signal

end Sluice.Server
