import ProxyControl.Config.Basic
import ProxyControl.Dispatch.Run
import ProxyControl.Request

/-!
# The dispatcher

Takes commands and requests to the proxy's endpoints. A command that no endpoint serves fails at
once, and nothing is sent for it.
-/
namespace ProxyControl

open Dispatch

structure Dispatcher where
  endpoints : List Endpoint
  settings : Settings
  endpoints_ne_nil : endpoints ≠ []
  capacity_pos : 0 < settings.capacity
  timeout_pos : 0 < settings.timeout

def Config.settings (config : Config) : Settings where
  timeout := .ofSeconds config.timeoutSeconds.toNat
  capacity := config.queueCapacity.toNat
  retry := config.retry

namespace Dispatcher

def noEndpoint : Failure := .config "no Runtime API endpoint configured"

def ofSettings (endpoints : List Endpoint) (settings : Settings) : Result Dispatcher :=
  if hasEndpoint : endpoints ≠ [] then
    if hasRoom : 0 < settings.capacity then
      if hasTime : 0 < settings.timeout then
        .ok ⟨endpoints, settings, hasEndpoint, hasRoom, hasTime⟩
      else .error (.config "command timeout must be positive")
    else .error (.config "queue capacity must be at least 1")
  else .error noEndpoint

def ofConfig (config : Config) : Result Dispatcher := do
  config.validate
  ofSettings config.endpoints config.settings

/-- Where events are asked for: the master if there is one, else the first endpoint. -/
def eventEndpoint (dispatcher : Dispatcher) : Endpoint :=
  (master? dispatcher.endpoints).getD (dispatcher.endpoints.head dispatcher.endpoints_ne_nil)

/-- What came of some calls: all that happened, and each call's result in the order given. -/
structure Report where
  record : Record
  results : List (Result Text)

/-- The results of calls whose first one has the number `caller`. -/
def results (dispatcher : Dispatcher) (record : Record) (caller : Nat) :
    List Call → List (Result Text)
  | [] => []
  | call :: rest =>
    let result :=
      match Route.of? dispatcher.endpoints call.command with
      | none => .error (unroutable call.command)
      | some _ => record.result dispatcher.settings caller call
    result :: results dispatcher record (caller + 1) rest

/-- Makes calls, each at its own instant. -/
def dispatch (dispatcher : Dispatcher) (transport : Transport) (calls : List Call) : Report :=
  let state := State.finish dispatcher.settings dispatcher.endpoints transport calls
  ⟨state.record, dispatcher.results state.record 0 calls⟩

/-- Sends one command and gives its answer as it is. -/
def send (dispatcher : Dispatcher) (transport : Transport) (command : Command) : Result Text :=
  (dispatcher.dispatch transport [⟨0, command⟩]).results.headD
    (.error (unroutable command))

/-- Carries out a request. -/
def perform {α : Type} (dispatcher : Dispatcher) (transport : Transport) (request : Request α) :
    Result α :=
  request.perform (dispatcher.send transport)

/-- What is handed over while a request is carried out. -/
def handovers {α : Type} (dispatcher : Dispatcher) (transport : Transport)
    (request : Request α) : List Handover :=
  match request.command? with
  | none => []
  | some command => (dispatcher.dispatch transport [⟨0, command⟩]).record.handovers

end Dispatcher

end ProxyControl
