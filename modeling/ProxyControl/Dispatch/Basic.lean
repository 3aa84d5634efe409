import ProxyControl.Endpoint

/-!
# Dispatched commands

What becomes of a command on its way to an endpoint. Each attempt to have it answered is handed
to the transport at most once, and its caller gets one outcome. The far end is known only by
what it does with what it is handed.
-/
namespace ProxyControl.Dispatch

structure Settings where
  /-- How long an attempt may take, from its submission on. -/
  timeout : Nanoseconds := .ofSeconds 30
  /-- How many attempts may wait for an endpoint before their callers wait in turn. -/
  capacity : Nat := 64
  /-- Whether an attempt that the transport failed is made once more. -/
  retry : Bool := true
  deriving DecidableEq, Repr

/-- A command and the instant at which it is called. -/
structure Call where
  start : Nanoseconds
  command : Command
  deriving DecidableEq, Repr

structure Attempt where
  /-- The place of the call among all calls. -/
  caller : Nat
  isRetry : Bool
  endpoint : Endpoint
  /-- The command as the endpoint gets it. -/
  command : Command
  submitted : Nanoseconds
  deriving DecidableEq, Repr

/-- The instant at which the caller gives up. -/
def Attempt.deadline (attempt : Attempt) (settings : Settings) : Nanoseconds :=
  attempt.submitted + settings.timeout

/-- The failure of an attempt that has no result by its deadline. -/
def Attempt.timedOut (attempt : Attempt) (settings : Settings) : Failure :=
  .timeout settings.timeout attempt.command.text

/-- The second attempt, made when the first one has failed. -/
def Attempt.again (attempt : Attempt) (instant : Nanoseconds) : Attempt :=
  { attempt with isRetry := true, submitted := instant }

structure Handover where
  attempt : Attempt
  instant : Nanoseconds
  deriving DecidableEq, Repr

/-- What the transport does with a command. -/
inductive Reply
  | never
  | after (delay : Nanoseconds) (result : Result Text)
  deriving DecidableEq, Repr

/-- What the transport does with a command, given all that it was handed before. -/
abbrev Transport := List Handover → Handover → Reply

/-- What the caller of an attempt gets, and when. -/
structure Outcome where
  attempt : Attempt
  instant : Nanoseconds
  result : Result Text
  deriving DecidableEq, Repr

/-- All that has happened so far, in order. -/
structure Record where
  submissions : List Attempt := []
  handovers : List Handover := []
  outcomes : List Outcome := []
  deriving DecidableEq, Repr

end ProxyControl.Dispatch
