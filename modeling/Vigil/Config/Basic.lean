import Vigil.Clock.Duration
import Vigil.Config.Failure

/-!
The settings of the program, and which of them it can run with.
-/

namespace Vigil

open Vigil.Clock Vigil.Decimal

structure Config.Daemon where
  pidFile : String
  logFile : String
deriving DecidableEq, Repr

/-- How services are checked. Spans of time are in seconds. -/
structure Config.Monitor where
  checkInterval : Nat
  maxWorkers : Nat
  timeout : Binary64
  retries : Nat
  retryDelay : Binary64
  terminateGrace : Nat
deriving DecidableEq, Repr

structure Config.Database where
  path : String
deriving DecidableEq, Repr

/-- How events are written. Spans of time are in seconds. -/
structure Config.Events where
  retryBackoff : Binary64
  flushTimeout : Nat
  /-- How many events may wait for being written; all that come, if it is not set. -/
  maxPending : Option Nat
deriving DecidableEq, Repr

structure Config where
  daemon : Config.Daemon
  monitor : Config.Monitor
  database : Config.Database
  events : Config.Events
deriving DecidableEq, Repr

namespace Config

instance : Inhabited Daemon := ⟨⟨"servicemon.pid", "servicemon.log"⟩⟩

instance : Inhabited Monitor := ⟨⟨60, 50, .ofNat 10, 3, .ofNat 5, 10⟩⟩

instance : Inhabited Database := ⟨⟨"servicemon.db"⟩⟩

instance : Inhabited Events := ⟨⟨.ofNat 5, 10, none⟩⟩

instance : Inhabited Config := ⟨⟨default, default, default, default⟩⟩

/-! ### Spans of time -/

/-- The pause between the starts of two rounds of checks. -/
def Monitor.interval (m : Monitor) : Duration := .ofSecs m.checkInterval

/-- How long checks may go on after the end has been asked for. -/
def Monitor.grace (m : Monitor) : Duration := .ofSecs m.terminateGrace

def Monitor.defaultTimeout (m : Monitor) : Except DurationError Duration :=
  Duration.ofSeconds m.timeout

def Monitor.pause (m : Monitor) : Except DurationError Duration := Duration.ofSeconds m.retryDelay

/-- The pause after an event could not be written. -/
def Events.backoff (e : Events) : Except DurationError Duration := Duration.ofSeconds e.retryBackoff

/-- How long events are still written after the end has been asked for. -/
def Events.flush (e : Events) : Duration := .ofSecs e.flushTimeout

/-! ### Validation -/

/-- The bound on every span of time: a day. -/
def maxSeconds : Nat := 86400

/-- Whether a number of seconds lies between nothing and a day. -/
def isSpan (x : Binary64) : Bool :=
  x.isFinite && (x.isZero || !x.isNegative) && x.atMost maxSeconds

def checkSpan (setting : String) (x : Binary64) : Except ConfigFailure Unit :=
  if isSpan x then .ok ()
  else .error (.invalid setting
    (x.text ++ " is not a number of seconds between 0 and " ++ Text.decimal maxSeconds))

/-- Whether the program can run with the settings. -/
def validate (c : Config) : Except ConfigFailure Unit := do
  if c.monitor.checkInterval == 0 || maxSeconds < c.monitor.checkInterval then
    throw (.invalid "monitor.check_interval"
      ("must be between 1 and " ++ Text.decimal maxSeconds ++ " seconds"))
  if c.monitor.maxWorkers == 0 then throw (.invalid "monitor.max_workers" "must be at least 1")
  checkSpan "monitor.timeout" c.monitor.timeout
  checkSpan "monitor.retry_delay" c.monitor.retryDelay
  checkSpan "events.retry_backoff" c.events.retryBackoff
  if c.monitor.timeout.isZero then throw (.invalid "monitor.timeout" "must be greater than zero")
  if c.events.maxPending == some 0 then
    throw (.invalid "events.max_pending" "must be at least 1 when set")

/-! ### Listing -/

def listingLine (label value : String) : String := "    " ++ label ++ ": " ++ value ++ "\n"

def listing (c : Config) : String :=
  "Current Internal Configuration State:\n" ++
  "  Daemon\n" ++
  listingLine "PID File" c.daemon.pidFile ++
  listingLine "Log File" c.daemon.logFile ++
  "  Monitor\n" ++
  listingLine "Check Interval (s)" (Text.decimal c.monitor.checkInterval) ++
  listingLine "Max Workers" (Text.decimal c.monitor.maxWorkers) ++
  listingLine "Default Timeout (s)" c.monitor.timeout.text ++
  listingLine "Confirmation Retries" (Text.decimal c.monitor.retries) ++
  listingLine "Retry Delay (s)" c.monitor.retryDelay.text ++
  listingLine "Terminate Grace (s)" (Text.decimal c.monitor.terminateGrace) ++
  "  Database\n" ++
  listingLine "Path" c.database.path ++
  "  Events\n" ++
  listingLine "Retry Backoff (s)" c.events.retryBackoff.text ++
  listingLine "Flush Timeout (s)" (Text.decimal c.events.flushTimeout) ++
  listingLine "Max Pending" ((c.events.maxPending.map Text.decimal).getD "unbounded")

end Config

end Vigil
