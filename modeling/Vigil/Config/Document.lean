import Vigil.Config.Basic
import Vigil.Toml.Reader
import Vigil.Toml.Writer

/-!
Settings as TOML. In reading, unknown keys are ignored, missing settings have their defaults, and a
section may also be an array of its settings in order.
-/

namespace Vigil.Config

open Vigil.Decimal Vigil.Toml

/-! ### Values -/

def text? : Value → Option String
  | .string s => some s
  | _ => none

def natBelow? (bound : Nat) : Value → Option Nat
  | .integer n => if 0 ≤ n && n < bound then some n.toNat else none
  | _ => none

def seconds? : Value → Option Binary64
  | .float x => some x
  | .integer n => some (.ofInt n)
  | _ => none

/-! ### Sections -/

/-- The values of the keys of a section, missing ones as nothing. -/
def section? (keys : List String) : Value → Option (List (Option Value))
  | .table _ es => some (keys.map (Entries.get? es))
  | .array items | .tables items =>
    some ((items.map some ++ List.replicate keys.length none).take keys.length)
  | .moment => some (keys.map fun _ => none)
  | _ => none

/-- A setting, or its default if it is missing. -/
def setting? {α : Type} (read : Value → Option α) (missing : α) : Option Value → Option α
  | none => some missing
  | some v => read v

def Daemon.ofToml? (v : Value) : Option Daemon := do
  match ← section? ["pidfile", "logfile"] v with
  | [pidFile, logFile] =>
    let d : Daemon := default
    some ⟨← setting? text? d.pidFile pidFile, ← setting? text? d.logFile logFile⟩
  | _ => none

def Monitor.ofToml? (v : Value) : Option Monitor := do
  match ← section?
      ["check_interval", "max_workers", "timeout", "retry", "retry_delay", "terminate_grace"] v with
  | [interval, workers, timeout, retries, delay, grace] =>
    let d : Monitor := default
    some {
      checkInterval := ← setting? (natBelow? (Nat.pow 2 64)) d.checkInterval interval
      maxWorkers := ← setting? (natBelow? (Nat.pow 2 64)) d.maxWorkers workers
      timeout := ← setting? seconds? d.timeout timeout
      retries := ← setting? (natBelow? (Nat.pow 2 32)) d.retries retries
      retryDelay := ← setting? seconds? d.retryDelay delay
      terminateGrace := ← setting? (natBelow? (Nat.pow 2 64)) d.terminateGrace grace }
  | _ => none

def Database.ofToml? (v : Value) : Option Database := do
  match ← section? ["path"] v with
  | [path] => some ⟨← setting? text? (default : Database).path path⟩
  | _ => none

def Events.ofToml? (v : Value) : Option Events := do
  match ← section? ["retry_backoff", "flush_timeout", "max_pending"] v with
  | [backoff, flush, pending] =>
    let d : Events := default
    some {
      retryBackoff := ← setting? seconds? d.retryBackoff backoff
      flushTimeout := ← setting? (natBelow? (Nat.pow 2 64)) d.flushTimeout flush
      maxPending := ← setting? (fun v => some <$> natBelow? (Nat.pow 2 64) v) d.maxPending pending }
  | _ => none

def ofToml? (v : Value) : Option Config := do
  match ← section? ["daemon", "monitor", "database", "events"] v with
  | [daemon, monitor, database, events] =>
    some {
      daemon := ← setting? Daemon.ofToml? default daemon
      monitor := ← setting? Monitor.ofToml? default monitor
      database := ← setting? Database.ofToml? default database
      events := ← setting? Events.ofToml? default events }
  | _ => none

def read? (s : String) : Option Config := (Toml.read? s).bind ofToml?

/-! ### Writing -/

def document (c : Config) : String :=
  documentText [
    ("daemon", [("pidfile", stringText c.daemon.pidFile),
      ("logfile", stringText c.daemon.logFile)]),
    ("monitor", [
      ("check_interval", Text.decimal c.monitor.checkInterval),
      ("max_workers", Text.decimal c.monitor.maxWorkers),
      ("timeout", floatText c.monitor.timeout),
      ("retry", Text.decimal c.monitor.retries),
      ("retry_delay", floatText c.monitor.retryDelay),
      ("terminate_grace", Text.decimal c.monitor.terminateGrace)]),
    ("database", [("path", stringText c.database.path)]),
    ("events", [
      ("retry_backoff", floatText c.events.retryBackoff),
      ("flush_timeout", Text.decimal c.events.flushTimeout)] ++
      (c.events.maxPending.map fun n => ("max_pending", Text.decimal n)).toList)]

end Vigil.Config
