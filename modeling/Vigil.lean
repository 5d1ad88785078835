import Vigil.Checker.Argument
import Vigil.Checker.Basic
import Vigil.Checker.Failure
import Vigil.Checker.Http
import Vigil.Checker.Kind
import Vigil.Checker.Port
import Vigil.Checker.Registry
import Vigil.Checker.Rehearsed
import Vigil.Checker.Ssh
import Vigil.Clock.Calendar
import Vigil.Clock.Duration
import Vigil.Clock.Instant
import Vigil.Clock.Timestamp
import Vigil.Config.Basic
import Vigil.Config.Document
import Vigil.Config.Failure
import Vigil.Config.Load
import Vigil.Confirmation.Basic
import Vigil.Confirmation.Behaviour
import Vigil.Daemon.Failure
import Vigil.Daemon.LogFile
import Vigil.Daemon.PidLock
import Vigil.Decimal.Binary64
import Vigil.Decimal.Literal
import Vigil.Decimal.Shortest
import Vigil.Decimal.Significant
import Vigil.Diagnosis
import Vigil.Files.Basic
import Vigil.Files.Failure
import Vigil.Files.Path
import Vigil.Idna.Domain
import Vigil.Idna.Punycode
import Vigil.Json.Basic
import Vigil.Json.Reader
import Vigil.Json.Record
import Vigil.Json.Service
import Vigil.Keyed
import Vigil.Main
import Vigil.Net.Address
import Vigil.Net.Endpoint
import Vigil.Pool.Basic
import Vigil.Program.Options
import Vigil.Program.Session
import Vigil.Program.Start
import Vigil.Proofs.Checker.Connection
import Vigil.Proofs.Checker.Identification
import Vigil.Proofs.Checker.Request
import Vigil.Proofs.Config.Timeouts
import Vigil.Proofs.Confirmation.Runs
import Vigil.Proofs.Daemon.Guard
import Vigil.Proofs.Daemon.Rotation
import Vigil.Proofs.Diagnosis
import Vigil.Proofs.Files.Contents
import Vigil.Proofs.Files.Names
import Vigil.Proofs.Idna.Domain
import Vigil.Proofs.Idna.Mapping
import Vigil.Proofs.Idna.Punycode
import Vigil.Proofs.Net.Address
import Vigil.Proofs.Net.Reading
import Vigil.Proofs.Outcome
import Vigil.Proofs.Pool.Confirmed
import Vigil.Proofs.Pool.Courses
import Vigil.Proofs.Pool.Grace
import Vigil.Proofs.Pool.Labor
import Vigil.Proofs.Pool.Shift
import Vigil.Proofs.Roster.Lineage
import Vigil.Proofs.Roster.Merge
import Vigil.Proofs.Roster.Reports
import Vigil.Proofs.Roster.Run
import Vigil.Proofs.Roster.Settled
import Vigil.Proofs.Roster.Wanted
import Vigil.Proofs.Store.Commit
import Vigil.Proofs.Store.Joined
import Vigil.Proofs.Store.Known
import Vigil.Proofs.Store.Loaded
import Vigil.Proofs.Store.Ordered
import Vigil.Proofs.Store.Regular
import Vigil.Proofs.Store.Upgrade
import Vigil.Proofs.Text.Digits
import Vigil.Proofs.Text.Split
import Vigil.Proofs.Unicode.Composition
import Vigil.Proofs.Unicode.Marks
import Vigil.Proofs.Unicode.Normal
import Vigil.Proofs.Unicode.RangeTable
import Vigil.Proofs.Upkeep.Arrival
import Vigil.Proofs.Upkeep.Outage
import Vigil.Proofs.Upkeep.Restart
import Vigil.Proofs.Upkeep.Run
import Vigil.Proofs.Upkeep.Seeding
import Vigil.Proofs.Upkeep.Stored
import Vigil.Proofs.Url.Authority
import Vigil.Proofs.Url.Host
import Vigil.Proofs.Url.Relative
import Vigil.Proofs.Url.Resource
import Vigil.Proofs.Url.Target
import Vigil.Proofs.Url.Written
import Vigil.Proofs.Watch.Ending
import Vigil.Proofs.Watch.Grid
import Vigil.Proofs.Watch.Pacing
import Vigil.Proofs.Watch.Rehearsed
import Vigil.Proofs.Watch.Round
import Vigil.Proofs.Watch.Run
import Vigil.Proofs.Watch.Shutdown
import Vigil.Proofs.Watch.Times
import Vigil.Proofs.Writer.Conservation
import Vigil.Proofs.Writer.Delivery
import Vigil.Proofs.Writer.Marks
import Vigil.Proofs.Writer.Order
import Vigil.Proofs.Writer.Run
import Vigil.Proofs.Writer.Stopping
import Vigil.Proofs.Writer.Turns
import Vigil.Roster.Basic
import Vigil.Roster.Live
import Vigil.Roster.Monitored
import Vigil.Service.Basic
import Vigil.Service.Event
import Vigil.Service.Status
import Vigil.Service.Verdict
import Vigil.Store.Cell
import Vigil.Store.Database
import Vigil.Store.Failure
import Vigil.Store.Gateway
import Vigil.Store.Migration
import Vigil.Store.Table
import Vigil.Text.Blank
import Vigil.Text.Digits
import Vigil.Text.Quoted
import Vigil.Text.Rest
import Vigil.Toml.Reader
import Vigil.Toml.Scalar
import Vigil.Toml.Table
import Vigil.Toml.Value
import Vigil.Toml.Writer
import Vigil.Unicode.BidiClass
import Vigil.Unicode.CombiningClass
import Vigil.Unicode.Composition
import Vigil.Unicode.IdnaMapping
import Vigil.Unicode.JoiningType
import Vigil.Unicode.Mark
import Vigil.Unicode.Normal
import Vigil.Unicode.Printable
import Vigil.Unicode.RangeTable
import Vigil.Url.Basic
import Vigil.Url.Failure
import Vigil.Url.Host
import Vigil.Url.Path
import Vigil.Url.Percent
import Vigil.Url.Target
import Vigil.Watch.Basic
import Vigil.Watch.Rehearsal
import Vigil.Watch.Round
import Vigil.Writer.Basic
