import SignOn.Broker.ActiveBroker
import SignOn.Broker.Bundle
import SignOn.Broker.Controller
import SignOn.Broker.Executor
import SignOn.Broker.HelloCache
import SignOn.Broker.Kind
import SignOn.Broker.Reply
import SignOn.Command.Basic
import SignOn.Command.Controller
import SignOn.Command.Fallback
import SignOn.Digest.Base64
import SignOn.Digest.Sha256
import SignOn.Dispatch.Basic
import SignOn.Dispatch.Delivery
import SignOn.Dispatch.Future
import SignOn.Dispatch.Lane
import SignOn.Dispatch.ResultCache
import SignOn.Dispatch.Run
import SignOn.Dispatch.Settings
import SignOn.Dispatch.Stats
import SignOn.Dispatch.Submit
import SignOn.Failure.Basic
import SignOn.Failure.Code
import SignOn.Failure.Normalize
import SignOn.Identity.Account
import SignOn.Identity.Authority
import SignOn.Identity.Identifier
import SignOn.Identity.Parameters
import SignOn.Identity.ScopeSet
import SignOn.Identity.Secret
import SignOn.Json.Decimal
import SignOn.Json.Fault
import SignOn.Json.Form
import SignOn.Json.Member
import SignOn.Json.Reader
import SignOn.Json.Row
import SignOn.Json.Value
import SignOn.Local.Controller
import SignOn.Local.Request
import SignOn.Local.Strategy
import SignOn.Outcome.Acquisition
import SignOn.Outcome.Authorization
import SignOn.Outcome.Command
import SignOn.Outcome.Token
import SignOn.Proofs.Broker.Fallback
import SignOn.Proofs.Broker.Handshake
import SignOn.Proofs.Broker.HandshakeGate
import SignOn.Proofs.Broker.HelloCache
import SignOn.Proofs.Broker.HelloHistory
import SignOn.Proofs.Broker.Reading
import SignOn.Proofs.Broker.RoundTrip
import SignOn.Proofs.Broker.SharedHellos
import SignOn.Proofs.Broker.Validation
import SignOn.Proofs.Command.Ending
import SignOn.Proofs.Command.InOrder
import SignOn.Proofs.Command.Raised
import SignOn.Proofs.Command.Refused
import SignOn.Proofs.Command.RequestCode
import SignOn.Proofs.Digest.Collision
import SignOn.Proofs.Dispatch.Accepted
import SignOn.Proofs.Dispatch.Agreement
import SignOn.Proofs.Dispatch.Answer
import SignOn.Proofs.Dispatch.Apart
import SignOn.Proofs.Dispatch.BrokenOff
import SignOn.Proofs.Dispatch.Deadlines
import SignOn.Proofs.Dispatch.ExactlyOnce
import SignOn.Proofs.Dispatch.Flight
import SignOn.Proofs.Dispatch.Follow
import SignOn.Proofs.Dispatch.Formed
import SignOn.Proofs.Dispatch.FreshLane
import SignOn.Proofs.Dispatch.Interactive
import SignOn.Proofs.Dispatch.KeptResults
import SignOn.Proofs.Dispatch.Lane
import SignOn.Proofs.Dispatch.LaneRuns
import SignOn.Proofs.Dispatch.Ledger
import SignOn.Proofs.Dispatch.Listeners
import SignOn.Proofs.Dispatch.Numbering
import SignOn.Proofs.Dispatch.Phase
import SignOn.Proofs.Dispatch.Promise
import SignOn.Proofs.Dispatch.Provenance
import SignOn.Proofs.Dispatch.Recency
import SignOn.Proofs.Dispatch.RecencyList
import SignOn.Proofs.Dispatch.Refusal
import SignOn.Proofs.Dispatch.ResultCache
import SignOn.Proofs.Dispatch.Reuse
import SignOn.Proofs.Dispatch.Sharing
import SignOn.Proofs.Dispatch.Slot
import SignOn.Proofs.Dispatch.Source
import SignOn.Proofs.Dispatch.Step
import SignOn.Proofs.Dispatch.StoppedLane
import SignOn.Proofs.Dispatch.Workers
import SignOn.Proofs.Dispatch.Workshop
import SignOn.Proofs.Failure.OfCode
import SignOn.Proofs.Identity.Key
import SignOn.Proofs.Identity.ScopeSet
import SignOn.Proofs.Identity.ScopeText
import SignOn.Proofs.Json.ReadBack
import SignOn.Proofs.Json.Record
import SignOn.Proofs.Json.Refinement
import SignOn.Proofs.Local.Answered
import SignOn.Proofs.Local.Course
import SignOn.Proofs.Local.History
import SignOn.Proofs.Local.InTurns
import SignOn.Proofs.Local.Intact
import SignOn.Proofs.Local.Owner
import SignOn.Proofs.Local.Page
import SignOn.Proofs.Local.RefreshTokens
import SignOn.Proofs.Local.Scripted
import SignOn.Proofs.Local.ServedBack
import SignOn.Proofs.Local.SignOut
import SignOn.Proofs.Local.Silent
import SignOn.Proofs.Local.Told
import SignOn.Proofs.Session.Guards
import SignOn.Proofs.Session.Registry
import SignOn.Proofs.Session.Resolves
import SignOn.Proofs.Session.Wait
import SignOn.Proofs.Store.History
import SignOn.Proofs.Store.Records
import SignOn.Proofs.Text.ByteOrder
import SignOn.Proofs.Text.WhiteSpace
import SignOn.Proofs.Text.Words
import SignOn.Proofs.Time.Moment
import SignOn.Proofs.Work.Keeps
import SignOn.Proofs.Work.Obeys
import SignOn.Proofs.Work.Standing
import SignOn.Proofs.Work.Turns
import SignOn.Record.Dispatch
import SignOn.Record.Failure
import SignOn.Record.Outcome
import SignOn.Rehearsal.Alone
import SignOn.Rehearsal.Calls
import SignOn.Rehearsal.Cast
import SignOn.Rehearsal.ExecutorTrial
import SignOn.Rehearsal.FutureTrial
import SignOn.Rehearsal.LaneTrial
import SignOn.Rehearsal.Play
import SignOn.Rehearsal.Scene
import SignOn.Rehearsal.Script
import SignOn.Rehearsal.SessionTrial
import SignOn.Rehearsal.Stage
import SignOn.Rehearsal.Steps
import SignOn.Rehearsal.Summary
import SignOn.Rehearsal.Written
import SignOn.Session.Basic
import SignOn.Session.Continuation
import SignOn.Session.Registry
import SignOn.Store.Basic
import SignOn.Telemetry.Event
import SignOn.Text.Blank
import SignOn.Text.Quoted
import SignOn.Text.Shapeless
import SignOn.Time.Clock
import SignOn.Time.Duration
import SignOn.Time.Moment
import SignOn.Url.Basic
import SignOn.Url.Domain.Allowed
import SignOn.Url.Domain.Composition
import SignOn.Url.Domain.Direction
import SignOn.Url.Domain.Joining
import SignOn.Url.Domain.Label
import SignOn.Url.Domain.Mark
import SignOn.Url.Domain.Punycode
import SignOn.Url.Encode
import SignOn.Url.Host
import SignOn.Work.Basic
import SignOn.Work.Place
