import Preflight.Main
import Preflight.Rehearsal.Contract
import Preflight.Key.Account
import Preflight.Tracking.Timeline
import Preflight.Proofs.Policy.Delay
import Preflight.Proofs.Wait.Schedule
import Preflight.Proofs.Wait.Stages
import Preflight.Proofs.Wait.ClosedForm
import Preflight.Proofs.Wait.Bounds
import Preflight.Proofs.Wait.Cancellation
import Preflight.Proofs.Client.Effects
import Preflight.Proofs.Tracking.Interleaving
import Preflight.Proofs.Tracking.Awaited
import Preflight.Proofs.Wait.Relaxation
import Preflight.Proofs.Rehearsal.Session
import Preflight.Proofs.DryRun.Rendered
import Preflight.Proofs.Client.Gate
import Preflight.Proofs.Text.Hex
import Preflight.Proofs.HexText.RoundTrip
import Preflight.Proofs.Config.Document
import Preflight.Proofs.Contract.SetUp
import Preflight.Proofs.Numeral.Unsigned
import Preflight.Proofs.Config.Environment
import Preflight.Proofs.Config.Loaded
import Preflight.Proofs.Balance.Percentage
import Preflight.Proofs.DryRun.Wrappers
import Preflight.Proofs.CommandLine.Written
import Preflight.Proofs.CommandLine.Offline
import Preflight.Proofs.CommandLine.Checks
import Preflight.Proofs.HexText.Grammar
import Preflight.Proofs.Balance.Spelling
import Preflight.Proofs.Config.Accepted
import Preflight.Proofs.Config.Written
import Preflight.Proofs.Contract.Address
import Preflight.Proofs.Wait.Delays
import Preflight.Proofs.Config.Variables
import Preflight.Proofs.Json.Grammar
import Preflight.Proofs.Json.Strings
import Preflight.Proofs.Client.Arguments
