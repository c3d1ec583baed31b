import Jury.Main
import Jury.Launch.Program
import Jury.Valuer.Scripted
import Jury.Proofs.Channel
import Jury.Proofs.Dialogue
import Jury.Proofs.Verdict
import Jury.Proofs.Text.Fields
import Jury.Proofs.Text.Utf8
import Jury.Proofs.Text.Decoding
import Jury.Proofs.Text.Words
import Jury.Proofs.Text.Boundaries
import Jury.Proofs.Text.Numerals
import Jury.Proofs.Text.Hex
import Jury.Proofs.Json.Strings
import Jury.Proofs.Json.Values
import Jury.Proofs.Json.Library
import Jury.Proofs.Control.Fields
import Jury.Proofs.Control.Json
import Jury.Proofs.Control.Lines
import Jury.Proofs.Control.RoundTrip
import Jury.Proofs.Control.Torn
import Jury.Proofs.Control.NormalForm
import Jury.Proofs.Control.Concatenation
import Jury.Proofs.Control.Results
import Jury.Proofs.Valuer.Requests
import Jury.Proofs.Valuer.Steps
import Jury.Proofs.Valuer.Rules
import Jury.Proofs.Valuer.Ledger
import Jury.Proofs.Valuer.Matching
import Jury.Proofs.Valuer.ControlStream
import Jury.Proofs.Valuer.InTurn
import Jury.Proofs.Valuer.Icpc
import Jury.Proofs.Valuer.Shares
import Jury.Proofs.Valuer.PartialCredit
import Jury.Proofs.Valuer.StatusCodes
import Jury.Proofs.Valuer.Causality
import Jury.Proofs.Valuer.BrokenChannels
import Jury.Proofs.Valuer.Listing
import Jury.Proofs.Valuer.Layout
import Jury.Proofs.Random.Mask
import Jury.Proofs.Random.Uniform
import Jury.Proofs.Random.FirstAccepted
import Jury.Proofs.Number.Grammar
import Jury.Proofs.Number.Overflow
import Jury.Proofs.Checker.Splitting
import Jury.Proofs.Checker.Lockstep
import Jury.Proofs.Checker.Acceptance
import Jury.Proofs.Checker.PlainDecimals
import Jury.Proofs.Checker.Identical
import Jury.Proofs.Checker.Loosening
import Jury.Proofs.Checker.Draining
import Jury.Proofs.Checker.Verdict
import Jury.Proofs.Checker.Rows
import Jury.Proofs.Checker.Comments
import Jury.Proofs.Checker.Failing
import Jury.Proofs.Checker.Truncation
import Jury.Proofs.Launch.Descriptors
import Jury.Proofs.Launch.Variables
import Jury.Proofs.Launch.Testgen
import Jury.Proofs.Command.CmpTokens
