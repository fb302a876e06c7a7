import ProgressActions.Host.Scripted
import ProgressActions.Main
import ProgressActions.Proofs.CarriageReturn
import ProgressActions.Proofs.Firing
import ProgressActions.Proofs.Schedule
import ProgressActions.Proofs.Signals
import ProgressActions.Proofs.TerminalConduct
import ProgressActions.Proofs.Fault
import ProgressActions.Proofs.Sealing
import ProgressActions.Proofs.Lockstep
import ProgressActions.Proofs.Beside
import ProgressActions.Proofs.Freshness
import ProgressActions.Proofs.Composition
import ProgressActions.Proofs.SingleLine
import ProgressActions.Proofs.Column
import ProgressActions.Proofs.Isolation
import ProgressActions.Proofs.Tame
import ProgressActions.Proofs.Refusal
import ProgressActions.Proofs.Moves
import ProgressActions.Proofs.HostCalls
import ProgressActions.Proofs.FullSink
import ProgressActions.Proofs.LabelGrammar
import ProgressActions.Proofs.Unquoting
import ProgressActions.Proofs.LabelSpelling
import ProgressActions.Proofs.MissingTerminal
import ProgressActions.Proofs.Reports
import ProgressActions.Proofs.Outcome
import ProgressActions.Proofs.SpecGrammar
import ProgressActions.Proofs.Scan
import ProgressActions.Proofs.PassThrough
import ProgressActions.Proofs.MalformedLabels
import ProgressActions.Proofs.SignalNames
import ProgressActions.Proofs.RecordCounts
import ProgressActions.Proofs.TerminalRelease
import ProgressActions.Proofs.StatusLine
import ProgressActions.Proofs.Overwriting
import ProgressActions.Proofs.PlainPayload
import ProgressActions.Proofs.NearestDouble
import ProgressActions.Proofs.RoundedSize
import ProgressActions.Proofs.EffectiveConfig
