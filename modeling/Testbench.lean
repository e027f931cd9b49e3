import Testbench.Bench
import Testbench.Contract
import Testbench.Diagnostics.Writer
import Testbench.LeakCheck.Rehearsal
import Testbench.Proofs.HeapOrder
import Testbench.Proofs.LazyQueueLaws
import Testbench.Proofs.Agenda
import Testbench.Proofs.HubTurn
import Testbench.Proofs.Leeway
import Testbench.Proofs.PairedRuns
import Testbench.Proofs.RunAgreement
import Testbench.Proofs.RunMoments
import Testbench.Proofs.RunCalls
import Testbench.Proofs.RunPassages
import Testbench.Proofs.HubSteps
import Testbench.Proofs.HubJournal
import Testbench.Proofs.FiringOrder
import Testbench.Proofs.IdealHub
import Testbench.Proofs.HubRefinement
import Testbench.Proofs.Interruption
import Testbench.Proofs.TimeoutTimers
import Testbench.Proofs.NestedTimeouts
import Testbench.Proofs.DiagnosticsHistory
import Testbench.Proofs.DiagnosticsRouting
import Testbench.Proofs.LeakSession
import Testbench.Proofs.PatternMatching
import Testbench.Proofs.ReportGrammar
import Testbench.Proofs.ChainedAssertions
import Testbench.Proofs.CallbackReports
import Testbench.Proofs.WaiterAccounting
import Testbench.Proofs.WaitAnswers
import Testbench.Proofs.RunSequences
import Testbench.Proofs.RunInvariants
import Testbench.Proofs.InstrumentedRuns
import Testbench.Proofs.GuardTimers
import Testbench.Proofs.SuiteRuns
import Testbench.Proofs.CaptureStates
import Testbench.Proofs.TearDowns
import Testbench.Proofs.RunSwitches
import Testbench.Proofs.CallbackRefusals
import Testbench.Proofs.ConfinedRuns
import Testbench.Proofs.PausedReclamation
import Testbench.Proofs.GuardCustody
import Testbench.Proofs.GuardInterrupts
import Testbench.Proofs.CountBlindness
import Testbench.Proofs.CountAgreement
import Testbench.Proofs.CountTransparency
import Testbench.Proofs.SwitchEndings
import Testbench.Proofs.WakeTimers
import Testbench.Proofs.SleepTimes
import Testbench.Proofs.WriterStretches
import Testbench.Proofs.SuiteInheritance
import Testbench.Proofs.ReportLines
import Testbench.Proofs.Paragraphs
import Testbench.Proofs.MessageTiers
import Testbench.Proofs.LineScan
import Testbench.Proofs.LimitedWaits
import Testbench.Proofs.ContractTemplates
import Testbench.Proofs.SleepTimers
import Testbench.Proofs.WrittenTexts
import Testbench.Proofs.EllipsisLines
import Testbench.Proofs.BlockedReports
import Testbench.Proofs.OwnTimers
import Testbench.Proofs.RecordLookup
import Testbench.Proofs.SwitchRules
import Testbench.Proofs.TimeoutLedger
import Testbench.Proofs.HeapAnswers
import Testbench.Proofs.StaleAlarms
import Testbench.Proofs.PendingWork
import Testbench.Proofs.RunBounds
import Testbench.Proofs.RunEnds
