import AppLifecycle.Json.Config
import AppLifecycle.Json.Display
import AppLifecycle.Json.Geometry
import AppLifecycle.Json.Names
import AppLifecycle.Rehearsal.Cast
import AppLifecycle.Proofs.Backup
import AppLifecycle.Proofs.BackupPerPause
import AppLifecycle.Proofs.EventLanguage
import AppLifecycle.Proofs.Pace
import AppLifecycle.Proofs.PauseFinality
import AppLifecycle.Proofs.QuietAudio
import AppLifecycle.Proofs.KeeperRun
import AppLifecycle.Proofs.WindowGeometry
import AppLifecycle.Proofs.KeeperTasks
import AppLifecycle.Proofs.ContextContinuity
import AppLifecycle.Proofs.SwapInterval
import AppLifecycle.Proofs.Counterparts
import AppLifecycle.Proofs.Suspension
import AppLifecycle.Proofs.PendingPause
import AppLifecycle.Proofs.TickProgress
import AppLifecycle.Proofs.RenderingApart
import AppLifecycle.Proofs.FailureReports
import AppLifecycle.Proofs.KeeperProtocol
import AppLifecycle.Proofs.PairedAudio
import AppLifecycle.Proofs.ExternalContext
import AppLifecycle.Proofs.RestoreReport
import AppLifecycle.Proofs.Standstill
import AppLifecycle.Proofs.JsonGrammar
import AppLifecycle.Proofs.JsonTokens
import AppLifecycle.Proofs.JsonSkip
import AppLifecycle.Proofs.JsonObjects
import AppLifecycle.Proofs.ConfigText
import AppLifecycle.Proofs.FanOut
import AppLifecycle.Proofs.RefreshRate
import AppLifecycle.Proofs.DisplayText
