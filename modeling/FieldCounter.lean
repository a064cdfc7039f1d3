import FieldCounter.Main
import FieldCounter.Proofs.BackOff
import FieldCounter.Proofs.ConnectionHealth
import FieldCounter.Proofs.FailureRecognition
import FieldCounter.Proofs.OpenSession
import FieldCounter.Proofs.RejectedReport
import FieldCounter.Proofs.RoundTrip
import FieldCounter.Proofs.SensorWake
import FieldCounter.Proofs.UncountedReset
import FieldCounter.Proofs.WorstAlert
import FieldCounter.Proofs.AlertLoss
import FieldCounter.Proofs.DeepSleep
import FieldCounter.Proofs.ConnectingStay
import FieldCounter.Proofs.ReloadAgain
import FieldCounter.Proofs.StayingOffline
import FieldCounter.Proofs.UpdateVisit
import FieldCounter.Proofs.RecoveryProtocol
import FieldCounter.Proofs.RemoteFieldwise
import FieldCounter.Proofs.OnlineOutcome
import FieldCounter.Proofs.Mirror
import FieldCounter.Proofs.BudgetsInForce
import FieldCounter.Proofs.CorruptBudgets
import FieldCounter.Proofs.Crediting
import FieldCounter.Proofs.OccupiedTime
import FieldCounter.Proofs.NextOpening
import FieldCounter.Proofs.PlannerHistory
import FieldCounter.Proofs.TierBands
import FieldCounter.Proofs.DisconnectHistory
import FieldCounter.Proofs.Boundaries
import FieldCounter.Proofs.Debounce
import FieldCounter.Proofs.SessionTotals
import FieldCounter.Proofs.TornRecord
import FieldCounter.Proofs.RecordHistory
import FieldCounter.Proofs.DailyRollover
import FieldCounter.Proofs.ConnectHistory
import FieldCounter.Proofs.ReplacedSensor
import FieldCounter.Proofs.SimulatedTime
