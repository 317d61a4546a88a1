import UnitreeGo2.Lib.Machine
import UnitreeGo2.Lib.Float32Order
import UnitreeGo2.Chassis.Protocol
import UnitreeGo2.Chassis.PacketMemory
import UnitreeGo2.Chassis.Adapter
import UnitreeGo2.Chassis.AdapterCallbacks
import UnitreeGo2.Chassis.AdapterTransitions
import UnitreeGo2.Chassis.MarkerAgreement
import UnitreeGo2.Chassis.OdometryInterlock
import UnitreeGo2.Chassis.OdometryStamps
import UnitreeGo2.Chassis.RpcEvidence
import UnitreeGo2.Chassis.StateMarkerPolicy
import UnitreeGo2.Chassis.DaemonAuthorization
import UnitreeGo2.Chassis.SafetyGuardEnvelope
import UnitreeGo2.Chassis.SafetyGuardPreamble
import UnitreeGo2.Chassis.StationaryPoseHold
import UnitreeGo2.StagedNav2.Fault
import UnitreeGo2.StagedNav2.Authorization
import UnitreeGo2.StagedNav2.PublishedSlew
import UnitreeGo2.Sensors.CameraIpc
import UnitreeGo2.Sensors.D435iStream
import UnitreeGo2.Sensors.JpegRecognition
import UnitreeGo2.RobotTrack.DistanceWorker
import UnitreeGo2.RobotTrack.SourceMux
import UnitreeGo2.RobotTrack.JumpGate
import UnitreeGo2.RobotTrack.FollowDistanceRuntime
import UnitreeGo2.MotionStateRelay.Evidence
import UnitreeGo2.MotionStateRelay.GidGuard
import UnitreeGo2.MotionStateRelay.Relay
import UnitreeGo2.MotionStateRelay.Publication
import UnitreeGo2.MotionStateRelay.Transitions
import UnitreeGo2.Chassis.MotionPermit
import UnitreeGo2.SportActions.Ipc
import UnitreeGo2.SportActions.Worker
import UnitreeGo2.SportActions.OneAtATime
import UnitreeGo2.SemanticNavigation.SingleFlight
import UnitreeGo2.SemanticNavigation.LandmarkResolution
import UnitreeGo2.Dashboard.SeedHistory
import UnitreeGo2.TimeSync.CloudDiscipline
import UnitreeGo2.TimeSync.ClockFeed
import UnitreeGo2.PersistentNav2.ArmRuns
import UnitreeGo2.WriterLocator.Correlate
import UnitreeGo2.StampDiscipline.Envelope
import UnitreeGo2.StampDiscipline.RecoveryEvidence
import UnitreeGo2.StampDiscipline.SourceRegression
import UnitreeGo2.StampDiscipline.WindowVerdict
import UnitreeGo2.StampDiscipline.GapWaivers
import UnitreeGo2.Sensors.D435iHeader
import UnitreeGo2.Dashboard.SidecarChecks
import UnitreeGo2.SemanticIntentRouter.SpokenDistance
import UnitreeGo2.SemanticNavigation.AttendedGoals
import UnitreeGo2.SemanticIntentRouter.ClosedLoop
import UnitreeGo2.RobotTrack.LiveDispatch
import UnitreeGo2.PrivateWifi.ToolRuns
