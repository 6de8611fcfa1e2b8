import OnboardAutonomy.FailsafePolicy
import OnboardAutonomy.ApplicationRuns
import OnboardAutonomy.StartupSteps
import OnboardAutonomy.RuntimeSteps
import OnboardAutonomy.Lockstep
import OnboardAutonomy.MotionGating
import OnboardAutonomy.VehicleIdentity
import OnboardAutonomy.RuntimeSilence
import OnboardAutonomy.StartupEvidence
import OnboardAutonomy.LandingEvidence
import OnboardAutonomy.AckAddressing
import OnboardAutonomy.Guidance
import OnboardAutonomy.VehicleReadiness
import OnboardAutonomy.VehicleIsolation
import OnboardAutonomy.CommandRetries
import OnboardAutonomy.LandDecision
import OnboardAutonomy.HoverBound
import OnboardAutonomy.TelemetryLink
import OnboardAutonomy.FrameWriting
import OnboardAutonomy.OptionDependencies
import OnboardAutonomy.StartUp
import OnboardAutonomy.LogRotation
import OnboardAutonomy.LogSurvival
import OnboardAutonomy.SnapshotDocuments
import OnboardAutonomy.RigidTransform
import OnboardAutonomy.BatteryReports
import OnboardAutonomy.HeartbeatSchedule
import OnboardAutonomy.TelemetrySession
import OnboardAutonomy.TrackSmoothing
import OnboardAutonomy.PreviewOverlay
import OnboardAutonomy.VehicleObservation
import OnboardAutonomy.FrameCounting
import OnboardAutonomy.GuidanceCadence
import OnboardAutonomy.StartupDeadlines
import OnboardAutonomy.OldestLogs
import OnboardAutonomy.FrameSizes
import OnboardAutonomy.ChildStreams
import OnboardAutonomy.FrameWallClock
import OnboardAutonomy.RpicamCameraSource
import OnboardAutonomy.JsonDocument
import OnboardAutonomy.CameraCalibration
import OnboardAutonomy.CalibrationAgreement
import OnboardAutonomy.Trimming
import OnboardAutonomy.BoardTypeCatalog
import OnboardAutonomy.BoardTable
import OnboardAutonomy.Checked
import OnboardAutonomy.ConsoleView
import OnboardAutonomy.ConsoleTexts
import OnboardAutonomy.ConsoleGeometry
import OnboardAutonomy.RpicamWorker
import OnboardAutonomy.FrameStamping
import OnboardAutonomy.RpicamAccounts
import OnboardAutonomy.RpicamStatus
import OnboardAutonomy.RpicamStop
import OnboardAutonomy.SerialTransport
import OnboardAutonomy.SerialLink
import OnboardAutonomy.DecimalValue
import OnboardAutonomy.JsonLines
import OnboardAutonomy.SnapshotLines
import OnboardAutonomy.SnapshotPipeline
import OnboardAutonomy.PreviewDocuments
import OnboardAutonomy.HttpCameraPreviewServer
import OnboardAutonomy.StartupTermination
import OnboardAutonomy.LinkHistory
import OnboardAutonomy.ParameterPolling
import OnboardAutonomy.FlightCommands
import OnboardAutonomy.MainLoop
import OnboardAutonomy.LoopExit
import OnboardAutonomy.Statistics
import OnboardAutonomy.CameraStatistics
import OnboardAutonomy.Contraction
import OnboardAutonomy.LensDistortion
import OnboardAutonomy.CameraGeometry
import OnboardAutonomy.MavlinkEncoder
import OnboardAutonomy.OutboundMessages
import OnboardAutonomy.SitlHarness
import OnboardAutonomy.HarnessVerdicts
import OnboardAutonomy.FlightAcceptance
import OnboardAutonomy.BinaryRounding
