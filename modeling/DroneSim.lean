import DroneSim.Artifacts.ActiveClock
import DroneSim.Artifacts.AggregateRuntime
import DroneSim.Artifacts.ArtifactsHonest
import DroneSim.Artifacts.CompetitionOracle
import DroneSim.Artifacts.DockerLogs
import DroneSim.Artifacts.LogAcceptance
import DroneSim.Artifacts.Manifest
import DroneSim.Artifacts.ManifestAgreement
import DroneSim.Artifacts.ManifestBytes
import DroneSim.Artifacts.ManifestPublication
import DroneSim.Artifacts.ManifestReaders
import DroneSim.Artifacts.ManifestWriter
import DroneSim.Artifacts.ProtocolAtomic
import DroneSim.Artifacts.ProtocolFiles
import DroneSim.Artifacts.ProtocolReadBack
import DroneSim.Artifacts.RuntimeProtocol
import DroneSim.Artifacts.RuntimeStatus
import DroneSim.Artifacts.Session
import DroneSim.Artifacts.SessionCommit
import DroneSim.Artifacts.SessionRecords
import DroneSim.Artifacts.StatusCodec
import DroneSim.Artifacts.StatusFields
import DroneSim.Artifacts.StructuredLog
import DroneSim.Artifacts.TreeDigest
import DroneSim.Artifacts.VfsContract
import DroneSim.Artifacts.VfsScoreValidation
import DroneSim.Artifacts.VfsValidators
import DroneSim.Comp2026.ArucoLanding
import DroneSim.Comp2026.ArucoRules
import DroneSim.Comp2026.AttemptLedger
import DroneSim.Comp2026.CommandListener
import DroneSim.Comp2026.ExecutionOwner
import DroneSim.Comp2026.FlightAuthority
import DroneSim.Comp2026.FlightModes
import DroneSim.Comp2026.FlightState
import DroneSim.Comp2026.GuidedLatch
import DroneSim.Comp2026.GuidedOutput
import DroneSim.Comp2026.LedgerOnce
import DroneSim.Comp2026.MissionRecovery
import DroneSim.Comp2026.MissionSupervisor
import DroneSim.Comp2026.ObservationDecoders
import DroneSim.Comp2026.OwnerRecovery
import DroneSim.Comp2026.OwnerRules
import DroneSim.Comp2026.PayloadRelease
import DroneSim.Comp2026.Pickup
import DroneSim.Comp2026.PickupRules
import DroneSim.Comp2026.PickupSearch
import DroneSim.Comp2026.PrecisionEvidence
import DroneSim.Comp2026.RecoverySound
import DroneSim.Comp2026.ReleaseHold
import DroneSim.Comp2026.ServoDropper
import DroneSim.Comp2026.SupervisorAbort
import DroneSim.Comp2026.SupervisorMoves
import DroneSim.Comp2026.SupervisorOrder
import DroneSim.Companion.AttemptFailure
import DroneSim.Companion.ConfiguredMission
import DroneSim.Companion.LandingDiscipline
import DroneSim.Companion.LandingMoves
import DroneSim.Companion.MarkerOperations
import DroneSim.Companion.MissionEvents
import DroneSim.Companion.MissionOrder
import DroneSim.Companion.MissionPlan
import DroneSim.Companion.OperationCalls
import DroneSim.Companion.OperationLifecycle
import DroneSim.Companion.OperationLives
import DroneSim.Companion.OperationMoves
import DroneSim.Companion.OperationRecovery
import DroneSim.Companion.OperationState
import DroneSim.Companion.OperationTools
import DroneSim.Companion.Operations
import DroneSim.Companion.PayloadDropper
import DroneSim.Companion.PhaseExchange
import DroneSim.Companion.PlanAgreement
import DroneSim.Companion.PrecisionLanding
import DroneSim.Companion.Rangefinders
import DroneSim.Companion.VehicleStatus
import DroneSim.Electromagnet.Gateway
import DroneSim.Electromagnet.GatewayAnswers
import DroneSim.Electromagnet.GatewayEvents
import DroneSim.Electromagnet.GatewayOnce
import DroneSim.Electromagnet.GatewayReplies
import DroneSim.Electromagnet.GatewaySnapshot
import DroneSim.Electromagnet.GatewaySteps
import DroneSim.Electromagnet.GatewayWarrant
import DroneSim.Electromagnet.Payload
import DroneSim.Gazebo.AdapterModel
import DroneSim.Gazebo.FramePairs
import DroneSim.Gazebo.LiveAdapter
import DroneSim.Gazebo.PayloadJoin
import DroneSim.Gazebo.PayloadTracker
import DroneSim.Gazebo.RuntimeEffects
import DroneSim.Gazebo.RuntimeModel
import DroneSim.Gazebo.RuntimeSafety
import DroneSim.Gazebo.SupportEpochs
import DroneSim.Gazebo.SupportOrder
import DroneSim.Gazebo.VehicleSupport
import DroneSim.Library.Acting
import DroneSim.Library.Asking
import DroneSim.Library.Attempt
import DroneSim.Library.Awaiting
import DroneSim.Library.Dict
import DroneSim.Library.Double
import DroneSim.Library.Emission
import DroneSim.Library.Exact
import DroneSim.Library.Fallible
import DroneSim.Library.FileTree
import DroneSim.Library.Folder
import DroneSim.Library.Held
import DroneSim.Library.History
import DroneSim.Library.Join
import DroneSim.Library.Json
import DroneSim.Library.JsonDoc
import DroneSim.Library.JsonParse
import DroneSim.Library.JsonQuotes
import DroneSim.Library.Latch
import DroneSim.Library.MachineFloat
import DroneSim.Library.Noting
import DroneSim.Library.Plane
import DroneSim.Library.Polygon
import DroneSim.Library.PyDatetime
import DroneSim.Library.PyText
import DroneSim.Library.PyValue
import DroneSim.Library.Run
import DroneSim.Library.Settling
import DroneSim.Library.StableSort
import DroneSim.Library.Streams
import DroneSim.Library.Utf8
import DroneSim.Orchestration.Lifecycle
import DroneSim.Orchestration.MissionPlan
import DroneSim.Orchestration.NodeMoves
import DroneSim.Orchestration.NodeOrder
import DroneSim.Orchestration.NodeStart
import DroneSim.Orchestration.RuntimeNode
import DroneSim.Scorekeeper.Competition
import DroneSim.Scorekeeper.CompetitionIntake
import DroneSim.Scorekeeper.CompetitionOrder
import DroneSim.Scorekeeper.CompetitionScoring
import DroneSim.Scorekeeper.CompetitionTrim
import DroneSim.Scorekeeper.Config2027
import DroneSim.Scorekeeper.Containment
import DroneSim.Scorekeeper.ConvexHull
import DroneSim.Scorekeeper.FinalizerOrder
import DroneSim.Scorekeeper.Footprint
import DroneSim.Scorekeeper.Judge
import DroneSim.Scorekeeper.JudgeCalls
import DroneSim.Scorekeeper.JudgeClock
import DroneSim.Scorekeeper.JudgeEligible
import DroneSim.Scorekeeper.JudgeFm2
import DroneSim.Scorekeeper.JudgeReplay
import DroneSim.Scorekeeper.JudgeRequests
import DroneSim.Scorekeeper.Runtime
import DroneSim.Scorekeeper.RuntimeChecks
import DroneSim.Scorekeeper.RuntimeDeadline
import DroneSim.Scorekeeper.RuntimeJoin
import DroneSim.Scorekeeper.RuntimeMoves
import DroneSim.Scorekeeper.RuntimeReplay
import DroneSim.Scorekeeper.RuntimeStreams
import DroneSim.Scorekeeper.Samples
import DroneSim.Scorekeeper.ScoreFinalizer
import DroneSim.Scorekeeper.Scorer
import DroneSim.Scorekeeper.ScorerBounds
import DroneSim.Scorekeeper.ScorerRuns
