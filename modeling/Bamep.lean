import Bamep.Library.Table
import Bamep.Library.Run
import Bamep.Domain.Job
import Bamep.Domain.Evidence
import Bamep.Domain.EvidenceStep
import Bamep.Domain.Transfer
import Bamep.Domain.Dispatch
import Bamep.Store.Rows
import Bamep.Store.TransferFacts
import Bamep.Store.JobRepository
import Bamep.Store.JobOp
import Bamep.Store.Linear
import Bamep.Store.Exclusive
import Bamep.Store.Finality
import Bamep.Library.Evolution
import Bamep.Store.Evolution
import Bamep.Store.Workflow
import Bamep.Store.AttemptLife
import Bamep.Domain.Confluence
import Bamep.Domain.TransferAuthorization
import Bamep.Domain.Wire
import Bamep.Store.TransferRepository
import Bamep.Application.DataPlane
import Bamep.Application.TransferEvidence
import Bamep.Gateway.Routing
import Bamep.Gateway.Decisions
import Bamep.Gateway.Step
import Bamep.Gateway.Evolution
import Bamep.Gateway.Sound
import Bamep.Gateway.Outcome
import Bamep.Store.Replay
import Bamep.Gateway.Custody
import Bamep.Gateway.ManifestLife
import Bamep.Domain.Proof
import Bamep.Runtime.Transient
import Bamep.Application.Authorization
import Bamep.Application.ReplayProtection
import Bamep.Application.CredentialLife
import Bamep.Store.EndpointRows
import Bamep.Application.Redemption
import Bamep.Application.BootTrust
import Bamep.Runtime.Sessions
import Bamep.Application.FinalDispatch
import Bamep.Library.Tally
import Bamep.Runtime.ResourceArbiter
import Bamep.Process.Reservations
import Bamep.Process.Ownership
import Bamep.Process.Delivery
import Bamep.Application.Entitlement
import Bamep.Runtime.Handles
import Bamep.Worker.FullArtifact
import Bamep.Process.Reconstruction
import Bamep.Store.EndpointActions
import Bamep.Process.SessionLoss
import Bamep.Gateway.Answers
import Bamep.Runtime.LiveBindings
import Bamep.Worker.Upload
import Bamep.Process.ChunkTransfer
import Bamep.Process.EndToEnd
import Bamep.Bootstrap.Assertion
import Bamep.Application.BootstrapEvidence
import Bamep.Application.ConcurrentRedemption
import Bamep.VirtualEndpoint.Runtime
import Bamep.Simulator.ActionAgent
import Bamep.Process.ActionExchange
import Bamep.Process.CancellationRace
import Bamep.Worker.Control
import Bamep.Library.Text
import Bamep.WorkerProtocol.Encoding
import Bamep.Application.ResumeDiscovery
import Bamep.Runtime.ResumeCursors
import Bamep.Process.ResumeDiscovery
import Bamep.Process.ResumePages
import Bamep.Process.ResumeSafety
import Bamep.Application.TransferService
import Bamep.Domain.ManifestRecording
import Bamep.Application.ChunkAcceptance
import Bamep.Worker.Http
import Bamep.Simulator.TransferAuthorization
import Bamep.Process.SignedRequest
import Bamep.Library.Filesystem
import Bamep.Worker.ChunkStore
import Bamep.Worker.FinalFiles
import Bamep.Worker.Durability
import Bamep.Worker.StageBody
import Bamep.VirtualEndpoint.Network
import Bamep.Library.Environment
import Bamep.Library.Url
import Bamep.Process.DataPlaneOrigin
