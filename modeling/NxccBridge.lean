import NxccBridge.Core.Cbor
import NxccBridge.Core.Chunks
import NxccBridge.Interface.Types
import NxccBridge.Interface.WorkerBundle
import NxccBridge.Enclave.AuthorizationId
import NxccBridge.Core.LastWriter
import NxccBridge.Core.Json
import NxccBridge.Enclave.Crypto
import NxccBridge.Enclave.Secrets
import NxccBridge.Enclave.Grants
import NxccBridge.Enclave.Imports
import NxccBridge.Enclave.ImportAuthorization
import NxccBridge.Enclave.Convergence
import NxccBridge.Enclave.Release
import NxccBridge.Core.LockGraph
import NxccBridge.Enclave.RunnerLocks
import NxccBridge.Daemon.SecretsService
import NxccBridge.Daemon.Policies
import NxccBridge.Daemon.Pending
import NxccBridge.Daemon.Network
import NxccBridge.Daemon.Agreement
import NxccBridge.Daemon.Finalization
import NxccBridge.Daemon.WorkOrder
import NxccBridge.Core.LittleEndian
import NxccBridge.Core.MerkleTree
import NxccBridge.Core.Indexing
import NxccBridge.Attestation.Freshness
import NxccBridge.Attestation.Commitment
import NxccBridge.Attestation.FreshnessVerifier
import NxccBridge.Attestation.Providers
import NxccBridge.Attestation.Service
import NxccBridge.Attestation.FreshnessSoundness
import NxccBridge.Attestation.TdxParser
import NxccBridge.Attestation.TdxGrammar
import NxccBridge.Enclave.PolicyExecution
import NxccBridge.Core.RoundTrip
import NxccBridge.Interface.Proto
import NxccBridge.Interface.Events
import NxccBridge.Core.Serde
import NxccBridge.Interface.EventJson
import NxccBridge.Enclave.EventDelivery
import NxccBridge.Core.Base64
import NxccBridge.Core.Lines
import NxccBridge.Core.Text
import NxccBridge.Vm.Zenroom
import NxccBridge.Vm.Postback
import NxccBridge.Core.PriorityQueue
import NxccBridge.Core.Runs
import NxccBridge.Interface.WorkerEvents
import NxccBridge.Daemon.Scheduler
import NxccBridge.Daemon.SchedulerHistory
import NxccBridge.Daemon.SchedulerCommands
import NxccBridge.Daemon.EventQueue
import NxccBridge.Daemon.PolicyWorkers
import NxccBridge.Daemon.Installation
import NxccBridge.Daemon.Submission
import NxccBridge.Daemon.WorkerStart
import NxccBridge.Core.Eviction
import NxccBridge.Vm.LogBuffer
import NxccBridge.Vm.LogStream
import NxccBridge.Vm.StopWorker
import NxccBridge.Enclave.RunnerMaps
import NxccBridge.Vm.Workerd
import NxccBridge.Vm.LogManager
import NxccBridge.Core.GrowingLog
import NxccBridge.Attestation.Generation
import NxccBridge.Attestation.FreshnessCompleteness
import NxccBridge.Vm.ClientBinding
import NxccBridge.Enclave.Acquisition
import NxccBridge.Daemon.Publishing
import NxccBridge.Core.Rollback
import NxccBridge.Core.Journal
import NxccBridge.Contract.Identity
import NxccBridge.Contract.Execution
import NxccBridge.Contract.Authority
import NxccBridge.Vm.DebugSetting
import NxccBridge.Core.JsonSites
import NxccBridge.Vm.SecretInjection
import NxccBridge.Core.Buffer
import NxccBridge.Attestation.TdxSimulator
import NxccBridge.Core.Scan
import NxccBridge.Attestation.Embedding
import NxccBridge.Core.AddressBlock
import NxccBridge.Vm.PublicAddress
import NxccBridge.Core.Openings
import NxccBridge.Daemon.PeerRegistry
import NxccBridge.Daemon.Listener
import NxccBridge.Daemon.Gateways
import NxccBridge.Vm.LogContent
import NxccBridge.Daemon.BundleFetch
import NxccBridge.Core.Aead
import NxccBridge.Enclave.SecretsChannel
import NxccBridge.Core.Grid
import NxccBridge.Daemon.SchedulerGrid
import NxccBridge.Daemon.SchedulerEnd
import NxccBridge.Core.Inevitable
import NxccBridge.Vm.Execution
import NxccBridge.Vm.ExecutionOutcome
import NxccBridge.Vm.ExecutionDeadline
import NxccBridge.Vm.Envelope
import NxccBridge.Core.Utf16
import NxccBridge.Core.LengthPrefix
import NxccBridge.Sdk.Bundle
import NxccBridge.Sdk.DeriveKey
import NxccBridge.Sdk.Dsse
import NxccBridge.Sdk.FollowLogs
import NxccBridge.Vm.ReadLimit
import NxccBridge.Vm.ExecutionOutput
import NxccBridge.Core.Services
import NxccBridge.Vm.Service
import NxccBridge.Core.MultiMap
import NxccBridge.Core.Http
import NxccBridge.Vm.Invocation
import NxccBridge.Core.JsValue
import NxccBridge.Sdk.Worker
import NxccBridge.Enclave.EventLoop
import NxccBridge.Daemon.HttpGateway
import NxccBridge.Core.BooleanJson
import NxccBridge.Sdk.Policy
import NxccBridge.Enclave.PolicyWorker
import NxccBridge.Enclave.PolicyRelease
import NxccBridge.Core.Sorted
import NxccBridge.Chainlist.Endpoints
import NxccBridge.Chainlist.BlockTime
import NxccBridge.Chainlist.Curation
import NxccBridge.Chainlist.Publication
import NxccBridge.Chainlist.History
import NxccBridge.Enclave.SecretsRpc
import NxccBridge.Core.Provenance
import NxccBridge.Enclave.Federation
import NxccBridge.Vm.WorkerConfig
import NxccBridge.Daemon.WorkerKeys
