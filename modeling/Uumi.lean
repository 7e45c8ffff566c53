import Uumi.Account.Administrators
import Uumi.Account.Storage
import Uumi.Approvals.Protocol
import Uumi.Audit.Chain
import Uumi.Audit.Integrity
import Uumi.Audit.Outbox
import Uumi.Broker.Agreement
import Uumi.Broker.Authorization
import Uumi.Broker.Calls
import Uumi.Broker.Capability
import Uumi.Broker.Service
import Uumi.Broker.Storage
import Uumi.Broker.Tokens
import Uumi.Broker.Validate
import Uumi.Browser.Budget
import Uumi.Browser.Changes
import Uumi.Browser.Egress
import Uumi.Browser.EgressRecovery
import Uumi.Browser.EgressSafety
import Uumi.Browser.Lifecycle
import Uumi.Browser.PlaybookSteps
import Uumi.Browser.Resumption
import Uumi.Browser.Service
import Uumi.Browser.Storage
import Uumi.Browser.Waiting
import Uumi.Connectors.CloudRun
import Uumi.Connectors.Http
import Uumi.Connectors.HttpCreation
import Uumi.Connectors.HttpLookups
import Uumi.Connectors.SecretManager
import Uumi.Connectors.SecretNames
import Uumi.Connectors.Traffic
import Uumi.Contracts.Approval
import Uumi.Contracts.Audit
import Uumi.Contracts.Base
import Uumi.Contracts.Browser
import Uumi.Contracts.Command
import Uumi.Contracts.Control
import Uumi.Contracts.Credential
import Uumi.Contracts.Event
import Uumi.Contracts.Execution
import Uumi.Contracts.GitHub
import Uumi.Contracts.Incident
import Uumi.Contracts.Inventory
import Uumi.Contracts.Notification
import Uumi.Contracts.Outbox
import Uumi.Contracts.Plan
import Uumi.Contracts.Playbook
import Uumi.Contracts.Run
import Uumi.Contracts.StepCodec
import Uumi.Contracts.Tool
import Uumi.Contracts.Verification
import Uumi.Coordinator.ApprovalRounds
import Uumi.Coordinator.Approvals
import Uumi.Coordinator.Browser
import Uumi.Coordinator.BrowserRevocation
import Uumi.Coordinator.BrowserSessions
import Uumi.Coordinator.BrowserSteps
import Uumi.Coordinator.CompiledControls
import Uumi.Coordinator.Context
import Uumi.Coordinator.Operations
import Uumi.Coordinator.Promotion
import Uumi.Coordinator.Resolution
import Uumi.Coordinator.Revocation
import Uumi.Coordinator.RevocationFailures
import Uumi.Coordinator.Rollout
import Uumi.Coordinator.Verification
import Uumi.Core.Errors
import Uumi.Events.Delivery
import Uumi.Events.Progress
import Uumi.Events.RunEvents
import Uumi.Foundations.Answering
import Uumi.Foundations.Base64
import Uumi.Foundations.Catalogue
import Uumi.Foundations.DenseLog
import Uumi.Foundations.Documents
import Uumi.Foundations.Effects
import Uumi.Foundations.Exclusive
import Uumi.Foundations.Executions
import Uumi.Foundations.Fencing
import Uumi.Foundations.HashChain
import Uumi.Foundations.Interaction
import Uumi.Foundations.Json
import Uumi.Foundations.JsonCodec
import Uumi.Foundations.JsonReader
import Uumi.Foundations.Learning
import Uumi.Foundations.Lockstep
import Uumi.Foundations.NamePatterns
import Uumi.Foundations.Optimistic
import Uumi.Foundations.OrderedDelivery
import Uumi.Foundations.Ranking
import Uumi.Foundations.References
import Uumi.Foundations.Results
import Uumi.Foundations.Retries
import Uumi.Foundations.Serving
import Uumi.Foundations.Succession
import Uumi.Foundations.Transactions
import Uumi.Foundations.WriteOnce
import Uumi.Generation.Consumers
import Uumi.Generation.Effects
import Uumi.Generation.History
import Uumi.Generation.Lineage
import Uumi.Generation.Service
import Uumi.Generation.Staging
import Uumi.Generation.Validity
import Uumi.GitHub.Isolation
import Uumi.GitHub.Knowledge
import Uumi.GitHub.Service
import Uumi.GitHub.Storage
import Uumi.GitHub.Tenancy
import Uumi.GitHub.Webhooks
import Uumi.Incidents.Consistency
import Uumi.Incidents.Requests
import Uumi.Incidents.Service
import Uumi.Inventory.Archiving
import Uumi.Inventory.ControlUpdates
import Uumi.Inventory.Controls
import Uumi.Inventory.Integrity
import Uumi.Inventory.Operations
import Uumi.Inventory.References
import Uumi.Inventory.Registry
import Uumi.Notifications.Claims
import Uumi.Notifications.Delivery
import Uumi.Notifications.FanOut
import Uumi.Notifications.Integrity
import Uumi.Notifications.Invitations
import Uumi.Notifications.Service
import Uumi.Notifications.Storage
import Uumi.Orchestration.Conclusions
import Uumi.Orchestration.Interleavings
import Uumi.Orchestration.Reports
import Uumi.Orchestration.Rotation
import Uumi.Orchestration.Stages
import Uumi.Orchestration.Warrants
import Uumi.Playbooks.Domains
import Uumi.Playbooks.Service
import Uumi.Playbooks.Versions
import Uumi.Policy.Digest
import Uumi.Policy.Payloads
import Uumi.Policy.Rules
import Uumi.State.Bindings
import Uumi.State.Fencing
import Uumi.State.Frame
import Uumi.State.Inversion
import Uumi.State.Machine
import Uumi.State.Validity
import Uumi.Storage.Approvals
import Uumi.Storage.CredentialUpdates
import Uumi.Storage.Credentials
import Uumi.Storage.Generations
import Uumi.Storage.Incidents
import Uumi.Storage.Inventory
import Uumi.Storage.Inversion
import Uumi.Storage.Outbox
import Uumi.Storage.OutboxClaims
import Uumi.Storage.Playbooks
import Uumi.Storage.Repository
import Uumi.Storage.Runs
import Uumi.Testkit.Repository
import Uumi.Testkit.Simulation
import Uumi.Verifier.Probes
import Uumi.Verifier.Telemetry
import Uumi.Workflow.Causes
import Uumi.Workflow.CommandLog
import Uumi.Workflow.CredentialLock
import Uumi.Workflow.Effects
import Uumi.Workflow.Idempotency
import Uumi.Workflow.Progress
import Uumi.Workflow.Reaping
import Uumi.Workflow.Recovery
import Uumi.Workflow.Sources
import Uumi.Workflow.StageGates
import Uumi.Workflow.Steps
