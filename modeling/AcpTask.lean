import AcpTask.Action.SingleTenant
import AcpTask.Action.Tenants
import AcpTask.Authority.Revival
import AcpTask.Broker.Connector
import AcpTask.Broker.Throughput
import AcpTask.Campaign.Envelope
import AcpTask.Campaign.Report
import AcpTask.Collaboration.Delivered
import AcpTask.Common.RateLimiter
import AcpTask.Concierge.Answering
import AcpTask.Concierge.BackEnds
import AcpTask.Concierge.LostUpdate
import AcpTask.Concierge.Redelivery
import AcpTask.Concierge.ResolverCompletion
import AcpTask.Consent.AccountWide
import AcpTask.Consent.OptOut
import AcpTask.Contacts.Addresses
import AcpTask.Contacts.LostEdits
import AcpTask.Contacts.Resolution
import AcpTask.Contacts.Segments
import AcpTask.ControlPlane.BackEnds
import AcpTask.Data.Ulid
import AcpTask.Eligibility.QuietHours
import AcpTask.Marketplace.Lifecycle
import AcpTask.Marketplace.Ratings
import AcpTask.Orchestrator.Attestation
import AcpTask.Orchestrator.Chains
import AcpTask.Outbox.Ordering
import AcpTask.Planner.Compatible
import AcpTask.Policy.Shrinking
import AcpTask.Registry.Atomicity
import AcpTask.Session.Repository
import AcpTask.Signing.Honest
import AcpTask.Slack.Choices
import AcpTask.Slack.Collect
import AcpTask.Slack.Operations
import AcpTask.Slack.RealDestination
import AcpTask.Slack.Workspaces
import AcpTask.Spend.Ceilings
import AcpTask.Spend.Metering
import AcpTask.Spend.RowLocked
import AcpTask.Spend.Segments
import AcpTask.Vault.Custody
import AcpTask.Verification.CountedOnce
import AcpTask.Webhook.Regression
import AcpTask.Webhook.Suppressed
import AcpTask.Worker.Poison
import AcpTask.Workflow.Budget
import AcpTask.Workflow.Inputs
import AcpTask.Workflow.Purged
import AcpTask.Workflow.Recovery
import AcpTask.Workflow.Superseded
import AcpTask.Workflow.WriteApproval
import AcpTask.ControlPlane.Stop
