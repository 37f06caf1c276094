import EvDashboard.Failures
import EvDashboard.Spellings
import EvDashboard.NatsConnection
import EvDashboard.Sweep
import EvDashboard.FailFast
import EvDashboard.Delivery
import EvDashboard.PublishedOnce
import EvDashboard.Registration
import EvDashboard.Identifiers
import EvDashboard.Racing
import EvDashboard.Signatures
import EvDashboard.Queries
import EvDashboard.Process
import EvDashboard.Transfer
import EvDashboard.Issuance
import EvDashboard.EventLog
import EvDashboard.Relays
import EvDashboard.Funding
import EvDashboard.Claims
import EvDashboard.Platform
import EvDashboard.Actions
import EvDashboard.Reception
import EvDashboard.Progress
