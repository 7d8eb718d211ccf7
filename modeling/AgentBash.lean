import AgentBash.Supervisor.CompletionOnce
import AgentBash.Delivery.ActivationSafety
import AgentBash.Supervisor.LostSupervisor
import AgentBash.Retention.Vetoes
import AgentBash.Supervisor.CancelCustody
import AgentBash.Delivery.ExternalCustody
import AgentBash.Delivery.ActivationOnce
import AgentBash.RootWork.NoReplay
import AgentBash.Supervisor.SettlementHandshake
import AgentBash.Supervisor.Admission
import AgentBash.Supervisor.Descendants
import AgentBash.Supervisor.LiveCapture
import AgentBash.Supervisor.Sentinel
import AgentBash.Continuation.Releasable
import AgentBash.Supervisor.Observation
import AgentBash.RootV1.Agreement
import AgentBash.Supervisor.RoleProtocol
import AgentBash.Supervisor.PidDomains
import AgentBash.FreshRun.Encoding
import AgentBash.Image.Accounting
import AgentBash.RetainedOutput.Atomic
import AgentBash.RootV1.Retained
import AgentBash.Continuation.Receipts
import AgentBash.RootWork.OwnerWitness
import AgentBash.RootWork.Standalone
import AgentBash.Delivery.HelperEnvironment
import AgentBash.Delivery.HelperRuns
import AgentBash.FreshRun.Uuid
import AgentBash.Retention.ReapPass
import AgentBash.RootV1.Inline
import AgentBash.OpenCode.LeadingWords
import AgentBash.OpenCode.Recognition
import AgentBash.Custody.PublicationRuns
import AgentBash.Supervisor.TerminalRuns
import AgentBash.Supervisor.DeliverySlice
