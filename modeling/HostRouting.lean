import HostRouting.Api.Server
import HostRouting.Config.Loading
import HostRouting.Hosts.Logged
import HostRouting.Store.Memory
import HostRouting.Store.Remote
import HostRouting.Main
import HostRouting.Proofs.Document.RoundTrip
import HostRouting.Proofs.Document.Presence
import HostRouting.Proofs.Document.Separation
import HostRouting.Proofs.Document.Repetition
import HostRouting.Proofs.Document.Siblings
import HostRouting.Proofs.Document.Settling
import HostRouting.Proofs.Hosts.Ledger
import HostRouting.Proofs.Document.Listing
import HostRouting.Proofs.Document.ListingFrame
import HostRouting.Proofs.Hosts.Resolution
import HostRouting.Proofs.Hosts.RuntimeDefaults
import HostRouting.Proofs.Cli.LocalPlans
import HostRouting.Proofs.Document.Reach
import HostRouting.Proofs.Hosts.UpdateHistory
import HostRouting.Proofs.Hosts.Secrecy
import HostRouting.Proofs.Retry.Attempts
import HostRouting.Proofs.Document.Commuting
import HostRouting.Proofs.Document.SectionedReading
import HostRouting.Proofs.Document.Splicing
import HostRouting.Proofs.Hosts.SharedPorts
import HostRouting.Proofs.Json.Literals
import HostRouting.Proofs.Retry.Schedule
import HostRouting.Proofs.Store.Payloads
import HostRouting.Proofs.Api.EmptyOverrides
import HostRouting.Proofs.Text.Bytes
import HostRouting.Proofs.Url.Forms
import HostRouting.Proofs.Url.Endpoints
import HostRouting.Proofs.Store.Targets
import HostRouting.Proofs.Document.NormalForm
