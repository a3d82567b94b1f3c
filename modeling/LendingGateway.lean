import LendingGateway.Main
import LendingGateway.Proofs.Documents
import LendingGateway.Proofs.Http.ProviderQuery
import LendingGateway.Proofs.Registry.Assembly
import LendingGateway.Proofs.Service.Listing
import LendingGateway.Service.Step
import LendingGateway.Proofs.Http.ProviderListing
import LendingGateway.Proofs.Backend.Amounts
import LendingGateway.Proofs.Service.Tally
import LendingGateway.Proofs.Service.Amounts
import LendingGateway.Proofs.Backend.Relay
import LendingGateway.Proofs.Backend.BaseAddress
import LendingGateway.Proofs.Backend.Deposits
import LendingGateway.Proofs.Backend.Rates
import LendingGateway.Proofs.Backend.Holdings
import LendingGateway.Proofs.Service.Provenance
import LendingGateway.Proofs.Text.Percent
import LendingGateway.Proofs.Http.Addressing
import LendingGateway.Proofs.Json.Reading
import LendingGateway.Proofs.Json.Skipping
import LendingGateway.Proofs.Json.Shapes
import LendingGateway.Proofs.Json.Places
import LendingGateway.Proofs.Json.Agreement
import LendingGateway.Proofs.Json.Readability
import LendingGateway.Proofs.Json.Cutting
import LendingGateway.Proofs.Json.Tagging
import LendingGateway.Proofs.Registry.Descriptor
import LendingGateway.Proofs.Web.Path
import LendingGateway.Proofs.Text.Composition
import LendingGateway.Proofs.Web.Host
import LendingGateway.Proofs.Backend.Verdicts
import LendingGateway.Proofs.Registry.Registration
import LendingGateway.Proofs.KnownMembers
import LendingGateway.Proofs.Registry.CutFile
import LendingGateway.Proofs.Service.Joining
import LendingGateway.Proofs.Backend.OwnDeposits
import LendingGateway.Proofs.IntegerFields
import LendingGateway.Proofs.Startup.Origins
import LendingGateway.Proofs.OptionalData
import LendingGateway.Proofs.Service.Hearing
