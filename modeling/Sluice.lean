import Sluice.Environment
import Sluice.Log.Setup
import Sluice.Main
import Sluice.Proofs.Category.Creation
import Sluice.Proofs.Category.Deletion
import Sluice.Proofs.Category.OfficeAgreement
import Sluice.Proofs.Category.Served
import Sluice.Proofs.Http.Forms
import Sluice.Proofs.Log.Overlay
import Sluice.Proofs.Resource.CacheRuns
import Sluice.Proofs.Resource.CompleteBindings
import Sluice.Proofs.Resource.DeclaredBodies
import Sluice.Proofs.Resource.Disclosure
import Sluice.Proofs.Resource.HeaderReads
import Sluice.Proofs.Resource.Negotiation
import Sluice.Proofs.Resource.QueryFilters
import Sluice.Proofs.Resource.RoleChecks
import Sluice.Proofs.Server.LeaseAccounts
import Sluice.Proofs.Server.LoadedSettings
import Sluice.Proofs.Server.Questions
import Sluice.Proofs.Server.SettingFields
import Sluice.Proofs.Server.UnreadableIdentity
import Sluice.Proofs.Server.UntrustedIdentity
