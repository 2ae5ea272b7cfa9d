import Listing.Diagnostics
import Listing.Filter
import Listing.Http.Request
import Listing.Http.Response
import Listing.Proofs.AllowList
import Listing.Proofs.AskedNumbers
import Listing.Proofs.CanonicalNames
import Listing.Proofs.Commuting
import Listing.Proofs.Dispatch
import Listing.Proofs.Grouping
import Listing.Proofs.Identifiers
import Listing.Proofs.Injection
import Listing.Proofs.Joining
import Listing.Proofs.Loading
import Listing.Proofs.Membership
import Listing.Proofs.PageArithmetic
import Listing.Proofs.Rebinding
import Listing.Proofs.Renaming
import Listing.Proofs.Reordering
import Listing.Proofs.SortEntries
import Listing.Proofs.Sources
import Listing.Proofs.Spellings
import Listing.Proofs.Steps
import Listing.Proofs.Stored
import Listing.Proofs.Substitution
import Listing.Proofs.Warnings
import Listing.Settings.Json
import Listing.Settings.Toml
