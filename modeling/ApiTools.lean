import ApiTools.Main
import ApiTools.Server
import ApiTools.Settings
import ApiTools.Proofs.Binding
import ApiTools.Proofs.Json.WellKeyed
import ApiTools.Proofs.ArgType.Checking
import ApiTools.Proofs.ArgType.Loading
import ApiTools.Proofs.ArgType.OfSchema
import ApiTools.Proofs.Handler
import ApiTools.Proofs.ArgumentModel
import ApiTools.Proofs.Catalog
import ApiTools.Proofs.PathArguments
import ApiTools.Proofs.Placeholders
import ApiTools.Proofs.Text.Percent
import ApiTools.Proofs.Http.Url
import ApiTools.Proofs.Http.Confined
import ApiTools.Proofs.Client
import ApiTools.Proofs.Endpoint
import ApiTools.Proofs.Registry.Calling
import ApiTools.Proofs.Resource.Reading
import ApiTools.Proofs.Confinement
import ApiTools.Proofs.Formatter
import ApiTools.Proofs.Answer
import ApiTools.Proofs.Completion
import ApiTools.Proofs.ArgType.Conformance
import ApiTools.Proofs.Json.Alike
import ApiTools.Proofs.ArgType.PassingThrough
import ApiTools.Proofs.ArgType.Settling
import ApiTools.Proofs.Delivery
import ApiTools.Proofs.Text.Form
import ApiTools.Proofs.Credentials
import ApiTools.Proofs.Text.Case
import ApiTools.Proofs.Hint
import ApiTools.Proofs.Pages
import ApiTools.Proofs.Answering
import ApiTools.Proofs.Json.RoundTrip
import ApiTools.Proofs.Registry.Outcome
import ApiTools.Proofs.Catalog.Module
import ApiTools.Proofs.Agreement
import ApiTools.Proofs.Omission
import ApiTools.Proofs.Catalog.Version
import ApiTools.Proofs.Decimal.Text
import ApiTools.Proofs.Catalog.Source
import ApiTools.Proofs.Classification
import ApiTools.Proofs.Registry.Views
import ApiTools.Proofs.Path.Braces
import ApiTools.Proofs.LastPage
import ApiTools.Proofs.Resource.Watchlist
import ApiTools.Proofs.Decimal.Nearest
import ApiTools.Proofs.Json.Number
import ApiTools.Proofs.ArgType.Printable
import ApiTools.Proofs.Transit
import ApiTools.Proofs.Path.Values
import ApiTools.Proofs.ArgType.Depth
import ApiTools.Proofs.Resource.Address
import ApiTools.Proofs.Resource.Heading
import ApiTools.Proofs.Description
import ApiTools.Proofs.Http.Pagination
