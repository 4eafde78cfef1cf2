import Storefront.Text.Blank
import Storefront.Text.Character
import Storefront.Number.Binary
import Storefront.Number.Shortest
import Storefront.Number.Fixed
import Storefront.Json.Reading
import Storefront.Json.Printer
import Storefront.Extraction.Extractor
import Storefront.Plan
import Storefront.Query.Compiled
import Storefront.Query.Document
import Storefront.Query.Satisfaction
import Storefront.ResultSet
import Storefront.Execution
import Storefront.Text.Utf8
import Storefront.Http.Header
import Storefront.Net.Address
import Storefront.Url.Basic
import Storefront.Config.Normal
import Storefront.Service
import Storefront.Api.Route
import Storefront.Toml.Token
import Storefront.Toml.Document
import Storefront.Toml.Reading
import Storefront.Config.Load
import Storefront.Main
import Storefront.Proofs.Query.Compilation
import Storefront.Proofs.Query.Conditions
import Storefront.Proofs.Query.Quoting
import Storefront.Proofs.Query.Lexing
import Storefront.Proofs.Query.Reading
import Storefront.Proofs.Query.RoundTrip
import Storefront.Proofs.Text.Casing
import Storefront.Proofs.Extraction.Matching
import Storefront.Proofs.Extraction.Removal
import Storefront.Proofs.Extraction.Applied
import Storefront.Proofs.Text.Squeezing
import Storefront.Proofs.Extraction.Respacing
import Storefront.Proofs.Text.AsciiCase
import Storefront.Proofs.Extraction.Recasing
import Storefront.Proofs.Extraction.Idempotence
import Storefront.Proofs.Extraction.Absence
import Storefront.Proofs.Search.Calls
import Storefront.Proofs.Search.Vectors
import Storefront.Proofs.Json.Records
import Storefront.Proofs.Search.Replay
import Storefront.Proofs.Extraction.Invariance
import Storefront.Proofs.Search.Outcomes
import Storefront.Proofs.Json.RankedRecords
import Storefront.Proofs.Extraction.Coverage
import Storefront.Proofs.Extraction.FirstPrice
import Storefront.Proofs.Extraction.Spelling
import Storefront.Proofs.Extraction.Rearranging
import Storefront.Proofs.Search.Cutting
import Storefront.Proofs.Search.Rows
import Storefront.Proofs.Embedding.Formats
import Storefront.Proofs.Query.VectorText
import Storefront.Proofs.Http.Headers
import Storefront.Proofs.Config.Loading
