import Dataset.Main
import Dataset.Shutdown
import Dataset.Store.Foreign
import Dataset.Proofs.App.Prune
import Dataset.Proofs.App.Serving
import Dataset.Proofs.DateForms
import Dataset.Proofs.Filter.Expression
import Dataset.Proofs.Filter.Numerals
import Dataset.Proofs.Filter.Placeholder
import Dataset.Proofs.Gateway.Columns
import Dataset.Proofs.Gateway.Comparison
import Dataset.Proofs.Gateway.Reuse
import Dataset.Proofs.Http.Answers
import Dataset.Proofs.Http.Discretion
import Dataset.Proofs.Http.Effects
import Dataset.Proofs.Http.Keys
import Dataset.Proofs.Http.Precedence
import Dataset.Proofs.Import.Again
import Dataset.Proofs.Import.Failure
import Dataset.Proofs.Import.Finding
import Dataset.Proofs.Import.Served
import Dataset.Proofs.Import.Unknown
import Dataset.Proofs.Import.Values
import Dataset.Proofs.Json.Rows
import Dataset.Proofs.Shutdown
import Dataset.Proofs.Upkeep
import Dataset.Proofs.Store.Containment
import Dataset.Proofs.Store.Shaping
import Dataset.Proofs.Store.Statements
