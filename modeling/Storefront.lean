import Storefront.Catalog.Basic
import Storefront.Catalog.Codec
import Storefront.Catalog.Entry
import Storefront.Catalog.Error
import Storefront.Catalog.Integrity
import Storefront.Catalog.Kind
import Storefront.Catalog.NameSet
import Storefront.Catalog.Parent
import Storefront.Catalog.Price
import Storefront.Catalog.Rule
import Storefront.Catalog.Selection
import Storefront.Command.Answer
import Storefront.Command.CatalogChoice
import Storefront.Command.Completion
import Storefront.Command.Error
import Storefront.Command.ErrorReport
import Storefront.Command.Generate
import Storefront.Command.Inspect
import Storefront.Command.Listing
import Storefront.Command.Outcome
import Storefront.Command.Presentation
import Storefront.Command.Run
import Storefront.Command.Starting
import Storefront.CommandLine.Argument
import Storefront.CommandLine.Help
import Storefront.CommandLine.Interface
import Storefront.CommandLine.Matches
import Storefront.Csv.Printer
import Storefront.Failure
import Storefront.Json.Decode
import Storefront.Json.Printer
import Storefront.Json.Reader
import Storefront.Json.Value
import Storefront.Log.Event
import Storefront.Log.Filter
import Storefront.Log.Line
import Storefront.Log.Told
import Storefront.Main
import Storefront.Manifest.Basic
import Storefront.Manifest.Load
import Storefront.Manifest.Sample
import Storefront.Manifest.Shape
import Storefront.Number.Binary64
import Storefront.Number.Decimal
import Storefront.Number.Literal
import Storefront.Number.Shortest
import Storefront.Proofs.Text.Cutting
import Storefront.Proofs.Text.Numeral
import Storefront.Proofs.Verse.Layout
import Storefront.Session.Basic
import Storefront.Session.Load
import Storefront.Session.Source
import Storefront.Settings.Basic
import Storefront.Settings.Dotenv
import Storefront.Settings.Environment
import Storefront.Settings.Layer
import Storefront.Settings.Load
import Storefront.Settings.Location
import Storefront.Settings.Setting
import Storefront.Storage.Disk
import Storefront.Storage.MemoryTree
import Storefront.Storage.Path
import Storefront.Storage.Sink
import Storefront.Text.Alphanumeric
import Storefront.Text.Blank
import Storefront.Text.Printable
import Storefront.Text.Quoted
import Storefront.Text.Style
import Storefront.Text.Utf8
import Storefront.Toml.Datetime
import Storefront.Toml.Printer
import Storefront.Toml.Quotation
import Storefront.Toml.Reader
import Storefront.Toml.Scalar
import Storefront.Toml.Tree
import Storefront.Toml.Value
import Storefront.Verse.Calls
import Storefront.Verse.Declaration
import Storefront.Verse.Definitions
import Storefront.Verse.Document
import Storefront.Verse.Layout
import Storefront.Verse.Mode
import Storefront.Proofs.Verse.FieldReader
import Storefront.Proofs.Verse.DefinitionsReader
import Storefront.Proofs.Verse.ReadBack
import Storefront.Proofs.Verse.Determined
import Storefront.Proofs.Verse.Closed
import Storefront.Proofs.Manifest.Commits
import Storefront.Proofs.Catalog.Selected
import Storefront.Proofs.Session.Resets
import Storefront.Proofs.Manifest.Expressible
import Storefront.Proofs.Catalog.Flaws
import Storefront.Proofs.Verse.CallsReader
import Storefront.Proofs.Verse.Called
import Storefront.Proofs.Verse.Spacing
import Storefront.Proofs.Catalog.Edits
import Storefront.Proofs.Catalog.Rules
import Storefront.Proofs.Session.Edits
import Storefront.Proofs.Verse.Clashes
import Storefront.Proofs.Verse.Lawful
import Storefront.Proofs.Session.Lawful
import Storefront.Proofs.Verse.Declared
import Storefront.Proofs.Session.Writes
import Storefront.Proofs.Storage.Disk
import Storefront.Proofs.Storage.Footprint
import Storefront.Proofs.Command.Effects
import Storefront.Proofs.CommandLine.Checked
import Storefront.Proofs.Command.Selects
import Storefront.Proofs.Json.Layout
import Storefront.Proofs.Catalog.Stored
import Storefront.Proofs.Catalog.ReportChange
import Storefront.Proofs.Results
import Storefront.Proofs.Manifest.Format
import Storefront.Proofs.Manifest.Shorthand
import Storefront.Proofs.Lookup
import Storefront.Proofs.CommandLine.Beside
import Storefront.Proofs.CommandLine.Reworded
import Storefront.Proofs.Command.Presented
import Storefront.Proofs.CommandLine.Named
import Storefront.Proofs.Storage.Charted
import Storefront.Proofs.Settings.Found
import Storefront.Proofs.Command.Recovery
import Storefront.Proofs.Verse.Growth
import Storefront.Proofs.Catalog.Gate
import Storefront.Proofs.Catalog.NetChange
import Storefront.Proofs.Session.CustomParents
import Storefront.Proofs.Catalog.NearestPrice
import Storefront.Proofs.Text.Styled
import Storefront.Proofs.Text.Itemized
import Storefront.Proofs.Command.ErrorTexts
import Storefront.Proofs.Command.Reported
import Storefront.Proofs.CommandLine.Amounts
import Storefront.Proofs.Command.PriceAdvice
import Storefront.Proofs.Text.ByteOrder
import Storefront.Proofs.Catalog.SelectionAlgebra
import Storefront.Proofs.Json.ReadBack
import Storefront.Proofs.Csv.Reader
import Storefront.Proofs.Command.Listed
import Storefront.Proofs.Storage.PathOrder
import Storefront.Proofs.Storage.Recorded
import Storefront.Proofs.Command.Tabled
