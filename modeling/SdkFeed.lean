import SdkFeed.Catalog.Basic
import SdkFeed.Catalog.Entry
import SdkFeed.Catalog.File
import SdkFeed.Catalog.Pool
import SdkFeed.Catalog.Refresh
import SdkFeed.Command.Answer
import SdkFeed.Command.Arguments
import SdkFeed.Command.Basic
import SdkFeed.Command.Listing
import SdkFeed.Command.Run
import SdkFeed.Console.Line
import SdkFeed.Console.Markup
import SdkFeed.Console.Table
import SdkFeed.Feed.Kind
import SdkFeed.Feed.Version
import SdkFeed.Fetch.Failure
import SdkFeed.Fetch.Web
import SdkFeed.Files
import SdkFeed.JsonValue
import SdkFeed.Load
import SdkFeed.Load.Outcome
import SdkFeed.Load.Run
import SdkFeed.Main
import SdkFeed.Monitor
import SdkFeed.Number.Double
import SdkFeed.Number.Shortest
import SdkFeed.Package.Basic
import SdkFeed.Package.Entry
import SdkFeed.Package.Index
import SdkFeed.Package.Order
import SdkFeed.Package.Salvage
import SdkFeed.Path
import SdkFeed.Proofs.Catalog.Entries
import SdkFeed.Proofs.Catalog.History
import SdkFeed.Proofs.Catalog.Interleaving
import SdkFeed.Proofs.Catalog.Lineage
import SdkFeed.Proofs.Catalog.Revocation
import SdkFeed.Proofs.Catalog.Storage
import SdkFeed.Proofs.Command.Documents
import SdkFeed.Proofs.Command.Editing
import SdkFeed.Proofs.Command.Registration
import SdkFeed.Proofs.Feed.Detection
import SdkFeed.Proofs.Feed.Recognition
import SdkFeed.Proofs.Fetch.Classification
import SdkFeed.Proofs.Files
import SdkFeed.Proofs.Load.Address
import SdkFeed.Proofs.Load.Agreement
import SdkFeed.Proofs.Load.Attempt
import SdkFeed.Proofs.Load.Closing
import SdkFeed.Proofs.Load.Consistency
import SdkFeed.Proofs.Load.Course
import SdkFeed.Proofs.Load.Gate
import SdkFeed.Proofs.Load.Judgement
import SdkFeed.Proofs.Load.Length
import SdkFeed.Proofs.Load.Returning
import SdkFeed.Proofs.Load.Settling
import SdkFeed.Proofs.Load.Sharing
import SdkFeed.Proofs.Load.Specification
import SdkFeed.Proofs.Load.Stretch
import SdkFeed.Proofs.Load.Telling
import SdkFeed.Proofs.Load.Transition
import SdkFeed.Proofs.Package.Accounting
import SdkFeed.Proofs.Package.Arrangement
import SdkFeed.Proofs.Package.Completeness
import SdkFeed.Proofs.Package.Congruence
import SdkFeed.Proofs.Package.Copy
import SdkFeed.Proofs.Package.Declaration
import SdkFeed.Proofs.Package.Fault
import SdkFeed.Proofs.Package.Field
import SdkFeed.Proofs.Package.Gate
import SdkFeed.Proofs.Package.Layout
import SdkFeed.Proofs.Package.License
import SdkFeed.Proofs.Package.LicenseName
import SdkFeed.Proofs.Package.Listing
import SdkFeed.Proofs.Package.Reading
import SdkFeed.Proofs.Package.Reduction
import SdkFeed.Proofs.Package.Renaming
import SdkFeed.Proofs.Package.Resolution
import SdkFeed.Proofs.Package.Salvaging
import SdkFeed.Proofs.Package.Soundness
import SdkFeed.Proofs.Package.Stability
import SdkFeed.Proofs.Package.Vendor
import SdkFeed.Proofs.Rearrangement
import SdkFeed.Proofs.Schema.Acceptance
import SdkFeed.Proofs.Schema.Attribute
import SdkFeed.Proofs.Schema.Conformance
import SdkFeed.Proofs.Schema.Growth
import SdkFeed.Proofs.Schema.Model
import SdkFeed.Proofs.Schema.Padding
import SdkFeed.Proofs.Schema.Validity
import SdkFeed.Proofs.Schema.Value
import SdkFeed.Proofs.Source.Address
import SdkFeed.Proofs.Source.History
import SdkFeed.Proofs.Source.Scheme
import SdkFeed.Proofs.Success
import SdkFeed.Proofs.Text.Collapse
import SdkFeed.Proofs.Text.Integer
import SdkFeed.Proofs.Text.Numeral
import SdkFeed.Proofs.Text.Trim
import SdkFeed.Proofs.Text.Utf8
import SdkFeed.Proofs.Xml.Binding
import SdkFeed.Proofs.Xml.Defaults
import SdkFeed.Proofs.Xml.Equality
import SdkFeed.Proofs.Xml.Placement
import SdkFeed.Proofs.Xml.Renaming
import SdkFeed.Proofs.Xml.Root
import SdkFeed.Proofs.Xml.Tree
import SdkFeed.Report
import SdkFeed.Schema.Claim
import SdkFeed.Schema.Edition
import SdkFeed.Schema.Finding
import SdkFeed.Schema.Value
import SdkFeed.Schema.Verdict
import SdkFeed.Settings
import SdkFeed.Source
import SdkFeed.Text.Character
import SdkFeed.Text.Codepage
import SdkFeed.Text.Integer
import SdkFeed.Text.Lower
import SdkFeed.Text.Printable
import SdkFeed.Text.Quoted
import SdkFeed.Text.Utf8
import SdkFeed.Text.Width
import SdkFeed.Xml.Character
import SdkFeed.Xml.Charset
import SdkFeed.Xml.Cursor
import SdkFeed.Xml.Declaration
import SdkFeed.Xml.Doctype
import SdkFeed.Xml.Document
import SdkFeed.Xml.Element
import SdkFeed.Xml.Expansion
import SdkFeed.Xml.Label
import SdkFeed.Xml.Markup
import SdkFeed.Xml.Namespace
import SdkFeed.Xml.Outline
import SdkFeed.Xml.Read
import SdkFeed.Xml.ReadError
import SdkFeed.Xml.Reference
import SdkFeed.Xml.Strict.Address
import SdkFeed.Xml.Strict.Doctype
import SdkFeed.Xml.Strict.Document
import SdkFeed.Xml.Strict.Label
import SdkFeed.Xml.Strict.Reading
import SdkFeed.Xml.Strict.Tag
import SdkFeed.Xml.Strict.Text
import SdkFeed.Xml.Token
import SdkFeed.Yaml.Cursor
import SdkFeed.Yaml.Document
import SdkFeed.Yaml.Literal
import SdkFeed.Yaml.Node
import SdkFeed.Yaml.Printer
import SdkFeed.Yaml.Scalar
import SdkFeed.Yaml.Stamp
import SdkFeed.Yaml.Tag
import SdkFeed.Yaml.Token
import SdkFeed.Yaml.Value
