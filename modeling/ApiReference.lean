import ApiReference.Bindings.Artifacts
import ApiReference.Bindings.Doc
import ApiReference.Bindings.Identifier
import ApiReference.Bindings.Methods
import ApiReference.Bindings.Models
import ApiReference.Bindings.RustType
import ApiReference.Catalog.Basic
import ApiReference.Catalog.Dump
import ApiReference.CommandLine.Grammar
import ApiReference.CommandLine.Request
import ApiReference.CommandLine.Run
import ApiReference.Error
import ApiReference.Files.Basic
import ApiReference.Files.Path
import ApiReference.Files.Tree
import ApiReference.Html.BodyRules
import ApiReference.Html.Categories
import ApiReference.Html.CharacterReference
import ApiReference.Html.Construction
import ApiReference.Html.Document
import ApiReference.Html.Draft
import ApiReference.Html.Formatting
import ApiReference.Html.HeadRules
import ApiReference.Html.Markup
import ApiReference.Html.Node
import ApiReference.Html.Position
import ApiReference.Html.ReferenceNames
import ApiReference.Html.Rules
import ApiReference.Html.Scan
import ApiReference.Html.Select
import ApiReference.Html.Selector
import ApiReference.Html.TableRules
import ApiReference.Html.Token
import ApiReference.Json.Basic
import ApiReference.Json.Parsed
import ApiReference.Json.Record
import ApiReference.Main
import ApiReference.Page.Catalog
import ApiReference.Page.Fault
import ApiReference.Page.Prose
import ApiReference.Page.Returns
import ApiReference.Page.Rows
import ApiReference.Page.Section
import ApiReference.Page.TypeCell
import ApiReference.Settings.Basic
import ApiReference.Settings.File
import ApiReference.Settings.Source
import ApiReference.Snapshot.Batch
import ApiReference.Snapshot.Clock
import ApiReference.Snapshot.Manifest
import ApiReference.Snapshot.Run
import ApiReference.Snapshot.Sha256
import ApiReference.Snapshot.Timestamp
import ApiReference.Text.Alphanumeric
import ApiReference.Text.Blank
import ApiReference.Text.Case
import ApiReference.Text.Printable
import ApiReference.Text.Quoted
import ApiReference.Text.Ranges
import ApiReference.Text.Split
import ApiReference.Toml.Document
import ApiReference.Toml.Print
import ApiReference.Toml.Scalar
import ApiReference.Url.Basic
import ApiReference.Url.Domain.Basic
import ApiReference.Url.Domain.Composed
import ApiReference.Url.Domain.Label
import ApiReference.Url.Domain.Spelling
import ApiReference.Url.Fault
import ApiReference.Url.Host
import ApiReference.Url.Ipv4
import ApiReference.Url.Ipv6
import ApiReference.Url.Percent
import ApiReference.Url.Punycode
import ApiReference.WireType.Basic
import ApiReference.WireType.Notation
import ApiReference.WireType.Word
import ApiReference.Proofs.Bindings.Declarations
import ApiReference.Proofs.Bindings.Doc
import ApiReference.Proofs.Bindings.Identifier
import ApiReference.Proofs.Bindings.Source
import ApiReference.Proofs.Bindings.TypeNames
import ApiReference.Proofs.Catalog.Loaded
import ApiReference.Proofs.Catalog.RoundTrip
import ApiReference.Proofs.Files.Directories
import ApiReference.Proofs.Files.Folder
import ApiReference.Proofs.Files.Tree
import ApiReference.Proofs.Html.Search
import ApiReference.Proofs.Html.Siblings
import ApiReference.Proofs.Json.Record
import ApiReference.Proofs.Json.RoundTrip
import ApiReference.Proofs.Outcome
import ApiReference.Proofs.Page.Blocks
import ApiReference.Proofs.Page.Declared
import ApiReference.Proofs.Page.Entries
import ApiReference.Proofs.Page.Names
import ApiReference.Proofs.Page.Order
import ApiReference.Proofs.Page.Readable
import ApiReference.Proofs.Page.Sections
import ApiReference.Proofs.Snapshot.AllOrNothing
import ApiReference.Proofs.Snapshot.Batch
import ApiReference.Proofs.Snapshot.Chain
import ApiReference.Proofs.Snapshot.Clash
import ApiReference.Proofs.Snapshot.Commit
import ApiReference.Proofs.Snapshot.Manifest
import ApiReference.Proofs.Snapshot.Regenerated
import ApiReference.Proofs.Snapshot.Requests
import ApiReference.Proofs.Snapshot.Runs
import ApiReference.Proofs.Snapshot.Sha256
import ApiReference.Proofs.Snapshot.Stage
import ApiReference.Proofs.Snapshot.Surroundings
import ApiReference.Proofs.Snapshot.Swap
import ApiReference.Proofs.Snapshot.Timestamp
import ApiReference.Proofs.Snapshot.Written
import ApiReference.Proofs.Text.Case
import ApiReference.Proofs.Text.Split
import ApiReference.Proofs.Text.Trim
import ApiReference.Proofs.WireType.Reread
import ApiReference.Proofs.WireType.RoundTrip
import ApiReference.Proofs.Bindings.Undocumented
import ApiReference.Proofs.Bindings.Legal
import ApiReference.Proofs.Files.Reach
import ApiReference.Proofs.Page.Titles
import ApiReference.Proofs.Snapshot.Outside
import ApiReference.Proofs.Text.Separator
import ApiReference.Proofs.WireType.Nesting
import ApiReference.Proofs.WireType.Within
import ApiReference.Proofs.WireType.TypeText
import ApiReference.Proofs.Page.Links
import ApiReference.Proofs.Page.LinkedWords
import ApiReference.Proofs.Html.Queue
import ApiReference.Proofs.Page.Rows
import ApiReference.Proofs.Page.Phrases
import ApiReference.Proofs.Page.Announced
import ApiReference.Proofs.Page.Sentences
import ApiReference.Proofs.Html.SelectorText
import ApiReference.Proofs.Html.SelectorMeaning
import ApiReference.Proofs.Text.Words
import ApiReference.Proofs.Bindings.Wrapping
import ApiReference.Proofs.Bindings.StringLiteral
import ApiReference.Proofs.Bindings.Literals
import ApiReference.Proofs.Bindings.ByValue
import ApiReference.Proofs.Bindings.Convention
import ApiReference.Proofs.Text.Digits
import ApiReference.Proofs.Toml.Scalar
import ApiReference.Proofs.Toml.Document
import ApiReference.Proofs.Settings.File
import ApiReference.Proofs.Html.Markup
import ApiReference.Proofs.Html.Draft
import ApiReference.Proofs.Html.Steps
import ApiReference.Proofs.Html.Rules
import ApiReference.Proofs.Html.Breaks
import ApiReference.Proofs.Page.Prose
