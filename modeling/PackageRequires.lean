import PackageRequires.Archive
import PackageRequires.Archive.Builtin
import PackageRequires.Archive.Library
import PackageRequires.Archive.Shelf
import PackageRequires.Catalogue
import PackageRequires.Check
import PackageRequires.Checker
import PackageRequires.CommandLine
import PackageRequires.Configuration
import PackageRequires.Declaration
import PackageRequires.Diagnostic
import PackageRequires.FileSystem
import PackageRequires.Header
import PackageRequires.Json
import PackageRequires.Json.Reader
import PackageRequires.Keyed
import PackageRequires.Lisp.Expr
import PackageRequires.Lisp.Numeral
import PackageRequires.Lisp.Reader
import PackageRequires.Lisp.Token
import PackageRequires.Main
import PackageRequires.Metadata
import PackageRequires.Metadata.Field
import PackageRequires.Metadata.FileHeader
import PackageRequires.Path
import PackageRequires.Proofs.Archive.Growth
import PackageRequires.Proofs.Archive.Shelf
import PackageRequires.Proofs.Archive.Snapshot
import PackageRequires.Proofs.ByteOrder
import PackageRequires.Proofs.Catalogue
import PackageRequires.Proofs.Catalogue.History
import PackageRequires.Proofs.Check
import PackageRequires.Proofs.Checker
import PackageRequires.Proofs.Declaration
import PackageRequires.Proofs.FileSystem
import PackageRequires.Proofs.Header
import PackageRequires.Proofs.Header.Locating
import PackageRequires.Proofs.Hosts
import PackageRequires.Proofs.Json
import PackageRequires.Proofs.Keyed
import PackageRequires.Proofs.Lines
import PackageRequires.Proofs.Lisp.Atom
import PackageRequires.Proofs.Lisp.Cutting
import PackageRequires.Proofs.Lisp.Depth
import PackageRequires.Proofs.Lisp.Gap
import PackageRequires.Proofs.Lisp.Grammar
import PackageRequires.Proofs.Lisp.Layout
import PackageRequires.Proofs.Lisp.Lexing
import PackageRequires.Proofs.Lisp.Locality
import PackageRequires.Proofs.Lisp.Neighbours
import PackageRequires.Proofs.Lisp.Numeral
import PackageRequires.Proofs.Lisp.Printing
import PackageRequires.Proofs.Lisp.Spelling
import PackageRequires.Proofs.Lisp.Strings
import PackageRequires.Proofs.Lisp.Tiling
import PackageRequires.Proofs.Metadata
import PackageRequires.Proofs.Metadata.Block
import PackageRequires.Proofs.Metadata.FileHeader
import PackageRequires.Proofs.Metadata.Line
import PackageRequires.Proofs.Pattern
import PackageRequires.Proofs.Report
import PackageRequires.Proofs.Report.Lines
import PackageRequires.Proofs.Server.Completion
import PackageRequires.Proofs.Server.Cursor
import PackageRequires.Proofs.Server.Hover
import PackageRequires.Proofs.Server.Independence
import PackageRequires.Proofs.Server.Marks
import PackageRequires.Proofs.Server.Session
import PackageRequires.Proofs.Text
import PackageRequires.Proofs.Version
import PackageRequires.Proofs.Version.Canonical
import PackageRequires.Report
import PackageRequires.Server.Assistance
import PackageRequires.Server.Cursor
import PackageRequires.Server.Session
import PackageRequires.Server.Wire
import PackageRequires.Text
import PackageRequires.Toml.Document
import PackageRequires.Toml.Scalar
import PackageRequires.Toml.Statement
import PackageRequires.Toml.Token
import PackageRequires.Toml.Value
import PackageRequires.Uri
import PackageRequires.Uri.Address
import PackageRequires.Uri.Composition
import PackageRequires.Uri.Folding
import PackageRequires.Uri.Host
import PackageRequires.Uri.Label
import PackageRequires.Uri.Percent
import PackageRequires.Uri.Punycode
import PackageRequires.Uri.Segments
import PackageRequires.Uri.Table
import PackageRequires.Version
