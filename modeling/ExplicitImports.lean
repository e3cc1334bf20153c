import ExplicitImports.Text
import ExplicitImports.Path
import ExplicitImports.Specifier
import ExplicitImports.Json.Basic
import ExplicitImports.Json.Decimal
import ExplicitImports.Json.HiddenRanges
import ExplicitImports.Json.Mismatch
import ExplicitImports.Json.Writer
import ExplicitImports.Json.Reader
import ExplicitImports.Json.Decoder
import ExplicitImports.Options
import ExplicitImports.Package.Name
import ExplicitImports.FileSystem
import ExplicitImports.FileTree
import ExplicitImports.Url.Percent
import ExplicitImports.Url.Host
import ExplicitImports.Url.Basic
import ExplicitImports.Referrer
import ExplicitImports.Trace
import ExplicitImports.Package.Resolver
import ExplicitImports.Declaration
import ExplicitImports.Target
import ExplicitImports.Decision
import ExplicitImports.Change
import ExplicitImports.Session
import ExplicitImports.MediaType
import ExplicitImports.Literal
import ExplicitImports.Edit
import ExplicitImports.Program
import ExplicitImports.Source.IdentifierRanges
import ExplicitImports.Source.Lexeme
import ExplicitImports.Source.Cursor
import ExplicitImports.Source.Annotation
import ExplicitImports.Source.Expression
import ExplicitImports.Source.Markup
import ExplicitImports.Source.Statement
import ExplicitImports.Source.ModuleItem
import ExplicitImports.Source
import ExplicitImports.Proofs.Extension
import ExplicitImports.Proofs.Path
import ExplicitImports.Proofs.PackageName
import ExplicitImports.Proofs.Ancestors
import ExplicitImports.Proofs.Search
import ExplicitImports.Proofs.Containment
import ExplicitImports.Proofs.FileTree
import ExplicitImports.Proofs.Target
import ExplicitImports.Proofs.Decision
import ExplicitImports.Proofs.Locality
import ExplicitImports.Proofs.Existence
import ExplicitImports.Proofs.Bare
import ExplicitImports.Proofs.Session
import ExplicitImports.Proofs.Program
import ExplicitImports.Proofs.TreePass
import ExplicitImports.Proofs.Settling
import ExplicitImports.Proofs.Literal
import ExplicitImports.Proofs.Surfaces
import ExplicitImports.Proofs.Edit
import ExplicitImports.Proofs.Frame
import ExplicitImports.Proofs.Grammar
import ExplicitImports.Proofs.Explicit
import ExplicitImports.Proofs.Probe
import ExplicitImports.Proofs.Destination
import ExplicitImports.Proofs.Modes
import ExplicitImports.Proofs.Repetition
import ExplicitImports.Proofs.Inclusion
import ExplicitImports.Proofs.ExtensionScan
import ExplicitImports.Proofs.LocalPath
import ExplicitImports.Proofs.Record
import ExplicitImports.Proofs.JsonForm
