import Typings.CommandLine.Run
import Typings.Main
import Typings.Proofs.Json.Fields
import Typings.Proofs.Estree.FlowType
import Typings.Proofs.Estree.Statement
import Typings.Proofs.Estree.Schema
import Typings.Proofs.Syntax.Typed
import Typings.Proofs.Estree.Soundness
import Typings.Proofs.Declaration.Support
import Typings.Proofs.Declaration.Abort
import Typings.Proofs.Declaration.Rendering
import Typings.Proofs.Declaration.Program
import Typings.Proofs.Session.Document
import Typings.Proofs.Declaration.Assembly
import Typings.Proofs.Estree.Encoding
import Typings.Proofs.Estree.RoundTrip
import Typings.Proofs.Declaration.Gaps
import Typings.Proofs.Syntax.Content
import Typings.Proofs.Declaration.Independence
import Typings.Proofs.Session.Routes
import Typings.Proofs.Session.History
import Typings.Proofs.Declaration.Insertion
import Typings.Proofs.FileSystem.Effects
import Typings.Proofs.Text.Utf8
import Typings.Proofs.Json.Reading
import Typings.Proofs.Json.Scalars
import Typings.Proofs.Json.Written
import Typings.Proofs.CommandLine.Dump
import Typings.Proofs.CommandLine.Run
import Typings.Proofs.Estree.Places
import Typings.Proofs.Estree.Rewriting
import Typings.Proofs.Declaration.Nullability
import Typings.Proofs.Declaration.Layout
import Typings.Proofs.Declaration.Grouping
import Typings.Proofs.Declaration.Readability
import Typings.Proofs.Text.Brackets
import Typings.Proofs.Syntax.Named
import Typings.Proofs.Declaration.Balance
import Typings.Proofs.Declaration.Ending
import Typings.Proofs.Declaration.Bindings
import Typings.Proofs.Diagnostic.Counting
