import ModelBindings.Main
import ModelBindings.Proofs.Datamodel.Names
import ModelBindings.Proofs.Decimal.Notation
import ModelBindings.Proofs.Service.Run
import ModelBindings.Proofs.Source.Layout
import ModelBindings.Proofs.Text.Segments
import ModelBindings.Proofs.Text.Lines
import ModelBindings.Proofs.Text.Word
import ModelBindings.Proofs.Source.Field
import ModelBindings.Proofs.Source.Needs
import ModelBindings.Proofs.Source.ModuleOutline
import ModelBindings.Proofs.Package.Closed
import ModelBindings.Proofs.Source.Token.Quoted
import ModelBindings.Proofs.Source.Token.Docstring
import ModelBindings.Proofs.Source.Grammar.Phrase
import ModelBindings.Proofs.Source.Grammar.Statement
import ModelBindings.Proofs.Source.Token.Numeral
import ModelBindings.Proofs.Source.Validity
import ModelBindings.Proofs.Source.Names
import ModelBindings.Proofs.Source.Statement.Field
import ModelBindings.Proofs.Source.Statement.Class
import ModelBindings.Proofs.Source.Statement.Module
import ModelBindings.Proofs.Package.Accepted
import ModelBindings.Proofs.Datamodel.Typed
import ModelBindings.Proofs.Source.Stop
import ModelBindings.Proofs.Source.ImportBlock
import ModelBindings.Proofs.Package.Kept
import ModelBindings.Proofs.FileTree.Overwrite
import ModelBindings.Proofs.Package.Commit
import ModelBindings.Proofs.Path
import ModelBindings.Proofs.Path.Detours
import ModelBindings.Proofs.FileTree.Reach
import ModelBindings.Proofs.FileTree.Twins
import ModelBindings.Proofs.Package.Relocate
import ModelBindings.Proofs.CommandLine.FullPath
import ModelBindings.Proofs.CommandLine.EntryPoints
import ModelBindings.Proofs.Json.Extent
import ModelBindings.Proofs.Json.Written
import ModelBindings.Proofs.Json.RoundTrip
import ModelBindings.Proofs.Service.Answer
import ModelBindings.Proofs.Service.Lines
import ModelBindings.Proofs.Service.Replies
import ModelBindings.Proofs.CommandLine.Flags
import ModelBindings.Proofs.Disabled
import ModelBindings.Proofs.Datamodel.Format
import ModelBindings.Proofs.Datamodel.Reading
import ModelBindings.Proofs.Source.Known
import ModelBindings.Proofs.Package.Order
import ModelBindings.Proofs.Source.Binding
import ModelBindings.Proofs.Source.Declared
import ModelBindings.Proofs.Source.Shadow
import ModelBindings.Proofs.Source.Literal
import ModelBindings.Proofs.Source.Docstring
import ModelBindings.Proofs.Source.FieldParts
import ModelBindings.Proofs.Package.Taken
import ModelBindings.Proofs.Package.ModuleNames
import ModelBindings.Proofs.Source.EnumReading
import ModelBindings.Proofs.Source.FieldOrder
import ModelBindings.Proofs.Source.FieldDefault
import ModelBindings.Proofs.Source.DefaultLiteral
import ModelBindings.Proofs.Package.Settings
import ModelBindings.Proofs.Package.Regeneration
import ModelBindings.Proofs.Naming
import ModelBindings.Proofs.Settings
import ModelBindings.Proofs.Package.Records
import ModelBindings.Proofs.Source.Gathering
