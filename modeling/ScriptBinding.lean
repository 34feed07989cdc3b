import ScriptBinding.Code.Fragment
import ScriptBinding.Code.Identifier
import ScriptBinding.Code.Literal
import ScriptBinding.Code.Scalar
import ScriptBinding.Code.Writer
import ScriptBinding.Command.Arguments
import ScriptBinding.Command.Run
import ScriptBinding.Command.Usage
import ScriptBinding.Dump.Entry
import ScriptBinding.Dump.Line
import ScriptBinding.Dump.Tree
import ScriptBinding.Exchange.Conversion
import ScriptBinding.Exchange.Description
import ScriptBinding.Exchange.Handler
import ScriptBinding.Exchange.NativeType
import ScriptBinding.Fault
import ScriptBinding.Files.Path
import ScriptBinding.Files.Store
import ScriptBinding.Generation
import ScriptBinding.Keyed
import ScriptBinding.Main
import ScriptBinding.Methods.Binding
import ScriptBinding.Methods.Dispatcher
import ScriptBinding.Methods.Registry
import ScriptBinding.Methods.Selection
import ScriptBinding.Methods.Target
import ScriptBinding.Module.Manifest
import ScriptBinding.Module.Package
import ScriptBinding.Module.Source
import ScriptBinding.Proofs.Code.Canonical
import ScriptBinding.Proofs.Code.Embedding
import ScriptBinding.Proofs.Code.Identifiers
import ScriptBinding.Proofs.Code.Literals
import ScriptBinding.Proofs.Code.OneLine
import ScriptBinding.Proofs.Command.Abbreviation
import ScriptBinding.Proofs.Command.Delivery
import ScriptBinding.Proofs.Command.Effects
import ScriptBinding.Proofs.Command.Order
import ScriptBinding.Proofs.Dump.Attributes
import ScriptBinding.Proofs.Dump.Beside
import ScriptBinding.Proofs.Dump.Forest
import ScriptBinding.Proofs.Dump.Forms
import ScriptBinding.Proofs.Dump.Headings
import ScriptBinding.Proofs.Dump.Layout
import ScriptBinding.Proofs.Dump.Loading
import ScriptBinding.Proofs.Dump.Names
import ScriptBinding.Proofs.Dump.Nesting
import ScriptBinding.Proofs.Dump.Printing
import ScriptBinding.Proofs.Dump.Reading
import ScriptBinding.Proofs.Dump.Renaming
import ScriptBinding.Proofs.Dump.Renumbering
import ScriptBinding.Proofs.Dump.RoundTrip
import ScriptBinding.Proofs.Dump.Units
import ScriptBinding.Proofs.Dump.Ways
import ScriptBinding.Proofs.Exchange.Aliases
import ScriptBinding.Proofs.Exchange.Chains
import ScriptBinding.Proofs.Exchange.Cycles
import ScriptBinding.Proofs.Exchange.Enumerators
import ScriptBinding.Proofs.Exchange.Faults
import ScriptBinding.Proofs.Exchange.Grammar
import ScriptBinding.Proofs.Exchange.Handlers
import ScriptBinding.Proofs.Exchange.Labels
import ScriptBinding.Proofs.Exchange.Pointers
import ScriptBinding.Proofs.Exchange.Renaming
import ScriptBinding.Proofs.Exchange.Spellings
import ScriptBinding.Proofs.Exchange.Trails
import ScriptBinding.Proofs.Files.Joining
import ScriptBinding.Proofs.Files.Making
import ScriptBinding.Proofs.Files.Routes
import ScriptBinding.Proofs.Files.Writing
import ScriptBinding.Proofs.Keyed
import ScriptBinding.Proofs.Methods.Acceptance
import ScriptBinding.Proofs.Methods.Admission
import ScriptBinding.Proofs.Methods.Bodies
import ScriptBinding.Proofs.Methods.Choice
import ScriptBinding.Proofs.Methods.Grouping
import ScriptBinding.Proofs.Methods.Listing
import ScriptBinding.Proofs.Methods.Naming
import ScriptBinding.Proofs.Methods.Partition
import ScriptBinding.Proofs.Methods.Rendering
import ScriptBinding.Proofs.Methods.Repeats
import ScriptBinding.Proofs.Methods.Results
import ScriptBinding.Proofs.Methods.Safety
import ScriptBinding.Proofs.Methods.Stages
import ScriptBinding.Proofs.Methods.Vocabulary
import ScriptBinding.Proofs.Module.Accounting
import ScriptBinding.Proofs.Module.Attachments
import ScriptBinding.Proofs.Module.Blocks
import ScriptBinding.Proofs.Module.Conflicts
import ScriptBinding.Proofs.Module.Decoding
import ScriptBinding.Proofs.Module.Depth
import ScriptBinding.Proofs.Module.Entries
import ScriptBinding.Proofs.Module.Faults
import ScriptBinding.Proofs.Module.Guards
import ScriptBinding.Proofs.Module.Hiding
import ScriptBinding.Proofs.Module.Mentions
import ScriptBinding.Proofs.Module.References
import ScriptBinding.Proofs.Module.Registrations
import ScriptBinding.Proofs.Module.Renaming
import ScriptBinding.Proofs.Module.Sections
import ScriptBinding.Proofs.Module.Stops
import ScriptBinding.Proofs.Module.Units
import ScriptBinding.Proofs.Module.Wiring
import ScriptBinding.Proofs.Text.Case
import ScriptBinding.Proofs.Text.Digits
import ScriptBinding.Proofs.Text.Ends
import ScriptBinding.Proofs.Text.Json
import ScriptBinding.Proofs.Text.Lines
import ScriptBinding.Proofs.Text.Numerals
import ScriptBinding.Proofs.Text.Pieces
import ScriptBinding.Proofs.Text.Rows
import ScriptBinding.Proofs.Text.Utf8
import ScriptBinding.Proofs.Traversal
import ScriptBinding.Report
import ScriptBinding.Settings
import ScriptBinding.Text.Blank
import ScriptBinding.Text.Case
import ScriptBinding.Text.Digit
import ScriptBinding.Text.Lines
import ScriptBinding.Text.Numeral
import ScriptBinding.Text.Printable
import ScriptBinding.Text.Quoted
import ScriptBinding.Text.Ranges
import ScriptBinding.Text.Scan
import ScriptBinding.Text.Utf8
import ScriptBinding.Text.Word
