import BlockAuthoring.Analysis.Advice
import BlockAuthoring.Analysis.Analyze
import BlockAuthoring.Analysis.Reading
import BlockAuthoring.Analysis.Record
import BlockAuthoring.Command.Blocks
import BlockAuthoring.Command.Checks
import BlockAuthoring.Command.Development
import BlockAuthoring.Command.Outcome
import BlockAuthoring.Command.Program
import BlockAuthoring.Command.Serve
import BlockAuthoring.Command.Usage
import BlockAuthoring.Console
import BlockAuthoring.Disk.Path
import BlockAuthoring.Disk.Tree
import BlockAuthoring.Json.Checked
import BlockAuthoring.Json.Order
import BlockAuthoring.Json.Printer
import BlockAuthoring.Json.Reader
import BlockAuthoring.Json.Shape
import BlockAuthoring.Json.Shown
import BlockAuthoring.Json.Value
import BlockAuthoring.Log
import BlockAuthoring.Main
import BlockAuthoring.Number.Binary64
import BlockAuthoring.Number.Numeral
import BlockAuthoring.Project.Setup
import BlockAuthoring.Proofs.Analysis.ChildAccess
import BlockAuthoring.Proofs.Analysis.Inference
import BlockAuthoring.Proofs.Analysis.Outcome
import BlockAuthoring.Proofs.Analysis.Reading
import BlockAuthoring.Proofs.Analysis.Surrogate
import BlockAuthoring.Proofs.Analysis.Transformation
import BlockAuthoring.Proofs.Analysis.Writing
import BlockAuthoring.Proofs.Association
import BlockAuthoring.Proofs.Collecting
import BlockAuthoring.Proofs.Command.Ending
import BlockAuthoring.Proofs.Command.Printing
import BlockAuthoring.Proofs.Command.Secrecy
import BlockAuthoring.Proofs.Disk.Change
import BlockAuthoring.Proofs.Disk.Folder
import BlockAuthoring.Proofs.Disk.Frame
import BlockAuthoring.Proofs.Disk.Layout
import BlockAuthoring.Proofs.Disk.Path
import BlockAuthoring.Proofs.Disk.Storing
import BlockAuthoring.Proofs.Json.Escape
import BlockAuthoring.Proofs.Json.Plain
import BlockAuthoring.Proofs.Json.Printed
import BlockAuthoring.Proofs.Json.RoundTrip
import BlockAuthoring.Proofs.Json.Spelling
import BlockAuthoring.Proofs.Project.Configuration
import BlockAuthoring.Proofs.Project.Pieces
import BlockAuthoring.Proofs.Project.Report
import BlockAuthoring.Proofs.Project.Setup
import BlockAuthoring.Proofs.Project.Validity
import BlockAuthoring.Proofs.Schema.Completeness
import BlockAuthoring.Proofs.Schema.Conformance
import BlockAuthoring.Proofs.Schema.Defects
import BlockAuthoring.Proofs.Schema.Fields
import BlockAuthoring.Proofs.Schema.Items
import BlockAuthoring.Proofs.Schema.Label
import BlockAuthoring.Proofs.Schema.Merging
import BlockAuthoring.Proofs.Schema.Plain
import BlockAuthoring.Proofs.Schema.Published
import BlockAuthoring.Proofs.Schema.Reading
import BlockAuthoring.Proofs.Schema.Selector
import BlockAuthoring.Proofs.Schema.Synthesis
import BlockAuthoring.Proofs.Schema.Writing
import BlockAuthoring.Proofs.Script.Access
import BlockAuthoring.Proofs.Script.Address
import BlockAuthoring.Proofs.Script.BoundNames
import BlockAuthoring.Proofs.Script.Comment
import BlockAuthoring.Proofs.Script.Declaring
import BlockAuthoring.Proofs.Script.DocumentOrder
import BlockAuthoring.Proofs.Script.Grammar
import BlockAuthoring.Proofs.Script.Grammar.Expression
import BlockAuthoring.Proofs.Script.Grammar.Markup
import BlockAuthoring.Proofs.Script.Grammar.Rules
import BlockAuthoring.Proofs.Script.Grammar.Statement
import BlockAuthoring.Proofs.Script.Offending
import BlockAuthoring.Proofs.Script.Pattern
import BlockAuthoring.Proofs.Script.Reach
import BlockAuthoring.Proofs.Script.Reader
import BlockAuthoring.Proofs.Script.Redeclaration
import BlockAuthoring.Proofs.Script.Scope
import BlockAuthoring.Proofs.Script.Shape
import BlockAuthoring.Proofs.Script.Target
import BlockAuthoring.Proofs.Settings.Token
import BlockAuthoring.Proofs.Source.Address
import BlockAuthoring.Proofs.Source.Agreement
import BlockAuthoring.Proofs.Source.Asking
import BlockAuthoring.Proofs.Source.Code
import BlockAuthoring.Proofs.Source.Contents
import BlockAuthoring.Proofs.Source.Folder
import BlockAuthoring.Proofs.Source.Itinerary
import BlockAuthoring.Proofs.Source.Listing
import BlockAuthoring.Proofs.Source.Outcome
import BlockAuthoring.Proofs.Source.Repository
import BlockAuthoring.Proofs.Source.Secrecy
import BlockAuthoring.Proofs.Source.Serving
import BlockAuthoring.Proofs.Source.Steady
import BlockAuthoring.Proofs.Source.Transcript
import BlockAuthoring.Proofs.Surface.ConfigKey
import BlockAuthoring.Proofs.Surface.Occurrence
import BlockAuthoring.Proofs.Surface.Overlap
import BlockAuthoring.Proofs.Surface.Placement
import BlockAuthoring.Proofs.Text.Base64
import BlockAuthoring.Proofs.Text.Decimal
import BlockAuthoring.Proofs.Text.Title
import BlockAuthoring.Proofs.Text.Utf8
import BlockAuthoring.Proofs.Tool.BaseConfigs
import BlockAuthoring.Proofs.Tool.Confinement
import BlockAuthoring.Proofs.Tool.Effect
import BlockAuthoring.Proofs.Tool.Enumeration
import BlockAuthoring.Proofs.Tool.Failing
import BlockAuthoring.Proofs.Tool.Generation
import BlockAuthoring.Proofs.Tool.Keeping
import BlockAuthoring.Proofs.Tool.Leftover
import BlockAuthoring.Proofs.Tool.Lookup
import BlockAuthoring.Proofs.Tool.Performing
import BlockAuthoring.Proofs.Tool.Preview
import BlockAuthoring.Proofs.Tool.Reading
import BlockAuthoring.Proofs.Tool.Repeating
import BlockAuthoring.Proofs.Tool.Secrecy
import BlockAuthoring.Proofs.Tool.Session
import BlockAuthoring.Proofs.Tool.Storing
import BlockAuthoring.Proofs.Tool.Targets
import BlockAuthoring.Schema.Builtin
import BlockAuthoring.Schema.Model
import BlockAuthoring.Schema.Published
import BlockAuthoring.Schema.Reading
import BlockAuthoring.Schema.Report
import BlockAuthoring.Schema.Selector
import BlockAuthoring.Schema.Synthesis
import BlockAuthoring.Script.Binding
import BlockAuthoring.Script.Cursor
import BlockAuthoring.Script.Gate
import BlockAuthoring.Script.Grammar
import BlockAuthoring.Script.Grammar.Expression
import BlockAuthoring.Script.Grammar.Markup
import BlockAuthoring.Script.Grammar.Rules
import BlockAuthoring.Script.Grammar.Statement
import BlockAuthoring.Script.Lexis
import BlockAuthoring.Script.Source
import BlockAuthoring.Script.Target
import BlockAuthoring.Script.Tree
import BlockAuthoring.Script.Violation
import BlockAuthoring.Server.Config
import BlockAuthoring.Server.Status
import BlockAuthoring.Server.Toolbox
import BlockAuthoring.Settings.Layout
import BlockAuthoring.Settings.Variable
import BlockAuthoring.Source.Address
import BlockAuthoring.Source.Client
import BlockAuthoring.Source.Error
import BlockAuthoring.Source.Folder
import BlockAuthoring.Source.Listing
import BlockAuthoring.Source.Repository
import BlockAuthoring.Source.Service
import BlockAuthoring.Surface.Catalog
import BlockAuthoring.Surface.ConfigKey
import BlockAuthoring.Surface.Pattern
import BlockAuthoring.Text.Base64
import BlockAuthoring.Text.Digit
import BlockAuthoring.Text.Newline
import BlockAuthoring.Text.Quoted
import BlockAuthoring.Text.Shown
import BlockAuthoring.Text.Space
import BlockAuthoring.Text.Title
import BlockAuthoring.Text.Uppercase
import BlockAuthoring.Text.Utf8
import BlockAuthoring.Text.Word
import BlockAuthoring.Tool.Analysis
import BlockAuthoring.Tool.BlockSource
import BlockAuthoring.Tool.Checking
import BlockAuthoring.Tool.Failure
import BlockAuthoring.Tool.Generation
import BlockAuthoring.Tool.Listing
import BlockAuthoring.Tool.Session
import BlockAuthoring.Tool.Writing
