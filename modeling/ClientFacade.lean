import ClientFacade.Aggregation
import ClientFacade.Command.Arguments
import ClientFacade.Command.Basic
import ClientFacade.Command.Failure
import ClientFacade.Command.Markup
import ClientFacade.Command.Panel
import ClientFacade.Command.Run
import ClientFacade.Encoding
import ClientFacade.Environment
import ClientFacade.Facade.Basic
import ClientFacade.Facade.Identifier
import ClientFacade.Facade.Render
import ClientFacade.Log.Configure
import ClientFacade.Log.Fault
import ClientFacade.Log.Format
import ClientFacade.Log.LevelName
import ClientFacade.Log.Logged
import ClientFacade.Log.Override
import ClientFacade.Log.Packaged
import ClientFacade.Log.Record
import ClientFacade.Log.Setup
import ClientFacade.Log.Sink
import ClientFacade.Main
import ClientFacade.Path
import ClientFacade.Proofs.Aggregation
import ClientFacade.Proofs.Aggregation.Accounting
import ClientFacade.Proofs.Aggregation.Comments
import ClientFacade.Proofs.Aggregation.Layers
import ClientFacade.Proofs.Aggregation.Opening
import ClientFacade.Proofs.Aggregation.Rendering
import ClientFacade.Proofs.Aggregation.Retyped
import ClientFacade.Proofs.Aggregation.Run
import ClientFacade.Proofs.Aggregation.Strictness
import ClientFacade.Proofs.Command.Delivery
import ClientFacade.Proofs.Command.Extracted
import ClientFacade.Proofs.Command.Markup
import ClientFacade.Proofs.Command.ShownSettings
import ClientFacade.Proofs.Command.Unreadable
import ClientFacade.Proofs.Facade.Assignments
import ClientFacade.Proofs.Facade.Balance
import ClientFacade.Proofs.Facade.Block
import ClientFacade.Proofs.Facade.ClientType
import ClientFacade.Proofs.Facade.Collision
import ClientFacade.Proofs.Facade.Comments
import ClientFacade.Proofs.Facade.Constructor
import ClientFacade.Proofs.Facade.Delegate
import ClientFacade.Proofs.Facade.Document
import ClientFacade.Proofs.Facade.Insertion
import ClientFacade.Proofs.Facade.Lines
import ClientFacade.Proofs.Facade.Opening
import ClientFacade.Proofs.Facade.Readable
import ClientFacade.Proofs.Facade.Reextraction
import ClientFacade.Proofs.Facade.Routing
import ClientFacade.Proofs.Facade.SharedIdentifier
import ClientFacade.Proofs.Log.Covered
import ClientFacade.Proofs.Log.Edit
import ClientFacade.Proofs.Log.Fallback
import ClientFacade.Proofs.Log.Levels
import ClientFacade.Proofs.Log.Override
import ClientFacade.Proofs.Path
import ClientFacade.Proofs.Settings.ConstantName
import ClientFacade.Proofs.Settings.Document
import ClientFacade.Proofs.Settings.Names
import ClientFacade.Proofs.Settings.Report
import ClientFacade.Proofs.Source.Blocks
import ClientFacade.Proofs.Source.Comments
import ClientFacade.Proofs.Source.Constructor
import ClientFacade.Proofs.Source.Extraction
import ClientFacade.Proofs.Source.Header
import ClientFacade.Proofs.Source.History
import ClientFacade.Proofs.Source.LineEnds
import ClientFacade.Proofs.Source.Nesting
import ClientFacade.Proofs.Source.Signature
import ClientFacade.Proofs.Source.Spacing
import ClientFacade.Proofs.Store.Change
import ClientFacade.Proofs.Template.Abort
import ClientFacade.Proofs.Template.Accepted
import ClientFacade.Proofs.Template.Placeholder
import ClientFacade.Proofs.Template.Plain
import ClientFacade.Proofs.Template.Reach
import ClientFacade.Proofs.Template.Shown
import ClientFacade.Proofs.Template.Spec
import ClientFacade.Proofs.Text.Clean
import ClientFacade.Proofs.Text.ControlSequence
import ClientFacade.Proofs.Text.Lines
import ClientFacade.Proofs.Text.Lowercase
import ClientFacade.Proofs.Text.Part
import ClientFacade.Proofs.Text.Returns
import ClientFacade.Proofs.Text.Utf8
import ClientFacade.Proofs.Value.Check
import ClientFacade.Proofs.Value.Entries
import ClientFacade.Proofs.Value.Heap
import ClientFacade.Proofs.Value.Json
import ClientFacade.Proofs.Yaml.Print
import ClientFacade.Proofs.Yaml.Reader
import ClientFacade.Settings.Basic
import ClientFacade.Settings.File
import ClientFacade.Source.Document
import ClientFacade.Source.Extraction
import ClientFacade.Source.Header
import ClientFacade.Source.Load
import ClientFacade.Source.Scanner
import ClientFacade.Source.Submodule
import ClientFacade.Store.Basic
import ClientFacade.Template.Fault
import ClientFacade.Template.Layout
import ClientFacade.Template.Piece
import ClientFacade.Template.Render
import ClientFacade.Template.Runtime
import ClientFacade.Text.Basic
import ClientFacade.Text.Blank
import ClientFacade.Text.CaseTable
import ClientFacade.Text.ControlSequence
import ClientFacade.Text.Digits
import ClientFacade.Text.Lines
import ClientFacade.Text.Lowercase
import ClientFacade.Text.PrintableTable
import ClientFacade.Text.Quoted
import ClientFacade.Text.Utf8
import ClientFacade.Value.Basic
import ClientFacade.Value.Binary64
import ClientFacade.Value.Check
import ClientFacade.Value.Heap
import ClientFacade.Value.Json
import ClientFacade.Yaml.Cursor
import ClientFacade.Yaml.File
import ClientFacade.Yaml.Moment
import ClientFacade.Yaml.Node
import ClientFacade.Yaml.Number
import ClientFacade.Yaml.Print
import ClientFacade.Yaml.Read
import ClientFacade.Yaml.Tag
import ClientFacade.Yaml.Token.Basic
import ClientFacade.Yaml.Token.Property
import ClientFacade.Yaml.Token.Scalar
import ClientFacade.Yaml.Token.Scan
