import PinFlow.Bot
import PinFlow.Document
import PinFlow.Document.Token
import PinFlow.Fields
import PinFlow.Graph
import PinFlow.Graph.Edge
import PinFlow.Graph.Issue
import PinFlow.Graph.Node
import PinFlow.Graph.Pin
import PinFlow.Graph.Validation
import PinFlow.Identifier
import PinFlow.Kind
import PinFlow.Main
import PinFlow.Number.Binary64
import PinFlow.Number.Decimal
import PinFlow.Number.Literal
import PinFlow.Proofs.Graph.Cycle
import PinFlow.Proofs.Graph.CycleSearch
import PinFlow.Proofs.Graph.Incidence
import PinFlow.Proofs.Graph.Loading
import PinFlow.Proofs.Graph.Store
import PinFlow.Proofs.Graph.Written
import PinFlow.Proofs.Identifier
import PinFlow.Proofs.Number.Numeral
import PinFlow.Proofs.Number.ReadBack
import PinFlow.Proofs.Number.Rounding
import PinFlow.Proofs.PureFunction.Integers
import PinFlow.Proofs.PureFunction.Roles
import PinFlow.Proofs.Reading.Contract
import PinFlow.Proofs.Reading.CycleReports
import PinFlow.Proofs.Reading.Depth
import PinFlow.Proofs.Reading.Faithful
import PinFlow.Proofs.Reading.Frame
import PinFlow.Proofs.Reading.Lifetime
import PinFlow.Proofs.Reading.Memo
import PinFlow.Proofs.Reading.Origin
import PinFlow.Proofs.Reading.Reference
import PinFlow.Proofs.Reading.Report
import PinFlow.Proofs.Run.Agreement
import PinFlow.Proofs.Run.Calls
import PinFlow.Proofs.Run.Crossing
import PinFlow.Proofs.Run.Declaration
import PinFlow.Proofs.Run.DepthBound
import PinFlow.Proofs.Run.Failure
import PinFlow.Proofs.Run.Foresight
import PinFlow.Proofs.Run.Guards
import PinFlow.Proofs.Run.History
import PinFlow.Proofs.Run.Isolation
import PinFlow.Proofs.Run.Lifetime
import PinFlow.Proofs.Run.Likeness
import PinFlow.Proofs.Run.Logic
import PinFlow.Proofs.Run.Loop
import PinFlow.Proofs.Run.Options
import PinFlow.Proofs.Run.Production
import PinFlow.Proofs.Run.PureVisits
import PinFlow.Proofs.Run.Stability
import PinFlow.Proofs.Run.Step
import PinFlow.Proofs.Run.Transparency
import PinFlow.Proofs.Run.VisitTree
import PinFlow.PureFunction
import PinFlow.Run.Activity
import PinFlow.Run.Delay
import PinFlow.Run.Dispatcher
import PinFlow.Run.Limits
import PinFlow.Run.Outcome
import PinFlow.Run.Reading
import PinFlow.Run.Schedule
import PinFlow.Run.State
import PinFlow.Run.Table
import PinFlow.Run.Traversal
import PinFlow.Run.Warning
import PinFlow.Runner.CommandLine
import PinFlow.Runner.Configuration
import PinFlow.Runner.Error
import PinFlow.Runner.File
import PinFlow.Runner.Session
import PinFlow.Runner.Setting
import PinFlow.Runner.Settings
import PinFlow.Runner.Settings.Draft
import PinFlow.Runner.Settings.Literal
import PinFlow.Runner.Settings.Path
import PinFlow.Runner.Settings.Quotation
import PinFlow.Runner.Settings.Reader
import PinFlow.Runner.Summary
import PinFlow.Shape
import PinFlow.Text.Alphanumeric
import PinFlow.Text.Blank
import PinFlow.Text.Case
import PinFlow.Text.CaseTable
import PinFlow.Text.CharClass
import PinFlow.Text.Quoted
import PinFlow.Timestamp
import PinFlow.Trigger
import PinFlow.Value
import PinFlow.Value.Coercion
import PinFlow.Value.Printer
