import ScriptBridge.Bridge.Command
import ScriptBridge.Bridge.Registry
import ScriptBridge.Bridge.Sameness
import ScriptBridge.Bridge.Session
import ScriptBridge.Bridge.State
import ScriptBridge.Bridge.Text
import ScriptBridge.Command.File
import ScriptBridge.Command.Line
import ScriptBridge.Config.Arguments
import ScriptBridge.Config.Options
import ScriptBridge.Console.Run
import ScriptBridge.Console.Start
import ScriptBridge.Convert.Text
import ScriptBridge.Convert.ToForeign
import ScriptBridge.Convert.ToHost
import ScriptBridge.Decimal.Layout
import ScriptBridge.Decimal.Reading
import ScriptBridge.Decimal.Shortest
import ScriptBridge.Error
import ScriptBridge.Files
import ScriptBridge.Foreign.Definitions
import ScriptBridge.Foreign.Feature
import ScriptBridge.Foreign.Object
import ScriptBridge.Foreign.Reference
import ScriptBridge.Foreign.Shape
import ScriptBridge.Foreign.Slice
import ScriptBridge.Handoff
import ScriptBridge.Handoff.Trace
import ScriptBridge.Host.Builtin
import ScriptBridge.Host.Command
import ScriptBridge.Host.Editor
import ScriptBridge.Host.Editor.Change
import ScriptBridge.Host.Error
import ScriptBridge.Host.Eval
import ScriptBridge.Host.Expr.Eval
import ScriptBridge.Host.Expr.Parse
import ScriptBridge.Host.Functions
import ScriptBridge.Host.Store
import ScriptBridge.Host.Value
import ScriptBridge.Host.Value.Number
import ScriptBridge.Host.Value.Text
import ScriptBridge.Library.Loader
import ScriptBridge.Main
import ScriptBridge.Proofs.Bridge.Additions
import ScriptBridge.Proofs.Bridge.Ages
import ScriptBridge.Proofs.Bridge.Identity
import ScriptBridge.Proofs.Bridge.Locks
import ScriptBridge.Proofs.Bridge.Mild
import ScriptBridge.Proofs.Bridge.Move
import ScriptBridge.Proofs.Bridge.Operations
import ScriptBridge.Proofs.Bridge.Runs
import ScriptBridge.Proofs.Bridge.Session
import ScriptBridge.Proofs.Bridge.Sound
import ScriptBridge.Proofs.Bridge.Stays
import ScriptBridge.Proofs.Command.File
import ScriptBridge.Proofs.Command.Line
import ScriptBridge.Proofs.Command.Reader
import ScriptBridge.Proofs.Computation
import ScriptBridge.Proofs.Config.Arguments
import ScriptBridge.Proofs.Config.Lines
import ScriptBridge.Proofs.Config.Sources
import ScriptBridge.Proofs.Config.Syntaxes
import ScriptBridge.Proofs.Convert.Copying
import ScriptBridge.Proofs.Convert.Graph
import ScriptBridge.Proofs.Convert.Leniency
import ScriptBridge.Proofs.Convert.Mild
import ScriptBridge.Proofs.Convert.Objects
import ScriptBridge.Proofs.Convert.Omissions
import ScriptBridge.Proofs.Convert.Order
import ScriptBridge.Proofs.Convert.RoundTrip
import ScriptBridge.Proofs.Convert.Runs
import ScriptBridge.Proofs.Convert.Sharing
import ScriptBridge.Proofs.Convert.Skipping
import ScriptBridge.Proofs.Convert.Stays
import ScriptBridge.Proofs.Convert.Steps
import ScriptBridge.Proofs.Convert.Strict
import ScriptBridge.Proofs.Foreign.Liveness
import ScriptBridge.Proofs.Foreign.Selection
import ScriptBridge.Proofs.Foreign.Slice
import ScriptBridge.Proofs.Handoff.Nesting
import ScriptBridge.Proofs.Host.Announcements
import ScriptBridge.Proofs.Host.Appending
import ScriptBridge.Proofs.Host.Assigning
import ScriptBridge.Proofs.Host.Attempts
import ScriptBridge.Proofs.Host.Blanks
import ScriptBridge.Proofs.Host.Entries
import ScriptBridge.Proofs.Host.Evaluation
import ScriptBridge.Proofs.Host.Evolution
import ScriptBridge.Proofs.Host.Locks
import ScriptBridge.Proofs.Host.Operation
import ScriptBridge.Proofs.Host.Overflow
import ScriptBridge.Proofs.Host.Positions
import ScriptBridge.Proofs.Host.Reading
import ScriptBridge.Proofs.Host.Refusal
import ScriptBridge.Proofs.Host.Scan
import ScriptBridge.Proofs.Host.Scan.Ending
import ScriptBridge.Proofs.Host.Scan.Meaning
import ScriptBridge.Proofs.Host.Showing
import ScriptBridge.Proofs.Host.WellFormed
import ScriptBridge.Proofs.Host.Writing
import ScriptBridge.Proofs.Library.Loading
import ScriptBridge.Proofs.Lookup
import ScriptBridge.Proofs.Proxy.Access
import ScriptBridge.Proofs.Proxy.DictHandle
import ScriptBridge.Proofs.Proxy.Gate
import ScriptBridge.Proofs.Proxy.LineHandle
import ScriptBridge.Proofs.Proxy.LineList
import ScriptBridge.Proofs.Proxy.LineOperations
import ScriptBridge.Proofs.Proxy.ListHandle
import ScriptBridge.Proofs.Proxy.Locks
import ScriptBridge.Proofs.Proxy.Looking
import ScriptBridge.Proofs.Proxy.Mild
import ScriptBridge.Proofs.Proxy.NoneLine
import ScriptBridge.Proofs.Proxy.Operand
import ScriptBridge.Proofs.Proxy.Output
import ScriptBridge.Proofs.Proxy.PutBack
import ScriptBridge.Proofs.Proxy.Refusal
import ScriptBridge.Proofs.Proxy.Runs
import ScriptBridge.Proofs.Proxy.Sides
import ScriptBridge.Proofs.Proxy.Span
import ScriptBridge.Proofs.Proxy.Stale
import ScriptBridge.Proofs.Proxy.Stays
import ScriptBridge.Proofs.Proxy.ValueList
import ScriptBridge.Proofs.Proxy.Writing
import ScriptBridge.Proofs.Script.Building
import ScriptBridge.Proofs.Script.DictWork
import ScriptBridge.Proofs.Script.Finding
import ScriptBridge.Proofs.Script.LineWork
import ScriptBridge.Proofs.Script.ListWork
import ScriptBridge.Proofs.Script.Looking
import ScriptBridge.Proofs.Script.Objects
import ScriptBridge.Proofs.Script.OutputWork
import ScriptBridge.Proofs.Script.Paths
import ScriptBridge.Proofs.Script.Performing
import ScriptBridge.Proofs.Script.Running
import ScriptBridge.Proofs.Script.Stays
import ScriptBridge.Proofs.Script.UpdateWork
import ScriptBridge.Proofs.Session.Admitting
import ScriptBridge.Proofs.Session.Breakdown
import ScriptBridge.Proofs.Session.Calls
import ScriptBridge.Proofs.Session.Course
import ScriptBridge.Proofs.Session.GivenLines
import ScriptBridge.Proofs.Session.Handles
import ScriptBridge.Proofs.Session.Layout
import ScriptBridge.Proofs.Session.Lifecycle
import ScriptBridge.Proofs.Session.Lifetime
import ScriptBridge.Proofs.Session.LineHandles
import ScriptBridge.Proofs.Session.Locks
import ScriptBridge.Proofs.Session.Obeying
import ScriptBridge.Proofs.Session.OneAtATime
import ScriptBridge.Proofs.Session.Readiness
import ScriptBridge.Proofs.Session.Reason
import ScriptBridge.Proofs.Session.Regime
import ScriptBridge.Proofs.Session.Requests
import ScriptBridge.Proofs.Session.Restoring
import ScriptBridge.Proofs.Session.SingleCall
import ScriptBridge.Proofs.Text.Front
import ScriptBridge.Proofs.Text.Lines
import ScriptBridge.Proxy.Argument
import ScriptBridge.Proxy.Attribute
import ScriptBridge.Proxy.Call
import ScriptBridge.Proxy.Container
import ScriptBridge.Proxy.Item
import ScriptBridge.Proxy.Output
import ScriptBridge.Proxy.Span
import ScriptBridge.Proxy.Text
import ScriptBridge.Script.Answer
import ScriptBridge.Script.Assignment
import ScriptBridge.Script.Attribute
import ScriptBridge.Script.Build
import ScriptBridge.Script.Call
import ScriptBridge.Script.Change
import ScriptBridge.Script.Comparison
import ScriptBridge.Script.Engine
import ScriptBridge.Script.Field
import ScriptBridge.Script.Instance
import ScriptBridge.Script.Item
import ScriptBridge.Script.Iteration
import ScriptBridge.Script.Log
import ScriptBridge.Script.Method.Base
import ScriptBridge.Script.Method.Dictionary
import ScriptBridge.Script.Method.Number
import ScriptBridge.Script.Method.Sequence
import ScriptBridge.Script.Method.Text
import ScriptBridge.Script.Operation
import ScriptBridge.Script.Perform.Host
import ScriptBridge.Script.Perform.Object
import ScriptBridge.Script.Perform.Session
import ScriptBridge.Script.Produced
import ScriptBridge.Script.Run
import ScriptBridge.Script.Signature
import ScriptBridge.Script.Statement
import ScriptBridge.Script.View
import ScriptBridge.Text.Class
import ScriptBridge.Text.Integer
import ScriptBridge.Text.Lines
import ScriptBridge.Text.Quoted
import ScriptBridge.Text.Upper
import ScriptBridge.Text.Utf8
