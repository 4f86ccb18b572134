import StatsBoard.Binary64.Basic
import StatsBoard.Binary64.Reading
import StatsBoard.Binary64.Shortest
import StatsBoard.Certificate.Basic
import StatsBoard.Certificate.Der
import StatsBoard.Certificate.Pem
import StatsBoard.Certificate.Trust
import StatsBoard.Command.Arguments
import StatsBoard.Command.Option
import StatsBoard.Command.Run
import StatsBoard.Config.Basic
import StatsBoard.Config.Profiles
import StatsBoard.Config.Resolution
import StatsBoard.Config.Store
import StatsBoard.Dashboard.Basic
import StatsBoard.Dashboard.Board
import StatsBoard.Dashboard.Grid
import StatsBoard.Dashboard.Panel
import StatsBoard.Dashboard.Scrollbar
import StatsBoard.Dashboard.Title
import StatsBoard.Engine
import StatsBoard.Entity
import StatsBoard.File.Basic
import StatsBoard.File.Tree
import StatsBoard.Frame
import StatsBoard.History.Address
import StatsBoard.History.Client
import StatsBoard.History.Plan
import StatsBoard.History.Request
import StatsBoard.History.Response
import StatsBoard.Json.Decoder
import StatsBoard.Json.Draft
import StatsBoard.Json.Parser
import StatsBoard.Json.Printer
import StatsBoard.Json.Token
import StatsBoard.Json.Value
import StatsBoard.Line
import StatsBoard.Log
import StatsBoard.Log.Filter
import StatsBoard.Main
import StatsBoard.Metric
import StatsBoard.Proofs.Clamping
import StatsBoard.Proofs.Command.Persistence
import StatsBoard.Proofs.Config.Endpoint
import StatsBoard.Proofs.Config.Overlay
import StatsBoard.Proofs.Config.RoundTrip
import StatsBoard.Proofs.Dashboard.Scrollbar
import StatsBoard.Proofs.Dashboard.Terminal
import StatsBoard.Proofs.Dashboard.Tiling
import StatsBoard.Proofs.Dashboard.Title
import StatsBoard.Proofs.Display
import StatsBoard.Proofs.Entity
import StatsBoard.Proofs.FirstOccurrences
import StatsBoard.Proofs.Flushing
import StatsBoard.Proofs.Growth
import StatsBoard.Proofs.History.Completion
import StatsBoard.Proofs.History.CompletionOrder
import StatsBoard.Proofs.History.Contributions
import StatsBoard.Proofs.History.Drawing
import StatsBoard.Proofs.History.Effect
import StatsBoard.Proofs.History.Failure
import StatsBoard.Proofs.History.Fetching
import StatsBoard.Proofs.History.Ownership
import StatsBoard.Proofs.History.Panels
import StatsBoard.Proofs.History.Polling
import StatsBoard.Proofs.History.Receive
import StatsBoard.Proofs.History.Shapes
import StatsBoard.Proofs.Json.Documents
import StatsBoard.Proofs.Json.Forms
import StatsBoard.Proofs.Json.Records
import StatsBoard.Proofs.Label
import StatsBoard.Proofs.Layout
import StatsBoard.Proofs.Metric
import StatsBoard.Proofs.Operations
import StatsBoard.Proofs.Redraw
import StatsBoard.Proofs.Registry
import StatsBoard.Proofs.Samples
import StatsBoard.Proofs.Series
import StatsBoard.Proofs.Stream.Announcements
import StatsBoard.Proofs.Stream.Charting
import StatsBoard.Proofs.Stream.DataPoints
import StatsBoard.Proofs.Stream.Drawing
import StatsBoard.Proofs.Stream.Frames
import StatsBoard.Proofs.Stream.Grammar
import StatsBoard.Proofs.Stream.Ingest
import StatsBoard.Proofs.Stream.Lines
import StatsBoard.Proofs.Stream.Listening
import StatsBoard.Proofs.Stream.Names
import StatsBoard.Proofs.Stream.Routes
import StatsBoard.Proofs.Stream.Routing
import StatsBoard.Proofs.Stream.Starting
import StatsBoard.Proofs.Wiring
import StatsBoard.Proofs.Window
import StatsBoard.Redraw
import StatsBoard.Registry
import StatsBoard.Screen.Basic
import StatsBoard.Screen.Color
import StatsBoard.Screen.Frame
import StatsBoard.Screen.Paragraph
import StatsBoard.Screen.Sparkline
import StatsBoard.Series
import StatsBoard.Session
import StatsBoard.Settings
import StatsBoard.Stream.Address
import StatsBoard.Stream.Channel
import StatsBoard.Stream.Event
import StatsBoard.Stream.Fault
import StatsBoard.Stream.StartRequest
import StatsBoard.Stream.Subscriptions
import StatsBoard.Text.Base64
import StatsBoard.Text.Blank
import StatsBoard.Text.Cluster
import StatsBoard.Text.Composition
import StatsBoard.Text.Extending
import StatsBoard.Text.Folding
import StatsBoard.Text.Letter
import StatsBoard.Text.Lines
import StatsBoard.Text.Numeral
import StatsBoard.Text.Percent
import StatsBoard.Text.Quoted
import StatsBoard.Text.Split
import StatsBoard.Text.Width
import StatsBoard.Transport
import StatsBoard.Url.Basic
import StatsBoard.Url.Charset
import StatsBoard.Url.Domain
import StatsBoard.Url.Edit
import StatsBoard.Url.Host
import StatsBoard.Url.Parser
import StatsBoard.Url.Punycode
