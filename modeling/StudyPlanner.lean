import StudyPlanner.Text.Blank
import StudyPlanner.Text.Utf8
import StudyPlanner.Text.Hex
import StudyPlanner.Text.Printable
import StudyPlanner.Text.Quoted
import StudyPlanner.Text.Decimal
import StudyPlanner.Proto.Wire
import StudyPlanner.Proto.DecodeError
import StudyPlanner.Proto.Reader
import StudyPlanner.Model.Kinds
import StudyPlanner.Text.Percent
import StudyPlanner.Remote.Error
import StudyPlanner.Remote.Trailers
import StudyPlanner.Remote.Status
import StudyPlanner.Remote.Frame
import StudyPlanner.Remote.Metadata
import StudyPlanner.Remote.Endpoint
import StudyPlanner.Remote.Http
import StudyPlanner.Render.Escape
import StudyPlanner.Render.Links
import StudyPlanner.Calendar.Civil
import StudyPlanner.Calendar.Moment
import StudyPlanner.Calendar.Text
import StudyPlanner.Form.Check
import StudyPlanner.Web.Query
import StudyPlanner.Model.Records
import StudyPlanner.Web.Nav
import StudyPlanner.Web.Route
import StudyPlanner.Proto.Writer
import StudyPlanner.Proto.Message
import StudyPlanner.Proto.Account
import StudyPlanner.Proto.Roadmaps
import StudyPlanner.Proto.Subjects
import StudyPlanner.Proto.Cards
import StudyPlanner.Proto.Topics
import StudyPlanner.Proto.Search
import StudyPlanner.Service.Session
import StudyPlanner.Service.Replies
import StudyPlanner.Service.Operation
import StudyPlanner.Service.Calls
import StudyPlanner.Toml.Syntax
import StudyPlanner.Toml.Fault
import StudyPlanner.Toml.Scan
import StudyPlanner.Toml.Number
import StudyPlanner.Toml.Tree
import StudyPlanner.Toml.Value
import StudyPlanner.Toml.Document
import StudyPlanner.Toml.Report
import StudyPlanner.Toml.Emit
import StudyPlanner.Toml.Typed
import StudyPlanner.Config.Client
import StudyPlanner.Markdown.Punctuation
import StudyPlanner.Markdown.Entity
import StudyPlanner.Markdown.Event
import StudyPlanner.Markdown.Html
import StudyPlanner.Markdown.Scanners
import StudyPlanner.Markdown.Inline
import StudyPlanner.Markdown.Line
import StudyPlanner.Markdown.Block
import StudyPlanner.Markdown.Parser
import StudyPlanner.Markdown.Document
import StudyPlanner.Render.Markdown
import StudyPlanner.Render.Block
import StudyPlanner.View.Node
import StudyPlanner.View.Components
import StudyPlanner.App.Server
import StudyPlanner.App.Connection
import StudyPlanner.App.Action
import StudyPlanner.App.Page.Entry
import StudyPlanner.App.Page.Account
import StudyPlanner.App.Page.Home
import StudyPlanner.App.Page.Roadmap
import StudyPlanner.App.Page.Subject
import StudyPlanner.App.Page.Resource
import StudyPlanner.App.Page.Section
import StudyPlanner.App.Page.Topic
import StudyPlanner.App.Page.Card
import StudyPlanner.App.Runtime
import StudyPlanner.App.Scenario
import StudyPlanner.Proofs.Frames
import StudyPlanner.Proofs.Client
import StudyPlanner.Proofs.SessionRun
import StudyPlanner.Proofs.CallRequests
import StudyPlanner.Proofs.Replies
import StudyPlanner.Proofs.Decimal
import StudyPlanner.Proofs.FormQuery
import StudyPlanner.Proofs.Navigation
import StudyPlanner.Proofs.RouteUrl
import StudyPlanner.Proofs.HtmlText
import StudyPlanner.Proofs.CardHtml
import StudyPlanner.Proofs.Showings
import StudyPlanner.Proofs.GuardedCalls
import StudyPlanner.Proofs.TrailerText
import StudyPlanner.Proofs.ResponseOrder
import StudyPlanner.Proofs.CallReplies
import StudyPlanner.Proofs.PageFaults
import StudyPlanner.Proofs.MetadataOrder
import StudyPlanner.Proofs.CivilDays
import StudyPlanner.Proofs.DayText
import StudyPlanner.Proofs.EpochSeconds
import StudyPlanner.Proofs.ActionProtocol
import StudyPlanner.Proofs.QueryLookup
import StudyPlanner.Proofs.BlockHtml
import StudyPlanner.Proofs.SearchRace
import StudyPlanner.Proofs.TomlStrings
import StudyPlanner.Proofs.ConfigToml
