import PortletPage.Delta
import PortletPage.Document
import PortletPage.Event
import PortletPage.Failure
import PortletPage.Hub.Basic
import PortletPage.Hub.Move
import PortletPage.Hub.Request
import PortletPage.Json.Basic
import PortletPage.Json.Decode
import PortletPage.Json.Encode
import PortletPage.Json.Syntax
import PortletPage.Json.Text
import PortletPage.Load
import PortletPage.Page
import PortletPage.Parameters.Basic
import PortletPage.Parameters.Lemmas
import PortletPage.Proofs.Actions
import PortletPage.Proofs.Agreement
import PortletPage.Proofs.Bindings
import PortletPage.Proofs.Changes
import PortletPage.Proofs.Course
import PortletPage.Proofs.Decisions
import PortletPage.Proofs.Delta
import PortletPage.Proofs.Differences
import PortletPage.Proofs.Effect
import PortletPage.Proofs.Erasure
import PortletPage.Proofs.EventTolerance
import PortletPage.Proofs.Events
import PortletPage.Proofs.Histories
import PortletPage.Proofs.Isolation
import PortletPage.Proofs.JsonText
import PortletPage.Proofs.Latest
import PortletPage.Proofs.Leaving
import PortletPage.Proofs.Likeness
import PortletPage.Proofs.Listeners
import PortletPage.Proofs.Lock
import PortletPage.Proofs.Marks
import PortletPage.Proofs.News
import PortletPage.Proofs.Operations
import PortletPage.Proofs.Overlap
import PortletPage.Proofs.Overwriting
import PortletPage.Proofs.Pages
import PortletPage.Proofs.Privacy
import PortletPage.Proofs.Records
import PortletPage.Proofs.Registrations
import PortletPage.Proofs.Repetition
import PortletPage.Proofs.Replay
import PortletPage.Proofs.Requests
import PortletPage.Proofs.Responses
import PortletPage.Proofs.Rewording
import PortletPage.Proofs.Runs
import PortletPage.Proofs.Serial
import PortletPage.Proofs.Serializability
import PortletPage.Proofs.Simulated
import PortletPage.Proofs.Sites
import PortletPage.Proofs.Steps
import PortletPage.Proofs.Switches
import PortletPage.Proofs.Timestamps
import PortletPage.Proofs.Tolerance
import PortletPage.Proofs.Validation
import PortletPage.Proofs.Wire
import PortletPage.Registry
import PortletPage.RenderState
import PortletPage.Scenario.Basic
import PortletPage.Scenario.Play
import PortletPage.Scenario.Session
import PortletPage.Server
import PortletPage.Store
import PortletPage.Submission
import PortletPage.Text
import PortletPage.Timestamp
import PortletPage.Yaml.Cursor
import PortletPage.Yaml.Document
import PortletPage.Yaml.Node
import PortletPage.Yaml.Token.Basic
import PortletPage.Yaml.Token.Block
import PortletPage.Yaml.Token.Flow
import PortletPage.Yaml.Token.Lexer
