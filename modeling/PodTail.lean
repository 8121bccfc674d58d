import PodTail.Age
import PodTail.Api.Client
import PodTail.Api.Manifest
import PodTail.Api.Request
import PodTail.Api.Schema.Container
import PodTail.Api.Schema.Metadata
import PodTail.Api.Schema.Pod
import PodTail.Api.Schema.Volume
import PodTail.Api.Server
import PodTail.Cluster.Memory
import PodTail.Digest.Sha1
import PodTail.Event
import PodTail.Failure
import PodTail.Feed
import PodTail.Json.Fault
import PodTail.Json.Number
import PodTail.Json.Pass
import PodTail.Json.Printer
import PodTail.Json.Reader
import PodTail.Json.Scan
import PodTail.Json.Shape
import PodTail.Json.Value
import PodTail.Labels
import PodTail.Lookup
import PodTail.Main
import PodTail.Net.Form
import PodTail.Net.SocketAddress
import PodTail.Net.Status
import PodTail.Net.Uri
import PodTail.Number.Binary64
import PodTail.Number.Shortest
import PodTail.Options
import PodTail.Pod
import PodTail.Proofs.Api.Address
import PodTail.Proofs.Api.Agreement
import PodTail.Proofs.Api.Manifest
import PodTail.Proofs.Api.Mirror
import PodTail.Proofs.Api.Names
import PodTail.Proofs.Api.Reading
import PodTail.Proofs.Api.Report
import PodTail.Proofs.Api.Restarts
import PodTail.Proofs.Api.Selection
import PodTail.Proofs.Api.Serving
import PodTail.Proofs.Api.Workload
import PodTail.Proofs.Feed.Lines
import PodTail.Proofs.Feed.Pieces
import PodTail.Proofs.Feed.Repair
import PodTail.Proofs.Feed.Written
import PodTail.Proofs.Json.Object
import PodTail.Proofs.Json.Printer
import PodTail.Proofs.Json.Reader
import PodTail.Proofs.Json.Shape
import PodTail.Proofs.Lookup.Asks
import PodTail.Proofs.Lookup.Memory
import PodTail.Proofs.Lookup.Refusals
import PodTail.Proofs.Lookup.Route
import PodTail.Proofs.Lookup.Selector
import PodTail.Proofs.Lookup.Transcript
import PodTail.Proofs.Net.Form
import PodTail.Proofs.Net.Uri
import PodTail.Proofs.Relay.Cancellation
import PodTail.Proofs.Relay.Completion
import PodTail.Proofs.Relay.Course
import PodTail.Proofs.Relay.CutShort
import PodTail.Proofs.Relay.Delivery
import PodTail.Proofs.Relay.Ends
import PodTail.Proofs.Relay.Intake
import PodTail.Proofs.Relay.Position
import PodTail.Proofs.Relay.Settling
import PodTail.Proofs.Relay.Spacing
import PodTail.Proofs.Relay.Step
import PodTail.Proofs.Service.Answers
import PodTail.Proofs.Service.Gate
import PodTail.Proofs.Service.Isolation
import PodTail.Proofs.Service.Keeping
import PodTail.Proofs.Service.Listing
import PodTail.Proofs.Service.Restarts
import PodTail.Proofs.Service.Sharing
import PodTail.Proofs.Service.Shutdown
import PodTail.Proofs.Service.Stillness
import PodTail.Proofs.Service.Undisturbed
import PodTail.Proofs.Service.Waiting
import PodTail.Proofs.Service.World
import PodTail.Proofs.Session.History
import PodTail.Proofs.Session.Lease
import PodTail.Proofs.Session.Step
import PodTail.Proofs.Session.Watching
import PodTail.Proofs.Session.Wire
import PodTail.Proofs.Text.Cut
import PodTail.Proofs.Text.Lines
import PodTail.Proofs.Text.Repair
import PodTail.Proofs.Text.Utf8
import PodTail.Proofs.Web.Handshake
import PodTail.Proofs.Web.Header
import PodTail.Proofs.Web.Token
import PodTail.Relay.Basic
import PodTail.Relay.Run
import PodTail.Selector
import PodTail.Service.Basic
import PodTail.Service.Handler
import PodTail.Service.Launch
import PodTail.Service.World
import PodTail.Session
import PodTail.Target
import PodTail.Text.Ascii
import PodTail.Text.Base64
import PodTail.Text.Blank
import PodTail.Text.Cut
import PodTail.Text.Hex
import PodTail.Text.Quoted
import PodTail.Text.Unshown
import PodTail.Text.Utf8
import PodTail.Time.Calendar
import PodTail.Time.Timestamp
import PodTail.Web.Connection
import PodTail.Web.Frame
import PodTail.Web.Handshake
import PodTail.Web.Header
import PodTail.Web.Message
import PodTail.Web.Route
import PodTail.Web.Token
