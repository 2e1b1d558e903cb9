import DrivewayWatch.Arguments
import DrivewayWatch.Bytes.Base64
import DrivewayWatch.Bytes.Hex
import DrivewayWatch.Bytes.Sha256
import DrivewayWatch.Configuration
import DrivewayWatch.Control.Mute
import DrivewayWatch.Control.Photo
import DrivewayWatch.Control.Refusal
import DrivewayWatch.Control.Server
import DrivewayWatch.Control.Settings
import DrivewayWatch.Counter
import DrivewayWatch.Description.Answer
import DrivewayWatch.Description.Request
import DrivewayWatch.Description.Settings
import DrivewayWatch.Detection
import DrivewayWatch.Dispatch
import DrivewayWatch.Environment
import DrivewayWatch.Environment.File
import DrivewayWatch.Failure
import DrivewayWatch.Geometry
import DrivewayWatch.HealthPing
import DrivewayWatch.Identifier
import DrivewayWatch.Image.Checksum
import DrivewayWatch.Image.Inflate
import DrivewayWatch.Image.Jpeg.Reading
import DrivewayWatch.Image.Jpeg.Scan
import DrivewayWatch.Image.Jpeg.Tables
import DrivewayWatch.Image.Jpeg.Transform
import DrivewayWatch.Image.Jpeg.Writing
import DrivewayWatch.Image.Picture
import DrivewayWatch.Image.Png
import DrivewayWatch.Image.PrefixCode
import DrivewayWatch.ImageCopy
import DrivewayWatch.Intake.Liveness
import DrivewayWatch.Intake.Record
import DrivewayWatch.Intake.Settings
import DrivewayWatch.Intake.Stream
import DrivewayWatch.Json.Decode
import DrivewayWatch.Json.Document
import DrivewayWatch.Json.Numeral
import DrivewayWatch.Json.Printer
import DrivewayWatch.Json.Value
import DrivewayWatch.Main
import DrivewayWatch.MuteWindow
import DrivewayWatch.Net.Address
import DrivewayWatch.Net.Http
import DrivewayWatch.Net.Url
import DrivewayWatch.Notification
import DrivewayWatch.Ntfy.Message
import DrivewayWatch.Ntfy.Priority
import DrivewayWatch.Ntfy.Settings
import DrivewayWatch.Number.Binary64
import DrivewayWatch.Number.Decimal
import DrivewayWatch.Number.Nearest
import DrivewayWatch.Number.Scalar
import DrivewayWatch.Number.Shortest
import DrivewayWatch.Number.Word
import DrivewayWatch.PhotoStore
import DrivewayWatch.Proofs.Time.Reading
import DrivewayWatch.Proofs.Tracking.Announcement
import DrivewayWatch.Proofs.Tracking.Continuity
import DrivewayWatch.Proofs.Tracking.Separation
import DrivewayWatch.Proofs.Tracking.Gap
import DrivewayWatch.Proofs.Tracking.Correspondence
import DrivewayWatch.Proofs.Tracking.Loosening
import DrivewayWatch.Proofs.Tracking.Indifference
import DrivewayWatch.Proofs.Tracking.Shift
import DrivewayWatch.Rule.Arithmetic
import DrivewayWatch.Rule.Evaluation
import DrivewayWatch.Rule.Expression
import DrivewayWatch.Rule.Fault
import DrivewayWatch.Rule.Function
import DrivewayWatch.Rule.Token
import DrivewayWatch.Rule.TrackRule
import DrivewayWatch.Rule.Value
import DrivewayWatch.SettingsFault
import DrivewayWatch.Text.Blank
import DrivewayWatch.Text.CaseMap
import DrivewayWatch.Text.CaseMap.Table
import DrivewayWatch.Text.Lines
import DrivewayWatch.Text.Pattern
import DrivewayWatch.Text.Search
import DrivewayWatch.Text.Utf8
import DrivewayWatch.Time.Calendar
import DrivewayWatch.Time.Duration
import DrivewayWatch.Time.DurationText
import DrivewayWatch.Time.Instant
import DrivewayWatch.Time.Printing
import DrivewayWatch.Time.Reading
import DrivewayWatch.Time.Timeout
import DrivewayWatch.Tracking.Criteria
import DrivewayWatch.Tracking.Settings
import DrivewayWatch.Tracking.Track
import DrivewayWatch.Tracking.Tracker
import DrivewayWatch.Watch
import DrivewayWatch.Proofs.Dispatch.Debounce
import DrivewayWatch.Proofs.Control.Command
import DrivewayWatch.Proofs.Control.Unmuting
import DrivewayWatch.Proofs.Control.Keys
import DrivewayWatch.Proofs.Intake.Skipping
import DrivewayWatch.Proofs.Json.Tokens
import DrivewayWatch.Proofs.Text.Utf8
import DrivewayWatch.Proofs.Control.Sequence
import DrivewayWatch.Proofs.Control.Buttons
import DrivewayWatch.Proofs.Dispatch.Handling
import DrivewayWatch.Proofs.Dispatch.Photos
import DrivewayWatch.Proofs.Dispatch.Policy
import DrivewayWatch.Proofs.Dispatch.Omission
import DrivewayWatch.Proofs.Interplay.Parties
import DrivewayWatch.Proofs.Interplay.Accounts
import DrivewayWatch.Proofs.Interplay.Safety
import DrivewayWatch.Proofs.Control.Overlap
import DrivewayWatch.Proofs.Intake.Frames
import DrivewayWatch.Proofs.Geometry.Overlap
import DrivewayWatch.Proofs.Tracking.Majority
import DrivewayWatch.Proofs.Tracking.Purity
import DrivewayWatch.Proofs.Json.Record
import DrivewayWatch.Proofs.Json.Quoting
import DrivewayWatch.Proofs.Description.Envelope
import DrivewayWatch.Proofs.Description.Asking
import DrivewayWatch.Proofs.Dispatch.Bookkeeping
import DrivewayWatch.Proofs.Control.Links
import DrivewayWatch.Proofs.Control.Labels
import DrivewayWatch.Proofs.Tracking.FirstGreatest
import DrivewayWatch.Proofs.Tracking.Records
import DrivewayWatch.Proofs.Geometry.Similarity
import DrivewayWatch.Proofs.Geometry.Extent
import DrivewayWatch.Proofs.Number.Exact
import DrivewayWatch.Proofs.Number.Rounding
import DrivewayWatch.Proofs.Number.Unpacked
import DrivewayWatch.Proofs.Number.Packed
import DrivewayWatch.Proofs.Time.Configured
import DrivewayWatch.Proofs.Tracking.Checks
import DrivewayWatch.Proofs.Text.Blank
import DrivewayWatch.Proofs.Number.Spelling
import DrivewayWatch.Proofs.Json.Proper
import DrivewayWatch.Proofs.Control.Seconds
import DrivewayWatch.Proofs.Json.Keys
import DrivewayWatch.Proofs.Description.Fences
import DrivewayWatch.Proofs.Dispatch.Degrading
import DrivewayWatch.Proofs.Number.Extended
import DrivewayWatch.Proofs.Number.Operations
import DrivewayWatch.Proofs.Number.Positive
import DrivewayWatch.Proofs.Settings.Seconds
import DrivewayWatch.Proofs.Intake.Reports
import DrivewayWatch.Proofs.Dispatch.Copies
import DrivewayWatch.Proofs.Ntfy.MuteLabel
import DrivewayWatch.Proofs.Notification
