import Caddyfile.Caret
import Caddyfile.CommandLine
import Caddyfile.Cursor
import Caddyfile.Decimal
import Caddyfile.Document
import Caddyfile.Document.Reading
import Caddyfile.Editor.Completion
import Caddyfile.Editor.Envelope
import Caddyfile.Editor.Event
import Caddyfile.Editor.Frame
import Caddyfile.Editor.Hover
import Caddyfile.Editor.Method
import Caddyfile.Editor.Notice
import Caddyfile.Editor.Params
import Caddyfile.Editor.Session
import Caddyfile.Editor.Shape
import Caddyfile.Editor.Shape.Capabilities
import Caddyfile.Editor.Shape.Document
import Caddyfile.Editor.Shape.Request
import Caddyfile.Editor.Store
import Caddyfile.Fault
import Caddyfile.Finding
import Caddyfile.Forest
import Caddyfile.Json
import Caddyfile.Json.Reading
import Caddyfile.Json.Writing
import Caddyfile.Main
import Caddyfile.Manual
import Caddyfile.Outline
import Caddyfile.Placeholder
import Caddyfile.Position
import Caddyfile.Proofs.Bisection
import Caddyfile.Proofs.Braces
import Caddyfile.Proofs.Grammar
import Caddyfile.Proofs.Grouping
import Caddyfile.Proofs.Nesting
import Caddyfile.Proofs.Place
import Caddyfile.Proofs.Scanning
import Caddyfile.Proofs.Words
import Caddyfile.Report
import Caddyfile.Review
import Caddyfile.Settings
import Caddyfile.Sorted
import Caddyfile.Text.Alphanumeric
import Caddyfile.Text.CharClass
import Caddyfile.Text.Invisible
import Caddyfile.Text.Lines
import Caddyfile.Text.Numeral
import Caddyfile.Text.Quoted
import Caddyfile.Token
import Caddyfile.Token.Scanner
import Caddyfile.Uri.Address
import Caddyfile.Uri.Domain
import Caddyfile.Uri.Domain.Composition
import Caddyfile.Uri.Domain.Direction
import Caddyfile.Uri.Domain.Joining
import Caddyfile.Uri.Domain.Letters
import Caddyfile.Uri.Domain.Marks
import Caddyfile.Uri.Domain.Punycode
import Caddyfile.Uri.Escape
import Caddyfile.Uri.Host
import Caddyfile.Uri.Path
import Caddyfile.Uri.Problem
import Caddyfile.Uri.Reading
import Caddyfile.Vocabulary
import Caddyfile.Proofs.Indentation
import Caddyfile.Proofs.Paths
import Caddyfile.Proofs.Agreement
import Caddyfile.Proofs.Enclosure
import Caddyfile.Proofs.Relabeling
import Caddyfile.Proofs.Seams
import Caddyfile.Proofs.Concatenation
import Caddyfile.Proofs.Scopes
import Caddyfile.Proofs.Judgement
import Caddyfile.Proofs.Rendering
import Caddyfile.Proofs.Offsets
import Caddyfile.Proofs.Locations
import Caddyfile.Proofs.Publishing
import Caddyfile.Proofs.Verdict
import Caddyfile.Proofs.LineEnds
import Caddyfile.Proofs.Isolation
import Caddyfile.Proofs.Spans
import Caddyfile.Proofs.Extents
import Caddyfile.Proofs.Offers
import Caddyfile.Proofs.Shapes
import Caddyfile.Proofs.Neighbours
import Caddyfile.Proofs.Chains
import Caddyfile.Proofs.Addresses
import Caddyfile.Proofs.Omissions
import Caddyfile.Proofs.Locality
import Caddyfile.Proofs.Targets
import Caddyfile.Proofs.Selection
import Caddyfile.Proofs.Pruning
import Caddyfile.Proofs.Descent
import Caddyfile.Proofs.Placeholders
import Caddyfile.Proofs.Depth
import Caddyfile.Proofs.Pairing
import Caddyfile.Proofs.Separation
import Caddyfile.Proofs.Hovering
import Caddyfile.Proofs.Stepping
import Caddyfile.Proofs.Clamping
import Caddyfile.Proofs.Unquoting
import Caddyfile.Proofs.Annotations
import Caddyfile.Proofs.Matching
import Caddyfile.Proofs.ByteOrder
import Caddyfile.Proofs.Lookups
