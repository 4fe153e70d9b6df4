import Drawboard.Binary64.Basic
import Drawboard.Binary64.Shortest
import Drawboard.Binary64.Value
import Drawboard.Canvas.Basic
import Drawboard.Canvas.Coordinate
import Drawboard.Canvas.Frame
import Drawboard.Canvas.Segment
import Drawboard.Color
import Drawboard.Command.Basic
import Drawboard.Command.Parse
import Drawboard.Command.Rejection
import Drawboard.Command.Token
import Drawboard.Command.Verb
import Drawboard.Config.Basic
import Drawboard.Config.File
import Drawboard.Drawing.Basic
import Drawboard.Drawing.Effect
import Drawboard.Drawing.Handler
import Drawboard.Drawing.Run
import Drawboard.Editor
import Drawboard.ErrorList
import Drawboard.Failure
import Drawboard.Files
import Drawboard.Geometry
import Drawboard.Highlight
import Drawboard.Json.Basic
import Drawboard.Json.Plain
import Drawboard.Json.Reader
import Drawboard.Json.Writer
import Drawboard.Pen
import Drawboard.Session.Basic
import Drawboard.Session.Handled
import Drawboard.Session.Request
import Drawboard.Session.Run
import Drawboard.Shape.Basic
import Drawboard.Shape.Log
import Drawboard.Text.Blank
import Drawboard.Text.Invisible
import Drawboard.Text.Letters
import Drawboard.Text.Lower
import Drawboard.Text.Numeral
import Drawboard.Text.Quoted
import Drawboard.Text.Units
import Drawboard.View
import Drawboard.Window
import Drawboard.Window.Run
import Drawboard.Proofs.Breaks
import Drawboard.Proofs.Canonical
import Drawboard.Proofs.Drawings
import Drawboard.Proofs.Exact
import Drawboard.Proofs.Grammar
import Drawboard.Proofs.Handlers
import Drawboard.Proofs.Histories
import Drawboard.Proofs.Record
import Drawboard.Proofs.Replay
import Drawboard.Proofs.Reports
import Drawboard.Proofs.Interruptions
import Drawboard.Proofs.Resizing
import Drawboard.Proofs.Resetting
import Drawboard.Proofs.Settings
import Drawboard.Proofs.Outlines
import Drawboard.Proofs.Display
import Drawboard.Proofs.Faults
import Drawboard.Proofs.Places
import Drawboard.Proofs.Clipping
import Drawboard.Proofs.Trimming
import Drawboard.Proofs.Literals
import Drawboard.Proofs.Documents
import Drawboard.Proofs.Saving
import Drawboard.Proofs.Index
import Drawboard.Proofs.Parts
import Drawboard.Proofs.Printing
import Drawboard.Proofs.Lasting
import Drawboard.Proofs.Extents
import Drawboard.Proofs.Lines
import Drawboard.Proofs.Highlights
import Drawboard.Proofs.Culling
import Drawboard.Proofs.Offsets
import Drawboard.Proofs.Counting
import Drawboard.Proofs.Tiling
import Drawboard.Proofs.Mirrors
import Drawboard.Proofs.Magnitudes
import Drawboard.Proofs.Marks
import Drawboard.Proofs.Words
import Drawboard.Proofs.Listing
