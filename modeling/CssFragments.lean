import CssFragments.Analyzer
import CssFragments.Color.Function
import CssFragments.Color.Named
import CssFragments.Editor.Operation
import CssFragments.Journal.Record
import CssFragments.Json.Reader
import CssFragments.Json.Writer
import CssFragments.Proofs.Answerable
import CssFragments.Proofs.Cursor
import CssFragments.Proofs.Folding
import CssFragments.Proofs.Frame.Clamp
import CssFragments.Proofs.Frame.Diagnostics
import CssFragments.Proofs.Frame.Edit
import CssFragments.Proofs.Frame.Offset
import CssFragments.Proofs.Frame.Results
import CssFragments.Proofs.Frame.RoundTrip
import CssFragments.Proofs.Frame.Shift
import CssFragments.Proofs.Frame.StrayBrace
import CssFragments.Proofs.Hoisting
import CssFragments.Proofs.Outline
import CssFragments.Proofs.Rename
import CssFragments.Proofs.RenameEdits
import CssFragments.Proofs.Selection
import CssFragments.Proofs.Server.Run
import CssFragments.Proofs.Session.Basic
import CssFragments.Proofs.Session.Debounce
import CssFragments.Proofs.Session.Lifecycle
import CssFragments.Proofs.Session.Markers
import CssFragments.Proofs.Session.Replay
import CssFragments.Proofs.Text.LineEdit
import CssFragments.Proofs.Text.Lines
import CssFragments.Proofs.Text.Offset
import CssFragments.Proofs.Text.Position
import CssFragments.Proofs.Text.Splice
import CssFragments.Proofs.Tree.Lineage
import CssFragments.Proofs.Tree.WellFormed
import CssFragments.Property.Table
import CssFragments.Server.Respond
import CssFragments.Service
import CssFragments.Settings.Read
import CssFragments.Text.Edit
import CssFragments.Text.Quoted
import CssFragments.Wire.Message
import CssFragments.Wire.Read
import CssFragments.Wire.Write
import CssFragments.Proofs.Frame.Intersection
import CssFragments.Proofs.Text.Word
import CssFragments.Proofs.Completion
import CssFragments.Proofs.Diagnosis
import CssFragments.Proofs.Tree.Outermost
import CssFragments.Proofs.SyntaxErrors
import CssFragments.Proofs.CustomProperty
import CssFragments.Proofs.Palette
import CssFragments.Proofs.HexColor
import CssFragments.Proofs.Settings
import CssFragments.Proofs.CompletionContext
import CssFragments.Proofs.Text.Adjoint
