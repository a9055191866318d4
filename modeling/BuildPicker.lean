import BuildPicker.Main
import BuildPicker.Parameter
import BuildPicker.Proofs.Codec.Defects
import BuildPicker.Proofs.Codec.Injectivity
import BuildPicker.Proofs.Codec.Respelling
import BuildPicker.Proofs.Expr.Positions
import BuildPicker.Proofs.History.Duplicates
import BuildPicker.Proofs.Selection.Algebra
import BuildPicker.Proofs.Selection.Failure
import BuildPicker.Proofs.Selection.Flattening
import BuildPicker.Proofs.Selection.Levels
import BuildPicker.Proofs.Selection.Numbers
import BuildPicker.Proofs.Selection.Overrides
import BuildPicker.Proofs.Selection.Queues
import BuildPicker.Proofs.Selection.References
import BuildPicker.Proofs.Selection.Reordering
import BuildPicker.Proofs.Selection.Trimming
import BuildPicker.Proofs.History.BuildRef
import BuildPicker.Proofs.History.Walk
import BuildPicker.Proofs.Template.Splitting
import BuildPicker.Proofs.Document.JsonReading
import BuildPicker.Proofs.Document.Fields
import BuildPicker.Proofs.History.RoundTrip
import BuildPicker.Proofs.Selection.Counter
