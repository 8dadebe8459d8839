import ImportOrder.Main
import ImportOrder.Proofs.Results
import ImportOrder.Proofs.Source.Cut
import ImportOrder.Proofs.Source.Words
import ImportOrder.Proofs.Source.Grammar
import ImportOrder.Proofs.Source.NamedList
import ImportOrder.Proofs.Source.Declaration
import ImportOrder.Proofs.Source.Layout
import ImportOrder.Proofs.Source.Head
import ImportOrder.Proofs.Source.CommentLines
import ImportOrder.Proofs.Source.Blocks
import ImportOrder.Proofs.Source.Coverage
import ImportOrder.Proofs.Source.Attachment
import ImportOrder.Proofs.Source.Frame
import ImportOrder.Proofs.Source.Accounting
import ImportOrder.Proofs.Source.LineNumbers
import ImportOrder.Proofs.Render.Clause
import ImportOrder.Proofs.Render.Sentence
import ImportOrder.Proofs.Source.LineEndings
import ImportOrder.Proofs.Source.Lines
import ImportOrder.Proofs.Render.Region
import ImportOrder.Proofs.Merge.Union
import ImportOrder.Proofs.Merge.Duplicates
import ImportOrder.Proofs.Merge.Relabeling
import ImportOrder.Proofs.Render.RoundTrip
import ImportOrder.Proofs.Render.Kept
import ImportOrder.Proofs.Render.Endings
import ImportOrder.Proofs.Render.OneEnding
import ImportOrder.Proofs.Format.Splice
import ImportOrder.Proofs.Format.Protection
import ImportOrder.Proofs.Format.Survival
import ImportOrder.Proofs.Format.Pass
import ImportOrder.Proofs.Settings.Layering
import ImportOrder.Proofs.Settings.GroupRules
import ImportOrder.Proofs.Settings.Resolution
import ImportOrder.Proofs.Settings.LintLayer
import ImportOrder.Proofs.Arrangement.StableSort
import ImportOrder.Proofs.Arrangement.Ordering
import ImportOrder.Proofs.Arrangement.BindingOrder
import ImportOrder.Proofs.Arrangement.Buckets
import ImportOrder.Proofs.Merge.Repeat
import ImportOrder.Proofs.Merge.Clashes
import ImportOrder.Proofs.Arrangement.Repeat
import ImportOrder.Proofs.Arrangement.Requoting
import ImportOrder.Proofs.Source.Body
import ImportOrder.Proofs.Format.Failures
import ImportOrder.Proofs.Format.Body
import ImportOrder.Proofs.Format.Resolved
import ImportOrder.Proofs.Format.SuppressedLines
import ImportOrder.Proofs.Arrangement.Reordering
import ImportOrder.Proofs.Render.Literal
import ImportOrder.Proofs.Files.Paths
import ImportOrder.Proofs.Files.Aliases
import ImportOrder.Proofs.Files.DataText
import ImportOrder.Proofs.Files.Keys
import ImportOrder.Proofs.Files.Nesting
import ImportOrder.Proofs.Files.NearestRules
import ImportOrder.Proofs.Files.ProjectChain
import ImportOrder.Proofs.Files.Revision
import ImportOrder.Proofs.Run.Remarks
import ImportOrder.Proofs.Run.Fixing
import ImportOrder.Proofs.Run.Reports
import ImportOrder.Proofs.Run.Prediction
