import CarbonSurvey.DottedName
import CarbonSurvey.Condition
import CarbonSurvey.Decimal.Coercion
import CarbonSurvey.Decimal.Layout
import CarbonSurvey.Document.Situation
import CarbonSurvey.Json.Skip
import CarbonSurvey.Document.Model
import CarbonSurvey.Text.Cells
import CarbonSurvey.Text.Emoji
import CarbonSurvey.Text.Ranges
import CarbonSurvey.Text.Width
import CarbonSurvey.Document.Catalogue
import CarbonSurvey.Evaluation.Session
import CarbonSurvey.Report.Summary
import CarbonSurvey.Report.Excerpt
import CarbonSurvey.CommandLine.Execution
import CarbonSurvey.CommandLine.Folder
import CarbonSurvey.Main
import CarbonSurvey.Proofs.Evaluation.Transparency
import CarbonSurvey.Proofs.Evaluation.CutOff
import CarbonSurvey.Proofs.Evaluation.Depth
import CarbonSurvey.Proofs.Evaluation.Cycle
import CarbonSurvey.Proofs.Evaluation.Dependence
import CarbonSurvey.Proofs.Evaluation.Answering
import CarbonSurvey.Proofs.Evaluation.Failure
import CarbonSurvey.Proofs.Evaluation.Openness
import CarbonSurvey.Proofs.Evaluation.Rewriting
import CarbonSurvey.Proofs.Evaluation.Sessions
import CarbonSurvey.Proofs.DottedName.Segments
import CarbonSurvey.Proofs.Condition.Written
import CarbonSurvey.Proofs.Condition.Completion
import CarbonSurvey.Proofs.Document.Catalogue
import CarbonSurvey.Proofs.Document.Situation
import CarbonSurvey.Proofs.Evaluation.Placement
import CarbonSurvey.Proofs.Evaluation.Computed
import CarbonSurvey.Proofs.Condition.Layout
import CarbonSurvey.Proofs.Document.Spelling
import CarbonSurvey.Proofs.Document.Loading
import CarbonSurvey.Proofs.Document.Batch
import CarbonSurvey.Proofs.Report.Marking
import CarbonSurvey.Proofs.Statistics
import CarbonSurvey.Proofs.CommandLine.Execution
