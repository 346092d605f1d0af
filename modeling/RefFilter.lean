import RefFilter.Service.Handler
import RefFilter.Proofs.Basic
import RefFilter.Proofs.Text.Utf8
import RefFilter.Proofs.Text.Spelling
import RefFilter.Proofs.Text.Quoted
import RefFilter.Proofs.Json.Text
import RefFilter.Proofs.Json.Indented
import RefFilter.Proofs.Json.Lines
import RefFilter.Proofs.Json.Bound
import RefFilter.Proofs.Regex.Denotation
import RefFilter.Proofs.Regex.Regular
import RefFilter.Proofs.Regex.Reading
import RefFilter.Proofs.Regex.Limits
import RefFilter.Proofs.Regex.Literal
import RefFilter.Proofs.Regex.Points
import RefFilter.Proofs.Wildcard.Glob
import RefFilter.Proofs.Wildcard.Expression
import RefFilter.Proofs.Rule.Compilation
import RefFilter.Proofs.Rule.Decision
import RefFilter.Proofs.Rule.OnUse
import RefFilter.Proofs.Rule.Construction
import RefFilter.Proofs.Rule.Alike
import RefFilter.Proofs.Rule.Languages
import RefFilter.Proofs.Rule.Displayed
import RefFilter.Proofs.FilterSet.Split
import RefFilter.Proofs.FilterSet.Composition
import RefFilter.Proofs.FilterSet.Partition
import RefFilter.Proofs.FilterSet.Separation
import RefFilter.Proofs.Rule.FirstFailure
import RefFilter.Proofs.FilterSet.Reasons
import RefFilter.Proofs.Config.Reading
import RefFilter.Proofs.Config.Defaults
import RefFilter.Proofs.Config.Blank
import RefFilter.Proofs.Config.Exclusion
import RefFilter.Proofs.Config.Document
import RefFilter.Proofs.Config.File
import RefFilter.Proofs.Config.Failure
import RefFilter.Proofs.Config.Readers
import RefFilter.Proofs.Config.Acceptance
import RefFilter.Proofs.Config.Spellings
import RefFilter.Proofs.Config.Legacy
import RefFilter.Proofs.Config.Promises
import RefFilter.Proofs.Config.Prediction
import RefFilter.Proofs.Config.Labels
import RefFilter.Proofs.Config.Unread
import RefFilter.Proofs.Lookup
import RefFilter.Proofs.Service.Bodies
import RefFilter.Proofs.Service.Installed
import RefFilter.Proofs.Service.Reinstall
import RefFilter.Proofs.Service.Batch
import RefFilter.Proofs.Service.Evaluation
import RefFilter.Proofs.Reference.Formation
import RefFilter.Proofs.Service.DryRun
import RefFilter.Proofs.Service.Limits
import RefFilter.Proofs.Service.Startup
import RefFilter.Proofs.Service.Health
import RefFilter.Proofs.Json.Bound
