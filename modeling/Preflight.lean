import Preflight.File.Tree
import Preflight.Main
import Preflight.Proofs.CommandLine.Outcome
import Preflight.Proofs.IssueList
import Preflight.Proofs.Joined
import Preflight.Proofs.LineEnding
import Preflight.Proofs.Verdict
import Preflight.Session
import Preflight.Proofs.Render
import Preflight.Proofs.File.Path
import Preflight.Proofs.Settings.Discovery
import Preflight.Proofs.Binary64.Value
import Preflight.Proofs.Rule.Fault
import Preflight.Proofs.Text.Name
import Preflight.Proofs.Validation
import Preflight.Proofs.Preview
import Preflight.Proofs.Delimiter.Inserted
import Preflight.Proofs.File.Spelt
import Preflight.Proofs.CommandLine.Arguments
import Preflight.Proofs.CommandLine.Isolation
import Preflight.Proofs.Pattern.Matches
import Preflight.Proofs.Pattern.Literal
import Preflight.Proofs.Entrypoint.Spelling
import Preflight.Proofs.Threshold
import Preflight.Proofs.Tab
import Preflight.Proofs.Render.Lossless
import Preflight.Proofs.Settings.Overrides
import Preflight.Proofs.Render.Color
import Preflight.Proofs.Text.LineBreak
import Preflight.Proofs.Preview.Rendering
import Preflight.Proofs.TokenCount.Overflow
import Preflight.Proofs.TokenCount.Comparative
