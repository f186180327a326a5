import Preflight.Analyzer
import Preflight.Record
import Preflight.Render
import Preflight.Settings.FromJson

/-!
# Sessions

A session keeps an analyzer and a current analysis. Steps replace one of the
two, add an issue, or ask about the current analysis. A step that fails leaves
the session as it was.
-/

namespace Preflight

/-- What a session keeps. -/
structure Session where
  analyzer : Analyzer := .standard
  analysis : Analysis := {}

namespace Session

/-- Why a step fails. -/
inductive Error where
  | malformedJson
  | unsound (flaw : Settings.Flaw)
  deriving DecidableEq, Repr

/-- The steps of a session. -/
inductive Step where
  /-- Use the settings that a JSON text spells, or the defaults. -/
  | configure (settings : Option String)
  /-- Analyse a text. -/
  | analyze (text : String)
  /-- Take the analysis that a JSON text spells. -/
  | load (text : String)
  /-- Add an issue to the analysis. -/
  | add (issue : Issue)
  | counts
  | report
  | format (style : Style)
  deriving Repr

/-- The answers to steps. -/
inductive Answer where
  | settings (settings : Settings)
  | analysis (analysis : Analysis)
  | issue (issue : Issue)
  /-- The analysis whose counts are asked for. -/
  | counts (analysis : Analysis)
  | report (report : Report)
  | text (text : String)
  deriving Repr

/-- The analyzer with the settings that a JSON text spells, or the standard
one. -/
def analyzerOf (settings : Option String) : Except Error Analyzer :=
  match settings with
  | none => .ok .standard
  | some text =>
      match Settings.readJson? text.toList with
      | none => .error .malformedJson
      | some settings => (Analyzer.ofSettings settings).mapError .unsound

/-- Take a step: the session behind it and its answer, or an error. -/
def tryStep (session : Session) : Step → Except Error (Session × Answer)
  | .configure settings =>
      (analyzerOf settings).map fun analyzer =>
        ({ session with analyzer }, .settings analyzer.settings)
  | .analyze text =>
      let analysis := session.analyzer.analyze text.toList
      .ok ({ session with analysis }, .analysis analysis)
  | .load text =>
      match Analysis.read? text.toList with
      | none => .error .malformedJson
      | some analysis =>
          .ok ({ session with analysis }, .analysis analysis)
  | .add issue =>
      let analysis := session.analysis.addIssue issue
      .ok ({ session with analysis }, .issue issue)
  | .counts => .ok (session, .counts session.analysis)
  | .report => .ok (session, .report (.ofAnalysis session.analysis))
  | .format style =>
      .ok (session, .text (style.analysisText session.analysis))

/-- Take a step and stay in place if it fails. -/
def step (session : Session) (request : Step) :
    Session × Except Error Answer :=
  match session.tryStep request with
  | .ok (next, answer) => (next, .ok answer)
  | .error error => (session, .error error)

/-- Take steps one after the other. -/
def run : Session → List Step → List (Except Error Answer)
  | _, [] => []
  | session, request :: rest =>
      let (next, answer) := session.step request
      answer :: run next rest

end Session

end Preflight
