import Preflight.Entrypoint
import Preflight.Issue
import Preflight.Keyword
import Preflight.Settings.Basic
import Preflight.TokenCount

/-!
# Document rules

Two rules look at the text as a whole: it should declare the entrypoint, and
it should not use long-form keywords. The same pass takes the measures that
depend on the text alone.
-/

namespace Preflight.Rule

/-- What the document rules find. -/
structure DocumentFindings where
  issues : List Issue
  estimatedTokenCount : Nat
  comparativeTokenCount : Nat
  keywordHitCount : Nat
  deriving DecidableEq, Repr

/-- The issue of a text without the entrypoint of this name. -/
def missingEntrypoint (name : String) : Issue :=
  { severity := .warn
    message := "No " ++ name ++ " entrypoint found."
    suggestion :=
      some ("Add `f " ++ name ++ "()` as the program entrypoint.") }

/-- The issue of a text with long-form keywords. -/
def longformKeywords : Issue :=
  { severity := .info
    message :=
      "Detected long-form keywords. FORMA shorthand can reduce token usage."
    suggestion :=
      some ("Prefer `f`, `s`, `e`, `m`, `wh`, `ret`, `as`, `sp`, `aw` " ++
        "where appropriate.") }

/-- The entrypoint issue of a text, if it has one. -/
def entrypointIssues (name : String) (text : List Char) : List Issue :=
  if Entrypoint.isDeclared name.toList text then []
  else [missingEntrypoint name]

/-- The keyword issue of a text, if it has one. -/
def keywordIssues (text : List Char) : List Issue :=
  if 0 < Vocabulary.longform.count text then [longformKeywords] else []

/-- What the document rules find in a text. -/
def documentFindings (settings : Settings) (text : List Char) :
    Except Fault DocumentFindings :=
  (TokenCount.estimate text.length settings.charsPerToken).map
    fun estimated =>
      { issues :=
          entrypointIssues settings.entrypoint text ++ keywordIssues text
        estimatedTokenCount := estimated
        comparativeTokenCount :=
          TokenCount.comparative estimated settings.comparativeTokenRatio
        keywordHitCount := Vocabulary.shorthand.count text }

/-- With a positive token length no text causes a fault. -/
theorem documentFindings_isOk {settings : Settings}
    (positive : settings.charsPerToken ≠ 0) (text : List Char) :
    ∃ findings, documentFindings settings text = .ok findings := by
  unfold documentFindings TokenCount.estimate
  rw [if_neg positive]
  exact ⟨_, rfl⟩

end Preflight.Rule
