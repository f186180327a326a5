import Preflight.Binary64.Text
import Preflight.Text.Word

/-!
# Settings

The thresholds of the rules. Every setting has a default, and settings are
sound when the rules can work with them.
-/

namespace Preflight

/-- The thresholds of the rules. -/
structure Settings where
  /-- Lines with more characters than this are reported. -/
  maxLineLength : Nat := 120
  /-- Leading spaces must be a multiple of this. -/
  indentWidth : Nat := 4
  /-- How many characters make an estimated token. -/
  charsPerToken : Nat := 4
  /-- The divisor from estimated to comparative tokens. -/
  comparativeTokenRatio : Binary64 := ⟨0x3fe3d70a3d70a3d7⟩
  /-- The function in which a program is expected to start. -/
  entrypoint : String := "main"
  deriving DecidableEq, Repr

namespace Settings

/-- What makes settings unsound. -/
inductive Flaw where
  | zeroLineLength
  | zeroIndentWidth
  | zeroCharsPerToken
  | ratioNotPositive (ratio : Binary64)
  | entrypointNotIdentifier (name : String)
  deriving DecidableEq, Repr

def Flaw.message : Flaw → String
  | zeroLineLength => "maxLineLength must be positive"
  | zeroIndentWidth => "indentWidth must be positive"
  | zeroCharsPerToken => "charsPerToken must be positive"
  | ratioNotPositive ratio =>
      "comparativeTokenRatio must be a positive number, got " ++
        ratio.text .message
  | entrypointNotIdentifier name =>
      "entrypoint `" ++ name ++ "` is not an identifier"

/-- The first flaw of settings, in the order of the fields. -/
def flaw? (settings : Settings) : Option Flaw :=
  if settings.maxLineLength = 0 then some .zeroLineLength
  else if settings.indentWidth = 0 then some .zeroIndentWidth
  else if settings.charsPerToken = 0 then some .zeroCharsPerToken
  else if !settings.comparativeTokenRatio.isPositive then
    some (.ratioNotPositive settings.comparativeTokenRatio)
  else if !Text.isIdentifier settings.entrypoint.toList then
    some (.entrypointNotIdentifier settings.entrypoint)
  else none

/-- Settings are sound exactly when each of the five fields is. -/
theorem flaw?_eq_none_iff (settings : Settings) :
    settings.flaw? = none ↔
      settings.maxLineLength ≠ 0 ∧ settings.indentWidth ≠ 0 ∧
        settings.charsPerToken ≠ 0 ∧
        settings.comparativeTokenRatio.isPositive = true ∧
        Text.isIdentifier settings.entrypoint.toList = true := by
  unfold flaw?
  grind

theorem flaw?_default : ({} : Settings).flaw? = none := by
  decide

end Settings

end Preflight
