import Preflight.Analysis
import Preflight.Json.Reader
import Preflight.Json.Shape
import Preflight.Json.Writer
import Preflight.Report

/-!
# Analyses and reports as data

Analyses, issues and reports are written as JSON records with their fields in
a fixed order, and read back from records in any order. A field of an issue
that is absent is left out. Which kind a report is stands in its field
`status`.
-/

namespace Preflight

open Json

/-! ## Issues -/

def Severity.ofName? (name : String) : Option Severity :=
  if name = "info" then some .info
  else if name = "warn" then some .warn
  else if name = "error" then some .error
  else none

namespace Issue

def keys : List String := ["severity", "message", "line", "suggestion"]

def toJson (issue : Issue) : Json :=
  Json.record
    ([("severity", Json.text issue.severity.name),
        ("message", Json.text issue.message)] ++
      (issue.line.toList.map fun line => ("line", Json.count line)) ++
      (issue.suggestion.toList.map fun suggestion =>
        ("suggestion", Json.text suggestion)))

def severity? (value : Json) : Option Severity :=
  (name? isNull value).bind Severity.ofName?

def ofJson? (value : Json) : Option Issue := do
  match ← fields? keys value with
  | [severity, message, line, suggestion] =>
      let severity ← required? severity? severity
      let message ← required? text? message
      let line ← optional? count? line
      let suggestion ← optional? text? suggestion
      return { severity, message, line, suggestion }
  | _ => none

end Issue

/-! ## Analyses -/

namespace Analysis

def keys : List String :=
  ["non_empty_line_count", "estimated_token_count",
    "comparative_token_count", "keyword_style_hit_count", "issues"]

def toJson (analysis : Analysis) : Json :=
  Json.record
    [("non_empty_line_count", Json.count analysis.nonEmptyLineCount),
      ("estimated_token_count", Json.count analysis.estimatedTokenCount),
      ("comparative_token_count", Json.count analysis.comparativeTokenCount),
      ("keyword_style_hit_count", Json.count analysis.keywordHitCount),
      ("issues", .array (analysis.issues.map Issue.toJson))]

def ofJson? (value : Json) : Option Analysis := do
  match ← fields? keys value with
  | [nonEmptyLines, estimated, comparative, keywordHits, issues] =>
      let nonEmptyLineCount ← required? count? nonEmptyLines
      let estimatedTokenCount ← required? count? estimated
      let comparativeTokenCount ← required? count? comparative
      let keywordHitCount ← required? count? keywordHits
      let issues ← required? (list? Issue.ofJson?) issues
      return {
        nonEmptyLineCount, estimatedTokenCount, comparativeTokenCount,
        keywordHitCount, issues }
  | _ => none

def read? (text : List Char) : Option Analysis :=
  (Json.parse? text).bind ofJson?

def write (layout : Layout) (analysis : Analysis) : String :=
  Json.render layout analysis.toJson

end Analysis

/-! ## Reports -/

namespace Metrics

def keys : List String :=
  ["estimated_token_count", "comparative_token_count",
    "keyword_style_hit_count", "non_empty_line_count"]

def toJson (metrics : Metrics) : Json :=
  Json.record
    [("estimated_token_count", Json.count metrics.estimatedTokenCount),
      ("comparative_token_count", Json.count metrics.comparativeTokenCount),
      ("keyword_style_hit_count", Json.count metrics.keywordHitCount),
      ("non_empty_line_count", Json.count metrics.nonEmptyLineCount)]

def ofJson? (value : Json) : Option Metrics := do
  match ← fields? keys value with
  | [estimated, comparative, keywordHits, nonEmptyLines] =>
      let estimatedTokenCount ← required? count? estimated
      let comparativeTokenCount ← required? count? comparative
      let keywordHitCount ← required? count? keywordHits
      let nonEmptyLineCount ← required? count? nonEmptyLines
      return {
        estimatedTokenCount, comparativeTokenCount, keywordHitCount,
        nonEmptyLineCount }
  | _ => none

end Metrics

namespace Position

def keys : List String := ["line", "column"]

def toJson (position : Position) : Json :=
  Json.record
    [("line", Json.count position.line),
      ("column", Json.count position.column)]

def ofJson? (value : Json) : Option Position := do
  match ← fields? keys value with
  | [line, column] =>
      return ⟨← required? count? line, ← required? count? column⟩
  | _ => none

end Position

namespace FindingKind

def name : FindingKind → String
  | parseError => "heuristic_parse_error"
  | warning => "heuristic_warning"

def ofName? (name : String) : Option FindingKind :=
  if name = "heuristic_parse_error" then some .parseError
  else if name = "heuristic_warning" then some .warning
  else none

/-- The kind of finding that a value names. -/
def ofJson? (value : Json) : Option FindingKind :=
  (name? isNullOrEmpty value).bind ofName?

end FindingKind

namespace Report

def okKeys : List String := ["message", "metrics", "next_step_hint"]

def needsAttentionKeys : List String :=
  ["error_kind", "message", "location", "suggestion"]

def toJson : Report → Json
  | ok message metrics nextStepHint =>
      Json.record
        [("status", Json.text "ok"), ("message", Json.text message),
          ("metrics", metrics.toJson),
          ("next_step_hint", Json.text nextStepHint)]
  | needsAttention kind message location suggestion =>
      Json.record
        [("status", Json.text "needs_attention"),
          ("error_kind", Json.text kind.name),
          ("message", Json.text message), ("location", location.toJson),
          ("suggestion", Json.text suggestion)]

/-- The favourable report whose fields a record spells. -/
def okOfJson? (value : Json) : Option Report := do
  match ← fields? okKeys value with
  | [message, metrics, nextStepHint] =>
      return .ok (← required? text? message)
        (← required? Metrics.ofJson? metrics)
        (← required? text? nextStepHint)
  | _ => none

/-- The report on a finding whose fields a record spells. -/
def needsAttentionOfJson? (value : Json) : Option Report := do
  match ← fields? needsAttentionKeys value with
  | [kind, message, location, suggestion] =>
      return .needsAttention (← required? FindingKind.ofJson? kind)
        (← required? text? message)
        (← required? Position.ofJson? location)
        (← required? text? suggestion)
  | _ => none

/-- The report of the kind with this name whose other fields a record
spells. -/
def ofFields? (status : String) (value : Json) : Option Report :=
  if status = "ok" then okOfJson? value
  else if status = "needs_attention" then needsAttentionOfJson? value
  else none

/-- Split a report into the name of its kind and its other fields, which are
held back until the kind is known. -/
def splitStatus? : Json → Option (String × Json)
  | .array (.string (some status) :: elements) =>
      if areHoldable holdableDepth elements then
        some (status, .array elements)
      else none
  | .object members =>
      match member? "status" members with
      | some (some (.string (some status))) =>
          let others :=
            members.filter fun member => member.1 ≠ some "status"
          if areMembersHoldable holdableDepth others then
            some (status, .object others)
          else none
      | _ => none
  | _ => none

def ofJson? (value : Json) : Option Report :=
  (splitStatus? value).bind fun (status, fields) => ofFields? status fields

def read? (text : List Char) : Option Report :=
  (Json.parse? text).bind ofJson?

def write (layout : Layout) (report : Report) : String :=
  Json.render layout report.toJson

end Report

end Preflight
