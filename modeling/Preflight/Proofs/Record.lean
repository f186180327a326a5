import Preflight.Proofs.Json.RoundTrip
import Preflight.Proofs.Json.Shape
import Preflight.Record

/-!
# Analyses read back

An analysis whose counts data can carry is read back from what is written for
it. The fields of its record and of its issues are looked up under their keys.
-/

namespace Preflight

open Json

/-! ## Records that can be written -/

theorem Json.writable_record {fields : List (String × Json)}
    (writable : ∀ field ∈ fields, Writable field.2) :
    Writable (record fields) := by
  apply Writable.object
  intro member listed
  obtain ⟨field, inFields, rfl⟩ := List.mem_map.1 listed
  exact writable field inFields

@[simp]
theorem Json.writable_text (text : String) : Writable (Json.text text) :=
  Writable.string (some text)

@[simp]
theorem Json.writable_count (n : Nat) : Writable (Json.count n) := by
  apply Writable.number
  intro c listed
  cases listed

theorem Json.IsPlain.writable {value : Json} (plain : IsPlain value) :
    Writable value := by
  cases plain with
  | null => exact Writable.null
  | bool value => exact Writable.bool value
  | text text => exact writable_text text
  | integer negative small =>
      apply Writable.number
      intro c listed
      cases listed

/-- What is written for a record ends in its closing brace. -/
theorem Json.getLast?_render_record (layout : Layout)
    (fields : List (String × Json)) :
    (render layout (record fields)).toList.getLast? = some '\x7d' := by
  rw [render, String.toList_ofList, record]
  cases fields with
  | nil => rfl
  | cons field more =>
      rw [List.map_cons, write]
      exact List.getLast?_concat

/-! ## Issues -/

namespace Issue

theorem severity?_text (severity : Severity) :
    severity? (Json.text severity.name) = some severity := by
  cases severity <;> decide

theorem fields?_toJson (issue : Issue) :
    fields? keys issue.toJson =
      some
        [some (Json.text issue.severity.name),
          some (Json.text issue.message), issue.line.map Json.count,
          issue.suggestion.map Json.text] := by
  obtain ⟨severity, message, line, suggestion⟩ := issue
  rw [toJson, fields?_record]
  · cases line <;> cases suggestion <;> simp [keys, List.lookup_cons]
  · cases line <;> cases suggestion <;> simp

theorem fields?_optional_toJson (issue : Issue) :
    fields? ["line", "suggestion"] issue.toJson =
      some [issue.line.map Json.count, issue.suggestion.map Json.text] := by
  obtain ⟨severity, message, line, suggestion⟩ := issue
  rw [toJson, fields?_record]
  · cases line <;> cases suggestion <;> simp [List.lookup_cons]
  · cases line <;> cases suggestion <;> simp

theorem ofJson?_toJson {issue : Issue}
    (counted : ∀ line ∈ issue.line, line ≤ maxCount) :
    ofJson? issue.toJson = some issue := by
  have lineRead :
      optional? count? (issue.line.map Json.count) = some issue.line :=
    optional?_map (fun _ => nofun) fun line carried =>
      count?_count (counted line carried)
  have suggestionRead :
      optional? text? (issue.suggestion.map Json.text) =
        some issue.suggestion :=
    optional?_map (fun _ => nofun) fun text _ => text?_text text
  simp [ofJson?, fields?_toJson, required?, severity?_text, text?_text,
    lineRead, suggestionRead]

theorem writable_toJson (issue : Issue) : Writable issue.toJson := by
  obtain ⟨severity, message, line, suggestion⟩ := issue
  apply writable_record
  intro field listed
  simp only [List.mem_append, List.mem_cons, List.mem_map, Option.mem_toList,
    List.not_mem_nil, or_false] at listed
  rcases listed with ((rfl | rfl) | ⟨number, _, rfl⟩) | ⟨text, _, rfl⟩
  · exact writable_text severity.name
  · exact writable_text message
  · exact writable_count number
  · exact writable_text text

end Issue

/-! ## Analyses -/

/-- The counts of an analysis that data can carry. -/
structure Analysis.IsCounted (analysis : Analysis) : Prop where
  nonEmptyLines : analysis.nonEmptyLineCount ≤ maxCount
  estimated : analysis.estimatedTokenCount ≤ maxCount
  comparative : analysis.comparativeTokenCount ≤ maxCount
  keywordHits : analysis.keywordHitCount ≤ maxCount
  lines :
    ∀ issue ∈ analysis.issues, ∀ line ∈ issue.line, line ≤ maxCount

theorem Analysis.fields?_toJson (analysis : Analysis) :
    fields? keys analysis.toJson =
      some
        [some (Json.count analysis.nonEmptyLineCount),
          some (Json.count analysis.estimatedTokenCount),
          some (Json.count analysis.comparativeTokenCount),
          some (Json.count analysis.keywordHitCount),
          some (.array (analysis.issues.map Issue.toJson))] := by
  rw [toJson, fields?_record (by simp)]
  simp [keys, List.lookup_cons]

theorem Analysis.fields?_issues_toJson (analysis : Analysis) :
    fields? ["issues"] analysis.toJson =
      some [some (.array (analysis.issues.map Issue.toJson))] := by
  rw [toJson, fields?_record (by simp)]
  simp [List.lookup_cons]

theorem Analysis.ofJson?_toJson {analysis : Analysis}
    (counted : analysis.IsCounted) :
    ofJson? analysis.toJson = some analysis := by
  have issuesRead :
      list? Issue.ofJson? (.array (analysis.issues.map Issue.toJson)) =
        some analysis.issues :=
    list?_map fun issue member =>
      Issue.ofJson?_toJson (counted.lines issue member)
  simp [ofJson?, fields?_toJson, required?, issuesRead,
    count?_count counted.nonEmptyLines, count?_count counted.estimated,
    count?_count counted.comparative, count?_count counted.keywordHits]

theorem Analysis.writable_toJson (analysis : Analysis) :
    Writable analysis.toJson := by
  have issuesWritable :
      Writable (.array (analysis.issues.map Issue.toJson)) := by
    apply Writable.array
    intro element listed
    obtain ⟨issue, _, rfl⟩ := List.mem_map.1 listed
    exact issue.writable_toJson
  apply writable_record
  simp [issuesWritable]

theorem Analysis.parse?_write (analysis : Analysis) (layout : Layout)
    {space : List Char} (blank : ∀ c ∈ space, isSpace c = true) :
    Json.parse? ((analysis.write layout).toList ++ space) =
      some analysis.toJson := by
  rw [write, Json.render, String.toList_ofList]
  exact Json.parse?_write analysis.writable_toJson layout blank

/-- An analysis is read back from its text, in either layout and with white
space behind it. -/
theorem Analysis.read?_write {analysis : Analysis}
    (counted : analysis.IsCounted) (layout : Layout) {space : List Char}
    (blank : ∀ c ∈ space, isSpace c = true) :
    read? ((analysis.write layout).toList ++ space) = some analysis := by
  rw [read?, analysis.parse?_write layout blank]
  exact ofJson?_toJson counted

/-- An analysis is read back from either layout of its text. In that text an
issue has a line or a suggestion as a member exactly if it carries one, be the
suggestion empty or not. -/
theorem Analysis.survives_either_layout {analysis : Analysis}
    (counted : analysis.IsCounted) :
    read? (analysis.write .compact).toList = some analysis ∧
      read? (analysis.write .pretty).toList = some analysis ∧
      ∀ layout, ∃ document elements,
        Json.parse? (analysis.write layout).toList = some document ∧
          fields? ["issues"] document = some [some (.array elements)] ∧
          elements.map (fields? ["line", "suggestion"]) =
            analysis.issues.map fun issue =>
              some
                [issue.line.map Json.count,
                  issue.suggestion.map Json.text] := by
  have noSpace : ∀ c ∈ ([] : List Char), isSpace c = true := by simp
  have readBack :
      ∀ layout, read? (analysis.write layout).toList = some analysis := by
    intro layout
    have read := read?_write counted layout noSpace
    rwa [List.append_nil] at read
  refine ⟨readBack .compact, readBack .pretty, ?_⟩
  intro layout
  have parsed := analysis.parse?_write layout noSpace
  rw [List.append_nil] at parsed
  refine ⟨analysis.toJson, analysis.issues.map Issue.toJson, parsed,
    analysis.fields?_issues_toJson, ?_⟩
  rw [List.map_map]
  exact List.map_congr_left fun issue _ => issue.fields?_optional_toJson

/-- Counts at their greatest, every kind of escape, a line and a suggestion
that are absent, and a suggestion that is empty. -/
theorem Analysis.survives_either_layout_escapes :
    let issues : List Issue :=
      [{ severity := .error, message := "\"\\/\x00\x08\x0c\n\r\t\x1f\x7fé😀",
          suggestion := some "" },
        { severity := .info, message := "", line := some maxCount }]
    let analysis : Analysis :=
      { nonEmptyLineCount := maxCount, estimatedTokenCount := maxCount,
        keywordHitCount := 0, issues }
    read? (analysis.write .compact).toList = some analysis ∧
      read? (analysis.write .pretty).toList = some analysis ∧
      ∃ document elements,
        Json.parse? (analysis.write .pretty).toList = some document ∧
          fields? ["issues"] document = some [some (.array elements)] ∧
          elements.map (fields? ["line", "suggestion"]) =
            [some [none, some (Json.text "")],
              some [some (Json.count maxCount), none]] := by
  intro issues analysis
  have counted : analysis.IsCounted := by
    constructor
    case lines => simp [analysis, issues]
    all_goals decide
  obtain ⟨compact, pretty, spelt⟩ := survives_either_layout counted
  exact ⟨compact, pretty, spelt .pretty⟩

end Preflight
