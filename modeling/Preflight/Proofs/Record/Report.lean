import Preflight.Proofs.Record
import Preflight.Proofs.Report

/-!
# Reports read back

A report whose numbers data can carry is read back from what is written for it,
and from its members in any other order with unknown members among them. The
status tells which kind of report it is, wherever it stands.
-/

namespace Preflight

open Json

/-- The measures that data can carry. -/
structure Metrics.IsCounted (metrics : Metrics) : Prop where
  estimated : metrics.estimatedTokenCount ≤ maxCount
  comparative : metrics.comparativeTokenCount ≤ maxCount
  keywordHits : metrics.keywordHitCount ≤ maxCount
  nonEmptyLines : metrics.nonEmptyLineCount ≤ maxCount

theorem Metrics.ofJson?_toJson {metrics : Metrics}
    (counted : metrics.IsCounted) :
    ofJson? metrics.toJson = some metrics := by
  have read :
      fields? keys metrics.toJson =
        some
          [some (Json.count metrics.estimatedTokenCount),
            some (Json.count metrics.comparativeTokenCount),
            some (Json.count metrics.keywordHitCount),
            some (Json.count metrics.nonEmptyLineCount)] := by
    rw [toJson, fields?_record (by simp)]
    simp [keys, List.lookup_cons]
  simp [ofJson?, read, required?, count?_count counted.nonEmptyLines,
    count?_count counted.estimated, count?_count counted.comparative,
    count?_count counted.keywordHits]

@[simp]
theorem Metrics.writable_toJson (metrics : Metrics) :
    Writable metrics.toJson := by
  apply writable_record
  simp

theorem Position.ofJson?_toJson {position : Position}
    (lineCounted : position.line ≤ maxCount)
    (columnCounted : position.column ≤ maxCount) :
    ofJson? position.toJson = some position := by
  have read :
      fields? keys position.toJson =
        some
          [some (Json.count position.line),
            some (Json.count position.column)] := by
    rw [toJson, fields?_record (by simp)]
    simp [keys, List.lookup_cons]
  simp [ofJson?, read, required?, count?_count lineCounted,
    count?_count columnCounted]

@[simp]
theorem Position.writable_toJson (position : Position) :
    Writable position.toJson := by
  apply writable_record
  simp

theorem FindingKind.ofJson?_text (kind : FindingKind) :
    ofJson? (Json.text kind.name) = some kind := by
  cases kind <;> decide

namespace Report

/-- The reports whose numbers data can carry. -/
def IsCounted : Report → Prop
  | ok _ metrics _ => metrics.IsCounted
  | needsAttention _ _ location _ =>
      location.line ≤ maxCount ∧ location.column ≤ maxCount

/-- The fields of a report behind its status. -/
def fields : Report → List (String × Json)
  | ok message metrics nextStepHint =>
      [("message", Json.text message), ("metrics", metrics.toJson),
        ("next_step_hint", Json.text nextStepHint)]
  | needsAttention kind message location suggestion =>
      [("error_kind", Json.text kind.name), ("message", Json.text message),
        ("location", location.toJson), ("suggestion", Json.text suggestion)]

/-- The members of a report in the order in which they are written. -/
def members (report : Report) : List (String × Json) :=
  ("status", Json.text report.status) :: report.fields

theorem toJson_eq_record (report : Report) :
    report.toJson = Json.record report.members := by
  cases report <;> rfl

theorem isHoldable_of_mem_fields {report : Report}
    (counted : report.IsCounted) :
    ∀ field ∈ report.fields, isHoldable holdableDepth field.2 = true := by
  rw [← areMembersHoldable_iff]
  cases report with
  | ok message metrics nextStepHint =>
      simp [fields, membersOf, areMembersHoldable, isHoldable, Json.text,
        Metrics.toJson, Json.record, holdableDepth,
        isHoldable_count counted.estimated,
        isHoldable_count counted.comparative,
        isHoldable_count counted.keywordHits,
        isHoldable_count counted.nonEmptyLines]
  | needsAttention kind message location suggestion =>
      obtain ⟨lineCounted, columnCounted⟩ := counted
      simp [fields, membersOf, areMembersHoldable, isHoldable, Json.text,
        Position.toJson, Json.record, holdableDepth,
        isHoldable_count lineCounted, isHoldable_count columnCounted]

theorem nodup_keys (report : Report) :
    (report.members.map Prod.fst).Nodup := by
  cases report <;> simp [members, fields]

theorem filter_members (report : Report) :
    report.members.filter (fun member => member.1 ≠ "status") =
      report.fields := by
  cases report <;> simp [members, fields]

section Reordered

variable {report : Report} {given extras : List (String × Json)}
  (same : given.Perm (report.members ++ extras))

include same

theorem member?_status_of_perm (unknown : "status" ∉ extras.map Prod.fst) :
    member? "status" (membersOf given) =
      some (some (Json.text report.status)) := by
  apply member?_eq_of_perm (same.map fun field => (some field.1, field.2))
  rw [← membersOf, member?_append_of_absent unknown,
    member?_membersOf report.nodup_keys, members, List.lookup_cons_self]

/-- The members behind the status are the fields of the report and whatever
else is given. -/
theorem filter_perm (unknown : "status" ∉ extras.map Prod.fst) :
    (given.filter fun member => member.1 ≠ "status").Perm
      (report.fields ++ extras) := by
  have allKept : extras.filter (fun member => member.1 ≠ "status") = extras := by
    rw [List.filter_eq_self]
    intro extra listed
    have key := List.mem_map_of_mem (f := Prod.fst) listed
    simpa using fun isStatus : extra.1 = "status" => unknown (isStatus ▸ key)
  have kept := same.filter (fun member => member.1 ≠ "status")
  rwa [List.filter_append, filter_members, allKept] at kept

theorem splitStatus?_of_perm (counted : report.IsCounted)
    (unknown : "status" ∉ extras.map Prod.fst)
    (holdable :
      ∀ extra ∈ extras, isHoldable holdableDepth extra.2 = true) :
    splitStatus? (Json.record given) =
      some
        (report.status,
          Json.record (given.filter fun member => member.1 ≠ "status")) := by
  have othersKept :
      (membersOf given).filter (fun member => member.1 ≠ some "status") =
        membersOf (given.filter fun member => member.1 ≠ "status") := by
    rw [membersOf, membersOf, List.filter_map]
    congr 2
    funext field
    simp
  have othersHoldable :
      areMembersHoldable holdableDepth
          (membersOf (given.filter fun member => member.1 ≠ "status")) =
        true := by
    rw [areMembersHoldable_iff]
    intro field listed
    rcases List.mem_append.1 ((filter_perm same unknown).mem_iff.1 listed) with
      isField | isExtra
    · exact isHoldable_of_mem_fields counted field isField
    · exact holdable field isExtra
  have statusRead := member?_status_of_perm same unknown
  rw [Json.text] at statusRead
  change splitStatus? (.object (membersOf given)) = _
  simp only [splitStatus?, statusRead, othersKept, othersHoldable, if_true]
  rfl

/-- A report is read off its members in any order, among others with keys that
it does not know. -/
theorem ofJson?_of_perm (counted : report.IsCounted)
    (unknown :
      ∀ key ∈ report.members.map Prod.fst, key ∉ extras.map Prod.fst)
    (holdable :
      ∀ extra ∈ extras, isHoldable holdableDepth extra.2 = true) :
    ofJson? (Json.record given) = some report := by
  have different := (List.nodup_cons.1 report.nodup_keys).2
  have statusUnknown := unknown "status" List.mem_cons_self
  have fieldsUnknown :
      ∀ key ∈ report.fields.map Prod.fst, key ∉ extras.map Prod.fst :=
    fun key listed => unknown key (List.mem_cons_of_mem "status" listed)
  have kept := filter_perm same statusUnknown
  have fieldsRead := fields?_record_of_perm kept different fieldsUnknown
  rw [ofJson?, splitStatus?_of_perm same counted statusUnknown holdable]
  change ofFields? report.status _ = some report
  cases report with
  | ok message metrics nextStepHint =>
      change fields? okKeys _ = _ at fieldsRead
      change okOfJson? _ = _
      rw [okOfJson?, fieldsRead]
      simp [fields, required?, text?_text, Metrics.ofJson?_toJson counted,
        List.lookup_cons]
  | needsAttention kind message location suggestion =>
      obtain ⟨lineCounted, columnCounted⟩ := counted
      change fields? needsAttentionKeys _ = _ at fieldsRead
      change needsAttentionOfJson? _ = _
      rw [needsAttentionOfJson?, fieldsRead]
      simp [fields, required?, text?_text, FindingKind.ofJson?_text,
        Position.ofJson?_toJson lineCounted columnCounted, List.lookup_cons]

end Reordered

theorem ofJson?_toJson {report : Report} (counted : report.IsCounted) :
    ofJson? report.toJson = some report := by
  have noExtras : report.members.Perm (report.members ++ []) := by
    rw [List.append_nil]
  rw [toJson_eq_record]
  exact ofJson?_of_perm noExtras counted (by simp) (by simp)

theorem writable_of_mem_members {report : Report} :
    ∀ member ∈ report.members, Writable member.2 := by
  cases report <;> simp [members, fields]

theorem writable_toJson (report : Report) : Writable report.toJson := by
  rw [toJson_eq_record]
  exact writable_record writable_of_mem_members

theorem fields?_errorKind_toJson (report : Report) :
    fields? ["error_kind"] report.toJson =
      some [report.kind?.map fun kind => Json.text kind.name] := by
  rw [toJson_eq_record, fields?_record report.nodup_keys]
  cases report <;> simp [members, fields, kind?, List.lookup_cons]

theorem parse?_write (report : Report) (layout : Layout)
    {space : List Char} (blank : ∀ c ∈ space, isSpace c = true) :
    Json.parse? ((report.write layout).toList ++ space) =
      some report.toJson := by
  rw [write, Json.render, String.toList_ofList]
  exact Json.parse?_write report.writable_toJson layout blank

/-- A report is read back from its text, in either layout and with white space
behind it. -/
theorem read?_write {report : Report} (counted : report.IsCounted)
    (layout : Layout) {space : List Char}
    (blank : ∀ c ∈ space, isSpace c = true) :
    read? ((report.write layout).toList ++ space) = some report := by
  rw [read?, report.parse?_write layout blank]
  exact ofJson?_toJson counted

/-! ## The status tells the kind -/

theorem status_of_okOfJson? {value : Json} {report : Report}
    (read : okOfJson? value = some report) : report.status = "ok" := by
  obtain ⟨found, _, rest⟩ := Option.bind_eq_some_iff.1 read
  split at rest
  · obtain ⟨message, _, rest⟩ := Option.bind_eq_some_iff.1 rest
    obtain ⟨metrics, _, rest⟩ := Option.bind_eq_some_iff.1 rest
    obtain ⟨nextStepHint, _, rest⟩ := Option.bind_eq_some_iff.1 rest
    cases rest
    rfl
  · cases rest

theorem status_of_needsAttentionOfJson? {value : Json} {report : Report}
    (read : needsAttentionOfJson? value = some report) :
    report.status = "needs_attention" := by
  obtain ⟨found, _, rest⟩ := Option.bind_eq_some_iff.1 read
  split at rest
  · obtain ⟨kind, _, rest⟩ := Option.bind_eq_some_iff.1 rest
    obtain ⟨message, _, rest⟩ := Option.bind_eq_some_iff.1 rest
    obtain ⟨location, _, rest⟩ := Option.bind_eq_some_iff.1 rest
    obtain ⟨suggestion, _, rest⟩ := Option.bind_eq_some_iff.1 rest
    cases rest
    rfl
  · cases rest

theorem status_of_ofFields? {status : String} {value : Json}
    {report : Report} (read : ofFields? status value = some report) :
    report.status = status := by
  unfold ofFields? at read
  by_cases isOk : status = "ok"
  · rw [if_pos isOk] at read
    rw [isOk, status_of_okOfJson? read]
  · rw [if_neg isOk] at read
    by_cases needsAttention : status = "needs_attention"
    · rw [if_pos needsAttention] at read
      rw [needsAttention, status_of_needsAttentionOfJson? read]
    · rw [if_neg needsAttention] at read
      cases read

theorem member?_of_splitStatus? {members : List (Option String × Json)}
    {status : String} {others : Json}
    (read : splitStatus? (.object members) = some (status, others)) :
    member? "status" members = some (some (Json.text status)) := by
  simp only [splitStatus?] at read
  split at read
  · rename_i found isText
    split at read
    · cases read
      exact isText
    · cases read
  · cases read

/-- An object that is read as a report names its kind in its only member with
the key of the status. -/
theorem member?_status_of_ofJson? {members : List (Option String × Json)}
    {report : Report} (read : ofJson? (.object members) = some report) :
    member? "status" members = some (some (Json.text report.status)) := by
  obtain ⟨⟨status, others⟩, parted, fieldsRead⟩ :=
    Option.bind_eq_some_iff.1 read
  rw [status_of_ofFields? fieldsRead]
  exact member?_of_splitStatus? parted

/-- A report is read back from either layout of its text, and from every text
of an object with its members in any order and plain members with other keys
among them. Whatever report is read off the text of an object is of the kind
that its status names. -/
theorem survives_reordering {report : Report} (counted : report.IsCounted) :
    report.toJson = Json.record report.members ∧
      (∀ layout, read? (report.write layout).toList = some report) ∧
      (∀ given extras,
        given.Perm (report.members ++ extras) →
        (∀ extra ∈ extras,
          extra.1 ∉ report.members.map Prod.fst ∧ IsPlain extra.2) →
          (∀ layout,
            read? (Json.render layout (Json.record given)).toList =
              some report) ∧
          ∀ text, Json.parse? text = some (Json.record given) →
            read? text = some report) ∧
      ∀ text members other,
        Json.parse? text = some (.object members) →
        read? text = some other →
          member? "status" members = some (some (Json.text other.status)) := by
  have noSpace : ∀ c ∈ ([] : List Char), isSpace c = true := by simp
  refine ⟨report.toJson_eq_record, ?_, ?_, ?_⟩
  · intro layout
    have read := read?_write counted layout noSpace
    rwa [List.append_nil] at read
  · intro given extras same plain
    have unknown :
        ∀ key ∈ report.members.map Prod.fst, key ∉ extras.map Prod.fst := by
      intro key known isExtra
      obtain ⟨extra, listed, rfl⟩ := List.mem_map.1 isExtra
      exact (plain extra listed).1 known
    have recordRead : ofJson? (Json.record given) = some report :=
      ofJson?_of_perm same counted unknown fun extra listed =>
        (plain extra listed).2.isHoldable holdableDepth
    have textRead :
        ∀ text, Json.parse? text = some (Json.record given) →
          read? text = some report := by
      intro text parsed
      rw [read?, parsed]
      exact recordRead
    have writable : Writable (Json.record given) := by
      apply writable_record
      intro member listed
      rcases List.mem_append.1 (same.mem_iff.1 listed) with known | isExtra
      · exact writable_of_mem_members member known
      · exact (plain member isExtra).2.writable
    refine ⟨?_, textRead⟩
    intro layout
    have parsed := Json.parse?_write writable layout noSpace
    rw [List.append_nil] at parsed
    apply textRead
    rwa [Json.render, String.toList_ofList]
  · intro text members other parsed read
    rw [read?, parsed] at read
    exact member?_status_of_ofJson? read

/-- A report on a finding with its status last and, before it, members of the
other kind of report, one key among them given three times. -/
theorem survives_reordering_status_last :
    let report : Report :=
      .needsAttention .parseError "\"\\\x00é" ⟨maxCount, 1⟩ ""
    let extras : List (String × Json) :=
      [("metrics", .null), ("next_step_hint", Json.text "😀"),
        ("metrics", .number { negative := true, whole := maxCount }),
        ("metrics", .bool false), ("", Json.count 0)]
    read?
        (Json.render .pretty
          (Json.record (extras ++ report.members.reverse))).toList =
      some report := by
  intro report extras
  have counted : report.IsCounted := ⟨Nat.le_refl maxCount, by decide⟩
  obtain ⟨_, _, reordered, _⟩ := survives_reordering counted
  have same :
      (extras ++ report.members.reverse).Perm (report.members ++ extras) :=
    List.perm_append_comm.trans
      ((List.reverse_perm report.members).append_right extras)
  have plain :
      ∀ extra ∈ extras,
        extra.1 ∉ report.members.map Prod.fst ∧ IsPlain extra.2 := by
    simp only [extras, List.forall_mem_cons, List.not_mem_nil, false_imp_iff,
      implies_true, and_true]
    exact ⟨⟨by decide, .null⟩, ⟨by decide, .text _⟩,
      ⟨by decide, .integer true (by decide)⟩, ⟨by decide, .bool false⟩,
      ⟨by decide, .integer false (by decide)⟩⟩
  exact (reordered _ extras same plain).1 .pretty

end Report

end Preflight
