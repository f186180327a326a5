import Preflight.Json.Shape
import Preflight.Proofs.Json.Magnitude

/-!
# Data read back off JSON values

Among members with different keys, the fields of a record are what stands
under their keys. Counts, texts and lists of what is read back are read back
themselves, and a count can be held back, since it lies in the range of
floating point numbers.
-/

namespace Preflight.Json

/-! ## Members of records -/

/-- The members of an object whose keys all have a text. -/
def membersOf (fields : List (String × Json)) :
    List (Option String × Json) :=
  fields.map fun field => (some field.1, field.2)

theorem filter_membersOf_eq_nil {fields : List (String × Json)}
    {key : String} (absent : key ∉ fields.map Prod.fst) :
    (membersOf fields).filter (fun member => member.1 = some key) = [] := by
  rw [List.filter_eq_nil_iff]
  intro member listed same
  obtain ⟨field, inFields, rfl⟩ := List.mem_map.1 listed
  have sameKey : field.1 = key := by simpa using same
  exact absent (sameKey ▸ List.mem_map_of_mem inFields)

/-- Among different keys, the member with a key is the one that is looked
up. -/
theorem member?_membersOf {fields : List (String × Json)}
    (different : (fields.map Prod.fst).Nodup) (key : String) :
    member? key (membersOf fields) = some (fields.lookup key) := by
  induction fields with
  | nil => rfl
  | cons field rest inductionHypothesis =>
      obtain ⟨name, value⟩ := field
      obtain ⟨notLater, differentLater⟩ := List.nodup_cons.1 different
      unfold member? membersOf at inductionHypothesis ⊢
      rw [List.map_cons]
      by_cases same : name = key
      · subst same
        have noneLater := filter_membersOf_eq_nil notLater
        rw [membersOf] at noneLater
        rw [List.filter_cons_of_pos (by simp), noneLater]
        simp
      · have otherKey : (key == name) = false := by simpa using Ne.symm same
        rw [List.filter_cons_of_neg (by simpa using same),
          inductionHypothesis differentLater, List.lookup_cons, otherKey]

/-- The only member with a key is found in any order of the members. -/
theorem member?_eq_of_perm {members others : List (Option String × Json)}
    (same : members.Perm others) {key : String} {found : Option Json}
    (read : member? key others = some found) :
    member? key members = some found := by
  have sameKept :=
    same.filter (fun member => decide (member.1 = some key))
  unfold member? at read ⊢
  generalize others.filter _ = kept at read sameKept
  cases kept with
  | nil =>
      rwa [sameKept.eq_nil]
  | cons first more =>
      cases more with
      | nil =>
          rwa [List.perm_singleton.1 sameKept]
      | cons second rest =>
          cases read

theorem member?_append_of_absent {members extras : List (String × Json)}
    {key : String} (absent : key ∉ extras.map Prod.fst) :
    member? key (membersOf (members ++ extras)) =
      member? key (membersOf members) := by
  rw [member?, membersOf, List.map_append, List.filter_append, ← membersOf,
    ← membersOf, filter_membersOf_eq_nil absent, List.append_nil, member?]

theorem mapM_eq_some_map {α β : Type} {read : α → Option β} {value : α → β}
    {items : List α} (each : ∀ item ∈ items, read item = some (value item)) :
    items.mapM read = some (items.map value) := by
  induction items with
  | nil =>
      rfl
  | cons item rest inductionHypothesis =>
      obtain ⟨readHere, readLater⟩ := List.forall_mem_cons.1 each
      rw [List.mapM_cons, readHere, inductionHypothesis readLater]
      rfl

/-- The fields of a record are what is looked up under their keys, in any order
of its members and among members with other keys. -/
theorem fields?_record_of_perm {members known extras : List (String × Json)}
    (same : members.Perm (known ++ extras))
    (different : (known.map Prod.fst).Nodup) {keys : List String}
    (absent : ∀ key ∈ keys, key ∉ extras.map Prod.fst) :
    fields? keys (record members) =
      some (keys.map fun key => known.lookup key) := by
  have allNamed :
      ((membersOf members).all fun member => member.1.isSome) = true := by
    simp [membersOf]
  rw [record, ← membersOf, fields?, if_pos allNamed]
  apply mapM_eq_some_map
  intro key wanted
  apply member?_eq_of_perm (same.map fun field => (some field.1, field.2))
  rw [← membersOf, member?_append_of_absent (absent key wanted)]
  exact member?_membersOf different key

theorem fields?_record {fields : List (String × Json)}
    (different : (fields.map Prod.fst).Nodup) (keys : List String) :
    fields? keys (record fields) =
      some (keys.map fun key => fields.lookup key) := by
  have noExtras : fields.Perm (fields ++ []) := by
    rw [List.append_nil]
  exact fields?_record_of_perm noExtras different (by simp)

/-! ## Values read back -/

section ReadBack

variable {α : Type} {item? : Json → Option α} {toJson : α → Json}

theorem list?_map {values : List α}
    (readBack : ∀ value ∈ values, item? (toJson value) = some value) :
    list? item? (.array (values.map toJson)) = some values := by
  have allRead : values.mapM (item? ∘ toJson) = some (values.map id) :=
    mapM_eq_some_map readBack
  rw [list?, List.mapM_map, allRead, List.map_id]

theorem optional?_map {value : Option α}
    (notNull : ∀ present, toJson present ≠ .null)
    (readBack : ∀ present ∈ value, item? (toJson present) = some present) :
    optional? item? (value.map toJson) = some value := by
  cases value with
  | none => rfl
  | some present =>
      rw [Option.map_some, optional?, readBack present rfl, Option.map_some]
      intro isNull
      exact notNull present isNull

end ReadBack

theorem count?_count {n : Nat} (small : n ≤ maxCount) :
    count? (count n) = some n := by
  simp [count?, count, Number.isNatural, small]

theorem text?_text (text : String) : text? (Json.text text) = some text :=
  rfl

theorem areMembersHoldable_iff {depth : Nat}
    {fields : List (String × Json)} :
    areMembersHoldable depth (membersOf fields) = true ↔
      ∀ field ∈ fields, isHoldable depth field.2 = true := by
  induction fields with
  | nil =>
      simp [membersOf, areMembersHoldable]
  | cons field rest inductionHypothesis =>
      rw [List.forall_mem_cons, ← inductionHypothesis]
      simp [membersOf, areMembersHoldable]

theorem isHoldable_integer (negative : Bool) {n : Nat} (small : n ≤ maxCount)
    (depth : Nat) :
    isHoldable depth (.number { negative, whole := n }) = true := by
  rw [isHoldable]
  exact Number.isSome_toBinary64?_of_integer negative small

theorem isHoldable_count {n : Nat} (small : n ≤ maxCount) (depth : Nat) :
    isHoldable depth (count n) = true :=
  isHoldable_integer false small depth

/-- Null, truth values, texts, and whole numbers of either sign with the
magnitude of a count. -/
inductive IsPlain : Json → Prop
  | null : IsPlain .null
  | bool (value : Bool) : IsPlain (.bool value)
  | text (text : String) : IsPlain (Json.text text)
  | integer (negative : Bool) {n : Nat} :
      n ≤ maxCount → IsPlain (.number { negative, whole := n })

theorem IsPlain.isHoldable {value : Json} (plain : IsPlain value)
    (depth : Nat) : isHoldable depth value = true := by
  cases plain with
  | null => simp [Json.isHoldable]
  | bool value => simp [Json.isHoldable]
  | text text => simp [Json.text, Json.isHoldable]
  | integer negative small => exact isHoldable_integer negative small depth

end Preflight.Json
