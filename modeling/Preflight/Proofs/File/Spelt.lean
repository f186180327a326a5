import Preflight.Proofs.File.Path

/-!
# Paths that a text spells

A path that comes from a text can be written as a text again, and so can
everything that going up from it and down to a name leads to.
-/

namespace Preflight.File.Path

def Spelt (path : Path) : Prop :=
  path.components ≠ [] ∧ ∀ component ∈ path.components, '/' ∉ component.toList

theorem not_mem_of_mem_splitOn {c : Char} (text : List Char) :
    ∀ part ∈ text.splitOn c, c ∉ part := by
  induction text with
  | nil =>
      simp
  | cons first rest inductionHypothesis =>
      rw [List.splitOn_cons_eq_if_modifyHead]
      obtain ⟨part, more, parts⟩ :=
        List.exists_cons_of_ne_nil (List.splitOn_ne_nil c rest)
      rw [parts] at inductionHypothesis ⊢
      by_cases same : first = c
      · subst same
        simpa using inductionHypothesis
      · have other : ¬ c = first := fun equal => same equal.symm
        simpa [same, other] using inductionHypothesis

theorem spelt_ofString (text : String) : (ofString text).Spelt := by
  constructor
  · simp [ofString]
  · intro component member
    obtain ⟨part, memberPart, rfl⟩ := List.mem_map.1 member
    rw [String.toList_ofList]
    exact not_mem_of_mem_splitOn text.toList part memberPart

/-- A path that a text can spell is spelt by its own text. -/
theorem Spelt.ofString_toString {path : Path} (spelt : path.Spelt) :
    ofString path.toString = path := by
  obtain ⟨components⟩ := path
  obtain ⟨nonempty, separate⟩ := spelt
  have split :
      (['/'].intercalate (components.map String.toList)).splitOn '/' =
        components.map String.toList := by
    apply List.splitOn_intercalate
    · simpa using separate
    · simpa using nonempty
  have slash : "/".toList = ['/'] := rfl
  rw [ofString, toString, String.toList_intercalate, slash, split,
    List.map_map]
  simp

/-! ## Going up and down -/

theorem mem_of_mem_dropVoidEnd {component : String} {components : List String}
    (member : component ∈ dropVoidEnd components) :
    component ∈ components := by
  rw [dropVoidEnd, List.mem_reverse] at member
  exact List.mem_reverse.1 ((List.dropWhile_suffix isVoid).subset member)

theorem mem_of_mem_body {path : Path} {component : String}
    (member : component ∈ path.body) : component ∈ path.components := by
  unfold body at member
  split at member
  · exact List.mem_of_mem_drop member
  · exact member

theorem spelt_ofParts {path : Path} (spelt : path.Spelt) {left : List String}
    (kept : ∀ component ∈ left, component ∈ path.components) :
    (ofParts path.anchor? left).Spelt := by
  have separate : ∀ component ∈ left, '/' ∉ component.toList :=
    fun component member => spelt.2 component (kept component member)
  rcases path.anchor?_cases with none | root | dot
  · rw [none]
    cases left with
    | nil =>
        exact ⟨by decide, by decide⟩
    | cons first more =>
        exact ⟨List.cons_ne_nil first more, separate⟩
  · rw [root]
    cases left with
    | nil =>
        exact ⟨by decide, by decide⟩
    | cons first more =>
        exact ⟨List.cons_ne_nil "" _,
          List.forall_mem_cons.2 ⟨by decide, separate⟩⟩
  · rw [dot]
    exact ⟨List.cons_ne_nil "." left,
      List.forall_mem_cons.2 ⟨by decide, separate⟩⟩

theorem Spelt.parent? {path parent : Path} (spelt : path.Spelt)
    (goesUp : path.parent? = some parent) : parent.Spelt := by
  unfold Path.parent? at goesUp
  split at goesUp
  · split at goesUp
    · cases goesUp
      exact ⟨by decide, by decide⟩
    · cases goesUp
  · cases goesUp
    apply spelt_ofParts spelt
    intro component member
    have kept := (List.dropLast_sublist _).subset
      (mem_of_mem_dropVoidEnd member)
    exact mem_of_mem_body (mem_of_mem_dropVoidEnd kept)

theorem Climbs.spelt {path : Path} {directories : List Path}
    (climbs : Climbs path directories) (spelt : path.Spelt) :
    ∀ directory ∈ directories, directory.Spelt := by
  induction climbs with
  | top _ =>
      simpa using spelt
  | up goesUp _ inductionHypothesis =>
      exact List.forall_mem_cons.2
        ⟨spelt, inductionHypothesis (spelt.parent? goesUp)⟩

theorem Spelt.join {directory : Path} (spelt : directory.Spelt)
    {name : String} (separate : '/' ∉ name.toList) :
    (directory.join name).Spelt := by
  unfold Path.join
  split
  · refine ⟨by simp, ?_⟩
    intro component member
    rcases List.mem_append.1 member with above | last
    · exact spelt.2 component ((List.dropLast_sublist _).subset above)
    · rwa [List.mem_singleton.1 last]
  · refine ⟨by simp, ?_⟩
    intro component member
    rcases List.mem_append.1 member with above | last
    · exact spelt.2 component above
    · rwa [List.mem_singleton.1 last]

end Preflight.File.Path
