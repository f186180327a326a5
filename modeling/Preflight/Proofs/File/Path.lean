import Preflight.File.Path

/-!
# Going up from a path

Going up from a path comes to an end: each parent has fewer components left to
drop, where a dot in front counts as one. So there is one list of directories
from a path up to the top, and the bound on the number of ancestors never cuts
it short.
-/

namespace Preflight.File.Path

/-- The directories from a path on, each the parent of the one before it, up to
one that has no parent. -/
inductive Climbs : Path → List Path → Prop
  | top {path : Path} :
      path.parent? = none → Climbs path [path]
  | up {path parent : Path} {above : List Path} :
      path.parent? = some parent → Climbs parent above →
      Climbs path (path :: above)

/-! ## The components that are left to drop -/

def depth (path : Path) : Nat :=
  (dropVoidEnd path.body).length +
    if path.anchor? = some "." then 1 else 0

theorem length_dropVoidEnd_le (components : List String) :
    (dropVoidEnd components).length ≤ components.length := by
  have kept : (components.reverse.dropWhile isVoid).length ≤
      components.reverse.length :=
    (List.dropWhile_suffix isVoid).length_le
  rw [List.length_reverse] at kept
  rwa [dropVoidEnd, List.length_reverse]

theorem anchor?_cases (path : Path) :
    path.anchor? = none ∨ path.anchor? = some "" ∨
      path.anchor? = some "." := by
  cases found : path.anchor? with
  | none =>
      exact Or.inl rfl
  | some anchor =>
      have void := (Option.filter_eq_some_iff.1 found).2
      simp only [isVoid, Bool.or_eq_true, decide_eq_true_eq] at void
      rcases void with rfl | rfl
      · exact Or.inr (Or.inl rfl)
      · exact Or.inr (Or.inr rfl)

theorem depth_anchored {anchor : String} (void : isVoid anchor = true)
    (behind : List String) :
    depth ⟨anchor :: behind⟩ =
      (dropVoidEnd behind).length + if anchor = "." then 1 else 0 := by
  have found : anchor? ⟨anchor :: behind⟩ = some anchor := by
    simp [anchor?, void]
  simp [depth, body, found]

theorem depth_unanchored {first : String} (solid : isVoid first = false)
    (behind : List String) :
    depth ⟨first :: behind⟩ = (dropVoidEnd (first :: behind)).length := by
  have absent : anchor? ⟨first :: behind⟩ = none := by
    simp [anchor?, solid]
  simp [depth, body, absent]

theorem depth_le_length (path : Path) :
    path.depth ≤ path.components.length := by
  obtain ⟨components⟩ := path
  cases components with
  | nil =>
      exact Nat.le_refl 0
  | cons first behind =>
      cases void : isVoid first with
      | true =>
          have kept := length_dropVoidEnd_le behind
          rw [depth_anchored void, List.length_cons]
          split <;> omega
      | false =>
          rw [depth_unanchored void]
          exact length_dropVoidEnd_le (first :: behind)

theorem depth_ofParts_le (path : Path) (left : List String) :
    (ofParts path.anchor? left).depth ≤
      left.length + if path.anchor? = some "." then 1 else 0 := by
  have kept := length_dropVoidEnd_le left
  rcases path.anchor?_cases with none | root | dot
  · rw [none]
    cases left with
    | nil =>
        decide
    | cons first more =>
        exact depth_le_length ⟨first :: more⟩
  · rw [root]
    cases left with
    | nil =>
        decide
    | cons first more =>
        rw [ofParts, depth_anchored (by decide)]
        · simpa using kept
        · simp
  · rw [dot, ofParts, depth_anchored (by decide)]
    · simpa using kept
    · simp

/-- Going up drops a component at least. -/
theorem depth_lt_of_parent? {path parent : Path}
    (goesUp : path.parent? = some parent) : parent.depth < path.depth := by
  unfold parent? at goesUp
  split at goesUp
  · rename_i nothing
    split at goesUp
    · rename_i dot
      cases goesUp
      have one : path.depth = 1 := by
        rw [depth, nothing, if_pos dot]
        rfl
      rw [one]
      decide
    · cases goesUp
  · rename_i something
    cases goesUp
    have fewer := length_dropVoidEnd_le (dropVoidEnd path.body).dropLast
    have bound :=
      depth_ofParts_le path (dropVoidEnd (dropVoidEnd path.body).dropLast)
    have positive := List.length_pos_iff.2 something
    rw [List.length_dropLast] at fewer
    unfold depth at bound ⊢
    omega

/-! ## The directories up to the top -/

theorem climbs_ancestorsFrom {fuel : Nat} {path : Path}
    (enough : path.depth < fuel) :
    Climbs path (ancestorsFrom fuel path) := by
  induction fuel generalizing path with
  | zero =>
      omega
  | succ fuel inductionHypothesis =>
      rw [ancestorsFrom]
      cases goesUp : path.parent? with
      | none =>
          exact Climbs.top goesUp
      | some parent =>
          have nearer := depth_lt_of_parent? goesUp
          exact Climbs.up goesUp (inductionHypothesis (by omega))

theorem Climbs.unique {path : Path} {directories others : List Path}
    (climbs : Climbs path directories) (climbsToo : Climbs path others) :
    others = directories := by
  induction climbs generalizing others with
  | top isTop =>
      cases climbsToo with
      | top _ =>
          rfl
      | up goesUp _ =>
          rw [isTop] at goesUp
          cases goesUp
  | up goesUp _ inductionHypothesis =>
      cases climbsToo with
      | top isTop =>
          rw [isTop] at goesUp
          cases goesUp
      | up goesUpToo later =>
          rw [goesUp] at goesUpToo
          cases goesUpToo
          rw [inductionHypothesis later]

/-- The ancestors of a path are the directories up to the top, and there is no
other way up. -/
theorem climbs_iff {path : Path} {directories : List Path} :
    Climbs path directories ↔ directories = path.ancestors := by
  have climbs : Climbs path path.ancestors :=
    climbs_ancestorsFrom (Nat.lt_succ_of_le path.depth_le_length)
  constructor
  · exact climbs.unique
  · rintro rfl
    exact climbs

end Preflight.File.Path
