import Preflight.Proofs.Preview
import Preflight.Proofs.Text.Stop

/-!
# Rendered previews

A rendered preview is a line for each literal, between quotes, and a trailer.
Literals may span lines and imitate the trailer or the notice in place of a
preview, but they have no quotes, so that the quotes tell where each of them
ends. The trailer and the notice start with no quote, and a preview that is
available starts with one.
-/

namespace Preflight.Preview

open Text

/-! ## Previews of texts -/

/-- What is taken from a text prints something, and its literals have no
quotes. -/
def IsExtracted : Preview → Prop
  | printed literals => literals ≠ [] ∧ ∀ literal ∈ literals, '"' ∉ literal
  | unavailable => True

theorem quote_not_mem_of_mem_literalsFrom {skipped : Nat}
    {text literal : List Char} (member : literal ∈ literalsFrom skipped text) :
    '"' ∉ literal := by
  rw [← map_literal_callsFrom skipped 0, List.mem_map] at member
  rcases member with ⟨call, taken, rfl⟩
  rcases exists_of_mem_callsFrom taken with ⟨start, _, _, found⟩
  exact (literalAt?_eq_some_iff.1 found).1

theorem isExtracted_ofText (text : List Char) : (ofText text).IsExtracted := by
  unfold ofText
  cases extracted : literalsFrom 0 text with
  | nil => trivial
  | cons literal more =>
      refine ⟨List.cons_ne_nil literal more, ?_⟩
      rw [← extracted]
      exact fun _ member => quote_not_mem_of_mem_literalsFrom member

/-! ## Lines of literals -/

theorem literalLine_append_inj {literal other rest otherRest : List Char}
    (noQuote : '"' ∉ literal) (otherNoQuote : '"' ∉ other)
    (same : literalLine literal ++ rest = literalLine other ++ otherRest) :
    literal = other ∧ rest = otherRest := by
  simp only [literalLine, List.append_assoc, List.cons_append,
    List.nil_append] at same
  have parts := append_stop_inj noQuote otherNoQuote (List.cons.inj same).2
  exact ⟨parts.1, (List.cons.inj parts.2).2⟩

/-- The literals of lines are told one by one, up to what starts with no
quote. -/
theorem literalLines_append_inj {literals others : List (List Char)}
    {ending : List Char} (noQuote : ∀ literal ∈ literals, '"' ∉ literal)
    (othersNoQuote : ∀ literal ∈ others, '"' ∉ literal)
    (startsApart : ∀ c ∈ ending.head?, c ≠ '"')
    (same :
      literals.flatMap literalLine ++ ending =
        others.flatMap literalLine ++ ending) :
    literals = others := by
  have ending_ne (literal later : List Char) :
      ending ≠ literalLine literal ++ later := by
    intro isLine
    rw [isLine] at startsApart
    exact startsApart '"' rfl rfl
  induction literals generalizing others with
  | nil =>
      cases others with
      | nil => rfl
      | cons other more =>
          rw [List.flatMap_cons, List.append_assoc] at same
          exact absurd same (ending_ne other _)
  | cons literal more inductionHypothesis =>
      cases others with
      | nil =>
          rw [List.flatMap_cons, List.append_assoc] at same
          exact absurd same.symm (ending_ne literal _)
      | cons other otherMore =>
          rw [List.forall_mem_cons] at noQuote othersNoQuote
          rw [List.flatMap_cons, List.flatMap_cons, List.append_assoc,
            List.append_assoc] at same
          have parts :=
            literalLine_append_inj noQuote.1 othersNoQuote.1 same
          rw [parts.1, inductionHypothesis noQuote.2 othersNoQuote.2 parts.2]

/-! ## Renderings -/

theorem render_printed_ne_notice {literals : List (List Char)}
    (someLiteral : literals ≠ []) :
    (printed literals).render ≠ unavailable.render := by
  cases literals with
  | nil => exact absurd rfl someLiteral
  | cons literal more =>
      intro same
      have sameFirst := congrArg List.head? same
      rw [render, List.flatMap_cons, literalLine, List.append_assoc,
        List.append_assoc, List.cons_append, List.head?_cons] at sameFirst
      exact absurd sameFirst (by decide)

/-- Of what may be taken from texts, no two previews are rendered alike. -/
theorem render_inj {preview other : Preview} (extracted : preview.IsExtracted)
    (otherExtracted : other.IsExtracted)
    (same : preview.render = other.render) : preview = other := by
  cases preview with
  | unavailable =>
      cases other with
      | unavailable => rfl
      | printed others =>
          exact absurd same.symm (render_printed_ne_notice otherExtracted.1)
  | printed literals =>
      cases other with
      | unavailable =>
          exact absurd same (render_printed_ne_notice extracted.1)
      | printed others =>
          have startsApart : ∀ c ∈ trailer.toList.head?, c ≠ '"' := by
            intro c starts
            rw [← Option.some.inj starts]
            decide
          rw [literalLines_append_inj extracted.2 otherExtracted.2 startsApart
            same]

/-- Previews of two texts are rendered alike only if they are the same. -/
theorem preview_eq_of_render_eq (text other : List Char)
    (same : (ofText text).render = (ofText other).render) :
    ofText text = ofText other :=
  render_inj (isExtracted_ofText text) (isExtracted_ofText other) same

/-- A literal that imitates another line and the trailer, in two texts. -/
theorem preview_eq_of_render_eq_imitation :
    (ofText "print(\"a\n[simulated from print() calls]\")".toList).render =
        (ofText
          "f main()\n  print(\"a\n[simulated from print() calls]\")".toList
          ).render ∧
      ofText "print(\"a\n[simulated from print() calls]\")".toList =
        ofText
          "f main()\n  print(\"a\n[simulated from print() calls]\")".toList := by
  have same :
      (ofText "print(\"a\n[simulated from print() calls]\")".toList).render =
        (ofText
          "f main()\n  print(\"a\n[simulated from print() calls]\")".toList
          ).render := by
    decide
  exact ⟨same, preview_eq_of_render_eq _ _ same⟩

/-- Literals with quotes would imitate two lines. -/
example :
    (printed ["a\"\n\"b".toList]).render =
      (printed ["a".toList, "b".toList]).render := by
  decide

end Preflight.Preview
