import Datatypes.Literal
import Mathlib.Tactic.TFAE

/-! # What the text of a literal tells

The lexical value stands between quotes in the text of a literal, but it is not escaped, so all
that ends it there may also occur within it. What tells the two apart is the URI. If there is no
quote in it, the lexical value ends at the last quote of the text.
-/

namespace Datatypes

/-- The items of a list after the last one that is `x`. -/
def afterLast {α : Type} [DecidableEq α] (x : α) (items : List α) : List α :=
  (items.reverse.takeWhile (· ≠ x)).reverse

theorem afterLast_append_cons {α : Type} [DecidableEq α] {x : α} {after : List α}
    (hafter : x ∉ after) (before : List α) : afterLast x (before ++ x :: after) = after := by
  have hreverse : (before ++ x :: after).reverse = after.reverse ++ x :: before.reverse := by
    simp
  have hother : ∀ y ∈ after.reverse, decide (y ≠ x) = true := by
    intro y hy
    apply decide_eq_true
    rintro rfl
    exact hafter (List.mem_reverse.mp hy)
  rw [afterLast, hreverse, List.takeWhile_append_of_pos hother]
  simp

namespace Literal

/-- The characters of the text of a literal after its lexical value and the quote that ends it. -/
def closing (l : Literal) : List Char :=
  '^' :: '^' :: '<' :: (l.uri.toList ++ ['>'])

theorem toList_text (l : Literal) :
    l.text.toList = '"' :: l.lexicalValue.toList ++ '"' :: l.closing := by
  simp [text, closing]

/-- The quote after the lexical value is the last one, whatever the lexical value holds. -/
theorem afterLast_text {l : Literal} (hquote : '"' ∉ l.uri.toList) :
    afterLast '"' l.text.toList = l.closing := by
  have hclosing : '"' ∉ l.closing := by
    simp [closing, hquote]
  rw [toList_text]
  exact afterLast_append_cons hclosing _

theorem uri_eq_of_closing_eq {l l' : Literal} (hclosing : l.closing = l'.closing) :
    l.uri = l'.uri := by
  apply String.toList_inj.mp
  simpa [closing] using hclosing

/-- Literals whose URIs have no quotes in them are told apart by their texts. -/
theorem text_tells_literal (l l' : Literal) (hl : '"' ∉ l.uri.toList)
    (hl' : '"' ∉ l'.uri.toList) :
    [l.text = l'.text, l.toTyped = l'.toTyped,
      l.uri = l'.uri ∧ l.lexicalValue = l'.lexicalValue].TFAE := by
  tfae_have 1 → 3 := by
    intro htext
    have hclosing : l.closing = l'.closing := by
      rw [← afterLast_text hl, ← afterLast_text hl', htext]
    refine ⟨uri_eq_of_closing_eq hclosing, String.toList_inj.mp ?_⟩
    have hchars := congrArg String.toList htext
    rw [toList_text, toList_text, hclosing] at hchars
    exact List.tail_eq_of_cons_eq (List.append_cancel_right hchars)
  tfae_have 3 → 2 := by
    rintro ⟨huri, hlexical⟩
    rw [toTyped, toTyped, huri, hlexical]
  tfae_have 2 → 1 := by
    intro htyped
    obtain ⟨huri, hlexical⟩ := TypedLiteral.mk.inj htyped
    rw [text, text, huri, hlexical]
  tfae_finish

/-- A lexical value that holds its own ending is not mistaken for what stands before that. -/
theorem text_tells_literal_ending_within :
    let rules : Descriptor := { isLegal := fun _ => true, equals := fun _ _ => false }
    let whole : Literal := ⟨⟨"urn:a", rules⟩, "x\"^^<urn:a>"⟩
    let part : Literal := ⟨⟨"urn:a", rules⟩, "x"⟩
    '"' ∉ whole.uri.toList ∧ '"' ∉ part.uri.toList ∧
      [whole.text = part.text, whole.toTyped = part.toTyped,
        whole.uri = part.uri ∧ whole.lexicalValue = part.lexicalValue].TFAE ∧
      whole.text ≠ part.text := by
  intro rules whole part
  have hquote : '"' ∉ "urn:a".toList := by decide
  have htells := text_tells_literal whole part hquote hquote
  have hsame : whole.text = part.text ↔ whole.uri = part.uri ∧ "x\"^^<urn:a>" = "x" :=
    htells.out 0 2
  refine ⟨hquote, hquote, htells, ?_⟩
  intro htext
  exact absurd (hsame.mp htext).2 (by decide)

/-- With a quote in a URI the text may be that of another literal. -/
example (rules : Descriptor) :
    text ⟨⟨"urn:a\"^^<urn:b", rules⟩, "x"⟩ = text ⟨⟨"urn:b", rules⟩, "x\"^^<urn:a"⟩ := by
  rfl

end Literal

end Datatypes
