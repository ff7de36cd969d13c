import StudyPlanner.Markdown.Html
import StudyPlanner.Render.Escape
import StudyPlanner.Proofs.FormQuery
/-!
# Tags in written HTML

What a page shows as markup is decided by its `<` characters: each opens a tag. This module
gives the words to say which tags a written text can open, and the facts about escaping that
keep a text from opening any.

* `OpensOnly T cs`: every `<` of `cs` opens a tag that `T` admits, the tag's text standing
  there. It holds of text without `<`, of an admitted tag whose other characters are no `<`,
  and of two texts one after the other (`OpensOnly.append`), so it can be followed through a
  writer that only ever appends.
* `opensAmong tags cs`: a check that computes it for text holding only tags of a fixed list,
  as a writer's own literal markup does (`OpensOnly.of_opensAmong`).
* Escaping for a body, for an attribute, for a URL and for card blocks writes no `<`, and a
  number written in decimal has none either.
-/

namespace StudyPlanner.Render

open StudyPlanner.Markdown

/-! ### Which tags a text opens -/

/-- Every `<` of the text opens a tag that `T` admits: the tag's text stands from there on. -/
def OpensOnly (T : List Char → Prop) (cs : List Char) : Prop :=
  ∀ i, cs[i]? = some '<' → ∃ tag, T tag ∧ tag <+: cs.drop i

section OpensOnly

variable {T : List Char → Prop} {a b cs : List Char}

theorem OpensOnly.of_not_mem (h : '<' ∉ cs) : OpensOnly T cs := by
  intro i hi
  exact absurd (List.mem_of_getElem? hi) h

theorem OpensOnly.nil : OpensOnly T [] := .of_not_mem List.not_mem_nil

/-- A text opens only admitted tags when each of two parts does: a `<` of the first part opens
its tag there whatever follows, and one of the second part as it did alone. -/
theorem OpensOnly.append (ha : OpensOnly T a) (hb : OpensOnly T b) : OpensOnly T (a ++ b) := by
  intro i hi
  by_cases hlt : i < a.length
  · -- a `<` of the first part
    rw [List.getElem?_append_left hlt] at hi
    obtain ⟨tag, htag, hpre⟩ := ha i hi
    refine ⟨tag, htag, hpre.trans ?_⟩
    rw [List.drop_append_of_le_length (by omega)]
    exact List.prefix_append _ _
  · -- a `<` of the second part
    rw [List.getElem?_append_right (by omega)] at hi
    obtain ⟨tag, htag, hpre⟩ := hb (i - a.length) hi
    refine ⟨tag, htag, ?_⟩
    rw [List.drop_append, List.drop_eq_nil_of_le (by omega), List.nil_append]
    exact hpre

/-- An admitted tag opens only itself when no other character of it is a `<`. -/
theorem OpensOnly.tag {rest : List Char} (htag : T ('<' :: rest)) (hrest : '<' ∉ rest) :
    OpensOnly T ('<' :: rest) := by
  intro i hi
  cases i with
  | zero => exact ⟨'<' :: rest, htag, List.prefix_refl _⟩
  | succ i =>
    rw [List.getElem?_cons_succ] at hi
    exact absurd (List.mem_of_getElem? hi) hrest

theorem OpensOnly.cons {c : Char} (hc : c ≠ '<') (h : OpensOnly T cs) : OpensOnly T (c :: cs) :=
  List.singleton_append ▸ (OpensOnly.of_not_mem (by simpa using hc.symm)).append h

end OpensOnly

/-- Whether every `<` of the text opens one of the given tags: a check for literal markup. -/
def opensAmong (tags : List (List Char)) (cs : List Char) : Bool :=
  (List.range cs.length).all fun i =>
    cs[i]? != some '<' || tags.any fun tag => tag.isPrefixOf (cs.drop i)

theorem OpensOnly.of_opensAmong {T : List Char → Prop} {tags : List (List Char)} {cs : List Char}
    (htags : ∀ tag ∈ tags, T tag) (h : opensAmong tags cs = true) : OpensOnly T cs := by
  intro i hi
  have hlt : i < cs.length := (List.getElem?_eq_some_iff.mp hi).1
  have hcheck := List.all_eq_true.mp h i (List.mem_range.mpr hlt)
  rw [hi, bne_self_eq_false, Bool.false_or, List.any_eq_true] at hcheck
  obtain ⟨tag, hmem, hpre⟩ := hcheck
  exact ⟨tag, htags tag hmem, List.isPrefixOf_iff_prefix.mp hpre⟩

/-! ### Escaped text opens no tag -/

/-- Text written piece by piece, none of the pieces holding `<`. -/
theorem lt_not_mem_join {α : Type} {cs : List α} {f : α → String}
    (hf : ∀ c ∈ cs, '<' ∉ (f c).toList) : '<' ∉ (String.join (cs.map f)).toList := by
  rw [String.toList_join, List.mem_flatMap]
  rintro ⟨piece, hpiece, hlt⟩
  obtain ⟨c, hc, rfl⟩ := List.mem_map.mp hpiece
  exact hf c hc hlt

theorem lt_not_mem_toString_char {c : Char} (hc : c ≠ '<') : '<' ∉ c.toString.toList := by
  simpa using hc.symm

theorem lt_not_mem_escapeBody (s : String) : '<' ∉ (escapeBody s).toList := by
  refine lt_not_mem_join fun c _ => ?_
  by_cases hamp : c = '&'
  · rw [if_pos hamp]; decide
  by_cases hlt : c = '<'
  · rw [if_neg hamp, if_pos hlt]; decide
  by_cases hgt : c = '>'
  · rw [if_neg hamp, if_neg hlt, if_pos hgt]; decide
  · rw [if_neg hamp, if_neg hlt, if_neg hgt]
    exact lt_not_mem_toString_char hlt

/-- Text escaped for an attribute holds neither `<` nor `"`, so it cannot end its value. -/
theorem escapeAttr_facts (s : String) :
    '<' ∉ (escapeAttr s).toList ∧ '"' ∉ (escapeAttr s).toList := by
  have hpiece : ∀ c : Char, '<' ∉ (if c = '&' then "&amp;" else if c = '<' then "&lt;"
      else if c = '>' then "&gt;" else if c = '"' then "&quot;" else c.toString).toList ∧
      '"' ∉ (if c = '&' then "&amp;" else if c = '<' then "&lt;"
      else if c = '>' then "&gt;" else if c = '"' then "&quot;" else c.toString).toList := by
    intro c
    by_cases hamp : c = '&'
    · rw [if_pos hamp]; decide
    by_cases hlt : c = '<'
    · rw [if_neg hamp, if_pos hlt]; decide
    by_cases hgt : c = '>'
    · rw [if_neg hamp, if_neg hlt, if_pos hgt]; decide
    by_cases hq : c = '"'
    · rw [if_neg hamp, if_neg hlt, if_neg hgt, if_pos hq]; decide
    · rw [if_neg hamp, if_neg hlt, if_neg hgt, if_neg hq]
      exact ⟨lt_not_mem_toString_char hlt, by simpa using Ne.symm hq⟩
  refine ⟨?_, ?_⟩
  · exact lt_not_mem_join fun c _ => (hpiece c).1
  · rw [escapeAttr, String.toList_join, List.mem_flatMap]
    rintro ⟨piece, hmem, hq⟩
    obtain ⟨c, -, rfl⟩ := List.mem_map.mp hmem
    exact (hpiece c).2 hq

theorem lt_not_mem_titleAttr (title : String) : '<' ∉ (Writer.titleAttr title).toList := by
  unfold Writer.titleAttr
  split
  · decide
  · rw [String.toList_append, List.mem_append, not_or]
    exact ⟨by decide, (escapeAttr_facts title).1⟩

/-- The digits of an escaped byte are no `<`. -/
theorem hexUpper_ne_lt : ∀ n, n < 16 → hexUpper n ≠ '<' := by decide

theorem lt_not_mem_escapeHref (s : String) : '<' ∉ (escapeHref s).toList := by
  refine lt_not_mem_join fun b _ => ?_
  have hb : b.toNat < 256 := b.toNat_lt
  by_cases hamp : b.toNat = 0x26
  · rw [if_pos hamp]; decide
  by_cases hq : b.toNat = 0x27
  · rw [if_neg hamp, if_pos hq]; decide
  rw [if_neg hamp, if_neg hq]
  split
  · -- a byte that stands for itself: `hrefSafe` leaves `<` out
    rename_i hsafe
    simp only [Bool.and_eq_true, decide_eq_true_eq] at hsafe
    have hne : b.toNat ≠ 0x3C := by
      intro hlt
      rw [hlt] at hsafe
      exact absurd hsafe.2 (by decide)
    refine lt_not_mem_toString_char fun hc => hne ?_
    have := congrArg Char.toNat hc
    rwa [Web.toNat_charOfNat (by omega)] at this
  · -- an escape: `%` and two digits
    simp only [String.toList_ofList, List.mem_cons, List.mem_nil_iff, or_false, not_or]
    exact ⟨by decide, (hexUpper_ne_lt _ (by omega)).symm, (hexUpper_ne_lt _ (by omega)).symm⟩

/-- A character other than the five that card blocks escape is written as itself. -/
theorem escapeChar_of_not_mem {c : Char} (h : c ∉ ['&', '<', '>', '"', '\'']) :
    escapeChar c = [c] := by
  unfold escapeChar
  split <;> simp_all

theorem lt_not_mem_escapeChar (c : Char) : '<' ∉ escapeChar c := by
  by_cases hc : c ∈ ['&', '<', '>', '"', '\'']
  · -- one of the five, written as a reference
    simp only [List.mem_cons, List.mem_nil_iff, or_false] at hc
    rcases hc with rfl | rfl | rfl | rfl | rfl <;> decide
  · rw [escapeChar_of_not_mem hc, List.mem_singleton]
    rintro rfl
    exact hc (by decide)

theorem lt_not_mem_escapeHtml (s : String) : '<' ∉ (escapeHtml s).toList := by
  rw [escapeHtml, String.toList_ofList, List.mem_flatMap]
  rintro ⟨c, -, hc⟩
  exact lt_not_mem_escapeChar c hc

/-- A number's decimal digits are no `<`. -/
theorem lt_not_mem_toDigits (n : Nat) : '<' ∉ Nat.toDigits 10 n := by
  intro h
  exact absurd (Nat.isDigit_of_mem_toDigits (by decide) (by decide) h) (by decide)

end StudyPlanner.Render
