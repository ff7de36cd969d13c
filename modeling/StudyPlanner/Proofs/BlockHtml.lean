import StudyPlanner.Proofs.HtmlText
import StudyPlanner.Render.Block
/-!
# Code and image blocks are fixed markup around escaped text

A card's code and image blocks are put into the page by three templates, and what the card
gives goes into them only escaped: `block_html_escapes_content`.

* Escaped text is safe in content and in a quoted attribute, and loses nothing
  (`escapeHtml_reads_back`): it holds none of `<`, `>`, `"` and `'`; each of its `&` starts
  one of the five references `&amp;`, `&lt;`, `&gt;`, `&quot;` and `&#39;`
  (`AmpersandsStartReferences`); and replacing those references by the characters they stand
  for gives the text back (`unescapeHtml_escapeHtml`). All three hold of each character's
  escape (`escapeChar_facts`, `unescapeHtml_escapeChar_append`) and pass to a text one
  character at a time.
* A code block is `<pre><code>` around its escaped content, with the class `language-L` when
  the letters, digits and `-+_` of its metadata (`L`) are not empty; an image block whose
  trimmed source is a web link is a figure with the escaped source and the escaped metadata as
  its text; any other image block is an error paragraph with its escaped, trimmed source.
* The blocks of a card are rendered one after another (`renderBlocks_cons`).
-/

namespace StudyPlanner.Render

/-! ### Reading escaped text back -/

/-- The five character references escaping writes. -/
def references : List (List Char) :=
  ["&amp;".toList, "&lt;".toList, "&gt;".toList, "&quot;".toList, "&#39;".toList]

/-- Replaces each of the five references by the character it stands for. -/
def unescapeHtml : List Char → List Char
  | '&' :: 'a' :: 'm' :: 'p' :: ';' :: rest => '&' :: unescapeHtml rest
  | '&' :: 'l' :: 't' :: ';' :: rest => '<' :: unescapeHtml rest
  | '&' :: 'g' :: 't' :: ';' :: rest => '>' :: unescapeHtml rest
  | '&' :: 'q' :: 'u' :: 'o' :: 't' :: ';' :: rest => '"' :: unescapeHtml rest
  | '&' :: '#' :: '3' :: '9' :: ';' :: rest => '\'' :: unescapeHtml rest
  | c :: rest => c :: unescapeHtml rest
  | [] => []

/-- Every `&` of the text starts one of the five references. -/
def AmpersandsStartReferences (cs : List Char) : Prop :=
  ∀ i, cs[i]? = some '&' → ∃ r ∈ references, r <+: cs.drop i

/-- The characters escaping replaces. -/
def escaped : List Char := ['&', '<', '>', '"', '\'']

theorem unescapeHtml_cons {c : Char} (hc : c ≠ '&') (rest : List Char) :
    unescapeHtml (c :: rest) = c :: unescapeHtml rest := by
  conv_lhs => unfold unescapeHtml
  split <;> simp_all

/-- A character's escape reads back as the character, whatever follows. -/
theorem unescapeHtml_escapeChar_append (c : Char) (rest : List Char) :
    unescapeHtml (escapeChar c ++ rest) = c :: unescapeHtml rest := by
  by_cases hc : c ∈ escaped
  · -- one of the five, written as its reference
    simp only [escaped, List.mem_cons, List.mem_nil_iff, or_false] at hc
    rcases hc with rfl | rfl | rfl | rfl | rfl <;> rfl
  · have hamp : c ≠ '&' := fun h => hc (h ▸ List.mem_cons_self)
    rw [escapeChar_of_not_mem hc, List.singleton_append, unescapeHtml_cons hamp]

theorem unescapeHtml_flatMap_escapeChar (cs : List Char) :
    unescapeHtml (cs.flatMap escapeChar) = cs := by
  induction cs with
  | nil => simp [unescapeHtml]
  | cons c cs ih => rw [List.flatMap_cons, unescapeHtml_escapeChar_append, ih]

/-- Escaped text reads back as the text. -/
theorem unescapeHtml_escapeHtml (s : String) : unescapeHtml (escapeHtml s).toList = s.toList := by
  rw [escapeHtml, String.toList_ofList, unescapeHtml_flatMap_escapeChar]

/-- No reference holds `<`, `>`, `"` or `'`, and none has an `&` after its first character. -/
theorem references_facts :
    ∀ r ∈ references, (∀ d ∈ r, d ∉ escaped.tail) ∧ '&' ∉ r.tail := by
  have hcheck : references.all (fun r =>
      r.all (fun d => !escaped.tail.contains d) && !r.tail.contains '&') = true := by decide
  intro r hr
  have hr' := List.all_eq_true.mp hcheck r hr
  simp only [Bool.and_eq_true, Bool.not_eq_true', List.all_eq_true, List.contains_eq_mem,
    decide_eq_false_iff_not] at hr'
  exact ⟨fun d hd => by simpa using hr'.1 d hd, by simpa using hr'.2⟩

/-- Each of the five is escaped as its reference. -/
theorem escapeChar_mem_references {c : Char} (hc : c ∈ escaped) : escapeChar c ∈ references := by
  simp only [escaped, List.mem_cons, List.mem_nil_iff, or_false] at hc
  rcases hc with rfl | rfl | rfl | rfl | rfl <;> simp [escapeChar, references]

namespace AmpersandsStartReferences

variable {a b cs : List Char}

theorem of_not_mem (h : '&' ∉ cs) : AmpersandsStartReferences cs := by
  intro i hi
  exact absurd (List.mem_of_getElem? hi) h

/-- A reference on its own: its one `&` is its first character. -/
theorem reference {r : List Char} (hr : r ∈ references) : AmpersandsStartReferences r := by
  have htail : '&' ∉ r.tail := (references_facts r hr).2
  intro i hi
  cases i with
  | zero => exact ⟨r, hr, List.prefix_refl r⟩
  | succ i =>
    -- no `&` after the first character
    cases r with
    | nil => simp at hi
    | cons c tail =>
      rw [List.getElem?_cons_succ] at hi
      exact absurd (List.mem_of_getElem? hi) htail

/-- Two texts one after the other: an `&` of the first starts its reference there whatever
follows, and one of the second as it did alone. -/
theorem append (ha : AmpersandsStartReferences a) (hb : AmpersandsStartReferences b) :
    AmpersandsStartReferences (a ++ b) := by
  intro i hi
  by_cases hlt : i < a.length
  · -- an `&` of the first part
    rw [List.getElem?_append_left hlt] at hi
    obtain ⟨r, hr, hpre⟩ := ha i hi
    refine ⟨r, hr, hpre.trans ?_⟩
    rw [List.drop_append_of_le_length (by omega)]
    exact List.prefix_append _ _
  · -- an `&` of the second part
    rw [List.getElem?_append_right (by omega)] at hi
    obtain ⟨r, hr, hpre⟩ := hb (i - a.length) hi
    refine ⟨r, hr, ?_⟩
    rw [List.drop_append, List.drop_eq_nil_of_le (by omega), List.nil_append]
    exact hpre

end AmpersandsStartReferences

/-- What a character's escape is: none of `<`, `>`, `"` and `'`, and its `&`s start references. -/
theorem escapeChar_facts (c : Char) :
    (∀ d ∈ escapeChar c, d ∉ escaped.tail) ∧ AmpersandsStartReferences (escapeChar c) := by
  by_cases hc : c ∈ escaped
  · -- one of the five: its reference
    have href := escapeChar_mem_references hc
    exact ⟨(references_facts _ href).1, .reference href⟩
  · -- any other character stands for itself
    rw [escapeChar_of_not_mem hc]
    refine ⟨fun d hd => ?_, .of_not_mem fun h => hc ?_⟩
    · rw [List.mem_singleton] at hd
      subst hd
      exact fun h => hc (List.mem_of_mem_tail h)
    · rw [List.mem_singleton] at h
      rw [← h]
      exact List.mem_cons_self

/-- Escaped text holds none of `<`, `>`, `"` and `'`, each of its `&` starts one of the five
references, and replacing the references gives the text back. -/
theorem escapeHtml_reads_back (s : String) :
    (∀ c ∈ (escapeHtml s).toList, c ≠ '<' ∧ c ≠ '>' ∧ c ≠ '"' ∧ c ≠ '\'') ∧
      AmpersandsStartReferences (escapeHtml s).toList ∧
      unescapeHtml (escapeHtml s).toList = s.toList := by
  rw [escapeHtml, String.toList_ofList]
  refine ⟨fun c hc => ?_, ?_, unescapeHtml_flatMap_escapeChar _⟩
  · obtain ⟨d, -, hd⟩ := List.mem_flatMap.mp hc
    have hnot := (escapeChar_facts d).1 c hd
    simp only [escaped, List.tail_cons, List.mem_cons, List.mem_nil_iff, or_false, not_or] at hnot
    exact hnot
  · induction s.toList with
    | nil => exact .of_not_mem List.not_mem_nil
    | cons c cs ih => exact (escapeChar_facts c).2.append ih

/-! ### The blocks -/

/-- The letters, digits and `-+_` of a code block's metadata, which name its language. -/
def languageOf (metadata : String) : String := String.ofList (metadata.toList.filter isLanguageChar)

theorem renderBlock_code {b : Model.Block} (h : b.kind = .code) :
    renderBlock b =
      "<pre><code" ++ (if languageOf b.metadata = "" then "" else
        " class=\"language-" ++ languageOf b.metadata ++ "\"") ++ ">" ++ escapeHtml b.content ++
        "</code></pre>" := by
  have hiff : (languageOf b.metadata).isEmpty = true ↔ languageOf b.metadata = "" :=
    String.isEmpty_iff
  rw [renderBlock, h]
  dsimp only
  rw [languageOf] at hiff
  by_cases hL : languageOf b.metadata = ""
  · rw [if_pos hL, if_pos (hiff.mpr hL)]
  · rw [if_neg hL, if_neg (fun h => hL (hiff.mp h))]
    rfl

theorem renderBlock_image_of_isWebLink {b : Model.Block} (h : b.kind = .image)
    (hweb : isWebLink (Text.trim b.content) = true) :
    renderBlock b = "<figure><img src=\"" ++ escapeHtml (Text.trim b.content) ++ "\" alt=\"" ++
      escapeHtml b.metadata ++ "\"></figure>" := by
  simp only [renderBlock, h, hweb, if_true]

theorem renderBlock_image_of_not_isWebLink {b : Model.Block} (h : b.kind = .image)
    (hweb : isWebLink (Text.trim b.content) = false) :
    renderBlock b = "<p class=\"block-error\">" ++ escapeHtml (Text.trim b.content) ++ "</p>" := by
  simp only [renderBlock, h, hweb, Bool.false_eq_true, if_false]

@[simp] theorem renderBlocks_nil : renderBlocks [] = "" := rfl

theorem renderBlocks_cons (b : Model.Block) (bs : List Model.Block) :
    renderBlocks (b :: bs) = renderBlock b ++ renderBlocks bs := by
  simp only [renderBlocks, List.map_cons, String.join_cons]

/-- Code and image blocks reach the page only through escaping. A code block is `<pre><code>`
around its escaped content, with a class naming its language when its metadata has any
letters, digits or `-+_`; an image block is a figure with its escaped source and text when its
trimmed source is a web link, and an error paragraph with the escaped source otherwise. Escaped
text holds none of `< > " '`, its every `&` starts one of the five references, and it reads
back as the text. A card's blocks are rendered in order, one after another. -/
theorem block_html_escapes_content :
    (∀ s : String,
      (∀ c ∈ (escapeHtml s).toList, c ≠ '<' ∧ c ≠ '>' ∧ c ≠ '"' ∧ c ≠ '\'') ∧
        AmpersandsStartReferences (escapeHtml s).toList ∧
        unescapeHtml (escapeHtml s).toList = s.toList) ∧
    (∀ b : Model.Block, b.kind = .code →
      renderBlock b =
        "<pre><code" ++ (if languageOf b.metadata = "" then "" else
          " class=\"language-" ++ languageOf b.metadata ++ "\"") ++ ">" ++ escapeHtml b.content ++
          "</code></pre>") ∧
    (∀ b : Model.Block, b.kind = .image → isWebLink (Text.trim b.content) = true →
      renderBlock b = "<figure><img src=\"" ++ escapeHtml (Text.trim b.content) ++ "\" alt=\"" ++
        escapeHtml b.metadata ++ "\"></figure>") ∧
    (∀ b : Model.Block, b.kind = .image → isWebLink (Text.trim b.content) = false →
      renderBlock b = "<p class=\"block-error\">" ++ escapeHtml (Text.trim b.content) ++ "</p>") ∧
    (∀ b bs, renderBlocks (b :: bs) = renderBlock b ++ renderBlocks bs) ∧ renderBlocks [] = "" :=
  ⟨escapeHtml_reads_back, fun _ => renderBlock_code, fun _ => renderBlock_image_of_isWebLink,
    fun _ => renderBlock_image_of_not_isWebLink, renderBlocks_cons, renderBlocks_nil⟩

end StudyPlanner.Render
