import StudyPlanner.Proofs.HtmlText
import StudyPlanner.Render.Block
import Mathlib.Data.List.Forall2
/-!
# Card HTML carries no markup of its own

A card's text comes from other users and is put into the page as HTML. `card_html_safe` says
what reaches the page:

* The filter between the markdown reader and the HTML writer turns every event of the text
  as `Disarms` says, case by case: raw HTML becomes text, a link keeps its target exactly when
  it is a link target and points to `#` otherwise, an image keeps its source exactly when it
  is a web link and shows `#` otherwise, and every other event passes as it is. So the writer
  is only ever handed `SafeEvent`s.
* Every `<` of the HTML of a card, markdown or code or image blocks, opens a `CardTag`: one
  of the renderer's own tags, where the card contributes numbers, a code block's language,
  titles, and the targets the filter let through. So no tag is taken from the card, every
  link's target is a link target (`#` among them), possibly after `mailto:`, and every
  image's source is a web link or `#`.

The writer only ever appends to what it has written, so the second point is an invariant of
its run (`Appends.foldl`): each step appends text that opens only card tags
(`Appends.step`), which is literal markup, escaped text, or one of the tags with a card's
values in it.
-/

namespace StudyPlanner.Render

open StudyPlanner.Markdown

/-! ### The tags of a card -/

/-- The tags the card renderer writes with nothing of the card in them. -/
def fixedTags : List String :=
  ["<p>", "</p>", "<blockquote>", "</blockquote>", "<pre>", "</pre>", "<code>", "</code>",
    "<ul>", "</ul>", "<ol>", "</ol>", "<li>", "</li>", "<table>", "</table>", "<thead>",
    "</thead>", "<tbody>", "</tbody>", "<tr>", "</tr>", "<th", "</th>", "<td", "</td>",
    "<em>", "</em>", "<strong>", "</strong>", "<del>", "</del>", "</a>", "<br />", "<hr />",
    "<figure>", "</figure>", "<p class=\"block-error\">"]

/-- A tag of a card's HTML, from its `<` to where the renderer stops writing it at once. The
card gives only its numbers, a code block's language (which cannot end the attribute), titles,
and targets; a link's target is a link target and an image's source a web link or `#`. -/
inductive CardTag : List Char → Prop where
  | fixed {s : String} : s ∈ fixedTags → CardTag s.toList
  | heading (n : Nat) : CardTag ("<h" ++ toString n ++ ">").toList
  | headingEnd (n : Nat) : CardTag ("</h" ++ toString n ++ ">").toList
  | orderedList (n : Nat) : CardTag ("<ol start=\"" ++ toString n ++ "\">").toList
  | code (lang : String) : '<' ∉ lang.toList → '"' ∉ lang.toList →
      CardTag ("<code class=\"language-" ++ lang ++ "\">").toList
  | link (dest title : String) : isLinkTarget dest = true →
      CardTag ("<a href=\"" ++ escapeHref dest ++ Writer.titleAttr title ++ "\">").toList
  | mailLink (dest title : String) : isLinkTarget dest = true →
      CardTag ("<a href=\"mailto:" ++ escapeHref dest ++ Writer.titleAttr title ++ "\">").toList
  | image (dest : String) : isWebLink dest = true ∨ dest = "#" →
      CardTag ("<img src=\"" ++ escapeHref dest ++ "\" alt=\"").toList
  | figure (src alt : String) : isWebLink src = true →
      CardTag ("<img src=\"" ++ escapeHtml src ++ "\" alt=\"" ++ escapeHtml alt ++ "\">").toList

/-- Literal markup of the renderer: every `<` in it opens a fixed tag. -/
theorem opensOnly_literal {s : String}
    (h : opensAmong (fixedTags.map String.toList) s.toList = true) : OpensOnly CardTag s.toList :=
  .of_opensAmong (fun tag htag => by
    obtain ⟨s, hs, rfl⟩ := List.mem_map.mp htag
    exact .fixed hs) h

/-- A card tag with no other `<` in it opens only itself. -/
theorem opensOnly_cardTag {s : String} (htag : CardTag s.toList) (hhead : s.toList.head? = some '<')
    (hrest : '<' ∉ s.toList.tail) : OpensOnly CardTag s.toList := by
  cases hs : s.toList with
  | nil => rw [hs] at hhead; cases hhead
  | cons c rest =>
    rw [hs] at htag hhead hrest
    obtain rfl : c = '<' := Option.some.inj hhead
    exact .tag htag hrest

theorem opensOnly_escapeBody (s : String) : OpensOnly CardTag (escapeBody s).toList :=
  .of_not_mem (lt_not_mem_escapeBody s)

theorem opensOnly_escapeAttr (s : String) : OpensOnly CardTag (escapeAttr s).toList :=
  .of_not_mem (escapeAttr_facts s).1

theorem opensOnly_escapeHtml (s : String) : OpensOnly CardTag (escapeHtml s).toList :=
  .of_not_mem (lt_not_mem_escapeHtml s)

theorem opensOnly_append {s t : String} (hs : OpensOnly CardTag s.toList)
    (ht : OpensOnly CardTag t.toList) : OpensOnly CardTag (s ++ t).toList := by
  rw [String.toList_append]
  exact hs.append ht

/-! ### What the writer writes for each tag -/

theorem opensOnly_heading (n : Nat) : OpensOnly CardTag ("<h" ++ toString n ++ ">").toList :=
  opensOnly_cardTag (.heading n) (by simp) (by simp [lt_not_mem_toDigits])

theorem opensOnly_headingEnd (n : Nat) : OpensOnly CardTag ("</h" ++ toString n ++ ">\n").toList := by
  have hsplit : ("</h" ++ toString n ++ ">\n").toList =
      ("</h" ++ toString n ++ ">").toList ++ "\n".toList := by simp
  rw [hsplit]
  exact (opensOnly_cardTag (.headingEnd n) (by simp) (by simp [lt_not_mem_toDigits])).append
    (.of_not_mem (by decide))

theorem opensOnly_orderedList (n : Nat) :
    OpensOnly CardTag ("<ol start=\"" ++ toString n ++ "\">\n").toList := by
  have hsplit : ("<ol start=\"" ++ toString n ++ "\">\n").toList =
      ("<ol start=\"" ++ toString n ++ "\">").toList ++ "\n".toList := by simp
  rw [hsplit]
  exact (opensOnly_cardTag (.orderedList n) (by simp) (by simp [lt_not_mem_toDigits])).append
    (.of_not_mem (by decide))

/-- A code block's opening with a language: `<pre>`, then the code tag with the language. -/
theorem opensOnly_codeLanguage {lang : String} (hlt : '<' ∉ lang.toList) (hq : '"' ∉ lang.toList) :
    OpensOnly CardTag ("<pre><code class=\"language-" ++ lang ++ "\">").toList := by
  have hsplit : ("<pre><code class=\"language-" ++ lang ++ "\">").toList =
      "<pre>".toList ++ ("<code class=\"language-" ++ lang ++ "\">").toList := by simp
  rw [hsplit]
  exact (opensOnly_literal (by decide)).append
    (opensOnly_cardTag (.code lang hlt hq) (by simp) (by simp [hlt]))

theorem opensOnly_link {dest : String} (title : String) (h : isLinkTarget dest = true) :
    OpensOnly CardTag ("<a href=\"" ++ escapeHref dest ++ Writer.titleAttr title ++ "\">").toList :=
  opensOnly_cardTag (.link dest title h) (by simp)
    (by simp [lt_not_mem_escapeHref, lt_not_mem_titleAttr])

theorem opensOnly_mailLink {dest : String} (title : String) (h : isLinkTarget dest = true) :
    OpensOnly CardTag
      ("<a href=\"mailto:" ++ escapeHref dest ++ Writer.titleAttr title ++ "\">").toList :=
  opensOnly_cardTag (.mailLink dest title h) (by simp)
    (by simp [lt_not_mem_escapeHref, lt_not_mem_titleAttr])

theorem opensOnly_image {dest : String} (h : isWebLink dest = true ∨ dest = "#") :
    OpensOnly CardTag ("<img src=\"" ++ escapeHref dest ++ "\" alt=\"").toList :=
  opensOnly_cardTag (.image dest h) (by simp) (by simp [lt_not_mem_escapeHref])

/-! ### The writer appends text that opens only card tags -/

/-- A tag the writer may open for a card: a link only to a link target, an image only of a web
link or `#`. -/
def SafeTag : Tag → Prop
  | .link _ dest _ => isLinkTarget dest = true
  | .image dest _ => isWebLink dest = true ∨ dest = "#"
  | _ => True

/-- An event the writer may be handed for a card: no raw HTML, and only safe tags opened. -/
def SafeEvent : Event → Prop
  | .start tag => SafeTag tag
  | .html _ | .inlineHtml _ => False
  | _ => True

/-- The writer went from `w` to `w'` by appending text that opens only card tags. -/
def Appends (w w' : Writer) : Prop :=
  ∃ piece : String, w'.out = w.out ++ piece ∧ OpensOnly CardTag piece.toList

namespace Appends

variable {w w' w'' : Writer}

theorem of_out (h : w'.out = w.out) : Appends w w' := ⟨"", by rw [h, String.append_empty], .nil⟩

theorem trans (h₁ : Appends w w') (h₂ : Appends w' w'') : Appends w w'' := by
  obtain ⟨p, hp, hpo⟩ := h₁
  obtain ⟨q, hq, hqo⟩ := h₂
  exact ⟨p ++ q, by rw [hq, hp, String.append_assoc], opensOnly_append hpo hqo⟩

theorem write (w : Writer) {s : String} (h : OpensOnly CardTag s.toList) : Appends w (w.write s) :=
  ⟨s, rfl, h⟩

theorem writeFresh (w : Writer) {s : String} (h : OpensOnly CardTag s.toList) :
    Appends w (w.writeFresh s) := by
  unfold Writer.writeFresh
  split
  · exact .write w h
  · exact .write w (opensOnly_append (.of_not_mem (by decide)) h)

theorem writeText (w : Writer) (s : String) : Appends w (w.writeText s) :=
  ⟨escapeBody s, rfl, opensOnly_escapeBody s⟩

/-- Opening a tag the writer may open for a card. -/
theorem startTag (w : Writer) {tag : Tag} (h : SafeTag tag) : Appends w (w.startTag tag) := by
  cases tag with
  | paragraph => exact .writeFresh w (opensOnly_literal (by decide))
  | heading n => exact .writeFresh w (opensOnly_heading n)
  | blockQuote => exact .writeFresh w (opensOnly_literal (by decide))
  | codeBlock info =>
    -- a fresh line first, then the opening with or without a language
    have hline : Appends w (if w.endNewline then w else w.write "\n") := by
      split
      · exact .of_out rfl
      · exact .write w (.of_not_mem (by decide))
    cases info with
    | none => exact hline.trans (.write _ (opensOnly_literal (by decide)))
    | some i =>
      simp only [Writer.startTag]
      by_cases hlang : ((i.splitOn " ").headD "").isEmpty = true
      · rw [if_pos hlang]
        exact hline.trans (.write _ (opensOnly_literal (by decide)))
      · rw [if_neg hlang]
        exact hline.trans
          (.write _ (opensOnly_codeLanguage (escapeAttr_facts _).1 (escapeAttr_facts _).2))
  | htmlBlock => exact .of_out rfl
  | list start =>
    cases start with
    | none => exact .writeFresh w (opensOnly_literal (by decide))
    | some n =>
      -- a list from 1 has no start number written
      by_cases hn : n = 1
      · subst hn
        exact .writeFresh w (opensOnly_literal (by decide))
      · rw [Writer.startTag.eq_9 w n hn]
        exact .writeFresh w (opensOnly_orderedList n)
  | item => exact .writeFresh w (opensOnly_literal (by decide))
  | table aligns => exact .write _ (opensOnly_literal (by decide))
  | tableHead => exact .write _ (opensOnly_literal (by decide))
  | tableRow => exact .write _ (opensOnly_literal (by decide))
  | tableCell =>
    -- the cell's tag, then its alignment
    have hcell : Appends w (w.write (if w.inHead then "<th" else "<td")) := by
      split
      · exact .write w (opensOnly_literal (by decide))
      · exact .write w (opensOnly_literal (by decide))
    refine hcell.trans ?_
    simp only [Writer.startTag]
    generalize w.write (if w.inHead = true then "<th" else "<td") = w₁
    split <;> exact .write w₁ (opensOnly_literal (by decide))
  | emphasis => exact .write w (opensOnly_literal (by decide))
  | strong => exact .write w (opensOnly_literal (by decide))
  | strikethrough => exact .write w (opensOnly_literal (by decide))
  | link kind dest title =>
    cases kind with
    | email => exact .write w (opensOnly_mailLink title h)
    | written => exact .write w (opensOnly_link title h)
    | autolink => exact .write w (opensOnly_link title h)
  | image dest title => exact .write _ (opensOnly_image h)

/-- Closing a tag. -/
theorem endTag (w : Writer) (tag : Tag) : Appends w (w.endTag tag) := by
  cases tag with
  | paragraph => exact .write w (opensOnly_literal (by decide))
  | heading n => exact .write w (opensOnly_headingEnd n)
  | blockQuote => exact .write w (opensOnly_literal (by decide))
  | codeBlock info => exact .write w (opensOnly_literal (by decide))
  | htmlBlock => exact .of_out rfl
  | list start =>
    cases start with
    | none => exact .write w (opensOnly_literal (by decide))
    | some n => exact .write w (opensOnly_literal (by decide))
  | item => exact .write w (opensOnly_literal (by decide))
  | table aligns => exact .write w (opensOnly_literal (by decide))
  | tableHead => exact .write _ (opensOnly_literal (by decide))
  | tableRow => exact .write w (opensOnly_literal (by decide))
  | tableCell =>
    simp only [Writer.endTag]
    split <;> exact .write _ (opensOnly_literal (by decide))
  | emphasis => exact .write w (opensOnly_literal (by decide))
  | strong => exact .write w (opensOnly_literal (by decide))
  | strikethrough => exact .write w (opensOnly_literal (by decide))
  | link kind dest title => exact .write w (opensOnly_literal (by decide))
  | image dest title => exact .of_out rfl

/-- Taking an event inside an image's alternative text: only escaped text and the end of the
image's tag. -/
theorem altStep (w : Writer) (depth : Nat) (title : String) (e : Event) :
    Appends w (w.altStep depth title e) := by
  cases e with
  | start tag => exact .of_out rfl
  | stop tag =>
    simp only [Writer.altStep]
    split
    · exact .write _ (.of_not_mem (by simp [lt_not_mem_titleAttr]))
    · exact .of_out rfl
  | html s => exact .of_out rfl
  | inlineHtml s => exact ⟨escapeAttr s, rfl, opensOnly_escapeAttr s⟩
  | code s => exact ⟨escapeAttr s, rfl, opensOnly_escapeAttr s⟩
  | text s => exact ⟨escapeAttr s, rfl, opensOnly_escapeAttr s⟩
  | softBreak => exact .write w (.of_not_mem (by decide))
  | hardBreak => exact .write w (.of_not_mem (by decide))
  | rule => exact .write w (.of_not_mem (by decide))

/-- One step of the writer on an event it may be handed for a card. -/
theorem step (w : Writer) {e : Event} (h : SafeEvent e) : Appends w (w.step e) := by
  unfold Writer.step
  split
  · exact .altStep w _ _ e
  · cases e with
    | start tag => exact .startTag w h
    | stop tag => exact .endTag w tag
    | text s => exact .writeText w s
    | code s =>
      exact ((Appends.write w (opensOnly_literal (by decide))).trans (.writeText _ s)).trans
        (.write _ (opensOnly_literal (by decide)))
    | html s => exact (h : False).elim
    | inlineHtml s => exact (h : False).elim
    | softBreak => exact ⟨"\n", rfl, .of_not_mem (by decide)⟩
    | hardBreak => exact .write w (opensOnly_literal (by decide))
    | rule => exact .writeFresh w (opensOnly_literal (by decide))

/-- A run of the writer over events it may be handed for a card. -/
theorem foldl (w : Writer) {es : List Event} (h : ∀ e ∈ es, SafeEvent e) :
    Appends w (es.foldl Writer.step w) := by
  induction es generalizing w with
  | nil => exact .of_out rfl
  | cons e es ih =>
    rw [List.foldl_cons]
    exact (Appends.step w (h e List.mem_cons_self)).trans
      (ih _ fun e' he' => h e' (List.mem_cons_of_mem e he'))

end Appends

/-- The HTML written for events a card may hand the writer opens only card tags. -/
theorem opensOnly_pushHtml {es : List Event} (h : ∀ e ∈ es, SafeEvent e) :
    OpensOnly CardTag (pushHtml es).toList := by
  obtain ⟨piece, hout, hpiece⟩ := Appends.foldl {} h
  rw [pushHtml, hout]
  simpa using hpiece

/-! ### The filter -/

/-- An event the filter leaves alone: neither raw HTML nor the start of a link or an image. -/
def Inert : Event → Prop
  | .html _ | .inlineHtml _ => False
  | .start (.link _ _ _) | .start (.image _ _) => False
  | _ => True

/-- The target a dropped link points to is itself a link target. -/
theorem isLinkTarget_anchor : isLinkTarget "#" = true := by simp [isLinkTarget]

/-- What the filter makes of one event of the text. -/
inductive Disarms : Event → Event → Prop where
  /-- Raw HTML, a block of it or inline, is shown as text. -/
  | html (s : String) : Disarms (.html s) (.text s)
  | inlineHtml (s : String) : Disarms (.inlineHtml s) (.text s)
  /-- A link keeps a target that is a link target, and points to `#` instead of any other. -/
  | keepLink (kind : LinkKind) (dest title : String) : isLinkTarget dest = true →
      Disarms (.start (.link kind dest title)) (.start (.link kind dest title))
  | dropLink (kind : LinkKind) (dest title : String) : isLinkTarget dest = false →
      Disarms (.start (.link kind dest title)) (.start (.link kind "#" title))
  /-- An image keeps a source that is a web link, and shows `#` instead of any other. -/
  | keepImage (dest title : String) : isWebLink dest = true →
      Disarms (.start (.image dest title)) (.start (.image dest title))
  | dropImage (dest title : String) : isWebLink dest = false →
      Disarms (.start (.image dest title)) (.start (.image "#" title))
  /-- Every other event passes as it is. -/
  | inert (e : Event) : Inert e → Disarms e e

theorem disarms_safeEvent (e : Event) : Disarms e (safeEvent e) := by
  cases e with
  | start tag =>
    cases tag with
    | link kind dest title =>
      by_cases h : isLinkTarget dest = true
      · simpa [safeEvent, h] using Disarms.keepLink kind dest title h
      · simpa [safeEvent, h] using Disarms.dropLink kind dest title (by simpa using h)
    | image dest title =>
      by_cases h : isWebLink dest = true
      · simpa [safeEvent, h] using Disarms.keepImage dest title h
      · simpa [safeEvent, h] using Disarms.dropImage dest title (by simpa using h)
    | _ => exact .inert _ trivial
  | html s => exact .html s
  | inlineHtml s => exact .inlineHtml s
  | _ => exact .inert _ trivial

/-- The filter hands the writer only events it may take for a card. -/
theorem Disarms.safe {e e' : Event} (h : Disarms e e') : SafeEvent e' := by
  cases h with
  | html s => trivial
  | inlineHtml s => trivial
  | keepLink kind dest title hd => exact hd
  | dropLink kind dest title _ => exact isLinkTarget_anchor
  | keepImage dest title hd => exact .inl hd
  | dropImage dest title _ => exact .inr rfl
  | inert e hinert =>
    -- an inert event is no raw HTML, and opens no link or image
    cases e with
    | start tag =>
      cases tag with
      | link kind dest title => exact (hinert : False).elim
      | image dest title => exact (hinert : False).elim
      | _ => trivial
    | html s => exact (hinert : False).elim
    | inlineHtml s => exact (hinert : False).elim
    | _ => trivial

/-! ### Cards -/

/-- A card's markdown goes to the writer through the filter. -/
theorem renderMarkdown_disarmed (t : String) :
    ∃ es, List.Forall₂ Disarms (documentEvents t) es ∧ (∀ e ∈ es, SafeEvent e) ∧
      renderMarkdown t = pushHtml es := by
  refine ⟨(documentEvents t).map safeEvent, ?_, ?_, rfl⟩
  · rw [List.forall₂_map_right_iff]
    exact List.forall₂_same.mpr fun e _ => disarms_safeEvent e
  · intro e he
    obtain ⟨e₀, -, rfl⟩ := List.mem_map.mp he
    exact (disarms_safeEvent e₀).safe

theorem opensOnly_renderMarkdown (t : String) : OpensOnly CardTag (renderMarkdown t).toList := by
  obtain ⟨es, -, hsafe, hrender⟩ := renderMarkdown_disarmed t
  rw [hrender]
  exact opensOnly_pushHtml hsafe

/-- A code block's language keeps only characters that cannot end its attribute. -/
theorem language_facts (metadata : String) :
    '<' ∉ (String.ofList (metadata.toList.filter isLanguageChar)).toList ∧
      '"' ∉ (String.ofList (metadata.toList.filter isLanguageChar)).toList := by
  rw [String.toList_ofList]
  exact ⟨fun h => absurd (List.of_mem_filter h) (by decide),
    fun h => absurd (List.of_mem_filter h) (by decide)⟩

theorem opensOnly_renderBlock (b : Model.Block) : OpensOnly CardTag (renderBlock b).toList := by
  unfold renderBlock
  split
  · exact opensOnly_renderMarkdown _
  · -- code: the opening, the escaped code, the closing
    refine opensOnly_append (opensOnly_append ?_ (opensOnly_escapeHtml _))
      (opensOnly_literal (by decide))
    split
    · rename_i hempty
      simpa using (opensOnly_literal (s := "<pre><code>") (by decide))
    · obtain ⟨hlt, hq⟩ := language_facts _
      simpa [String.append_assoc] using opensOnly_codeLanguage hlt hq
  · -- image: a figure when the source is a web link, an error paragraph otherwise
    dsimp only
    split
    · rename_i hweb
      have hsplit : ("<figure><img src=\"" ++ escapeHtml (Text.trim b.content) ++ "\" alt=\"" ++
          escapeHtml b.metadata ++ "\"></figure>").toList = "<figure>".toList ++
          ("<img src=\"" ++ escapeHtml (Text.trim b.content) ++ "\" alt=\"" ++
            escapeHtml b.metadata ++ "\">").toList ++ "</figure>".toList := by simp
      rw [hsplit]
      exact ((opensOnly_literal (by decide)).append (opensOnly_cardTag (.figure _ _ hweb) (by simp)
        (by simp [lt_not_mem_escapeHtml]))).append (opensOnly_literal (by decide))
    · exact opensOnly_append (opensOnly_append (opensOnly_literal (by decide))
        (opensOnly_escapeHtml _)) (opensOnly_literal (by decide))

theorem opensOnly_renderBlocks (bs : List Model.Block) :
    OpensOnly CardTag (renderBlocks bs).toList := by
  rw [renderBlocks, String.toList_join, List.flatMap_map]
  induction bs with
  | nil => exact .nil
  | cons b bs ih =>
    rw [List.flatMap_cons]
    exact (opensOnly_renderBlock b).append ih

/-- Card HTML carries no markup of its own. The markdown of a card reaches the writer through
the filter, which disarms each event as `Disarms` says, so the writer is handed only safe
events; and every `<` of a card's HTML, whatever its blocks, opens one of the renderer's own
tags, with link targets that are link targets and image sources that are web links or `#`. -/
theorem card_html_safe :
    (∀ t : String, ∃ es, List.Forall₂ Disarms (documentEvents t) es ∧
      (∀ e ∈ es, SafeEvent e) ∧ renderMarkdown t = pushHtml es ∧
      OpensOnly CardTag (renderMarkdown t).toList) ∧
    ∀ bs : List Model.Block, OpensOnly CardTag (renderBlocks bs).toList := by
  refine ⟨fun t => ?_, opensOnly_renderBlocks⟩
  obtain ⟨es, hdisarm, hsafe, hrender⟩ := renderMarkdown_disarmed t
  exact ⟨es, hdisarm, hsafe, hrender, opensOnly_renderMarkdown t⟩

end StudyPlanner.Render
