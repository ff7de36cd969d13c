import StudyPlanner.Remote.Status
import StudyPlanner.Proofs.Decimal
import StudyPlanner.Proofs.RouteUrl
import Mathlib.Data.List.TakeDrop
import Mathlib.Data.List.Basic
/-!
# Trailer text reads back, and so does the status it carries

A trailer frame is text: lines `name: value`, each ended by CR LF. This module shows that
reading such text gives back what was written, and that a status written into it reaches the
caller as it was meant.

* `Trailers.get?_parse_render`: for entries whose names hold no colon, neither names nor values
  hold a line break or blanks at their ends, looking a name up in the text of the entries
  finds the value of the first entry of that name, ignoring ASCII case, and nothing when there
  is none.
* `Trailers.check_status_lines`: a status code in decimal and a message percent-encoded, each on
  its own line, with blanks around the values and any unrelated lines before them, check as
  success for code `0` and otherwise as a failure with that code and the message (or, for an
  empty message, the default one).
* `Trailers.check_unreadable_status`: a status whose trimmed text writes no 32-bit integer
  breaks the protocol.

The proofs rest on a few facts about one line at a time: lines without CR LF split back
(`splitLines_lines_append`); a line with a colon is an entry of its trimmed name, in lower
case, and its trimmed value (`entryOfLine_colon`); blanks around a value are trimmed away
(`trimList_blank_around`); and percent-encoding that keeps letters and digits decodes back
(`decodeLossy_encodeAlphanumeric`).
-/

namespace StudyPlanner.Remote

open StudyPlanner.Text

/-! ### Trimming -/

theorem dropWhile_dropWhile_blank (cs : List Char) :
    (cs.dropWhile isBlank).dropWhile isBlank = cs.dropWhile isBlank := by
  induction cs with
  | nil => rfl
  | cons c cs ih =>
    by_cases hc : isBlank c = true
    · rw [List.dropWhile_cons_of_pos hc, ih]
    · rw [List.dropWhile_cons_of_neg hc, List.dropWhile_cons_of_neg hc]

theorem trimBack_trimBack (cs : List Char) : trimBack (trimBack cs) = trimBack cs := by
  rw [trimBack, trimBack, List.reverse_reverse, dropWhile_dropWhile_blank]

/-- Trimming twice is trimming once. -/
theorem trimList_trimList (cs : List Char) : trimList (trimList cs) = trimList cs := by
  -- trimming the back keeps a prefix of a list that starts with no blank
  have hprefix : trimBack (trimFront cs) <+: trimFront cs := by
    rw [trimBack, ← List.reverse_suffix, List.reverse_reverse]
    exact List.dropWhile_suffix _
  have hfront : trimFront (trimBack (trimFront cs)) = trimBack (trimFront cs) := by
    obtain ⟨t, ht⟩ := hprefix
    cases h : trimBack (trimFront cs) with
    | nil => rfl
    | cons z zs =>
      rw [h] at ht
      have hz : isBlank z = false := trimFront_head cs z (zs ++ t) (by rw [← ht]; rfl)
      rw [trimFront_cons, if_neg (by simp [hz])]
  rw [trimList, trimList, hfront, trimBack_trimBack]

theorem trim_trim (s : String) : trim (trim s) = trim s := by
  rw [trim, trim, String.toList_ofList, trimList_trimList]

namespace Trailers

/-! ### Lines -/

/-- A text that stays on one line: no CR LF inside it. -/
def OneLine (s : String) : Prop := ¬ ['\r', '\n'] <:+: s.toList

/-- A text without CR is on one line. -/
theorem oneLine_of_cr_not_mem {s : String} (h : '\r' ∉ s.toList) : OneLine s :=
  fun hi => h (hi.subset (by simp))

/-- Trailer text made of lines, each ended by CR LF. -/
def joinLines (lines : List String) : String := String.join (lines.map (· ++ "\r\n"))

theorem joinLines_toList (lines : List String) :
    (joinLines lines).toList = (lines.map String.toList).flatMap (· ++ ['\r', '\n']) := by
  simp only [joinLines, String.toList_join, List.flatMap_map, String.toList_append]
  rfl

/-- Two texts without CR LF make one without it, unless the first ends in CR and the second
starts with LF. -/
theorem not_crlf_append {xs ys : List Char} (hx : ¬ ['\r', '\n'] <:+: xs)
    (hy : ¬ ['\r', '\n'] <:+: ys) (hseam : xs.getLast? = some '\r' → ys.head? ≠ some '\n') :
    ¬ ['\r', '\n'] <:+: xs ++ ys := by
  induction xs with
  | nil => simpa using hy
  | cons a xs ih =>
    rw [List.cons_append, List.infix_cons_iff]
    rintro (⟨t, ht⟩ | hinf)
    · -- a CR LF at the front: `a` is the CR, and the LF is the next character
      cases xs with
      | nil =>
        simp only [List.cons_append, List.nil_append, List.cons.injEq] at ht
        exact hseam (by rw [← ht.1]; rfl) (by rw [← ht.2]; rfl)
      | cons b xs =>
        simp only [List.cons_append, List.nil_append, List.cons.injEq] at ht
        exact hx ⟨[], xs, by rw [← ht.1, ← ht.2.1]; rfl⟩
    · -- further on: a CR LF of the rest
      refine ih (fun hi => hx (List.infix_cons hi)) (fun hlast => ?_) hinf
      cases xs with
      | nil => cases hlast
      | cons b xs => exact hseam (by rw [List.getLast?_cons_cons]; exact hlast)

/-- A line without CR LF splits off the text at the CR LF that ends it. -/
theorem splitLines_line_append {line : List Char} (h : ¬ ['\r', '\n'] <:+: line)
    (rest : List Char) : splitLines (line ++ '\r' :: '\n' :: rest) = line :: splitLines rest := by
  induction line with
  | nil => exact splitLines.eq_2 rest
  | cons c line ih =>
    have hline : ¬ ['\r', '\n'] <:+: line := fun hi => h (List.infix_cons hi)
    -- `c` does not start a CR LF: either it is no CR, or no LF follows it
    have hnot : ∀ more, c = '\r' → line ++ '\r' :: '\n' :: rest = '\n' :: more → False := by
      intro more hc hmore
      cases line with
      | nil => simp at hmore
      | cons d line =>
        rw [List.cons_append, List.cons.injEq] at hmore
        exact h ⟨[], line, by rw [hc, hmore.1]; rfl⟩
    rw [List.cons_append, splitLines.eq_3 c _ hnot, ih hline]

/-- A text without CR LF is one line. -/
theorem splitLines_of_oneLine {cs : List Char} (h : ¬ ['\r', '\n'] <:+: cs) :
    splitLines cs = [cs] := by
  induction cs with
  | nil => exact splitLines.eq_1
  | cons c cs ih =>
    have hcs : ¬ ['\r', '\n'] <:+: cs := fun hi => h (List.infix_cons hi)
    have hnot : ∀ more, c = '\r' → cs = '\n' :: more → False := by
      rintro more rfl rfl
      exact h (List.infix_append [] ['\r', '\n'] more)
    rw [splitLines.eq_3 c _ hnot, ih hcs]

/-- Lines ended by CR LF, then any text: the lines split back, then the text splits. -/
theorem splitLines_lines_append {lines : List (List Char)}
    (h : ∀ l ∈ lines, ¬ ['\r', '\n'] <:+: l) (rest : List Char) :
    splitLines (lines.flatMap (· ++ ['\r', '\n']) ++ rest) = lines ++ splitLines rest := by
  induction lines with
  | nil => rfl
  | cons l ls ih =>
    have hl : ¬ ['\r', '\n'] <:+: l := h l List.mem_cons_self
    have hls : ∀ l ∈ ls, ¬ ['\r', '\n'] <:+: l := fun l' hl' => h l' (List.mem_cons_of_mem l hl')
    simp only [List.flatMap_cons, List.append_assoc, List.cons_append, List.nil_append]
    rw [splitLines_line_append hl, ih hls]

/-! ### Entries -/

/-- A line with a colon is an entry: the text before the first colon, trimmed and in ASCII lower
case, and the text after it, trimmed. -/
theorem entryOfLine_colon {name : List Char} (h : ':' ∉ name) (value : List Char) :
    entryOfLine (name ++ ':' :: value) =
      some (String.ofList ((trimList name).map Char.toLower), String.ofList (trimList value)) := by
  have hname : ∀ c ∈ name, (c != ':') = true := by
    intro c hc
    simpa using fun hcolon : c = ':' => h (hcolon ▸ hc)
  have hspan : (name ++ ':' :: value).span (· != ':') = (name, ':' :: value) := by
    rw [List.span_eq_takeWhile_dropWhile, List.takeWhile_append_of_pos hname,
      List.dropWhile_append_of_pos hname, List.takeWhile_cons_of_neg (by simp),
      List.dropWhile_cons_of_neg (by simp), List.append_nil]
  rw [entryOfLine, hspan]

/-- Reading a text's bytes splits the text itself into lines. -/
theorem parse_encode (s : String) :
    parse (Utf8.encode s) = { entries := (splitLines s.toList).filterMap entryOfLine } := by
  rw [parse, Utf8.decodeChars_encode]

/-- Lines ended by CR LF, then any text: the entries of the lines come first, in order. -/
theorem parse_joinLines_append {lines : List String} (h : ∀ l ∈ lines, OneLine l) (rest : String) :
    (parse (Utf8.encode (joinLines lines ++ rest))).entries =
      lines.filterMap (fun l => entryOfLine l.toList) ++ (parse (Utf8.encode rest)).entries := by
  have hlines : ∀ l ∈ lines.map String.toList, ¬ ['\r', '\n'] <:+: l := by
    intro l hl
    obtain ⟨s, hs, rfl⟩ := List.mem_map.mp hl
    exact h s hs
  rw [parse_encode, parse_encode, String.toList_append, joinLines_toList,
    splitLines_lines_append hlines, List.filterMap_append, List.filterMap_map]
  rfl

/-- A line alone reads as its entry, if it has one. -/
theorem parse_encode_oneLine {l : String} (h : OneLine l) :
    parse (Utf8.encode l) = { entries := (entryOfLine l.toList).toList } := by
  rw [parse_encode, splitLines_of_oneLine h, List.filterMap_cons, List.filterMap_nil]
  cases entryOfLine l.toList <;> rfl

/-- Looking a name up in entries one after another: the first entries first. -/
theorem get?_append (es fs : List (String × String)) (q : String) :
    ({ entries := es ++ fs } : Trailers).get? q =
      (({ entries := es } : Trailers).get? q).or (({ entries := fs } : Trailers).get? q) := by
  simp only [get?, List.find?_append, Option.map_or]

/-- ASCII lower case does nothing more the second time. -/
theorem toLower_toLower (c : Char) : c.toLower.toLower = c.toLower := by
  -- the lower case of a letter lies past `Z`, and anything else is left as it is
  have hlow : ¬ (c.toLower.val ≥ 'A'.val ∧ c.toLower.val ≤ 'Z'.val) := by
    by_cases h : c.val ≥ 'A'.val ∧ c.val ≤ 'Z'.val
    · have hval : c.toLower.val = c.val + ('a'.val - 'A'.val) := by
        show (if h : c.val ≥ 'A'.val ∧ c.val ≤ 'Z'.val then _ else c).val = _
        rw [dif_pos h]
      rw [hval, ge_iff_le, UInt32.le_iff_toNat_le, UInt32.le_iff_toNat_le, UInt32.toNat_add]
      rw [ge_iff_le, UInt32.le_iff_toNat_le, UInt32.le_iff_toNat_le] at h
      simp only [Char.reduceVal, UInt32.reduceSub, UInt32.reduceToNat] at h ⊢
      omega
    · have hval : c.toLower = c := by
        show (if h : c.val ≥ 'A'.val ∧ c.val ≤ 'Z'.val then _ else c) = c
        rw [dif_neg h]
      rwa [hval]
  show (if h : c.toLower.val ≥ 'A'.val ∧ c.toLower.val ≤ 'Z'.val then _ else c.toLower) = c.toLower
  rw [dif_neg hlow]

/-- A name in ASCII lower case is the same name. -/
theorem sameName_lower (n q : String) :
    sameName (String.ofList (n.toList.map Char.toLower)) q = sameName n q := by
  simp only [sameName, String.toList_ofList, List.map_map, Function.comp_def,
    toLower_toLower]

/-! ### Entries written as text -/

/-- The text of entries: a line `name: value` for each, in order. -/
def render (es : List (String × String)) : String := joinLines (es.map fun e => e.1 ++ ": " ++ e.2)

/-- An entry that a line of trailer text carries as it is: its name holds no colon, and neither
its name nor its value holds a CR LF or has blanks at its ends. -/
structure Writable (e : String × String) : Prop where
  name_colon : ':' ∉ e.1.toList
  name_oneLine : OneLine e.1
  name_trim : trim e.1 = e.1
  value_oneLine : OneLine e.2
  value_trim : trim e.2 = e.2

theorem trimList_of_trim {s : String} (h : trim s = s) : trimList s.toList = s.toList := by
  have hlist := congrArg String.toList h
  rwa [trim, String.toList_ofList] at hlist

/-- The line of a writable entry is one line. -/
theorem Writable.oneLine {e : String × String} (h : Writable e) : OneLine (e.1 ++ ": " ++ e.2) := by
  have hsep : ¬ ['\r', '\n'] <:+: ':' :: ' ' :: e.2.toList := by
    rw [List.infix_cons_iff, List.infix_cons_iff]
    rintro (⟨t, ht⟩ | ⟨t, ht⟩ | hv)
    · cases ht
    · cases ht
    · exact h.value_oneLine hv
  rw [OneLine, String.toList_append, String.toList_append, List.append_assoc]
  exact not_crlf_append h.name_oneLine hsep fun _ => by simp

/-- The line of a writable entry reads as the entry, its name in ASCII lower case. -/
theorem Writable.entryOfLine {e : String × String} (h : Writable e) :
    entryOfLine (e.1 ++ ": " ++ e.2).toList =
      some (String.ofList (e.1.toList.map Char.toLower), e.2) := by
  have hvalue : trimList (' ' :: e.2.toList) = e.2.toList := by
    rw [trimList, trimFront_cons, if_pos (by decide), ← trimList, trimList_of_trim h.value_trim]
  rw [String.toList_append, String.toList_append, List.append_assoc,
    show ": ".toList = [':', ' '] from rfl, List.cons_append, List.singleton_append,
    entryOfLine_colon h.name_colon, trimList_of_trim h.name_trim, hvalue, String.ofList_toList]

/-- Reading the text of writable entries gives the entries, their names in ASCII lower case. -/
theorem parse_render {es : List (String × String)} (hes : ∀ e ∈ es, Writable e) :
    parse (Utf8.encode (render es)) =
      { entries := es.map fun e => (String.ofList (e.1.toList.map Char.toLower), e.2) } := by
  have hlines : ∀ l ∈ es.map (fun e => e.1 ++ ": " ++ e.2), OneLine l := by
    intro l hl
    obtain ⟨e, he, rfl⟩ := List.mem_map.mp hl
    exact (hes e he).oneLine
  have hentries := parse_joinLines_append hlines ""
  rw [String.append_empty, List.filterMap_map] at hentries
  have hfilter : (es.filterMap fun e => Trailers.entryOfLine (e.1 ++ ": " ++ e.2).toList) =
      es.map fun e => (String.ofList (e.1.toList.map Char.toLower), e.2) := by
    rw [List.filterMap_eq_map_iff_forall_eq_some]
    intro e he
    exact (hes e he).entryOfLine
  -- the empty text after the last line has no entry
  have hempty : (parse (Utf8.encode "")).entries = [] := by
    rw [parse_encode, String.toList_empty, splitLines.eq_1]
    rfl
  rw [render, Trailers.mk.injEq, hentries, Function.comp_def, hfilter, hempty, List.append_nil]

/-- Looking a name up in the text of writable entries finds the value of the first entry whose
name is the same but for ASCII case, and nothing when there is none. -/
theorem get?_parse_render {es : List (String × String)} (hes : ∀ e ∈ es, Writable e) (q : String) :
    (parse (Utf8.encode (render es))).get? q = (es.find? fun e => sameName e.1 q).map (·.2) := by
  rw [parse_render hes, get?, List.find?_map, Option.map_map]
  simp only [Function.comp_def, sameName_lower]

/-! ### Percent-encoded messages -/

/-- A letter or digit byte is ASCII and no `%`. -/
theorem isAlphanumeric_facts {b : UInt8} (h : Percent.isAlphanumeric b = true) :
    b.toNat ≤ 0x7f ∧ b.toNat ≠ 0x25 := by
  simp only [Percent.isAlphanumeric, Bool.or_eq_true, Bool.and_eq_true, decide_eq_true_eq] at h
  omega

/-- Percent-encoding that keeps letters and digits writes ASCII characters. -/
theorem byteChars_alphanumeric_ascii (b : UInt8) :
    ∀ c ∈ Web.byteChars Percent.isAlphanumeric b, c.toNat ≤ 0x7f := by
  intro c hc
  unfold Web.byteChars at hc
  split at hc
  · -- a letter or a digit, written as itself
    rename_i hkeep
    have hb := (isAlphanumeric_facts hkeep).1
    rw [List.mem_singleton] at hc
    subst hc
    rw [Web.toNat_charOfNat (by omega)]
    exact hb
  · -- an escape: `%` and two digits
    have hb : b.toNat < 256 := b.toNat_lt
    simp only [Percent.escapeByte, List.mem_cons, List.mem_nil_iff, or_false] at hc
    rcases hc with rfl | rfl | rfl
    · decide
    · exact (Web.digitUpper_url_facts (b.toNat / 16) (by omega)).1
    · exact (Web.digitUpper_url_facts (b.toNat % 16) (by omega)).1

/-- A message percent-encoded keeping letters and digits decodes back to itself. -/
theorem decodeLossy_encodeAlphanumeric (x : String) :
    Percent.decodeLossy (Percent.encodeWith Percent.isAlphanumeric x) = x := by
  have hascii : ∀ c ∈ (Percent.encodeWith Percent.isAlphanumeric x).toList, c.toNat ≤ 0x7f := by
    intro c hc
    rw [Web.encodeWith_toList, List.mem_flatMap] at hc
    obtain ⟨b, -, hb⟩ := hc
    exact byteChars_alphanumeric_ascii b c hb
  have hstr : Percent.encodeWith Percent.isAlphanumeric x =
      String.ofList (Percent.encodeWith Percent.isAlphanumeric x).toList :=
    String.ofList_toList.symm
  rw [Percent.decodeLossy, hstr, Utf8.encode_ofList_of_le hascii]
  show Utf8.decodeLossy (Percent.decodeBytes
    ((Percent.encodeWith Percent.isAlphanumeric x).toList.map Web.asciiByte)) = x
  rw [Web.encodeWith_toList, Web.decodeBytes_flatMap_byteChars fun b hb => isAlphanumeric_facts hb,
    Utf8.decodeLossy_encode]

/-! ### The status in the trailers -/

/-- A field line: a label that holds no CR, then a value on one line. -/
theorem oneLine_label {label : String} (hlabel : '\r' ∉ label.toList) {value : String}
    (hvalue : OneLine value) : OneLine (label ++ value) := by
  rw [OneLine, String.toList_append]
  refine not_crlf_append (oneLine_of_cr_not_mem hlabel) hvalue fun hlast => ?_
  exact absurd (List.mem_of_getLast? hlast) hlabel

/-- A field line whose label is a lower-case name without colon or blanks, then a colon, reads
as the entry of that name and the trimmed value. -/
theorem entryOfLine_label (label name : String) (hlabel : label.toList = name.toList ++ [':'])
    (hcolon : ':' ∉ name.toList)
    (hname : String.ofList ((trimList name.toList).map Char.toLower) = name) (value : String) :
    entryOfLine (label ++ value).toList = some (name, trim value) := by
  rw [String.toList_append, hlabel, List.append_assoc, List.singleton_append,
    entryOfLine_colon hcolon, hname]
  rfl

theorem filterMap_cons_toList {α β : Type} (f : α → Option β) (a : α) (l : List α) :
    (a :: l).filterMap f = (f a).toList ++ l.filterMap f := by
  cases h : f a <;> simp [h]

/-- A line that, read alone, names neither the status nor the message of a call. -/
structure Unrelated (l : String) : Prop where
  oneLine : OneLine l
  no_status : (parse (Utf8.encode l)).get? "grpc-status" = none
  no_message : (parse (Utf8.encode l)).get? "grpc-message" = none

/-- Unrelated lines in front of other entries leave a lookup of the status or the message to
those entries. -/
theorem get?_unrelated_append {pre : List String} (hpre : ∀ l ∈ pre, Unrelated l)
    (fs : List (String × String)) {q : String} (hq : q = "grpc-status" ∨ q = "grpc-message") :
    ({ entries := pre.filterMap (fun l => entryOfLine l.toList) ++ fs } : Trailers).get? q =
      ({ entries := fs } : Trailers).get? q := by
  induction pre with
  | nil => rfl
  | cons l pre ih =>
    have hl : Unrelated l := hpre l List.mem_cons_self
    have hnone : ({ entries := (entryOfLine l.toList).toList } : Trailers).get? q = none := by
      rw [← parse_encode_oneLine hl.oneLine]
      rcases hq with rfl | rfl
      · exact hl.no_status
      · exact hl.no_message
    rw [filterMap_cons_toList, List.append_assoc, get?_append, hnone, Option.none_or,
      ih fun l' hl' => hpre l' (List.mem_cons_of_mem l hl')]

theorem joinLines_append (xs ys : List String) : joinLines (xs ++ ys) = joinLines xs ++ joinLines ys := by
  rw [joinLines, List.map_append, String.join_append]
  rfl

/-- One-line texts, then a field line `label value` on one line, then any text: the field's
entry, its name and its trimmed value, follows the entries of the lines. -/
theorem entries_field_line {pre : List String} (hpre : ∀ l ∈ pre, OneLine l) (label name : String)
    (hlabel : label.toList = name.toList ++ [':']) (hcr : '\r' ∉ label.toList)
    (hcolon : ':' ∉ name.toList)
    (hname : String.ofList ((trimList name.toList).map Char.toLower) = name) {value : String}
    (hvalue : OneLine value) (rest : String) :
    (parse (Utf8.encode (joinLines (pre ++ [label ++ value]) ++ rest))).entries =
      pre.filterMap (fun l => entryOfLine l.toList) ++
        (name, trim value) :: (parse (Utf8.encode rest)).entries := by
  have hlines : ∀ l ∈ pre ++ [label ++ value], OneLine l := by
    intro l hl
    rcases List.mem_append.mp hl with hl | hl
    · exact hpre l hl
    · rw [List.mem_singleton.mp hl]
      exact oneLine_label hcr hvalue
  rw [parse_joinLines_append hlines, List.filterMap_append, filterMap_cons_toList, List.filterMap_nil,
    entryOfLine_label label name hlabel hcolon hname, List.append_nil, List.append_assoc]
  rfl

theorem sameName_self (n : String) : sameName n n = true := by
  simp [sameName]

/-- A lookup finds the first of entries of that name. -/
theorem get?_cons_self (n v : String) (fs : List (String × String)) :
    ({ entries := (n, v) :: fs } : Trailers).get? n = some v := by
  simp [get?, sameName_self]

/-- A lookup passes over an entry of another name. -/
theorem get?_cons_of_sameName {n q : String} (h : sameName n q = false) (v : String)
    (fs : List (String × String)) :
    ({ entries := (n, v) :: fs } : Trailers).get? q = ({ entries := fs } : Trailers).get? q := by
  simp [get?, h]

/-- Unrelated lines, then a status line: the status is the trimmed value of that line. -/
theorem get?_status_line {pre : List String} (hpre : ∀ l ∈ pre, Unrelated l) {sv : String}
    (hsv : OneLine sv) (rest : String) :
    (parse (Utf8.encode (joinLines (pre ++ ["grpc-status:" ++ sv]) ++ rest))).get? "grpc-status" =
      some (trim sv) := by
  have hentries := entries_field_line (fun l hl => (hpre l hl).oneLine) "grpc-status:" "grpc-status"
    rfl (by decide) (by decide) rfl hsv rest
  rw [get?, hentries, ← get?, get?_unrelated_append hpre _ (.inl rfl), get?_cons_self]

/-- The text of a status line and a message line is the status line's, then the message
line's. -/
theorem joinLines_status_message (pre : List String) (sv mv rest : String) :
    joinLines (pre ++ ["grpc-status:" ++ sv, "grpc-message:" ++ mv]) ++ rest =
      joinLines (pre ++ ["grpc-status:" ++ sv]) ++ (joinLines ["grpc-message:" ++ mv] ++ rest) := by
  rw [← String.append_assoc, ← joinLines_append, List.append_assoc]
  rfl

/-- Unrelated lines, then a status line and a message line: the message is the trimmed value of
its line. -/
theorem get?_message_line {pre : List String} (hpre : ∀ l ∈ pre, Unrelated l) {sv mv : String}
    (hsv : OneLine sv) (hmv : OneLine mv) (rest : String) :
    (parse (Utf8.encode (joinLines (pre ++ ["grpc-status:" ++ sv, "grpc-message:" ++ mv]) ++
      rest))).get? "grpc-message" = some (trim mv) := by
  have hentries := entries_field_line (fun l hl => (hpre l hl).oneLine) "grpc-status:" "grpc-status"
    rfl (by decide) (by decide) rfl hsv (joinLines ["grpc-message:" ++ mv] ++ rest)
  -- the message line alone, with no line before it
  have hmessage := entries_field_line (fun l (hl : l ∈ []) => absurd hl List.not_mem_nil)
    "grpc-message:" "grpc-message" rfl (by decide) (by decide) rfl hmv rest
  rw [List.nil_append, List.filterMap_nil, List.nil_append] at hmessage
  rw [joinLines_status_message, get?, hentries, ← get?, get?_unrelated_append hpre _ (.inr rfl),
    get?_cons_of_sameName (by decide), get?, hmessage, ← get?, get?_cons_self]

/-- A code written in decimal and a message percent-encoded (letters and digits kept as they
are): code `0` checks as success, any other code as a failure with that code and the message, or
with the default message when the message is empty. -/
theorem checkStatus_written (code : Int32) (x : String) :
    checkStatus (some (Decimal.ofInt code.toInt))
        (some (Percent.encodeWith Percent.isAlphanumeric x)) =
      if code = 0 then .ok ()
      else .error (.status code
        (if x = "" then "remote call failed with status " ++ Decimal.ofInt code.toInt else x)) := by
  simp only [checkStatus, Decimal.readInt32?_trim_ofInt, Option.map_some, Option.getD_some,
    decodeLossy_encodeAlphanumeric, String.isEmpty_iff]

/-- A status written as a code in decimal and a message percent-encoded (letters and digits
kept as they are), each on its own line after any unrelated lines, blanks allowed around the
values: code `0` checks as success, any other code as a failure with that code and the message,
or with the default message when the message is empty. -/
theorem check_status_lines {pre : List String} (hpre : ∀ l ∈ pre, Unrelated l)
    {code : Int32} {x sv mv : String} (hsv : OneLine sv) (hcode : trim sv = Decimal.ofInt code.toInt)
    (hmv : OneLine mv) (hx : trim mv = Percent.encodeWith Percent.isAlphanumeric x) (rest : String) :
    (parse (Utf8.encode (joinLines (pre ++ ["grpc-status:" ++ sv, "grpc-message:" ++ mv]) ++
      rest))).check =
      if code = 0 then .ok ()
      else .error (.status code
        (if x = "" then "remote call failed with status " ++ Decimal.ofInt code.toInt else x)) := by
  have hstatus := get?_status_line hpre hsv (joinLines ["grpc-message:" ++ mv] ++ rest)
  rw [← joinLines_status_message] at hstatus
  rw [check, hstatus, get?_message_line hpre hsv hmv rest, hcode, hx, checkStatus_written]

/-- A status whose trimmed text writes no 32-bit integer breaks the protocol, whatever follows. -/
theorem check_unreadable_status {pre : List String} (hpre : ∀ l ∈ pre, Unrelated l) {sv : String}
    (hsv : OneLine sv) (hbad : ¬ ∃ v : Int32, Decimal.Writes (trim sv).toList v.toInt)
    (rest : String) :
    (parse (Utf8.encode (joinLines (pre ++ ["grpc-status:" ++ sv]) ++ rest))).check =
      .error (.protocol ("invalid grpc-status " ++ quote (trim sv))) := by
  -- the trailers hold the trimmed text, and the check trims it once more
  have hnone : Decimal.readInt32? (trim (trim sv)) = none := by
    rw [trim_trim]
    exact Decimal.readInt32?_eq_none_iff.mpr hbad
  rw [check, get?_status_line hpre hsv rest, checkStatus, hnone]

/-! ### Trailer text and the status it carries -/

/-- Trailer text reads back, and a status written into it reaches the caller as it was meant:
looking a name up in the text of writable entries finds the first entry of that name up to
ASCII case; a code in decimal and a message percent-encoded, after unrelated lines and with
blanks around the values, check as success for `0` and otherwise as that code with that message
(or the default one for an empty message); and a status whose trimmed text writes no 32-bit
integer breaks the protocol. -/
theorem trailer_text_carries_status :
    (∀ es : List (String × String), (∀ e ∈ es, Writable e) → ∀ q : String,
      (parse (Utf8.encode (render es))).get? q = (es.find? fun e => sameName e.1 q).map (·.2)) ∧
    (∀ pre : List String, (∀ l ∈ pre, Unrelated l) → ∀ (code : Int32) (x sv mv rest : String),
      OneLine sv → trim sv = Decimal.ofInt code.toInt →
      OneLine mv → trim mv = Percent.encodeWith Percent.isAlphanumeric x →
      (parse (Utf8.encode (joinLines (pre ++ ["grpc-status:" ++ sv, "grpc-message:" ++ mv]) ++
        rest))).check =
        if code = 0 then .ok ()
        else .error (.status code
          (if x = "" then "remote call failed with status " ++ Decimal.ofInt code.toInt else x))) ∧
    (∀ pre : List String, (∀ l ∈ pre, Unrelated l) → ∀ sv rest : String, OneLine sv →
      (¬ ∃ v : Int32, Decimal.Writes (trim sv).toList v.toInt) →
      (parse (Utf8.encode (joinLines (pre ++ ["grpc-status:" ++ sv]) ++ rest))).check =
        .error (.protocol ("invalid grpc-status " ++ quote (trim sv)))) :=
  ⟨fun _ hes q => get?_parse_render hes q,
    fun _ hpre _ _ _ _ rest hsv hcode hmv hx => check_status_lines hpre hsv hcode hmv hx rest,
    fun _ hpre _ rest hsv hbad => check_unreadable_status hpre hsv hbad rest⟩

/-- A content type line, then status `5` with a space before it and the message
`card%20not%20found`: the caller gets status `5` with the message `card not found`; and a
status `5x` breaks the protocol. -/
theorem trailers_report_card_not_found :
    Unrelated "content-type: application/grpc-web+proto" ∧
    (parse (Utf8.encode (joinLines (["content-type: application/grpc-web+proto"] ++
      ["grpc-status:" ++ " 5", "grpc-message:" ++ " card%20not%20found"]) ++ ""))).check =
      .error (.status 5 "card not found") ∧
    (parse (Utf8.encode (joinLines ([] ++ ["grpc-status:" ++ " 5x"]) ++ ""))).check =
      .error (.protocol "invalid grpc-status \"5x\"") := by
  have hline : OneLine "content-type: application/grpc-web+proto" :=
    oneLine_of_cr_not_mem (by decide)
  have hunrelated : Unrelated "content-type: application/grpc-web+proto" :=
    ⟨hline, by rw [parse_encode_oneLine hline]; rfl, by rw [parse_encode_oneLine hline]; rfl⟩
  refine ⟨hunrelated, ?_, ?_⟩
  · rw [trailer_text_carries_status.2.1 _ (by simpa using hunrelated) 5 "card not found" " 5"
      " card%20not%20found" "" (oneLine_of_cr_not_mem (by decide)) rfl
      (oneLine_of_cr_not_mem (by decide)) rfl]
    rfl
  · exact trailer_text_carries_status.2.2 [] (by simp) " 5x" "" (oneLine_of_cr_not_mem (by decide))
      (Decimal.readInt32?_eq_none_iff.mp rfl)

end Trailers

end StudyPlanner.Remote
