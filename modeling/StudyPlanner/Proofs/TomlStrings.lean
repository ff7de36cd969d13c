import StudyPlanner.Toml.Emit
import StudyPlanner.Toml.Scan
import Mathlib.Data.List.Induction
import Mathlib.Data.List.TakeWhile
/-!
# Written strings read back

A string is written in one of four forms (`stringRepr`): a basic string between `"` with
escapes, its multi-line form between triple `"` with line feeds left raw, a literal string
between `'`, or its multi-line form between triple `'`. Whatever the string, reading what was
written gives the string back and stops right after the closing quotes, when what follows
starts with no quote (`quotedString_stringRepr`).

* The scan that chooses the form writes a literal string only for a `LiteralBody`: no control
  character but tab and line feed, quotes in runs of one or two, and no quote at the end
  (`inferStyle_literal`). What the scan knows, `ScanKnows`, is kept by each character.
* A basic string holds each character as itself, as a raw line feed in the multi-line form, or
  as an escape that reads back as it (`basicEscape_cases`). Both basic readers take a whole run
  of plain characters at once; `BasicLoop.reads` is the induction over the string they share.
* The multi-line literal reader takes the characters up to a quote, then turns of one or two
  quotes and the text after them (`mllQuoted_body`).

Offsets are bookkeeping here: each lemma says what is read and what is left, at some offset.
-/

namespace StudyPlanner.Toml

theorem toNat_ne_of_ne {ch d : Char} (h : ch ≠ d) : ch.toNat ≠ d.toNat :=
  fun h' => h (Char.toNat_inj.mp h')

/-! ## What the choice of quoting guarantees -/

/-- The inside of a multi-line literal string: characters a literal string holds and line
feeds, with quotes in runs of one or two, each followed by such a character. -/
inductive LiteralBody : List Char → Prop
  | nil : LiteralBody []
  | char {c : Char} {l : List Char} : (isLiteralChar c = true ∨ c = '\n') → LiteralBody l →
      LiteralBody (c :: l)
  | quotes {q : List Char} {c : Char} {l : List Char} : (q = ['\''] ∨ q = ['\'', '\'']) →
      (isLiteralChar c = true ∨ c = '\n') → LiteralBody l → LiteralBody (q ++ c :: l)

namespace LiteralBody

theorem append {a b : List Char} (ha : LiteralBody a) (hb : LiteralBody b) :
    LiteralBody (a ++ b) := by
  induction ha with
  | nil => exact hb
  | char hc _ ih => exact .char hc ih
  | quotes hq hc _ ih => simpa using LiteralBody.quotes hq hc ih

/-- A body stays one after a run of at most two quotes and a character that is no quote. -/
theorem append_run {body : List Char} (hb : LiteralBody body) {n : Nat} (hn : n ≤ 2) {c : Char}
    (hc : isLiteralChar c = true ∨ c = '\n') :
    LiteralBody (body ++ List.replicate n '\'' ++ [c]) := by
  rw [List.append_assoc]
  refine hb.append ?_
  match n, hn with
  | 0, _ => exact .char hc .nil
  | 1, _ => exact .quotes (.inl rfl) hc .nil
  | 2, _ => exact .quotes (.inr rfl) hc .nil

theorem mem {l : List Char} (h : LiteralBody l) :
    ∀ c ∈ l, isLiteralChar c = true ∨ c = '\n' ∨ c = '\'' := by
  induction h with
  | nil => simp
  | char hc _ ih =>
    intro c' hc'
    rcases List.mem_cons.mp hc' with rfl | h'
    · exact hc.elim .inl (.inr ∘ .inl)
    · exact ih c' h'
  | quotes hq hc _ ih =>
    intro c' hc'
    rcases List.mem_append.mp hc' with hq' | hc'
    · rcases hq with rfl | rfl <;> simp_all
    · rcases List.mem_cons.mp hc' with rfl | h'
      · exact hc.elim .inl (.inr ∘ .inl)
      · exact ih c' h'

/-- A body splits into characters that are no quote and a body that starts with a quote, or is
empty. -/
theorem split {l : List Char} (h : LiteralBody l) :
    ∃ p r, l = p ++ r ∧ (∀ c ∈ p, isLiteralChar c = true ∨ c = '\n') ∧ LiteralBody r ∧
      ∀ y ∈ r.head?, y = '\'' := by
  induction h with
  | nil => exact ⟨[], [], rfl, by simp, .nil, by simp⟩
  | @char c _ hc _ ih =>
    obtain ⟨p, r, rfl, hp, hr, hhead⟩ := ih
    refine ⟨c :: p, r, rfl, ?_, hr, hhead⟩
    intro c' hc'
    rcases List.mem_cons.mp hc' with rfl | h'
    exacts [hc, hp c' h']
  | quotes hq hc hl _ =>
    refine ⟨[], _, rfl, by simp, .quotes hq hc hl, ?_⟩
    rcases hq with rfl | rfl <;> simp

end LiteralBody

theorem isLiteralChar_of_toNat {ch : Char} (h1 : 0x20 ≤ ch.toNat) (h2 : ch.toNat ≠ 0x27)
    (h3 : ch.toNat ≠ 0x7F) : isLiteralChar ch = true := by
  simp only [isLiteralChar, Bool.or_eq_true, decide_eq_true_eq, Bool.and_eq_true]
  omega

namespace StyleScan

theorem step_multiline (st : StyleScan) (ch : Char) :
    (st.step ch).multiline = (st.multiline || decide (ch = '\n')) := by
  unfold step
  split_ifs <;> simp_all
  rintro rfl
  simp_all

theorem step_quote {st : StyleScan} (h : st.canBeLiteral = true) :
    st.step '\'' =
      { st with singles := st.singles + 1, canBeLiteral := decide (st.singles + 1 < 3) } := by
  simp [step, h]

/-- A character other than a quote ends the run of quotes, and keeps the scan open for a
literal string only when a literal string can hold it. -/
theorem step_of_ne_quote {st : StyleScan} (h : st.canBeLiteral = true) {ch : Char}
    (hq : ch ≠ '\'') :
    (st.step ch).singles = 0 ∧ (st.step ch).maxSingles = max st.maxSingles st.singles ∧
      ((st.step ch).canBeLiteral = true → isLiteralChar ch = true ∨ ch = '\n') := by
  have hlit : ¬(ch.toNat ≤ 0x1F ∨ ch.toNat = 0x7F) → isLiteralChar ch = true := fun hc =>
    isLiteralChar_of_toNat (by omega) (toNat_ne_of_ne hq) (by omega)
  unfold step
  split_ifs <;> simp_all
  · decide
  · rename_i hesc
    rcases hesc with rfl | rfl <;> decide

theorem step_of_not_literal {st : StyleScan} (h : st.canBeLiteral = false) (ch : Char) :
    (st.step ch).canBeLiteral = false := by
  unfold step
  split_ifs <;> simp_all

end StyleScan

/-- What a scan over `l` knows: whether `l` holds a line feed and, while a literal string can
still hold `l`, how `l` ends with its last run of quotes. -/
structure ScanKnows (l : List Char) (st : StyleScan) : Prop where
  multiline : st.multiline = true ↔ '\n' ∈ l
  split : st.canBeLiteral = true →
    st.singles ≤ 2 ∧ ∃ body, LiteralBody body ∧ l = body ++ List.replicate st.singles '\''
  quoted : st.canBeLiteral = true → '\'' ∈ l → 1 ≤ max st.maxSingles st.singles

namespace ScanKnows

theorem start : ScanKnows [] {} where
  multiline := by simp
  split := fun _ => ⟨by simp, [], .nil, rfl⟩
  quoted := by simp

theorem step {l : List Char} {st : StyleScan} (h : ScanKnows l st) (ch : Char) :
    ScanKnows (l ++ [ch]) (st.step ch) where
  multiline := by
    simp only [StyleScan.step_multiline, Bool.or_eq_true, decide_eq_true_eq, h.multiline,
      List.mem_append, List.mem_singleton]
    exact or_congr_right eq_comm
  split := by
    intro hlit
    by_cases hcan : st.canBeLiteral = true
    · obtain ⟨hle, body, hbody, rfl⟩ := h.split hcan
      by_cases hq : ch = '\''
      · subst hq
        rw [StyleScan.step_quote hcan] at hlit ⊢
        refine ⟨by simp at hlit ⊢; omega, body, hbody, ?_⟩
        simp [List.replicate_succ', List.append_assoc]
      · obtain ⟨hs, -, hc⟩ := StyleScan.step_of_ne_quote hcan hq
        exact ⟨by omega, _, hbody.append_run hle (hc hlit), by simp [hs]⟩
    · simp [StyleScan.step_of_not_literal (Bool.eq_false_iff.mpr hcan)] at hlit
  quoted := by
    intro hlit hmem
    by_cases hcan : st.canBeLiteral = true
    · by_cases hq : ch = '\''
      · subst hq
        rw [StyleScan.step_quote hcan]
        show 1 ≤ max st.maxSingles (st.singles + 1)
        omega
      · obtain ⟨hs, hm, -⟩ := StyleScan.step_of_ne_quote hcan hq
        have hmem' : '\'' ∈ l := by
          rcases List.mem_append.mp hmem with h' | h'
          · exact h'
          · exact absurd (List.mem_singleton.mp h').symm hq
        rw [hs, hm]
        simpa using h.quoted hcan hmem'
    · simp [StyleScan.step_of_not_literal (Bool.eq_false_iff.mpr hcan)] at hlit

/-- The scan of a whole text knows it. -/
theorem foldl (l : List Char) : ScanKnows l (l.foldl StyleScan.step {}) := by
  induction l using List.reverseRecOn with
  | nil => exact start
  | append_singleton l ch ih =>
    rw [List.foldl_append, List.foldl_cons, List.foldl_nil]
    exact ih.step ch

end ScanKnows

/-- A string written as a literal string is the body of one; it is written over several lines
exactly when it holds a line feed, and between single quotes only when it holds none. -/
theorem inferStyle_literal {s : String} {style : StringStyle}
    (h : inferStyle s = (style, true)) :
    LiteralBody s.toList ∧ (style = .newlineTriple ↔ '\n' ∈ s.toList) ∧
      (style = .onelineSingle → '\'' ∉ s.toList) := by
  have hk := ScanKnows.foldl s.toList
  simp only [inferStyle] at h
  generalize s.toList.foldl StyleScan.step {} = st at h hk
  -- a literal string has no run of quotes at its end, so the scan's split leaves no quotes
  have hbody : st.canBeLiteral = true → ¬(0 < st.singles ∧ s.toList.getLast? = some '\'') →
      LiteralBody s.toList := by
    intro hcan hlast
    obtain ⟨-, body, hb, hsplit⟩ := hk.split hcan
    have h0 : st.singles = 0 := by
      by_contra hne
      refine hlast ⟨Nat.pos_of_ne_zero hne, ?_⟩
      rw [hsplit, List.getLast?_append, List.getLast?_replicate]
      simp [hne]
    rw [hsplit, h0]
    simpa using hb
  split at h
  · simp at h
  · rename_i hA
    have hcan : st.canBeLiteral = true := by
      cases hc : st.canBeLiteral
      · simp [hc] at hA
      · rfl
    have hlast : ¬(0 < st.singles ∧ s.toList.getLast? = some '\'') := by
      rintro ⟨h1, h2⟩
      simp [h1, h2] at hA
    simp only [Prod.mk.injEq, and_true] at h
    subst h
    refine ⟨hbody hcan hlast, ?_⟩
    cases hm : st.multiline
    · have hnl : '\n' ∉ s.toList := fun hn => by simp [hk.multiline.mpr hn] at hm
      by_cases hq : 1 ≤ max st.maxSingles st.singles
      · simp [hq, hnl]
      · have hnq : '\'' ∉ s.toList := fun hn => hq (hk.quoted hcan hn)
        simp [hq, hnl, hnq]
    · simp [hk.multiline.mp hm]

/-! ## Reading back -/

namespace Cursor

@[simp] theorem next_cons (ch : Char) (tail : List Char) (o : Nat) :
    (⟨ch :: tail, o⟩ : Cursor).next = ⟨tail, o + ch.utf8Size⟩ := rfl

@[simp] theorem peek?_mk (cs : List Char) (o : Nat) : (⟨cs, o⟩ : Cursor).peek? = cs.head? := rfl

@[simp] theorem fuel_mk (cs : List Char) (o : Nat) : (⟨cs, o⟩ : Cursor).fuel = cs.length + 1 := rfl

@[simp] theorem startsWith_mk (cs : List Char) (o : Nat) (s : String) :
    (⟨cs, o⟩ : Cursor).startsWith s = s.toList.isPrefixOf cs := rfl

theorem skip_append (cs rest : List Char) (o : Nat) :
    ∃ o', skip cs.length ⟨cs ++ rest, o⟩ = ⟨rest, o'⟩ := by
  induction cs generalizing o with
  | nil => exact ⟨o, rfl⟩
  | cons ch cs ih => exact ih (o + ch.utf8Size)

end Cursor

/-- A scan takes exactly a run of characters it accepts when the next one is refused. -/
theorem scanWhile_append {p : Char → Bool} {cs rest : List Char} (hcs : ∀ c ∈ cs, p c = true)
    (hrest : ∀ c ∈ rest.head?, p c = false) (o : Nat) :
    ∃ o', scanWhile p (cs ++ rest) o = (cs, ⟨rest, o'⟩) := by
  induction cs generalizing o with
  | nil =>
    cases rest with
    | nil => exact ⟨o, rfl⟩
    | cons c rest => exact ⟨o, by simp [scanWhile, hrest c rfl]⟩
  | cons c cs ih =>
    obtain ⟨o', h⟩ := ih (fun c' hc' => hcs c' (List.mem_cons_of_mem c hc')) (o + c.utf8Size)
    exact ⟨o', by simp [scanWhile, hcs c List.mem_cons_self, h]⟩

/-! ### Escapes -/


theorem isBasicUnescaped_of_toNat {ch : Char} (h1 : 0x20 ≤ ch.toNat) (h2 : ch.toNat ≠ 0x22)
    (h3 : ch.toNat ≠ 0x5C) (h4 : ch.toNat ≠ 0x7F) : isBasicUnescaped ch = true := by
  simp only [isBasicUnescaped, Bool.or_eq_true, decide_eq_true_eq, Bool.and_eq_true]
  simp only [← Char.toNat_inj, show ('\t' : Char).toNat = 9 from rfl,
    show (' ' : Char).toNat = 32 from rfl, show ('!' : Char).toNat = 33 from rfl]
  omega

/-- Four hexadecimal digits read back as the number they were written for. -/
theorem hex4_reads (n : Nat) (hn : n < 0x10000) :
    (hex4 n).length = 4 ∧ (∀ d ∈ hex4 n, isHexChar d = true) ∧
      digitsIn 16 hexCharValue (hex4 n) = n := by
  have hdigit : ∀ d, d < 16 →
      isHexChar (if d < 10 then Char.ofNat (d + 48) else Char.ofNat (d + 55)) = true ∧
        hexCharValue (if d < 10 then Char.ofNat (d + 48) else Char.ofNat (d + 55)) = d := by
    decide
  obtain ⟨h1, v1⟩ := hdigit (n / 4096 % 16) (Nat.mod_lt _ (by omega))
  obtain ⟨h2, v2⟩ := hdigit (n / 256 % 16) (Nat.mod_lt _ (by omega))
  obtain ⟨h3, v3⟩ := hdigit (n / 16 % 16) (Nat.mod_lt _ (by omega))
  obtain ⟨h4, v4⟩ := hdigit (n % 16) (Nat.mod_lt _ (by omega))
  refine ⟨rfl, ?_, ?_⟩
  · simp only [hex4, List.mem_cons, List.not_mem_nil, or_false]
    rintro d (rfl | rfl | rfl | rfl) <;> assumption
  · simp only [hex4, digitsIn, List.foldl_cons, List.foldl_nil, v1, v2, v3, v4]
    omega

theorem hexEscape_hex4 {n : Nat} (hn : n < 0xD800) (l : String) (rest : List Char) (o : Nat) :
    ∃ o', hexEscape 4 l ⟨hex4 n ++ rest, o⟩ = .ok (Char.ofNat n, ⟨rest, o'⟩) := by
  obtain ⟨hlen, hhex, hval⟩ := hex4_reads n (by omega)
  have hds : (hex4 n).takeWhile isHexChar = hex4 n := List.takeWhile_eq_self_iff.mpr hhex
  obtain ⟨o', ho'⟩ := Cursor.skip_append (hex4 n) rest o
  refine ⟨o', ?_⟩
  rw [hlen] at ho'
  simp [hexEscape, hds, hlen, hval, hn, ho']

/-- An escape of a basic string, the part after the backslash: it starts with an escape letter
and reads back as `ch`, whatever follows it. -/
structure EscapeOf (x : List Char) (ch : Char) : Prop where
  letter : ∃ y x', x = y :: x' ∧ y ∈ escapeLetters
  reads : ∀ rest o, ∃ o', escapeSeq ⟨x ++ rest, o⟩ = .ok (ch, ⟨rest, o'⟩)

/-- A one-letter escape. -/
theorem EscapeOf.single {y ch : Char} (hy : y ∈ escapeLetters)
    (hread : ∀ rest o, escapeSeq ⟨y :: rest, o⟩ = .ok (ch, ⟨rest, o + y.utf8Size⟩)) :
    EscapeOf [y] ch :=
  ⟨⟨y, [], rfl, hy⟩, fun rest o => ⟨_, hread rest o⟩⟩

/-- How a basic string holds a character: as itself, as a line feed in the multi-line form, or
as an escape that reads back as it. -/
theorem basicEscape_cases (style : StringStyle) (ch : Char) :
    (basicEscape style ch = [ch] ∧ isBasicUnescaped ch = true) ∨
      (style = .newlineTriple ∧ ch = '\n' ∧ basicEscape style ch = ['\n']) ∨
      ∃ x, basicEscape style ch = '\\' :: x ∧ EscapeOf x ch := by
  unfold basicEscape
  split_ifs with h8 h9 h10 hstyle h12 h13 h34 h92 hctl
  · exact .inr (.inr ⟨['b'], rfl, .single (by decide) fun _ _ => by subst h8; rfl⟩)
  · exact .inr (.inr ⟨['t'], rfl, .single (by decide) fun _ _ => by subst h9; rfl⟩)
  · exact .inr (.inl ⟨hstyle, h10, rfl⟩)
  · exact .inr (.inr ⟨['n'], rfl, .single (by decide) fun _ _ => by subst h10; rfl⟩)
  · exact .inr (.inr ⟨['f'], rfl, .single (by decide) fun _ _ => by subst h12; rfl⟩)
  · exact .inr (.inr ⟨['r'], rfl, .single (by decide) fun _ _ => by subst h13; rfl⟩)
  · exact .inr (.inr ⟨['"'], rfl, .single (by decide) fun _ _ => by subst h34; rfl⟩)
  · exact .inr (.inr ⟨['\\'], rfl, .single (by decide) fun _ _ => by subst h92; rfl⟩)
  · -- any other control character is written by its code point
    have hlt : ch.toNat < 0xD800 := by simp at hctl; omega
    refine .inr (.inr ⟨'u' :: hex4 ch.toNat, rfl, ⟨⟨'u', _, rfl, by decide⟩, fun rest o => ?_⟩⟩)
    obtain ⟨o', h⟩ := hexEscape_hex4 hlt "unicode 4-digit hex code" rest (o + 'u'.utf8Size)
    exact ⟨o', by simp [escapeSeq, h]⟩
  · simp only [Bool.or_eq_true, decide_eq_true_eq, not_or] at hctl
    exact .inl ⟨rfl, isBasicUnescaped_of_toNat (by omega) (toNat_ne_of_ne h34)
      (toNat_ne_of_ne h92) hctl.2⟩

/-! ### Basic strings -/

theorem isBasicUnescaped_escape_marks :
    isBasicUnescaped '\\' = false ∧ isBasicUnescaped '"' = false ∧ isBasicUnescaped '\n' = false := by
  decide

/-- A run of characters that stand for themselves, before one that does not: it starts with no
backslash, and scanning for such characters takes exactly the run. -/
theorem basicRun_scan {c : Char} {u t : List Char} (hu : ∀ x ∈ c :: u, isBasicUnescaped x = true)
    (ht : ∀ y ∈ t.head?, isBasicUnescaped y = false) (o : Nat) :
    isBasicUnescaped c = true ∧ c ≠ '\\' ∧
      ∃ o', scanWhile isBasicUnescaped (c :: (u ++ t)) o = (c :: u, ⟨t, o'⟩) := by
  have hc : isBasicUnescaped c = true := hu c List.mem_cons_self
  refine ⟨hc, ?_, scanWhile_append hu ht o⟩
  rintro rfl
  simp [isBasicUnescaped_escape_marks.1] at hc

/-- A loop that reads the inside of a basic string of style `style` piece by piece: a run of
characters that stand for themselves, an escape, a line feed when the style has them raw; it
stops at a quote. -/
structure BasicLoop (style : StringStyle) (L : Nat → List Char → Cursor → Reading (List Char)) :
    Prop where
  run : ∀ {u t : List Char} (f : Nat) (acc : List Char) (o : Nat), u ≠ [] →
    (∀ c ∈ u, isBasicUnescaped c = true) → (∀ y ∈ t.head?, isBasicUnescaped y = false) →
    ∃ o', L (f + 1) acc ⟨u ++ t, o⟩ = L f (acc ++ u) ⟨t, o'⟩
  escape : ∀ {x : List Char} {ch : Char} (t : List Char) (f : Nat) (acc : List Char) (o : Nat),
    EscapeOf x ch → ∃ o', L (f + 1) acc ⟨'\\' :: (x ++ t), o⟩ = L f (acc ++ [ch]) ⟨t, o'⟩
  newline : style = .newlineTriple → ∀ (t : List Char) (f : Nat) (acc : List Char) (o : Nat),
    ∃ o', L (f + 1) acc ⟨'\n' :: t, o⟩ = L f (acc ++ ['\n']) ⟨t, o'⟩
  stop : ∀ (t : List Char) (f : Nat) (acc : List Char) (o : Nat),
    L (f + 1) acc ⟨'"' :: t, o⟩ = .ok (acc, ⟨'"' :: t, o⟩)

namespace BasicLoop

variable {style : StringStyle} {L : Nat → List Char → Cursor → Reading (List Char)}

/-- A run of characters that stand for themselves, then what follows it. -/
theorem run_then (hL : BasicLoop style L) {u t X rest : List Char}
    (hu : ∀ c ∈ u, isBasicUnescaped c = true) (ht : ∀ y ∈ t.head?, isBasicUnescaped y = false)
    (hk : ∀ acc fuel o, t.length < fuel → ∃ o', L fuel acc ⟨t, o⟩ = .ok (acc ++ X, ⟨rest, o'⟩))
    (acc : List Char) (fuel o : Nat) (hfuel : (u ++ t).length < fuel) :
    ∃ o', L fuel acc ⟨u ++ t, o⟩ = .ok (acc ++ u ++ X, ⟨rest, o'⟩) := by
  cases u with
  | nil => simpa using hk acc fuel o hfuel
  | cons c u =>
    obtain ⟨f, rfl⟩ : ∃ f, fuel = f + 1 := ⟨fuel - 1, by simp at hfuel; omega⟩
    obtain ⟨o1, h1⟩ := hL.run f acc o (List.cons_ne_nil c u) hu ht
    obtain ⟨o', h'⟩ := hk (acc ++ c :: u) f o1 (by simp at hfuel ⊢; omega)
    exact ⟨o', by rw [h1, h']⟩

/-- The inside of a basic string reads back as the characters it was written for, up to the
closing quote. -/
theorem reads (hL : BasicLoop style L) (more s : List Char) :
    ∀ (u acc : List Char) (fuel o : Nat), (∀ c ∈ u, isBasicUnescaped c = true) →
      (u ++ s.flatMap (basicEscape style) ++ '"' :: more).length < fuel →
      ∃ o', L fuel acc ⟨u ++ s.flatMap (basicEscape style) ++ '"' :: more, o⟩ =
        .ok (acc ++ u ++ s, ⟨'"' :: more, o'⟩) := by
  -- `u` is a run of plain characters already passed in the text but not yet read: the loop
  -- reads a whole run at once
  induction s with
  | nil =>
    intro u acc fuel o hu hfuel
    have hstop : ∀ acc fuel o, ('"' :: more).length < fuel →
        ∃ o', L fuel acc ⟨'"' :: more, o⟩ = .ok (acc ++ [], ⟨'"' :: more, o'⟩) := by
      intro acc fuel o hfuel
      obtain ⟨f, rfl⟩ : ∃ f, fuel = f + 1 := ⟨fuel - 1, by simp at hfuel; omega⟩
      exact ⟨o, by simpa using hL.stop more f acc o⟩
    simpa using hL.run_then hu (by simp [isBasicUnescaped_escape_marks]) hstop acc fuel o
      (by simpa using hfuel)
  | cons ch s ih =>
    intro u acc fuel o hu hfuel
    -- after a run, a piece of one character read by a step of the loop
    have piece : ∀ {y : Char} {p : List Char}, isBasicUnescaped y = false →
        (∀ t f acc o, ∃ o', L (f + 1) acc ⟨y :: (p ++ t), o⟩ = L f (acc ++ [ch]) ⟨t, o'⟩) →
        basicEscape style ch = y :: p →
        ∃ o', L fuel acc ⟨u ++ (ch :: s).flatMap (basicEscape style) ++ '"' :: more, o⟩ =
          .ok (acc ++ u ++ ch :: s, ⟨'"' :: more, o'⟩) := by
      intro y p hy hstep hch
      have hk : ∀ acc fuel o, (y :: (p ++ (s.flatMap (basicEscape style) ++ '"' :: more))).length < fuel →
          ∃ o', L fuel acc ⟨y :: (p ++ (s.flatMap (basicEscape style) ++ '"' :: more)), o⟩ =
            .ok (acc ++ ch :: s, ⟨'"' :: more, o'⟩) := by
        intro acc fuel o hfuel
        obtain ⟨f, rfl⟩ : ∃ f, fuel = f + 1 := ⟨fuel - 1, by simp at hfuel; omega⟩
        obtain ⟨o1, h1⟩ := hstep (s.flatMap (basicEscape style) ++ '"' :: more) f acc o
        obtain ⟨o', h'⟩ := ih [] (acc ++ [ch]) f o1 (by simp) (by simp at hfuel ⊢; omega)
        refine ⟨o', ?_⟩
        rw [h1]
        simpa using h'
      have := hL.run_then hu (by simpa using hy) hk acc fuel o (by simpa [hch] using hfuel)
      simpa [hch] using this
    rcases basicEscape_cases style ch with ⟨hself, hplain⟩ | ⟨hnl, rfl, hraw⟩ | ⟨x, hx, hesc⟩
    · have hu' : ∀ c ∈ u ++ [ch], isBasicUnescaped c = true := fun c hc =>
        (List.mem_append.mp hc).elim (hu c) fun h => List.mem_singleton.mp h ▸ hplain
      have := ih (u ++ [ch]) acc fuel o hu' (by simpa [hself] using hfuel)
      simpa [hself] using this
    · exact piece isBasicUnescaped_escape_marks.2.2
        (fun t f acc o => by exact hL.newline hnl t f acc o) hraw
    · exact piece isBasicUnescaped_escape_marks.1 (fun t f acc o => hL.escape t f acc o hesc) hx

end BasicLoop

/-- The loop inside a one-line basic string. -/
theorem basicChars_loop {style : StringStyle} (hstyle : style ≠ .newlineTriple) :
    BasicLoop style basicChars where
  run := by
    intro u t f acc o hne hu ht
    obtain ⟨c, u, rfl⟩ := List.exists_cons_of_ne_nil hne
    -- the run starts with no backslash, which the reader's match looks for first
    obtain ⟨hc, hback, o1, hscan⟩ := basicRun_scan hu ht o
    exact ⟨o1, by simp [basicChars, hc, Cursor.takeWhile, hscan]⟩
  escape := by
    intro x ch t f acc o hx
    obtain ⟨o', h⟩ := hx.reads t (o + ('\\' : Char).utf8Size)
    exact ⟨o', by simp [basicChars, h]⟩
  newline := fun h => absurd h hstyle
  stop := by
    intro t f acc o
    simp [basicChars, isBasicUnescaped_escape_marks]

/-- What follows a backslash that stands before an escape letter is no line end. -/
theorem escapedNewlines_escape {x : List Char} {ch : Char} (hx : EscapeOf x ch) (t : List Char)
    (fuel o : Nat) : escapedNewlines (fuel + 1) false ⟨'\\' :: (x ++ t), o⟩ = none := by
  obtain ⟨y, x, rfl, hy⟩ := hx.letter
  simp only [escapeLetters, List.mem_cons, List.not_mem_nil, or_false] at hy
  rcases hy with rfl | rfl | rfl | rfl | rfl | rfl | rfl | rfl | rfl <;> rfl

/-- The loop inside a multi-line basic string. -/
theorem mlbContents_loop : BasicLoop .newlineTriple mlbContents where
  run := by
    intro u t f acc o hne hu ht
    obtain ⟨c, u, rfl⟩ := List.exists_cons_of_ne_nil hne
    -- the run starts with no backslash, which the reader's match looks for first
    obtain ⟨hc, hback, o1, hscan⟩ := basicRun_scan hu ht o
    exact ⟨o1, by simp [mlbContents, mlbContent, hc, Cursor.takeWhile, hscan]⟩
  escape := by
    intro x ch t f acc o hx
    obtain ⟨o', h⟩ := hx.reads t (o + ('\\' : Char).utf8Size)
    have hnone := escapedNewlines_escape hx t (x.length + t.length + 1) o
    refine ⟨o', ?_⟩
    simp [mlbContents, mlbContent, hnone, h]
  newline := by
    intro _ t f acc o
    exact ⟨o + ('\n' : Char).utf8Size,
      by simp [mlbContents, mlbContent, isBasicUnescaped_escape_marks, newline]⟩
  stop := by
    intro t f acc o
    simp [mlbContents, mlbContent, isBasicUnescaped_escape_marks, newline, Cursor.stop]

/-- A one-line basic string reads back as the characters it was written for. -/
theorem basicString_reads {style : StringStyle} (hstyle : style ≠ .newlineTriple)
    (s more : List Char) (o : Nat) :
    ∃ o', basicString ⟨'"' :: (s.flatMap (basicEscape style) ++ '"' :: more), o⟩ =
      .ok (String.ofList s, ⟨more, o'⟩) := by
  obtain ⟨o1, h1⟩ := (basicChars_loop hstyle).reads more s [] []
    (('"' :: (s.flatMap (basicEscape style) ++ '"' :: more)).length + 1)
    (o + ('"' : Char).utf8Size) (by simp) (by simp only [List.nil_append, List.length_cons, List.length_append]; omega)
  simp only [List.nil_append] at h1
  refine ⟨o1 + ('"' : Char).utf8Size, ?_⟩
  rw [basicString, Cursor.fuel_mk, Cursor.next_cons, h1]
  simp

/-- The closing quotes of a multi-line basic string are no quotes inside it. -/
theorem mlbQuoted_closing (more : List Char) (fuel : Nat) (acc : List Char) (o : Nat) :
    mlbQuoted fuel acc ⟨'"' :: '"' :: '"' :: more, o⟩ =
      .ok (acc, ⟨'"' :: '"' :: '"' :: more, o⟩) := by
  cases fuel with
  | zero => rfl
  | succ f => simp [mlbQuoted, mlQuotes, nextIsNot, Cursor.skip]

/-- A multi-line basic string reads back as the characters it was written for. -/
theorem mlBasicString_reads (s : List Char) {more : List Char}
    (hmore : ∀ y ∈ more.head?, y ≠ '"') (o : Nat) :
    ∃ o', mlBasicString ⟨'"' :: '"' :: '"' :: '\n' ::
        (s.flatMap (basicEscape .newlineTriple) ++ '"' :: '"' :: '"' :: more), o⟩ =
      .ok (String.ofList s, ⟨more, o'⟩) := by
  obtain ⟨o1, h1⟩ := mlbContents_loop.reads ('"' :: '"' :: more) s [] []
    ((s.flatMap (basicEscape .newlineTriple) ++ '"' :: '"' :: '"' :: more).length + 1)
    (o + ('"' : Char).utf8Size + ('"' : Char).utf8Size + ('"' : Char).utf8Size +
      ('\n' : Char).utf8Size) (by simp) (by simp)
  simp only [List.nil_append] at h1
  -- the closing quotes are not followed by a fourth
  have hend : mlQuotes '"' (fun c' => c'.startsWith "\"\"\"")
      ⟨'"' :: '"' :: '"' :: more, o1⟩ = none := by
    cases more with
    | nil => rfl
    | cons y more =>
      have hy : '"' ≠ y := (hmore y rfl).symm
      simp [mlQuotes, Cursor.skip, hy]
  refine ⟨o1 + ('"' : Char).utf8Size + ('"' : Char).utf8Size + ('"' : Char).utf8Size, ?_⟩
  rw [mlBasicString]
  simp only [Cursor.skip, Cursor.next_cons, newline, Cursor.fuel_mk, h1, mlbQuoted_closing, hend]
  simp

/-! ### Literal strings -/

theorem isLiteralChar_marks : isLiteralChar '\'' = false ∧ isLiteralChar '\n' = false ∧
    isLiteralChar '\r' = false := by
  decide

/-- A one-line literal string reads back as its characters. -/
theorem literalString_reads {s : List Char} (hs : ∀ c ∈ s, isLiteralChar c = true)
    (more : List Char) (o : Nat) :
    ∃ o', literalString ⟨'\'' :: (s ++ '\'' :: more), o⟩ = .ok (String.ofList s, ⟨more, o'⟩) := by
  obtain ⟨o1, h⟩ : ∃ o1, scanWhile isLiteralChar (s ++ '\'' :: more) (o + ('\'' : Char).utf8Size) =
      (s, ⟨'\'' :: more, o1⟩) :=
    scanWhile_append hs (by simp [isLiteralChar_marks]) _
  exact ⟨o1 + ('\'' : Char).utf8Size, by simp [literalString, Cursor.takeWhile, h]⟩

/-- One character of a multi-line literal string, a line feed included. -/
theorem mllContent_char {c : Char} (hc : isLiteralChar c = true ∨ c = '\n') (t : List Char)
    (o : Nat) : mllContent ⟨c :: t, o⟩ = some (c, ⟨t, o + c.utf8Size⟩) := by
  rcases hc with hc | rfl
  · simp [mllContent, hc]
  · simp [mllContent, isLiteralChar_marks, newline]

theorem mllContent_quote (t : List Char) (o : Nat) : mllContent ⟨'\'' :: t, o⟩ = none := by
  simp [mllContent, isLiteralChar_marks, newline]

/-- What is left after a split body, then the closing quotes, starts with a quote. -/
theorem head?_append_quote {r : List Char} (h : ∀ y ∈ r.head?, y = '\'') (more : List Char) :
    ∀ y ∈ (r ++ '\'' :: more).head?, y = '\'' := by
  cases r with
  | nil => simp
  | cons y r => exact h

/-- Characters that are no quote, read up to the next quote. -/
theorem mllContents_chars {t : List Char} (ht : ∀ y ∈ t.head?, y = '\'') :
    ∀ (p acc : List Char) (fuel o : Nat), (∀ c ∈ p, isLiteralChar c = true ∨ c = '\n') →
      p.length < fuel → ∃ o', mllContents fuel acc ⟨p ++ t, o⟩ = (acc ++ p, ⟨t, o'⟩)
  | [], acc, fuel + 1, o, _, _ => by
    refine ⟨o, ?_⟩
    cases t with
    | nil => simp [mllContents, mllContent]
    | cons y t => simp [mllContents, ht y rfl, mllContent_quote]
  | c :: p, acc, fuel + 1, o, hp, hlen => by
    obtain ⟨o', h⟩ := mllContents_chars ht p (acc ++ [c]) fuel (o + c.utf8Size)
      (fun c' hc' => hp c' (List.mem_cons_of_mem c hc')) (by simp at hlen; omega)
    refine ⟨o', ?_⟩
    simp [mllContents, mllContent_char (hp c List.mem_cons_self), h]

theorem newline_of_ne {y : Char} (h1 : y ≠ '\n') (h2 : y ≠ '\r') (t : List Char) (o : Nat) :
    newline ⟨y :: t, o⟩ = .error (Cursor.stop ⟨y :: t, o⟩) := by
  unfold newline
  split <;> simp_all

/-- A body that does not start with a line feed, before the closing quotes, starts with no line
end. -/
theorem newline_literalBody {s : List Char} (hs : LiteralBody s) (hhd : ∀ y ∈ s.head?, y ≠ '\n')
    (more : List Char) (o : Nat) :
    ∃ f, newline ⟨s ++ '\'' :: '\'' :: '\'' :: more, o⟩ = .error f := by
  cases s with
  | nil => exact ⟨_, newline_of_ne (by decide) (by decide) _ o⟩
  | cons y s =>
    have h1 : y ≠ '\n' := hhd y rfl
    -- a body holds no carriage return
    have h2 : y ≠ '\r' := by
      rintro rfl
      rcases hs.mem '\r' List.mem_cons_self with h | h | h <;> simp [isLiteralChar_marks] at h
    exact ⟨_, newline_of_ne h1 h2 _ o⟩

/-- One or two quotes inside a multi-line literal string, followed by a character that is no
quote. -/
theorem mlQuotes_inner {q : List Char} (hq : q = ['\''] ∨ q = ['\'', '\'']) {c : Char}
    (hc : c ≠ '\'') (t : List Char) (o : Nat) :
    ∃ o', mlQuotes '\'' (nextIsNot '\'') ⟨q ++ c :: t, o⟩ = some (q, ⟨c :: t, o'⟩) := by
  have hc' : '\'' ≠ c := hc.symm
  rcases hq with rfl | rfl
  · exact ⟨o + ('\'' : Char).utf8Size, by simp [mlQuotes, nextIsNot, Cursor.skip, hc, hc']⟩
  · exact ⟨o + ('\'' : Char).utf8Size + ('\'' : Char).utf8Size,
      by simp [mlQuotes, nextIsNot, Cursor.skip, hc]⟩

/-- The closing quotes of a multi-line literal string are no quotes inside it. -/
theorem mllQuoted_closing (more : List Char) (fuel : Nat) (acc : List Char) (o : Nat) :
    mllQuoted fuel acc ⟨'\'' :: '\'' :: '\'' :: more, o⟩ =
      (acc, ⟨'\'' :: '\'' :: '\'' :: more, o⟩) := by
  cases fuel with
  | zero => rfl
  | succ f => simp [mllQuoted, mlQuotes, nextIsNot, Cursor.skip]

/-- The part of a multi-line literal string from its first quote on reads back as it is. -/
theorem mllQuoted_body (more : List Char) :
    ∀ (fuel : Nat) (r acc : List Char) (o : Nat), LiteralBody r → (∀ y ∈ r.head?, y = '\'') →
      r.length < fuel →
      ∃ o', mllQuoted fuel acc ⟨r ++ '\'' :: '\'' :: '\'' :: more, o⟩ =
        (acc ++ r, ⟨'\'' :: '\'' :: '\'' :: more, o'⟩)
  | 0, _, _, _, _, _, hlen => absurd hlen (Nat.not_lt_zero _)
  | fuel + 1, r, acc, o, hr, hhead, hlen => by
    cases hr with
    | nil => exact ⟨o, by simpa using mllQuoted_closing more (fuel + 1) acc o⟩
    | @char c _ hc _ =>
      have hq : c = '\'' := hhead c rfl
      subst hq
      simp [isLiteralChar_marks] at hc
    | @quotes q c l hq hc hl =>
      -- a turn reads the quotes, the character after them, and the characters up to the next
      -- quote; the rest is a shorter body that starts with a quote
      obtain ⟨p, r, rfl, hp, hr, hhead'⟩ := hl.split
      have hcq : c ≠ '\'' := by rintro rfl; simp [isLiteralChar_marks] at hc
      obtain ⟨o1, h1⟩ := mlQuotes_inner hq hcq (p ++ r ++ '\'' :: '\'' :: '\'' :: more) o
      obtain ⟨o2, h2⟩ := mllContents_chars (head?_append_quote hhead' _) p (acc ++ q ++ [c])
        ((p ++ (r ++ '\'' :: '\'' :: '\'' :: more)).length + 1) (o1 + c.utf8Size) hp
        (by simp only [List.length_append, List.length_cons]; omega)
      have hlen' : r.length < fuel := by
        have : q.length ≥ 1 := by rcases hq with rfl | rfl <;> simp
        simp at hlen
        omega
      obtain ⟨o3, h3⟩ := mllQuoted_body more fuel r (acc ++ q ++ [c] ++ p) o2 hr hhead' hlen'
      refine ⟨o3, ?_⟩
      simp only [List.append_assoc, List.cons_append, List.nil_append] at h1 h2 h3 ⊢
      rw [mllQuoted, h1]
      dsimp only
      rw [mllContent_char hc]
      dsimp only
      rw [Cursor.fuel_mk, List.append_assoc, h2]
      dsimp only
      rw [h3]

/-- After the closing quotes of a multi-line literal string comes no fourth quote. -/
theorem mlQuotes_closing {more : List Char} (hmore : ∀ y ∈ more.head?, y ≠ '\'') (o : Nat) :
    mlQuotes '\'' (fun c' => c'.startsWith "'''") ⟨'\'' :: '\'' :: '\'' :: more, o⟩ = none := by
  cases more with
  | nil => rfl
  | cons y more =>
    have hy : '\'' ≠ y := (hmore y rfl).symm
    simp [mlQuotes, Cursor.skip, hy]

/-- A multi-line literal string reads back as its characters, whether or not a line feed
follows its opening quotes; without one, the text must not start with a line feed. -/
theorem mlLiteralString_reads {s : List Char} (hs : LiteralBody s) {lead : List Char}
    (hlead : lead = ['\n'] ∨ lead = [] ∧ ∀ y ∈ s.head?, y ≠ '\n') {more : List Char}
    (hmore : ∀ y ∈ more.head?, y ≠ '\'') (o : Nat) :
    ∃ o', mlLiteralString ⟨'\'' :: '\'' :: '\'' :: (lead ++ (s ++ '\'' :: '\'' :: '\'' :: more)), o⟩ =
      .ok (String.ofList s, ⟨more, o'⟩) := by
  obtain ⟨p, r, rfl, hp, hr, hhead⟩ := hs.split
  -- what is read after the opening quotes, wherever it starts
  have hbody : ∀ o2 fuel, r.length < fuel → ∃ o4,
      mllQuoted fuel
        (mllContents ((p ++ (r ++ '\'' :: '\'' :: '\'' :: more)).length + 1) []
          ⟨p ++ (r ++ '\'' :: '\'' :: '\'' :: more), o2⟩).1
        (mllContents ((p ++ (r ++ '\'' :: '\'' :: '\'' :: more)).length + 1) []
          ⟨p ++ (r ++ '\'' :: '\'' :: '\'' :: more), o2⟩).2 =
        (p ++ r, ⟨'\'' :: '\'' :: '\'' :: more, o4⟩) := by
    intro o2 fuel hfuel
    obtain ⟨o3, h3⟩ := mllContents_chars (head?_append_quote hhead _) p []
      ((p ++ (r ++ '\'' :: '\'' :: '\'' :: more)).length + 1) o2 hp
      (by simp only [List.length_append, List.length_cons]; omega)
    obtain ⟨o4, h4⟩ := mllQuoted_body more fuel r p o3 hr hhead hfuel
    exact ⟨o4, by rw [h3]; simpa using h4⟩
  rcases hlead with rfl | ⟨rfl, hhd⟩
  · obtain ⟨o4, h4⟩ := hbody (o + ('\'' : Char).utf8Size + ('\'' : Char).utf8Size +
      ('\'' : Char).utf8Size + ('\n' : Char).utf8Size)
      (('\'' :: '\'' :: '\'' :: '\n' :: (p ++ (r ++ '\'' :: '\'' :: '\'' :: more))).length + 1)
      (by simp only [List.length_append, List.length_cons]; omega)
    refine ⟨o4 + ('\'' : Char).utf8Size + ('\'' : Char).utf8Size + ('\'' : Char).utf8Size, ?_⟩
    rw [mlLiteralString]
    simp only [Cursor.skip, Cursor.next_cons, newline, Cursor.fuel_mk, List.append_assoc,
      List.cons_append, List.nil_append]
    rw [h4]
    dsimp only
    rw [mlQuotes_closing hmore]
    simp
  · -- without a line feed, the text starts with a character that is no line end
    obtain ⟨f, hf⟩ := newline_literalBody hs hhd more
      (o + ('\'' : Char).utf8Size + ('\'' : Char).utf8Size + ('\'' : Char).utf8Size)
    rw [List.append_assoc] at hf
    obtain ⟨o4, h4⟩ := hbody (o + ('\'' : Char).utf8Size + ('\'' : Char).utf8Size +
      ('\'' : Char).utf8Size)
      (('\'' :: '\'' :: '\'' :: (p ++ (r ++ '\'' :: '\'' :: '\'' :: more))).length + 1)
      (by simp only [List.length_append, List.length_cons]; omega)
    refine ⟨o4 + ('\'' : Char).utf8Size + ('\'' : Char).utf8Size + ('\'' : Char).utf8Size, ?_⟩
    rw [mlLiteralString]
    simp only [Cursor.skip, Cursor.next_cons, Cursor.fuel_mk, List.append_assoc, List.nil_append]
    rw [hf]
    dsimp only
    rw [Cursor.fuel_mk, h4]
    dsimp only
    rw [mlQuotes_closing hmore]
    simp

/-- A character of a basic string is never written starting with a raw quote. -/
theorem basicEscape_head (style : StringStyle) (ch : Char) :
    ∃ y t, basicEscape style ch = y :: t ∧ y ≠ '"' := by
  rcases basicEscape_cases style ch with ⟨hself, hplain⟩ | ⟨-, -, hraw⟩ | ⟨x, hx, -⟩
  · refine ⟨ch, [], hself, ?_⟩
    rintro rfl
    simp [isBasicUnescaped_escape_marks] at hplain
  · exact ⟨'\n', [], hraw, by decide⟩
  · exact ⟨'\\', x, hx, by decide⟩

/-- A written string reads back as the string, whatever follows it that starts with no quote. -/
theorem quotedString_stringRepr (s : String) {more : List Char}
    (hmore : ∀ y ∈ more.head?, y ≠ '"' ∧ y ≠ '\'') (o : Nat) :
    ∃ o', quotedString ⟨(stringRepr s).toList ++ more, o⟩ = .ok (s, ⟨more, o'⟩) := by
  have hq : ∀ y ∈ more.head?, y ≠ '"' := fun y hy => (hmore y hy).1
  have hl : ∀ y ∈ more.head?, y ≠ '\'' := fun y hy => (hmore y hy).2
  rcases hstyle : inferStyle s with ⟨style, _ | _⟩
  · -- a basic string
    by_cases hnl : style = .newlineTriple
    · subst hnl
      obtain ⟨o', h⟩ := mlBasicString_reads s.toList hq o
      have hrepr : (stringRepr s).toList ++ more = '"' :: '"' :: '"' :: '\n' ::
          (s.toList.flatMap (basicEscape .newlineTriple) ++ '"' :: '"' :: '"' :: more) := by
        simp [stringRepr, hstyle, String.toList_append]
      refine ⟨o', ?_⟩
      rw [hrepr]
      simpa [quotedString] using h
    · obtain ⟨o', h⟩ := basicString_reads hnl s.toList more o
      have hrepr : (stringRepr s).toList ++ more =
          '"' :: (s.toList.flatMap (basicEscape style) ++ '"' :: more) := by
        simp [stringRepr, hstyle, hnl, String.toList_append]
      -- the text does not start with three quotes: the second character is no quote, or the
      -- string is empty and no quote follows
      have hnot3 : ¬ ['"', '"'] <+: s.toList.flatMap (basicEscape style) ++ '"' :: more := by
        cases hs : s.toList with
        | nil =>
          cases more with
          | nil => simp
          | cons y more => simpa using (hq y rfl).symm
        | cons ch rest =>
          obtain ⟨y, t, hy, hyq⟩ := basicEscape_head style ch
          simp [hy, hyq.symm]
      refine ⟨o', ?_⟩
      rw [hrepr]
      simpa [quotedString, hnot3] using h
  · -- a literal string
    obtain ⟨hbody, hnl, hsingle⟩ := inferStyle_literal hstyle
    cases style with
    | newlineTriple =>
      obtain ⟨o', h⟩ := mlLiteralString_reads hbody (.inl rfl) hl o
      have hrepr : (stringRepr s).toList ++ more = '\'' :: '\'' :: '\'' ::
          (['\n'] ++ (s.toList ++ '\'' :: '\'' :: '\'' :: more)) := by
        simp [stringRepr, hstyle, String.toList_append]
      refine ⟨o', ?_⟩
      rw [hrepr]
      simpa [quotedString] using h
    | onelineTriple =>
      have hhead : ∀ y ∈ s.toList.head?, y ≠ '\n' := by
        rintro y hy rfl
        exact absurd (hnl.mpr (List.mem_of_mem_head? hy)) (by simp)
      obtain ⟨o', h⟩ := mlLiteralString_reads hbody (.inr ⟨rfl, hhead⟩) hl o
      have hrepr : (stringRepr s).toList ++ more = '\'' :: '\'' :: '\'' ::
          ([] ++ (s.toList ++ '\'' :: '\'' :: '\'' :: more)) := by
        simp [stringRepr, hstyle, String.toList_append]
      refine ⟨o', ?_⟩
      rw [hrepr]
      simpa [quotedString] using h
    | onelineSingle =>
      have hnq : '\'' ∉ s.toList := hsingle rfl
      have hnn : '\n' ∉ s.toList := fun h => absurd (hnl.mpr h) (by simp)
      have hchars : ∀ c ∈ s.toList, isLiteralChar c = true := by
        intro c hc
        rcases hbody.mem c hc with h | rfl | rfl
        exacts [h, absurd hc hnn, absurd hc hnq]
      obtain ⟨o', h⟩ := literalString_reads hchars more o
      have hrepr : (stringRepr s).toList ++ more = '\'' :: (s.toList ++ '\'' :: more) := by
        simp [stringRepr, hstyle, String.toList_append]
      -- the text does not start with three quotes
      have hnot3 : ¬ ['\'', '\''] <+: s.toList ++ '\'' :: more := by
        cases hs : s.toList with
        | nil =>
          cases more with
          | nil => simp
          | cons y more => simp [(hl y rfl).symm]
        | cons ch rest =>
          have hch : '\'' ≠ ch := fun h => hnq (by rw [hs, h]; exact List.mem_cons_self)
          simp [hch]
      refine ⟨o', ?_⟩
      rw [hrepr]
      simpa [quotedString, hnot3] using h

end StudyPlanner.Toml
