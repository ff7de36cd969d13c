import StudyPlanner.Proofs.TomlStrings
import StudyPlanner.Config.Client
import Mathlib.Data.List.Forall2
/-!
# The client configuration through TOML

A configuration is written as three `key = value` lines (`ClientConfig.toToml`): the two
endpoints as strings and the local hosts as an array of strings. Reading that text gives the
configuration back, whatever the strings and however many hosts (`ClientConfig.ofToml_toToml`):

* a written string is read as a string value when a line end, a comma or `]` follows it
  (`value_stringRepr`, from the four readers of `Proofs.TomlStrings`);
* an array of written strings is read as an array of string values in order: on one line when it
  has at most one, one value a line with a comma after each otherwise (`value_arrayRepr`);
* a line with a bare key puts the value it reads in the top-level table, after the entries
  before it (`lines_keyval`); lines with distinct bare keys are read one after another
  (`BareLine.lines_flatMap_chars`), and a configuration is written as three of them
  (`ClientConfig.tomlLines`), which make the whole document (`ClientConfig.readDocument_toToml`).

The readers carry fuel; each lemma asks for as much as the text it reads is long, plus a margin,
which is less than what the document reader gives.
-/

namespace StudyPlanner.Toml

/-! ## Values -/

/-- A written string starts with a quote. -/
theorem stringRepr_head (s : String) :
    (stringRepr s).toList.head? = some '"' ∨ (stringRepr s).toList.head? = some '\'' := by
  unfold stringRepr
  split
  · simp [String.toList_append]
  · simp [String.toList_append]
  · simp [String.toList_append]
  · split <;> simp [String.toList_append]

/-- A written string read as a value is a string item with the string. -/
theorem value_stringRepr (s : String) {more : List Char}
    (hmore : ∀ y ∈ more.head?, y ≠ '"' ∧ y ≠ '\'') (fuel depth o : Nat) :
    ∃ o', value (fuel + 1) depth ⟨(stringRepr s).toList ++ more, o⟩ =
      .ok (.scalar ⟨o, o'⟩ (.string s), ⟨more, o'⟩) := by
  obtain ⟨o', h⟩ := quotedString_stringRepr s hmore o
  have hpeek : ((stringRepr s).toList ++ more).head? = some '"' ∨
      ((stringRepr s).toList ++ more).head? = some '\'' := by
    rcases stringRepr_head s with hp | hp <;> simp [List.head?_append, hp]
  refine ⟨o', ?_⟩
  rw [value]
  rcases hpeek with hp | hp <;> simp [hp, h]

/-! ## Arrays of strings -/

/-- Items that are string values with the given texts, one for one. -/
def StringItems (items : List Item) (hs : List String) : Prop :=
  List.Forall₂ (fun item h => ∃ sp, item = .scalar sp (.string h)) items hs

/-- String items are taken as their texts. -/
theorem StringItems.mapM_expectString {items : List Item} {hs : List String}
    (h : StringItems items hs) (near : Span) : items.mapM (expectString near) = .ok hs := by
  induction h with
  | nil => rfl
  | cons hitem _ ih =>
    obtain ⟨sp, rfl⟩ := hitem
    simp only [List.mapM_cons, ih]
    rfl

/-- Between the values of an array, a quote, a comma or `]` ends the blanks. -/
theorem wsCommentNewline_stop {t : List Char}
    (ht : t.head? = some '"' ∨ t.head? = some '\'' ∨ t.head? = some ',' ∨ t.head? = some ']')
    (fuel o : Nat) : wsCommentNewline (fuel + 1) ⟨t, o⟩ = .ok ((), ⟨t, o⟩) := by
  obtain ⟨y, t, rfl⟩ : ∃ y t', t = y :: t' := by
    cases t with
    | nil => simp at ht
    | cons y t => exact ⟨y, t, rfl⟩
  simp only [List.head?_cons, Option.some.injEq] at ht
  rcases ht with rfl | rfl | rfl | rfl <;> rfl

theorem wsCommentNewline_line (t : List Char) (fuel o : Nat) :
    wsCommentNewline (fuel + 1) ⟨'\n' :: t, o⟩ =
      wsCommentNewline fuel ⟨t, o + ('\n' : Char).utf8Size⟩ := by
  rfl

theorem wsCommentNewline_indent {t : List Char} (ht : t.head? = some '"' ∨ t.head? = some '\'')
    (fuel o : Nat) :
    ∃ o', wsCommentNewline (fuel + 1) ⟨' ' :: ' ' :: ' ' :: ' ' :: t, o⟩ =
      .ok ((), ⟨t, o'⟩) := by
  obtain ⟨y, t, rfl⟩ : ∃ y t', t = y :: t' := by
    cases t with
    | nil => simp at ht
    | cons y t => exact ⟨y, t, rfl⟩
  simp only [List.head?_cons, Option.some.injEq] at ht
  rcases ht with rfl | rfl <;> exact ⟨_, rfl⟩

/-- The lead of a value in an array as written: nothing, or a line end and four spaces. -/
def IsLead (lead : List Char) : Prop := lead = [] ∨ lead = ['\n', ' ', ' ', ' ', ' ']

/-- A written string, after its lead and before a comma or `]`, is read as a value of an
array. -/
theorem arrayValue_stringRepr (h : String) {lead : List Char} (hlead : IsLead lead)
    {more : List Char} (hmore : more.head? = some ',' ∨ more.head? = some ']') (k depth o : Nat) :
    ∃ sp o', arrayValue (k + 2) depth ⟨lead ++ ((stringRepr h).toList ++ more), o⟩ =
      .ok (.scalar sp (.string h), ⟨more, o'⟩) := by
  have hquote : ((stringRepr h).toList ++ more).head? = some '"' ∨
      ((stringRepr h).toList ++ more).head? = some '\'' := by
    rcases stringRepr_head h with hp | hp <;> simp [List.head?_append, hp]
  -- the blanks before the value
  have hbefore : ∃ o1, wsCommentNewline (lead ++ ((stringRepr h).toList ++ more)).length.succ
      ⟨lead ++ ((stringRepr h).toList ++ more), o⟩ =
        .ok ((), ⟨(stringRepr h).toList ++ more, o1⟩) := by
    rcases hlead with rfl | rfl
    · exact ⟨o, wsCommentNewline_stop (.imp_right .inl hquote) _ o⟩
    · simpa [wsCommentNewline_line] using wsCommentNewline_indent hquote _ _
  obtain ⟨o1, h1⟩ := hbefore
  have hnoquote : ∀ y ∈ more.head?, y ≠ '"' ∧ y ≠ '\'' := by
    rcases hmore with hm | hm <;> simp [hm]
  obtain ⟨o2, h2⟩ := value_stringRepr h hnoquote k depth o1
  refine ⟨⟨o1, o2⟩, o2, ?_⟩
  have h3 : wsCommentNewline more.length.succ ⟨more, o2⟩ = .ok ((), ⟨more, o2⟩) :=
    wsCommentNewline_stop (.inr (.inr hmore)) _ o2
  simp only [arrayValue, Cursor.fuel_mk]
  rw [h1]
  dsimp only
  rw [h2]
  dsimp only
  rw [Cursor.fuel_mk, h3]

/-- `]` starts no value: reading one there fails without ending the reading. -/
theorem value_close (fuel depth : Nat) (more : List Char) (o : Nat) :
    ∃ f, value fuel depth ⟨']' :: more, o⟩ = .error f ∧ f.cut = false := by
  cases fuel with
  | zero => exact ⟨Cursor.stop ⟨']' :: more, o⟩, by rw [value], rfl⟩
  | succ fuel =>
    have hdigit : isDigitChar ']' = false := by decide
    exact ⟨notAValue ⟨']' :: more, o⟩, by simp [value, hdigit], rfl⟩

/-- Before the `]` of an array, possibly on a line of its own, no value is read. -/
theorem arrayValue_close {lead : List Char} (hlead : lead = [] ∨ lead = ['\n'])
    (fuel depth : Nat) (more : List Char) (o : Nat) :
    ∃ f, arrayValue fuel depth ⟨lead ++ ']' :: more, o⟩ = .error f ∧ f.cut = false := by
  cases fuel with
  | zero => exact ⟨Cursor.stop ⟨lead ++ ']' :: more, o⟩, by rw [arrayValue], rfl⟩
  | succ fuel =>
    have hbefore : ∃ o1, wsCommentNewline ((lead ++ ']' :: more).length + 1)
        ⟨lead ++ ']' :: more, o⟩ = .ok ((), ⟨']' :: more, o1⟩) := by
      rcases hlead with rfl | rfl
      · exact ⟨o, wsCommentNewline_stop (by simp) _ o⟩
      · refine ⟨o + ('\n' : Char).utf8Size, ?_⟩
        simp only [List.singleton_append, List.length_cons]
        rw [wsCommentNewline_line]
        exact wsCommentNewline_stop (by simp) _ _
    obtain ⟨o1, h1⟩ := hbefore
    obtain ⟨f, hf, hcut⟩ := value_close fuel depth more o1
    refine ⟨f, ?_, hcut⟩
    simp only [arrayValue, Cursor.fuel_mk]
    rw [h1]
    dsimp only
    rw [hf]

/-- The line a value of a longer array is written on: a line end, four spaces, the value and a
comma. -/
def itemLine (h : String) : List Char := ['\n', ' ', ' ', ' ', ' '] ++ ((stringRepr h).toList ++ [','])

/-- The values after the first of a longer array, each after a comma, read up to the comma
after the last. -/
theorem arrayMore_itemLines (depth : Nat) (more : List Char) (hs : List String) :
    ∀ (acc : List Item) (fuel o : Nat), hs.length + 2 ≤ fuel →
      ∃ items o',
        arrayMore fuel depth acc ⟨',' :: (hs.flatMap itemLine ++ '\n' :: ']' :: more), o⟩ =
        .ok (acc ++ items, ⟨',' :: '\n' :: ']' :: more, o'⟩) ∧ StringItems items hs := by
  induction hs with
  | nil =>
    -- after the comma that ends the last value, no value is read
    intro acc fuel o hfuel
    obtain ⟨fuel, rfl⟩ : ∃ f, fuel = f + 1 := ⟨fuel - 1, by simp at hfuel; omega⟩
    obtain ⟨f, hf, hcut⟩ := arrayValue_close (.inr rfl) fuel depth more (o + (',' : Char).utf8Size)
    refine ⟨[], o, ?_, .nil⟩
    simp only [List.flatMap_nil, List.nil_append, List.append_nil]
    simp [arrayMore, List.singleton_append ▸ hf, hcut]
  | cons h hs ih =>
    intro acc fuel o hfuel
    obtain ⟨fuel, rfl⟩ : ∃ f, fuel = f + 3 := ⟨fuel - 3, by simp at hfuel; omega⟩
    obtain ⟨sp, o1, h1⟩ : ∃ sp o1, arrayValue (fuel + 2) depth
        ⟨['\n', ' ', ' ', ' ', ' '] ++ ((stringRepr h).toList ++
          ',' :: (hs.flatMap itemLine ++ '\n' :: ']' :: more)), o + (',' : Char).utf8Size⟩ =
        .ok (.scalar sp (.string h), ⟨',' :: (hs.flatMap itemLine ++ '\n' :: ']' :: more), o1⟩) :=
      arrayValue_stringRepr h (.inr rfl) (by simp) fuel depth _
    obtain ⟨items, o', h2, hitems⟩ := ih (acc ++ [.scalar sp (.string h)]) (fuel + 2) o1
      (by simp at hfuel; omega)
    refine ⟨.scalar sp (.string h) :: items, o', ?_, .cons ⟨sp, rfl⟩ hitems⟩
    simp only [List.flatMap_cons, itemLine, List.append_assoc, List.cons_append, List.nil_append]
      at h1 ⊢
    rw [arrayMore]
    simp only [Cursor.peek?_mk, List.head?_cons, if_true, Cursor.next_cons]
    rw [h1]
    dsimp only
    rw [h2]
    simp

/-- An array is read from what its values read, up to its `]`. -/
theorem value_of_arrayValues {body more : List Char} {items : List Item} {fuel depth o o1 : Nat}
    (hdepth : depth + 1 < nestingLimit)
    (h : arrayValues fuel (depth + 1) ⟨body, o + ('[' : Char).utf8Size⟩ =
      .ok (items, ⟨']' :: more, o1⟩)) :
    value (fuel + 2) depth ⟨'[' :: body, o⟩ =
      .ok (.array ⟨o, o1 + (']' : Char).utf8Size⟩ items,
        ⟨more, o1 + (']' : Char).utf8Size⟩) := by
  have hlimit : ¬(depth + 1 ≥ nestingLimit) := by omega
  rw [value]
  simp only [Cursor.peek?_mk, List.head?_cons]
  simp [array, hlimit, h]

/-- The inside of `[]`. -/
theorem arrayValues_empty (fuel depth : Nat) (more : List Char) (o : Nat) :
    arrayValues (fuel + 1) depth ⟨']' :: more, o⟩ = .ok ([], ⟨']' :: more, o⟩) := by
  obtain ⟨f, hf, hcut⟩ := arrayValue_close (.inl rfl) fuel depth more o
  rw [arrayValues]
  simp only [List.nil_append] at hf
  simp [hf, hcut, wsCommentNewline_stop]

/-- The inside of an array of one written string. -/
theorem arrayValues_single (h : String) (fuel depth : Nat) (more : List Char) (o : Nat) :
    ∃ sp o', arrayValues (fuel + 3) depth ⟨(stringRepr h).toList ++ ']' :: more, o⟩ =
      .ok ([.scalar sp (.string h)], ⟨']' :: more, o'⟩) := by
  obtain ⟨sp, o1, h1⟩ : ∃ sp o1, arrayValue (fuel + 2) depth
      ⟨[] ++ ((stringRepr h).toList ++ ']' :: more), o⟩ =
      .ok (.scalar sp (.string h), ⟨']' :: more, o1⟩) :=
    arrayValue_stringRepr h (.inl rfl) (by simp) fuel depth o
  refine ⟨sp, o1, ?_⟩
  simp only [List.nil_append] at h1
  rw [arrayValues]
  simp [h1, arrayMore, wsCommentNewline_stop]

/-- The inside of a longer array: its value lines, then `]` on a line of its own. -/
theorem arrayValues_itemLines (h : String) (hs : List String) (fuel depth : Nat)
    (hfuel : hs.length ≤ fuel) (more : List Char) (o : Nat) :
    ∃ items o', arrayValues (fuel + 3) depth
        ⟨(h :: hs).flatMap itemLine ++ '\n' :: ']' :: more, o⟩ =
      .ok (items, ⟨']' :: more, o'⟩) ∧ StringItems items (h :: hs) := by
  obtain ⟨sp, o1, h1⟩ : ∃ sp o1, arrayValue (fuel + 2) depth
      ⟨['\n', ' ', ' ', ' ', ' '] ++ ((stringRepr h).toList ++
        ',' :: (hs.flatMap itemLine ++ '\n' :: ']' :: more)), o⟩ =
      .ok (.scalar sp (.string h), ⟨',' :: (hs.flatMap itemLine ++ '\n' :: ']' :: more), o1⟩) :=
    arrayValue_stringRepr h (.inr rfl) (by simp) fuel depth o
  obtain ⟨items, o2, h2, hitems⟩ :=
    arrayMore_itemLines depth more hs [.scalar sp (.string h)] (fuel + 2) o1 (by omega)
  refine ⟨.scalar sp (.string h) :: items, o2 + (',' : Char).utf8Size + ('\n' : Char).utf8Size, ?_,
    .cons ⟨sp, rfl⟩ hitems⟩
  simp only [List.flatMap_cons, itemLine, List.append_assoc, List.cons_append, List.nil_append]
    at h1 ⊢
  rw [arrayValues]
  simp only [h1]
  rw [h2]
  simp [wsCommentNewline_line, wsCommentNewline_stop]

/-- Pieces none of which is empty are at least as many as their characters. -/
theorem length_le_length_flatMap {α β : Type} {f : α → List β} (hf : ∀ a, f a ≠ [])
    (l : List α) :
    l.length ≤ (l.flatMap f).length := by
  induction l with
  | nil => simp
  | cons a l ih =>
    have ha : 0 < (f a).length := List.length_pos_iff.mpr (hf a)
    simp only [List.flatMap_cons, List.length_append, List.length_cons]
    omega

/-- An array of written strings read as a value gives string items with the strings, in
order: on one line when it has at most one, one per line otherwise. -/
theorem value_arrayRepr (hs : List String) (more : List Char) (fuel depth o : Nat)
    (hdepth : depth + 1 < nestingLimit)
    (hfuel : (arrayRepr (hs.map stringRepr)).toList.length + 8 ≤ fuel) :
    ∃ sp items o', value fuel depth ⟨(arrayRepr (hs.map stringRepr)).toList ++ more, o⟩ =
      .ok (.array sp items, ⟨more, o'⟩) ∧ StringItems items hs := by
  obtain ⟨fuel, rfl⟩ : ∃ f, fuel = f + 5 := ⟨fuel - 5, by omega⟩
  match hs with
  | [] =>
    have htext : (arrayRepr ([] : List String)).toList ++ more = '[' :: ']' :: more := by
      simp [arrayRepr]
    rw [List.map_nil, htext]
    exact ⟨_, [], _, value_of_arrayValues hdepth (arrayValues_empty _ (depth + 1) more _), .nil⟩
  | [h] =>
    have htext : (arrayRepr [stringRepr h]).toList ++ more =
        '[' :: ((stringRepr h).toList ++ ']' :: more) := by
      simp [arrayRepr, String.toList_append]
    obtain ⟨sp, o1, h1⟩ := arrayValues_single h fuel (depth + 1) more (o + ('[' : Char).utf8Size)
    rw [List.map_cons, List.map_nil, htext]
    exact ⟨_, _, _, value_of_arrayValues hdepth h1, .cons ⟨sp, rfl⟩ .nil⟩
  | h :: h2 :: rest =>
    have htext : (arrayRepr ((h :: h2 :: rest).map stringRepr)).toList =
        '[' :: ((h :: h2 :: rest).flatMap itemLine ++ ['\n', ']']) := by
      simp [arrayRepr, itemLine, String.toList_append, List.flatMap_map, Function.comp_def]
      rfl
    have hlines : (h :: h2 :: rest).length ≤ ((h :: h2 :: rest).flatMap itemLine).length :=
      length_le_length_flatMap (fun h => by simp [itemLine]) _
    rw [htext] at hfuel ⊢
    obtain ⟨items, o1, h1, hitems⟩ := arrayValues_itemLines h (h2 :: rest) fuel (depth + 1)
      (by simp at hfuel hlines ⊢; omega) more (o + ('[' : Char).utf8Size)
    simp only [List.cons_append, List.append_assoc]
    exact ⟨_, _, _, value_of_arrayValues hdepth h1, hitems⟩

/-! ## Key/value lines -/

/-- A character of a bare key is no blank, quote, line end or other mark a line starts with. -/
theorem isKeyChar_facts {c : Char} (h : isKeyChar c = true) :
    isWsChar c = false ∧ c ≠ '"' ∧ c ≠ '\'' ∧ c ≠ '#' ∧ c ≠ '[' ∧ c ≠ '\n' ∧ c ≠ '\r' ∧
      c ≠ '.' := by
  simp only [isKeyChar, Bool.or_eq_true, Bool.and_eq_true, decide_eq_true_eq, Char.le_def] at h
  simp only [isWsChar, Bool.or_eq_false_iff, decide_eq_false_iff_not]
  refine ⟨⟨?_, ?_⟩, ?_, ?_, ?_, ?_, ?_, ?_, ?_⟩ <;> rintro rfl <;> simp at h

theorem skipWs_of_not_ws {t : List Char} (ht : ∀ y ∈ t.head?, isWsChar y = false) (o : Nat) :
    skipWs ⟨t, o⟩ = ⟨t, o⟩ := by
  cases t with
  | nil => rfl
  | cons y t => simp [skipWs, Cursor.takeWhile, scanWhile, ht y rfl]

/-- A bare key, followed by a blank and `=`. -/
theorem key_bare {K : List Char} (hK : K ≠ []) (hchars : ∀ c ∈ K, isKeyChar c = true)
    (rest : List Char) (o : Nat) :
    ∃ o1 o2, key ⟨K ++ ' ' :: '=' :: rest, o⟩ =
      .ok ([⟨String.ofList K, ⟨o, o1⟩⟩], ⟨'=' :: rest, o2⟩) := by
  obtain ⟨y, K', rfl⟩ := List.exists_cons_of_ne_nil hK
  -- the key starts with no quote, which `simpleKey` looks for first
  obtain ⟨hws, hq1, hq2, -⟩ := isKeyChar_facts (hchars y List.mem_cons_self)
  obtain ⟨o1, hscan⟩ : ∃ o1, scanWhile isKeyChar ((y :: K') ++ ' ' :: '=' :: rest) o =
      (y :: K', ⟨' ' :: '=' :: rest, o1⟩) :=
    scanWhile_append hchars (fun c hc => by simp at hc; subst hc; decide) o
  obtain ⟨o2, hblank⟩ :
      ∃ o2, scanWhile isWsChar (' ' :: '=' :: rest) o1 = ([' '], ⟨'=' :: rest, o2⟩) :=
    @scanWhile_append isWsChar [' '] ('=' :: rest)
      (fun c hc => by rw [List.mem_singleton.mp hc]; rfl)
      (fun c hc => by simp at hc; subst hc; decide) o1
  have hstart :
      skipWs ⟨(y :: K') ++ ' ' :: '=' :: rest, o⟩ = ⟨(y :: K') ++ ' ' :: '=' :: rest, o⟩ :=
    skipWs_of_not_ws (by simpa using hws) o
  have hafter : skipWs ⟨' ' :: '=' :: rest, o1⟩ = ⟨'=' :: rest, o2⟩ := by
    simp [skipWs, Cursor.takeWhile, hblank]
  refine ⟨o1, o2, ?_⟩
  simp only [List.cons_append] at hscan hstart
  simp [key, simpleKey, hstart, Cursor.takeWhile, hscan, hafter, dottedRest]

/-- A line that ends right after its value. -/
theorem lineTrailing_newline (rest : List Char) (o : Nat) :
    lineTrailing ⟨'\n' :: rest, o⟩ = .ok ((), ⟨rest, o + ('\n' : Char).utf8Size⟩) := by
  have hblank : skipWs ⟨'\n' :: rest, o⟩ = ⟨'\n' :: rest, o⟩ :=
    skipWs_of_not_ws (fun y hy => by simp at hy; subst hy; decide) o
  simp [lineTrailing, hblank, comment?, lineEnding, newline]

/-- A line `key = value` with a bare key that is new in the current table puts the item the
value reads there, after the entries before it. -/
theorem keyvalLine_bare {st : ReadState} {K V rest : List Char} (hK : K ≠ [])
    (hchars : ∀ c ∈ K, isKeyChar c = true) (hV0 : ∀ y ∈ V.head?, isWsChar y = false)
    {P : Item → Prop}
    (hV : ∀ o fuel, V.length + 8 ≤ fuel → ∃ item o', P item ∧
      value fuel 0 ⟨V ++ '\n' :: rest, o⟩ = .ok (item, ⟨'\n' :: rest, o'⟩))
    (hnew : st.current.lookup (String.ofList K) = none) (o : Nat) :
    ∃ sp item o', P item ∧
      keyvalLine st ⟨K ++ ' ' :: '=' :: ' ' :: (V ++ '\n' :: rest), o⟩ =
        .ok ({ st with current := st.current ++ [(⟨String.ofList K, sp⟩, item)] },
          ⟨rest, o'⟩) := by
  obtain ⟨o1, o2, hkey⟩ := key_bare hK hchars (' ' :: (V ++ '\n' :: rest)) o
  -- the blank after `=`
  obtain ⟨o3, hblank⟩ : ∃ o3, scanWhile isWsChar (' ' :: (V ++ '\n' :: rest))
      (o2 + ('=' : Char).utf8Size) = ([' '], ⟨V ++ '\n' :: rest, o3⟩) := by
    refine @scanWhile_append isWsChar [' '] (V ++ '\n' :: rest)
      (fun c hc => by rw [List.mem_singleton.mp hc]; rfl) ?_ _
    cases V with
    | nil => simp; decide
    | cons y V => simpa using hV0
  obtain ⟨item, o4, hP, hvalue⟩ := hV o3 (valueFuel ⟨V ++ '\n' :: rest, o3⟩)
    (by simp [valueFuel]; omega)
  refine ⟨⟨o, o1⟩, item, o4 + ('\n' : Char).utf8Size, hP, ?_⟩
  have hnew' : (st.current.lookup (String.ofList K)).isSome = false := by simp [hnew]
  rw [keyvalLine, hkey]
  simp [skipWs, Cursor.takeWhile, hblank, hvalue, lineTrailing_newline, ReadState.onKeyval,
    descend, hnew']

/-- The document loop takes a key/value line with a bare key and goes on with the next line. -/
theorem lines_keyval {st : ReadState} {K V rest : List Char} (hK : K ≠ [])
    (hchars : ∀ c ∈ K, isKeyChar c = true) (hV0 : ∀ y ∈ V.head?, isWsChar y = false)
    {P : Item → Prop}
    (hV : ∀ o fuel, V.length + 8 ≤ fuel → ∃ item o', P item ∧
      value fuel 0 ⟨V ++ '\n' :: rest, o⟩ = .ok (item, ⟨'\n' :: rest, o'⟩))
    (hnew : st.current.lookup (String.ofList K) = none)
    (hrest : ∀ y ∈ rest.head?, isWsChar y = false) (fuel o : Nat) :
    ∃ sp item o', P item ∧
      lines (fuel + 1) st ⟨K ++ ' ' :: '=' :: ' ' :: (V ++ '\n' :: rest), o⟩ =
        lines fuel { st with current := st.current ++ [(⟨String.ofList K, sp⟩, item)] }
          ⟨rest, o'⟩ := by
  obtain ⟨sp, item, o', hP, hline⟩ := keyvalLine_bare hK hchars hV0 hV hnew o
  refine ⟨sp, item, o', hP, ?_⟩
  obtain ⟨y, K', rfl⟩ := List.exists_cons_of_ne_nil hK
  -- a key starts with none of the marks of a comment, a header or an empty line
  obtain ⟨-, -, -, h1, h2, h3, h4, -⟩ := isKeyChar_facts (hchars y List.mem_cons_self)
  rw [lines]
  simp only [Cursor.peek?_mk, List.cons_append, List.head?_cons] at hline ⊢
  simp [hline, skipWs_of_not_ws hrest]

/-- The item under a name is still missing after an entry under another name is put last. -/
theorem lookup_append_of_ne {entries : Entries} {name : String} (h : entries.lookup name = none)
    {k : Key} (hk : k.name ≠ name) (item : Item) : (entries ++ [(k, item)]).lookup name = none := by
  simp only [Entries.lookup, Option.map_eq_none_iff, List.find?_append] at h ⊢
  simp [h, hk]

/-- A document loop with nothing left to read stops where it is. -/
theorem lines_end (fuel : Nat) (st : ReadState) (o : Nat) :
    lines fuel st ⟨[], o⟩ = .ok (st, ⟨[], o⟩) := by
  cases fuel <;> simp [lines]

/-! ## Lines of settings -/

/-- A written string is read as the value of a line. -/
theorem value_stringRepr_line (s : String) (rest : List Char) (o fuel : Nat)
    (hfuel : (stringRepr s).toList.length + 8 ≤ fuel) :
    ∃ item o', (∃ sp, item = .scalar sp (.string s)) ∧
      value fuel 0 ⟨(stringRepr s).toList ++ '\n' :: rest, o⟩ =
        .ok (item, ⟨'\n' :: rest, o'⟩) := by
  obtain ⟨fuel, rfl⟩ : ∃ f, fuel = f + 1 := ⟨fuel - 1, by omega⟩
  have hline : ∀ y ∈ ('\n' :: rest).head?, y ≠ '"' ∧ y ≠ '\'' := by simp
  obtain ⟨o', h⟩ := value_stringRepr s hline fuel 0 o
  exact ⟨_, o', ⟨_, rfl⟩, h⟩

/-- A written array is read as the value of a line. -/
theorem value_arrayRepr_line (hs : List String) (rest : List Char) (o fuel : Nat)
    (hfuel : (arrayRepr (hs.map stringRepr)).toList.length + 8 ≤ fuel) :
    ∃ item o', (∃ sp items, item = .array sp items ∧ StringItems items hs) ∧
      value fuel 0 ⟨(arrayRepr (hs.map stringRepr)).toList ++ '\n' :: rest, o⟩ =
        .ok (item, ⟨'\n' :: rest, o'⟩) := by
  obtain ⟨sp, items, o', h, hitems⟩ := value_arrayRepr hs ('\n' :: rest) fuel 0 o (by decide) hfuel
  exact ⟨_, o', ⟨sp, items, rfl, hitems⟩, h⟩

theorem stringRepr_head_not_ws (s : String) :
    ∀ y ∈ (stringRepr s).toList.head?, isWsChar y = false := by
  intro y hy
  rcases stringRepr_head s with h | h <;> rw [h] at hy <;> (simp at hy; subst hy; decide)

theorem arrayRepr_head_not_ws (items : List String) :
    ∀ y ∈ (arrayRepr items).toList.head?, isWsChar y = false := by
  intro y hy
  have h : (arrayRepr items).toList.head? = some '[' := by
    unfold arrayRepr
    split <;> simp [String.toList_append]
  rw [h] at hy
  simp at hy
  subst hy
  decide

/-- A line `key = value` as written. -/
theorem keyValueLine_toList (key value : String) :
    (keyValueLine key value).toList =
      key.toList ++ ' ' :: '=' :: ' ' :: (value.toList ++ ['\n']) := by
  simp [keyValueLine, String.toList_append]

/-- A `key = value` line with a bare key, as it is written: the key, the text of the value and
what that text is read as, with the facts that make the line read back. -/
structure BareLine where
  key : String
  text : String
  reads : Item → Prop
  key_ne_nil : key.toList ≠ []
  key_chars : ∀ c ∈ key.toList, isKeyChar c = true
  text_head : ∀ y ∈ text.toList.head?, isWsChar y = false
  value_text : ∀ rest o fuel, text.toList.length + 8 ≤ fuel → ∃ item o', reads item ∧
    value fuel 0 ⟨text.toList ++ '\n' :: rest, o⟩ = .ok (item, ⟨'\n' :: rest, o'⟩)

namespace BareLine

/-- The line as written. -/
def chars (l : BareLine) : List Char := (keyValueLine l.key l.text).toList

/-- Bare lines start with no blank, and so does what follows them when it does. -/
theorem head_flatMap_chars (ls : List BareLine) {rest : List Char}
    (hrest : ∀ y ∈ rest.head?, isWsChar y = false) :
    ∀ y ∈ (ls.flatMap chars ++ rest).head?, isWsChar y = false := by
  cases ls with
  | nil => simpa using hrest
  | cons l ls =>
    obtain ⟨k, K, hk⟩ := List.exists_cons_of_ne_nil l.key_ne_nil
    intro y hy
    obtain rfl : k = y := by simpa [chars, keyValueLine_toList, hk] using hy
    exact (isKeyChar_facts (l.key_chars k (hk ▸ List.mem_cons_self))).1

/-- The document loop reads bare lines one after another, each into the current table after the
entries before it, when their names differ and are new there. -/
theorem lines_flatMap_chars (ls : List BareLine) (rest : List Char)
    (hrest : ∀ y ∈ rest.head?, isWsChar y = false) :
    ∀ (st : ReadState) (fuel o : Nat), (ls.map key).Nodup →
      (∀ l ∈ ls, st.current.lookup l.key = none) →
      ∃ entries o', List.Forall₂ (fun e l => e.1.name = l.key ∧ l.reads e.2) entries ls ∧
        lines (fuel + ls.length) st ⟨ls.flatMap chars ++ rest, o⟩ =
          lines fuel { st with current := st.current ++ entries } ⟨rest, o'⟩ := by
  induction ls with
  | nil =>
    intro st fuel o _ _
    exact ⟨[], o, .nil, by simp⟩
  | cons l ls ih =>
    intro st fuel o hnodup hnew
    rw [List.map_cons, List.nodup_cons] at hnodup
    have hfresh : st.current.lookup (String.ofList l.key.toList) = none := by
      rw [String.ofList_toList]
      exact hnew l List.mem_cons_self
    obtain ⟨sp, item, o1, hitem, hline⟩ := lines_keyval l.key_ne_nil l.key_chars l.text_head
      (l.value_text _) hfresh (head_flatMap_chars ls hrest) (fuel + ls.length) o
    -- the entry just placed hides none of the names still to come
    have hnew' :
        ∀ l' ∈ ls, (st.current ++ [((⟨l.key, sp⟩ : Key), item)]).lookup l'.key = none := by
      intro l' hl'
      have hne : l.key ≠ l'.key := fun h => hnodup.1 (h ▸ List.mem_map_of_mem hl')
      exact lookup_append_of_ne (hnew l' (List.mem_cons_of_mem _ hl')) hne item
    obtain ⟨entries, o', hentries, hrun⟩ :=
      ih { st with current := st.current ++ [(⟨l.key, sp⟩, item)] } fuel o1 hnodup.2 hnew'
    refine ⟨(⟨l.key, sp⟩, item) :: entries, o', .cons ⟨rfl, hitem⟩ hentries, ?_⟩
    rw [List.flatMap_cons, List.length_cons, ← Nat.add_assoc]
    simp only [chars, keyValueLine_toList, List.append_assoc, List.cons_append, List.nil_append]
    rw [hline, String.ofList_toList, hrun]
    simp

/-- The line of a string setting. -/
def ofString (key : String) (hne : key.toList ≠ [])
    (hchars : ∀ c ∈ key.toList, isKeyChar c = true) (s : String) : BareLine where
  key := key
  text := stringRepr s
  reads item := ∃ sp, item = .scalar sp (.string s)
  key_ne_nil := hne
  key_chars := hchars
  text_head := stringRepr_head_not_ws s
  value_text := value_stringRepr_line s

/-- The line of a setting that is a list of strings. -/
def ofStrings (key : String) (hne : key.toList ≠ [])
    (hchars : ∀ c ∈ key.toList, isKeyChar c = true) (hs : List String) : BareLine where
  key := key
  text := arrayRepr (hs.map stringRepr)
  reads item := ∃ sp items, item = .array sp items ∧ StringItems items hs
  key_ne_nil := hne
  key_chars := hchars
  text_head := arrayRepr_head_not_ws _
  value_text := value_arrayRepr_line hs

end BareLine

end StudyPlanner.Toml

namespace StudyPlanner.Config.ClientConfig

open Toml

/-- The lines a configuration is written as. -/
def tomlLines (c : ClientConfig) : List BareLine :=
  [.ofString "local_endpoint" (by simp) (List.all_eq_true.mp (by decide)) c.localEndpoint,
    .ofString "production_endpoint" (by simp) (List.all_eq_true.mp (by decide))
      c.productionEndpoint,
    .ofStrings "local_hosts" (by simp) (List.all_eq_true.mp (by decide)) c.localHosts]

/-- The text of a written configuration: its three lines. -/
theorem toToml_toList (c : ClientConfig) : c.toToml.toList = c.tomlLines.flatMap BareLine.chars := by
  simp [toToml, tomlLines, BareLine.chars, BareLine.ofString, BareLine.ofStrings,
    String.toList_append]

/-- Reading a written configuration gives its three lines as the top-level table, in order:
the two endpoints as strings and the local hosts as an array of strings. -/
theorem readDocument_toToml (c : ClientConfig) :
    ∃ sp1 sp2 sp3 i1 i2 i3, readDocument c.toToml =
        .ok [(⟨"local_endpoint", sp1⟩, i1), (⟨"production_endpoint", sp2⟩, i2),
          (⟨"local_hosts", sp3⟩, i3)] ∧
      (∃ sp, i1 = .scalar sp (.string c.localEndpoint)) ∧
      (∃ sp, i2 = .scalar sp (.string c.productionEndpoint)) ∧
      (∃ sp items, i3 = .array sp items ∧ StringItems items c.localHosts) := by
  have htext := toToml_toList c
  -- the document starts with a key: no byte order mark, no blank
  have hhead : ∀ y ∈ c.toToml.toList.head?, isWsChar y = false := by
    rw [htext, ← List.append_nil (List.flatMap _ _)]
    exact BareLine.head_flatMap_chars _ (by simp)
  have hstart : skipWs (if (Cursor.start c.toToml).peek? = some byteOrderMark
      then (Cursor.start c.toToml).next else Cursor.start c.toToml) = ⟨c.toToml.toList, 0⟩ := by
    have hbom : ¬((Cursor.start c.toToml).peek? = some byteOrderMark) := by
      simp [Cursor.start, toToml, keyValueLine, String.toList_append, byteOrderMark]
    rw [if_neg hbom, Cursor.start]
    exact skipWs_of_not_ws hhead 0
  have hlong : c.tomlLines.length ≤ c.toToml.toList.length := by
    rw [htext]
    exact length_le_length_flatMap (fun l => by simp [BareLine.chars, keyValueLine_toList]) _
  -- the three lines, read one after another
  have hnodup : (c.tomlLines.map BareLine.key).Nodup := by
    simp [tomlLines, BareLine.ofString, BareLine.ofStrings]
  obtain ⟨entries, o', hentries, hrun⟩ :=
    BareLine.lines_flatMap_chars c.tomlLines [] (by simp) {} (c.toToml.toList.length - 2) 0 hnodup
      (fun _ _ => rfl)
  rw [tomlLines] at hentries
  obtain ⟨⟨⟨n1, sp1⟩, i1⟩, _, ⟨rfl, hi1⟩, h23, rfl⟩ := List.forall₂_cons_right_iff.mp hentries
  obtain ⟨⟨⟨n2, sp2⟩, i2⟩, _, ⟨rfl, hi2⟩, h3, rfl⟩ := List.forall₂_cons_right_iff.mp h23
  obtain ⟨⟨⟨n3, sp3⟩, i3⟩, _, ⟨rfl, hi3⟩, hnil, rfl⟩ := List.forall₂_cons_right_iff.mp h3
  obtain rfl := List.forall₂_nil_right_iff.mp hnil
  refine ⟨sp1, sp2, sp3, i1, i2, i3, ?_, hi1, hi2, hi3⟩
  have hthree : c.tomlLines.length = 3 := rfl
  rw [hthree] at hrun hlong
  rw [List.append_nil, ← htext] at hrun
  simp only [readDocument]
  have hfuel : c.toToml.toList.length + 1 = c.toToml.toList.length - 2 + 3 := by omega
  rw [hstart, Cursor.fuel_mk, hfuel, hrun, lines_end]
  simp [Cursor.atEnd, ReadState.finalize, BareLine.ofString, BareLine.ofStrings]

/-- A configuration survives TOML: whatever its endpoints (quotes, backslashes, apostrophes,
tabs, line feeds, other control characters, runs of quotes) and whatever its list of local
hosts, the empty list included, reading the text it is written as gives it back. -/
theorem ofToml_toToml (c : ClientConfig) : ofToml c.toToml = .ok c := by
  obtain ⟨sp1, sp2, sp3, i1, i2, i3, hread, ⟨s1, rfl⟩, ⟨s2, rfl⟩, ⟨s3, items, rfl, hitems⟩⟩ :=
    readDocument_toToml c
  have hhosts := hitems.mapM_expectString s3
  rw [ofToml, hread]
  simp [ofEntries, setting, expectString, expectStrings, hhosts, Except.map]
  rfl

end StudyPlanner.Config.ClientConfig
