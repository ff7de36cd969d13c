import StudyPlanner.Web.Query
import StudyPlanner.Proofs.Utf8
import Mathlib.Data.List.TakeDrop
import Mathlib.Data.List.TakeWhile
/-!
# Written queries read back

A query written by `QueryWriter` parses back to the pairs it was written from, whatever their
texts: `QueryMap.parse_finish`. Two facts about the form encoding of one text carry it.

* It reads back (`decodeFormComponent_encode`). Each byte of the text is written as ASCII
  characters (`formChars`): a space as `+`, a safe byte as itself, any other byte as `%` and
  two upper-case hexadecimal digits. No byte is written as `+` but the space, so turning `+`
  back into a space and then percent-decoding gives the byte again (`decodeBytes_formChars`),
  and the bytes are the text's UTF-8.
* It holds none of the characters that give a query its shape, `&`, `=`, `#` and `?`
  (`encodeFormComponent_facts`). So the query part of the written text is all of it, it
  splits at `&` into the written pieces, and each piece splits at its first `=` into its key
  and its value.
-/

namespace StudyPlanner.Web

open StudyPlanner.Text

/-! ### One byte -/

/-- The characters the form encoding writes for one byte. -/
def formChars (b : UInt8) : List Char :=
  if b.toNat = 0x20 then ['+']
  else if isFormSafe b then [Char.ofNat b.toNat]
  else Percent.escapeByte b

/-- The characters that give a query its shape. -/
def queryMarks : List Char := ['&', '=', '#', '?']

theorem not_mem_queryMarks {c : Char} :
    c ∉ queryMarks ↔ c ≠ '&' ∧ c ≠ '=' ∧ c ≠ '#' ∧ c ≠ '?' := by
  simp only [queryMarks, List.mem_cons, List.mem_nil_iff, or_false, not_or]

/-- The byte of an ASCII character. -/
def asciiByte (c : Char) : UInt8 := UInt8.ofNat c.toNat

/-- Reading a form component first turns `+` into a space. -/
def plusAsSpace (b : UInt8) : UInt8 := if b.toNat = 0x2B then 0x20 else b

theorem encodeFormComponent_toList (s : String) :
    (encodeFormComponent s).toList = (Utf8.encode s).flatMap formChars := by
  rw [encodeFormComponent, String.toList_ofList]
  rfl

theorem decodeFormComponent_eq (cs : List Char) :
    decodeFormComponent cs =
      Utf8.decodeLossy (Percent.decodeBytes ((Utf8.encode (String.ofList cs)).map plusAsSpace)) :=
  rfl

theorem toNat_charOfNat {n : Nat} (h : n < 0xd800) : (Char.ofNat n).toNat = n := by
  have hvalid : n.isValidChar := Or.inl h
  show (dite n.isValidChar (Char.ofNatAux n) _).toNat = n
  rw [dif_pos hvalid]
  rfl

/-- What the hexadecimal digits of an escape are: ASCII, read back as their value, neither `+`
nor a mark. -/
theorem digitUpper_facts : ∀ n, n < 16 →
    (Hex.digitUpper n).toNat ≤ 0x7f ∧
      Percent.hexValue? (asciiByte (Hex.digitUpper n)) = some n ∧
      (asciiByte (Hex.digitUpper n)).toNat ≠ 0x2B ∧ Hex.digitUpper n ∉ queryMarks := by
  decide

/-- A safe byte is ASCII, and neither a space, `%`, `+` nor a mark. -/
theorem isFormSafe_facts {b : UInt8} (h : isFormSafe b = true) :
    b.toNat ≤ 0x7f ∧ b.toNat ≠ 0x20 ∧ b.toNat ≠ 0x25 ∧ b.toNat ≠ 0x2B ∧
      b.toNat ≠ 0x26 ∧ b.toNat ≠ 0x3D ∧ b.toNat ≠ 0x23 ∧ b.toNat ≠ 0x3F := by
  simp only [isFormSafe, Percent.isAlphanumeric, Bool.or_eq_true, Bool.and_eq_true,
    decide_eq_true_eq] at h
  omega

theorem asciiByte_charOfNat {b : UInt8} (h : b.toNat ≤ 0x7f) : asciiByte (Char.ofNat b.toNat) = b := by
  rw [asciiByte, toNat_charOfNat (by omega)]
  exact UInt8.ofNat_toNat

/-- The characters written for a byte are ASCII and no mark. -/
theorem formChars_facts (b : UInt8) : ∀ c ∈ formChars b, c.toNat ≤ 0x7f ∧ c ∉ queryMarks := by
  intro c hc
  unfold formChars at hc
  split at hc
  · -- a space
    rw [List.mem_singleton] at hc
    subst hc
    decide
  split at hc
  · -- a safe byte
    rename_i hsafe
    have hb := isFormSafe_facts hsafe
    rw [List.mem_singleton] at hc
    subst hc
    have hchar : (Char.ofNat b.toNat).toNat = b.toNat := toNat_charOfNat (by omega)
    -- the marks are told apart from the byte by their code points
    refine ⟨by rw [hchar]; exact hb.1, not_mem_queryMarks.mpr ?_⟩
    simp only [ne_eq, ← Char.toNat_inj, hchar, Char.reduceToNat]
    omega
  · -- an escape: `%` and two digits
    have hb : b.toNat < 256 := b.toNat_lt
    have hhi := digitUpper_facts (b.toNat / 16) (by omega)
    have hlo := digitUpper_facts (b.toNat % 16) (by omega)
    simp only [Percent.escapeByte, List.mem_cons, List.mem_nil_iff, or_false] at hc
    rcases hc with rfl | rfl | rfl
    · decide
    · exact ⟨hhi.1, hhi.2.2.2⟩
    · exact ⟨hlo.1, hlo.2.2.2⟩

/-- A byte other than `%` is kept by percent-decoding. -/
theorem decodeBytes_cons_of_ne {b : UInt8} (hb : b.toNat ≠ 0x25) (rest : List UInt8) :
    Percent.decodeBytes (b :: rest) = b :: Percent.decodeBytes rest := by
  match rest with
  | x :: y :: tail =>
    rw [Percent.decodeBytes.eq_2, if_neg hb]
  | [] => exact Percent.decodeBytes.eq_3 _ _ (by simp)
  | [x] => exact Percent.decodeBytes.eq_3 _ _ (by simp)

/-- The characters written for a byte, as bytes with `+` turned into a space, percent-decode to
the byte, whatever follows. -/
theorem decodeBytes_formChars (b : UInt8) (rest : List UInt8) :
    Percent.decodeBytes (((formChars b).map asciiByte).map plusAsSpace ++ rest) =
      b :: Percent.decodeBytes rest := by
  have hb256 : b.toNat < 256 := b.toNat_lt
  unfold formChars
  split
  · -- a space: written as `+`, read as a space again
    rename_i hspace
    have hb : b = 0x20 := UInt8.toNat_inj.mp (by rw [hspace]; rfl)
    subst hb
    exact decodeBytes_cons_of_ne (by decide) rest
  split
  · -- a safe byte: written as itself
    rename_i hsafe
    have hb := isFormSafe_facts hsafe
    have hplus : plusAsSpace b = b := by rw [plusAsSpace, if_neg hb.2.2.2.1]
    simp only [List.map_cons, List.map_nil, asciiByte_charOfNat hb.1, hplus, List.cons_append,
      List.nil_append]
    exact decodeBytes_cons_of_ne hb.2.2.1 rest
  · -- an escape: `%` and the two digits of the byte
    obtain ⟨-, hhi, hhi_plus, -⟩ := digitUpper_facts (b.toNat / 16) (by omega)
    obtain ⟨-, hlo, hlo_plus, -⟩ := digitUpper_facts (b.toNat % 16) (by omega)
    simp only [Percent.escapeByte, List.map_cons, List.map_nil, List.cons_append, List.nil_append,
      plusAsSpace, if_neg hhi_plus, if_neg hlo_plus]
    rw [Percent.decodeBytes.eq_2, if_pos (by decide), hhi, hlo]
    show UInt8.ofNat (b.toNat / 16 * 16 + b.toNat % 16) :: _ = _
    rw [show b.toNat / 16 * 16 + b.toNat % 16 = b.toNat by omega, UInt8.ofNat_toNat]

theorem decodeBytes_flatMap_formChars (bs : List UInt8) :
    Percent.decodeBytes (((bs.flatMap formChars).map asciiByte).map plusAsSpace) = bs := by
  induction bs with
  | nil => rw [List.flatMap_nil, List.map_nil, List.map_nil, Percent.decodeBytes.eq_1]
  | cons b bs ih =>
    rw [List.flatMap_cons, List.map_append, List.map_append, decodeBytes_formChars, ih]

/-! ### One text -/

/-- The form encoding of a text is ASCII and holds no mark. -/
theorem encodeFormComponent_facts (s : String) :
    ∀ c ∈ (encodeFormComponent s).toList, c.toNat ≤ 0x7f ∧ c ∉ queryMarks := by
  intro c hc
  rw [encodeFormComponent_toList, List.mem_flatMap] at hc
  obtain ⟨b, -, hb⟩ := hc
  exact formChars_facts b c hb

/-- The form encoding of a text reads back as the text. -/
theorem decodeFormComponent_encode (s : String) :
    decodeFormComponent (encodeFormComponent s).toList = s := by
  have hascii : ∀ c ∈ (encodeFormComponent s).toList, c.toNat ≤ 0x7f :=
    fun c hc => (encodeFormComponent_facts s c hc).1
  rw [decodeFormComponent_eq, Utf8.encode_ofList_of_le hascii]
  show Utf8.decodeLossy (Percent.decodeBytes ((((encodeFormComponent s).toList).map asciiByte).map
    plusAsSpace)) = s
  rw [encodeFormComponent_toList, decodeBytes_flatMap_formChars, Utf8.decodeLossy_encode]

/-! ### The shape of a query -/

/-- The query part of a text with neither `?` nor `#` is all of it. -/
theorem queryPart_of_forall {cs : List Char} (h : ∀ c ∈ cs, c ≠ '?' ∧ c ≠ '#') :
    queryPart cs = cs := by
  have hspan : cs.span (· != '?') = (cs, []) := by
    rw [List.span_eq_takeWhile_dropWhile, List.takeWhile_eq_self_iff.mpr, List.dropWhile_eq_nil_iff.mpr]
    · intro c hc
      simpa using (h c hc).1
    · intro c hc
      simpa using (h c hc).1
  simp only [queryPart, hspan]
  exact List.takeWhile_eq_self_iff.mpr fun c hc => by simpa using (h c hc).2

theorem splitAt_ne_nil (sep : Char) (cs : List Char) : splitAt sep cs ≠ [] := by
  cases cs with
  | nil => simp [splitAt]
  | cons c cs =>
    rw [splitAt.eq_2]
    split
    · split <;> simp
    · simp

/-- A piece without the separator is not split. -/
theorem splitAt_of_not_mem {sep : Char} {p : List Char} (h : sep ∉ p) : splitAt sep p = [p] := by
  induction p with
  | nil => rfl
  | cons c p ih =>
    have hc : c ≠ sep := fun hc => h (hc ▸ List.mem_cons_self)
    rw [splitAt.eq_2, ih (fun hm => h (List.mem_cons_of_mem c hm))]
    exact if_neg hc

/-- A piece without the separator, then the separator, splits off as the first piece. -/
theorem splitAt_append_cons {sep : Char} {p : List Char} (h : sep ∉ p) (rest : List Char) :
    splitAt sep (p ++ sep :: rest) = p :: splitAt sep rest := by
  induction p with
  | nil =>
    rw [List.nil_append, splitAt.eq_2]
    obtain ⟨piece, more, hsplit⟩ := List.exists_cons_of_ne_nil (splitAt_ne_nil sep rest)
    rw [hsplit]
    exact if_pos rfl
  | cons c p ih =>
    have hc : c ≠ sep := fun hc => h (hc ▸ List.mem_cons_self)
    rw [List.cons_append, splitAt.eq_2, ih (fun hm => h (List.mem_cons_of_mem c hm))]
    exact if_neg hc

/-- Pieces without the separator, joined by it, split back into the pieces. -/
theorem splitAt_intercalate {sep : Char} (p : List Char) (ps : List (List Char))
    (h : ∀ q ∈ p :: ps, sep ∉ q) : splitAt sep ([sep].intercalate (p :: ps)) = p :: ps := by
  induction ps generalizing p with
  | nil => rw [List.intercalate_singleton, splitAt_of_not_mem (h p List.mem_cons_self)]
  | cons q qs ih =>
    rw [List.intercalate_cons_cons, List.append_assoc, List.singleton_append,
      splitAt_append_cons (h p List.mem_cons_self),
      ih q fun r hr => h r (List.mem_cons_of_mem p hr)]

/-- Every character of pieces joined by a separator is the separator or one of theirs. -/
theorem forall_mem_intercalate {P : Char → Prop} {sep : Char} (hsep : P sep)
    (ps : List (List Char)) (h : ∀ q ∈ ps, ∀ c ∈ q, P c) : ∀ c ∈ [sep].intercalate ps, P c := by
  induction ps with
  | nil => simp
  | cons p ps ih =>
    cases ps with
    | nil => simpa using h p List.mem_cons_self
    | cons q qs =>
      intro c hc
      rw [List.intercalate_cons_cons, List.mem_append, List.mem_append, List.mem_singleton] at hc
      rcases hc with (hc | rfl) | hc
      · exact h p List.mem_cons_self c hc
      · exact hsep
      · exact ih (fun r hr => h r (List.mem_cons_of_mem p hr)) c hc

/-- The characters a written pair takes: its key's encoding, `=`, its value's encoding. -/
def pieceOf (p : String × String) : List Char :=
  (encodeFormComponent p.1).toList ++ '=' :: (encodeFormComponent p.2).toList

theorem pieceOf_facts (p : String × String) : ∀ c ∈ pieceOf p, c ≠ '&' ∧ c ≠ '?' ∧ c ≠ '#' := by
  have hmark : ∀ c, c ∉ queryMarks → c ≠ '&' ∧ c ≠ '?' ∧ c ≠ '#' := by
    intro c hc
    obtain ⟨hamp, -, hhash, hquery⟩ := not_mem_queryMarks.mp hc
    exact ⟨hamp, hquery, hhash⟩
  intro c hc
  rw [pieceOf, List.mem_append, List.mem_cons] at hc
  rcases hc with hc | rfl | hc
  · exact hmark c (encodeFormComponent_facts _ c hc).2
  · decide
  · exact hmark c (encodeFormComponent_facts _ c hc).2

/-- A written pair reads back: split at the first `=`, its key and its value decode. -/
theorem pairOfPiece_pieceOf (p : String × String) : pairOfPiece (pieceOf p) = p := by
  have hkey : ∀ c ∈ (encodeFormComponent p.1).toList, (c != '=') = true := by
    intro c hc
    simpa using (not_mem_queryMarks.mp (encodeFormComponent_facts p.1 c hc).2).2.1
  have hspan : (pieceOf p).span (· != '=') =
      ((encodeFormComponent p.1).toList, '=' :: (encodeFormComponent p.2).toList) := by
    rw [List.span_eq_takeWhile_dropWhile, pieceOf, List.takeWhile_append_of_pos hkey,
      List.dropWhile_append_of_pos hkey]
    simp
  rw [pairOfPiece, hspan]
  simp only [decodeFormComponent_encode]

/-- A written query is its pieces joined by `&`. -/
theorem finish_toList (w : QueryWriter) :
    w.finish.toList = ['&'].intercalate (w.pairs.map pieceOf) := by
  have hpiece : ∀ p : String × String,
      (encodeFormComponent p.1 ++ "=" ++ encodeFormComponent p.2).toList = pieceOf p := by
    intro p
    rw [String.toList_append, String.toList_append, show "=".toList = ['='] from rfl, pieceOf,
      List.append_assoc, List.singleton_append]
  rw [QueryWriter.finish, String.toList_intercalate, List.map_map, show "&".toList = ['&'] from rfl]
  simp only [Function.comp_def, hpiece]

/-- Reading the pieces of written pairs gives the pairs. -/
theorem map_pairOfPiece_pieceOf (ps : List (String × String)) :
    (ps.map pieceOf).map pairOfPiece = ps := by
  induction ps with
  | nil => rfl
  | cons p ps ih => rw [List.map_cons, List.map_cons, pairOfPiece_pieceOf, ih]

/-- A written query parses back to the pairs it was written from. -/
theorem QueryMap.parse_finish (w : QueryWriter) : QueryMap.parse w.finish = { pairs := w.pairs } := by
  have hpieces : ∀ q ∈ w.pairs.map pieceOf, ∀ c ∈ q, c ≠ '&' ∧ c ≠ '?' ∧ c ≠ '#' := by
    intro q hq
    obtain ⟨p, -, rfl⟩ := List.mem_map.mp hq
    exact pieceOf_facts p
  -- the whole text is the query part: the only marks in it are the `&`s between the pieces
  have hpart : queryPart w.finish.toList = w.finish.toList := by
    rw [finish_toList]
    refine queryPart_of_forall (forall_mem_intercalate (by decide) _ fun q hq c hc => ?_)
    exact (hpieces q hq c hc).2
  rw [QueryMap.parse, hpart, finish_toList]
  congr 1
  cases hps : w.pairs with
  | nil => rfl
  | cons p ps =>
    rw [hps] at hpieces
    have hsplit := splitAt_intercalate (pieceOf p) (ps.map pieceOf)
      fun q hq hamp => (hpieces q hq '&' hamp).1 rfl
    -- no piece is empty: each holds its `=`
    have hfilter : (pieceOf p :: ps.map pieceOf).filter (fun q => !q.isEmpty) =
        pieceOf p :: ps.map pieceOf := by
      refine List.filter_eq_self.mpr fun q hq => ?_
      rw [← List.map_cons] at hq
      obtain ⟨r, -, rfl⟩ := List.mem_map.mp hq
      simp [pieceOf]
    rw [List.map_cons, hsplit, hfilter, ← List.map_cons, map_pairOfPiece_pieceOf]

end StudyPlanner.Web
