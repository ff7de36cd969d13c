import StudyPlanner.Text.Decimal
import StudyPlanner.Text.Blank
/-!
# Decimal text reads back

The decimal text of an integer, trimmed and read at a width it fits, is that integer again:
`Decimal.readInt64?_trim_ofInt` and `Decimal.readInt32?_trim_ofInt`. The text is a sign and
the digits of `Nat.toDigits`, whose value `Nat.ofDigitChars` gives back; reading digits one by
one is that same value (`Decimal.digitsValue?_eq`). No character of the text is blank, so
trimming leaves it as it is (`trim_of_forall_not_blank`).

The other way round, `Decimal.Writes` says in so many words which texts name which integers: an
optional sign, then at least one ASCII digit. The readers accept exactly those texts, at the
values they write (`Decimal.readSigned?_eq_some_iff`), and the width readers exactly those that
write an integer of their width (`Decimal.readInt64?_eq_none_iff`, `Decimal.readInt32?_eq_none_iff`).
-/

namespace StudyPlanner.Text

/-! ### Trimming -/

/-- A list with no blank character is its own trimming. -/
theorem trimList_of_forall_not_blank {cs : List Char} (h : ∀ c ∈ cs, isBlank c = false) :
    trimList cs = cs := by
  have hfront : ∀ ds : List Char, (∀ c ∈ ds, isBlank c = false) → ds.dropWhile isBlank = ds := by
    intro ds hds
    cases ds with
    | nil => rfl
    | cons d ds => simp [hds d (by simp)]
  have hrev : ∀ c ∈ cs.reverse, isBlank c = false := fun c hc => h c (List.mem_reverse.mp hc)
  rw [trimList, trimBack, trimFront, hfront cs h, hfront cs.reverse hrev, List.reverse_reverse]

/-- A text with no blank character is its own trimming. -/
theorem trim_of_forall_not_blank {s : String} (h : ∀ c ∈ s.toList, isBlank c = false) :
    trim s = s := by
  rw [trim, trimList_of_forall_not_blank h, String.ofList_toList]

/-- An ASCII digit is not blank. -/
theorem isBlank_of_isDigit {c : Char} (h : c.isDigit = true) : isBlank c = false := by
  have hd := Char.isDigit_iff_toNat.mp h
  simp only [Char.reduceToNat] at hd
  simp only [isBlank, Bool.or_eq_false_iff, Bool.and_eq_false_iff, decide_eq_false_iff_not,
    beq_eq_false_iff_ne]
  omega

namespace Decimal

/-! ### Digits -/

/-- Reading ASCII digits after a value read so far is `Nat.ofDigitChars`. -/
theorem foldl_digits {cs : List Char} (h : ∀ c ∈ cs, c.isDigit = true) (n : Nat) :
    cs.foldl (fun acc c => acc.bind fun n =>
      if c.isDigit then some (n * 10 + (c.toNat - 0x30)) else none) (some n) =
      some (Nat.ofDigitChars 10 cs n) := by
  induction cs generalizing n with
  | nil => rfl
  | cons c cs ih =>
    have hc : c.isDigit = true := h c (by simp)
    rw [List.foldl_cons, Option.bind_some, if_pos hc, ih (fun d hd => h d (by simp [hd])),
      Nat.ofDigitChars_cons, Nat.mul_comm n 10]
    rfl

theorem digitsValue?_eq {cs : List Char} (h : ∀ c ∈ cs, c.isDigit = true) :
    digitsValue? cs = some (Nat.ofDigitChars 10 cs 0) :=
  foldl_digits h 0

/-- The digits of a number read back as the number. -/
theorem readDigits?_toDigits (k : Nat) : readDigits? (Nat.toDigits 10 k) = some k := by
  have hdigits : ∀ c ∈ Nat.toDigits 10 k, c.isDigit = true :=
    fun c hc => Nat.isDigit_of_mem_toDigits (by decide) (by decide) hc
  rw [readDigits?, if_neg (by simp), digitsValue?_eq hdigits,
    Nat.ofDigitChars_ten_toDigits]

/-- Digits with no sign in front read as a non-negative number. -/
theorem readSigned?_toDigits (k : Nat) : readSigned? (Nat.toDigits 10 k) = some (k : Int) := by
  -- the first digit is neither sign
  obtain ⟨c, cs, hcs⟩ := List.exists_cons_of_ne_nil (Nat.toDigits_ne_nil (n := k) (b := 10))
  have hc : c.isDigit = true :=
    Nat.isDigit_of_mem_toDigits (b := 10) (n := k) (by decide) (by decide) (by simp [hcs])
  have hminus : c ≠ '-' := by rintro rfl; simp at hc
  have hplus : c ≠ '+' := by rintro rfl; simp at hc
  rw [hcs, readSigned?.eq_3 _ (by simp [hminus]) (by simp [hplus]), ← hcs, readDigits?_toDigits]
  rfl

/-- The decimal text of an integer reads back as the integer. -/
theorem readSigned?_ofInt (n : Int) : readSigned? (ofInt n).toList = some n := by
  cases n with
  | ofNat k =>
    rw [ofInt, Nat.toString_eq_repr, Nat.toList_repr, readSigned?_toDigits]
    rfl
  | negSucc k =>
    rw [ofInt, String.toList_append, Nat.toString_eq_repr, Nat.toList_repr]
    show (readDigits? (Nat.toDigits 10 (k + 1))).map (fun n => -(n : Int)) = _
    rw [readDigits?_toDigits]
    rfl

/-- No character of an integer's decimal text is blank. -/
theorem ofInt_not_blank (n : Int) : ∀ c ∈ (ofInt n).toList, isBlank c = false := by
  have hdigit : ∀ k, ∀ c ∈ (toString k).toList, isBlank c = false := fun k c hc =>
    isBlank_of_isDigit (Nat.isDigit_of_mem_toDigits (b := 10) (n := k) (by decide) (by decide)
      (by simpa using hc))
  cases n with
  | ofNat k => exact hdigit k
  | negSucc k =>
    intro c hc
    rw [ofInt, String.toList_append, List.mem_append] at hc
    rcases hc with hc | hc
    · -- the minus sign
      rw [show "-".toList = ['-'] from rfl, List.mem_singleton] at hc
      subst hc
      decide
    · exact hdigit (k + 1) c hc

theorem trim_ofInt (n : Int) : trim (ofInt n) = ofInt n :=
  trim_of_forall_not_blank (ofInt_not_blank n)

/-! ### Widths -/

/-- A 64-bit integer's decimal text, trimmed, reads back as it. -/
theorem readInt64?_trim_ofInt (v : Int64) : readInt64? (trim (ofInt v.toInt)) = some v := by
  have hlo := Int64.le_toInt v
  have hhi := Int64.toInt_lt v
  rw [trim_ofInt, readInt64?, readSigned?_ofInt, Option.bind_some,
    if_pos ⟨by omega, by omega⟩, Int64.ofInt_toInt]

/-- A 32-bit integer's decimal text, trimmed, reads back as it. -/
theorem readInt32?_trim_ofInt (v : Int32) : readInt32? (trim (ofInt v.toInt)) = some v := by
  have hlo := Int32.le_toInt v
  have hhi := Int32.toInt_lt v
  rw [trim_ofInt, readInt32?, readSigned?_ofInt, Option.bind_some,
    if_pos ⟨by omega, by omega⟩, Int32.ofInt_toInt]

/-! ### What the readers accept -/

/-- `cs` writes the integer `n` in decimal: an optional sign, then at least one ASCII digit.
Leading zeros are allowed, and `-0` is zero. -/
inductive Writes : List Char → Int → Prop
  | unsigned {ds : List Char} (hne : ds ≠ []) (hd : ∀ c ∈ ds, c.isDigit = true) :
      Writes ds (Nat.ofDigitChars 10 ds 0)
  | plus {ds : List Char} (hne : ds ≠ []) (hd : ∀ c ∈ ds, c.isDigit = true) :
      Writes ('+' :: ds) (Nat.ofDigitChars 10 ds 0)
  | minus {ds : List Char} (hne : ds ≠ []) (hd : ∀ c ∈ ds, c.isDigit = true) :
      Writes ('-' :: ds) (-(Nat.ofDigitChars 10 ds 0 : Int))

/-- Once a character is not a digit, reading digits has failed for good. -/
theorem foldl_digits_none (cs : List Char) :
    cs.foldl (fun acc c => acc.bind fun n =>
      if c.isDigit then some (n * 10 + (c.toNat - 0x30)) else none) none = none := by
  induction cs with
  | nil => rfl
  | cons c cs ih => exact ih

/-- Reading digits succeeds only on digits, at their value. -/
theorem foldl_digits_eq_some {cs : List Char} {n k : Nat}
    (h : cs.foldl (fun acc c => acc.bind fun n =>
      if c.isDigit then some (n * 10 + (c.toNat - 0x30)) else none) (some n) = some k) :
    (∀ c ∈ cs, c.isDigit = true) ∧ k = Nat.ofDigitChars 10 cs n := by
  induction cs generalizing n with
  | nil =>
    rw [List.foldl_nil, Option.some.injEq] at h
    exact ⟨fun _ hc => absurd hc List.not_mem_nil, by rw [← h]; rfl⟩
  | cons c cs ih =>
    rw [List.foldl_cons, Option.bind_some] at h
    by_cases hc : c.isDigit = true
    · rw [if_pos hc] at h
      obtain ⟨hall, hk⟩ := ih h
      refine ⟨fun d hd => ?_, by rw [hk, Nat.ofDigitChars_cons, Nat.mul_comm 10 n]; rfl⟩
      rcases List.mem_cons.mp hd with rfl | hd
      · exact hc
      · exact hall d hd
    · rw [if_neg hc, foldl_digits_none] at h
      cases h

theorem readDigits?_eq_some_iff {cs : List Char} {k : Nat} :
    readDigits? cs = some k ↔
      cs ≠ [] ∧ (∀ c ∈ cs, c.isDigit = true) ∧ k = Nat.ofDigitChars 10 cs 0 := by
  constructor
  · intro h
    rw [readDigits?] at h
    split at h
    · cases h
    · rename_i hne
      exact ⟨by simpa using hne, foldl_digits_eq_some h⟩
  · rintro ⟨hne, hd, rfl⟩
    rw [readDigits?, if_neg (by simpa using hne), digitsValue?_eq hd]

/-- Digits read as the value they write. -/
theorem readDigits?_of_digits {ds : List Char} (hne : ds ≠ []) (hd : ∀ c ∈ ds, c.isDigit = true) :
    readDigits? ds = some (Nat.ofDigitChars 10 ds 0) :=
  readDigits?_eq_some_iff.mpr ⟨hne, hd, rfl⟩

theorem Writes.readSigned? {cs : List Char} {n : Int} (h : Writes cs n) :
    readSigned? cs = some n := by
  cases h with
  | unsigned hne hd =>
    -- the first digit is neither sign
    obtain ⟨c, ds, rfl⟩ := List.exists_cons_of_ne_nil hne
    have hc : c.isDigit = true := hd c List.mem_cons_self
    have hminus : c ≠ '-' := by rintro rfl; simp at hc
    have hplus : c ≠ '+' := by rintro rfl; simp at hc
    rw [readSigned?.eq_3 _ (by simp [hminus]) (by simp [hplus]), readDigits?_of_digits hne hd]
    rfl
  | plus hne hd => rw [readSigned?.eq_2, readDigits?_of_digits hne hd]; rfl
  | minus hne hd => rw [readSigned?.eq_1, readDigits?_of_digits hne hd]; rfl

theorem writes_of_readSigned? {cs : List Char} {n : Int} (h : readSigned? cs = some n) :
    Writes cs n := by
  -- each branch reads digits as an integer, and perhaps negates them
  have hdigits : ∀ {ds : List Char} {m : Int}, (readDigits? ds >>= fun k => pure (k : Int)) = some m →
      ds ≠ [] ∧ (∀ c ∈ ds, c.isDigit = true) ∧ m = Nat.ofDigitChars 10 ds 0 := by
    intro ds m hm
    obtain ⟨k, hk, hkm⟩ := Option.bind_eq_some_iff.mp hm
    obtain ⟨hne, hd, rfl⟩ := readDigits?_eq_some_iff.mp hk
    exact ⟨hne, hd, (Option.some.inj hkm).symm⟩
  unfold readSigned? at h
  split at h
  · -- a minus sign
    obtain ⟨m, hm, rfl⟩ := Option.map_eq_some_iff.mp h
    obtain ⟨hne, hd, rfl⟩ := hdigits hm
    exact .minus hne hd
  · -- a plus sign
    obtain ⟨m, hm, rfl⟩ := Option.map_eq_some_iff.mp h
    obtain ⟨hne, hd, rfl⟩ := hdigits hm
    exact .plus hne hd
  · obtain ⟨m, hm, rfl⟩ := Option.map_eq_some_iff.mp h
    obtain ⟨hne, hd, rfl⟩ := hdigits hm
    exact .unsigned hne hd

/-- The signed reader accepts exactly the decimal texts, at the integer they write. -/
theorem readSigned?_eq_some_iff {cs : List Char} {n : Int} : readSigned? cs = some n ↔ Writes cs n :=
  ⟨writes_of_readSigned?, Writes.readSigned?⟩

theorem readInt64?_eq_some_iff {s : String} {v : Int64} :
    readInt64? s = some v ↔ Writes s.toList v.toInt := by
  rw [← readSigned?_eq_some_iff]
  constructor
  · intro h
    rw [readInt64?] at h
    obtain ⟨n, hn, hv⟩ := Option.bind_eq_some_iff.mp h
    split at hv
    · rename_i hrange
      cases hv
      rw [hn, Int64.toInt_ofInt_of_le (by omega) (by omega)]
    · cases hv
  · intro h
    have hlo := Int64.le_toInt v
    have hhi := Int64.toInt_lt v
    rw [readInt64?, h, Option.bind_some, if_pos ⟨by omega, by omega⟩, Int64.ofInt_toInt]

theorem readInt32?_eq_some_iff {s : String} {v : Int32} :
    readInt32? s = some v ↔ Writes s.toList v.toInt := by
  rw [← readSigned?_eq_some_iff]
  constructor
  · intro h
    rw [readInt32?] at h
    obtain ⟨n, hn, hv⟩ := Option.bind_eq_some_iff.mp h
    split at hv
    · rename_i hrange
      cases hv
      rw [hn, Int32.toInt_ofInt_of_le (by omega) (by omega)]
    · cases hv
  · intro h
    have hlo := Int32.le_toInt v
    have hhi := Int32.toInt_lt v
    rw [readInt32?, h, Option.bind_some, if_pos ⟨by omega, by omega⟩, Int32.ofInt_toInt]

/-- A text fails to read as a 64-bit integer exactly when it writes none. -/
theorem readInt64?_eq_none_iff {s : String} :
    readInt64? s = none ↔ ¬ ∃ v : Int64, Writes s.toList v.toInt := by
  simp only [Option.eq_none_iff_forall_ne_some, ne_eq, readInt64?_eq_some_iff, not_exists]

/-- A text fails to read as a 32-bit integer exactly when it writes none. -/
theorem readInt32?_eq_none_iff {s : String} :
    readInt32? s = none ↔ ¬ ∃ v : Int32, Writes s.toList v.toInt := by
  simp only [Option.eq_none_iff_forall_ne_some, ne_eq, readInt32?_eq_some_iff, not_exists]

end Decimal

end StudyPlanner.Text
