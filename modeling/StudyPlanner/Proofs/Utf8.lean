import StudyPlanner.Text.Utf8
/-!
# Reading UTF-8 back

The bytes a text is written as read back as that text, strictly and lossily:
`decode?_encode` and `decodeLossy_encode`. Both rest on one fact about a single character
(`step_encodeChar`): at the first byte of a character's encoding, one step of reading returns
the character and claims exactly the bytes that follow it in the encoding, whatever comes
after them.

That fact is proved once for each length of encoding. The byte values are the arithmetic
ones of `String.utf8EncodeChar`, so every range check of `step` becomes a question about
`c.toNat`, settled by `omega` with the two facts that make the checks pass: a scalar value is
no surrogate and is at most `U+10FFFF` (`toNat_valid`).
-/

namespace StudyPlanner.Text.Utf8

/-! ### Bytes and scalar values -/

/-- A scalar value lies below the surrogates, or between them and `U+10FFFF`. -/
theorem toNat_valid (c : Char) :
    c.toNat < 0xd800 ∨ (0xdfff < c.toNat ∧ c.toNat < 0x110000) := by
  have h := c.valid
  simp only [UInt32.isValidChar, Nat.isValidChar, Char.toNat_val] at h
  exact h

theorem toNat_ofNat_of_lt {n : Nat} (h : n < 256) : (UInt8.ofNat n).toNat = n := by
  simp
  omega

/-- A byte `10xxxxxx` is a continuation byte. -/
theorem isCont_ofNat (n : Nat) : isCont (UInt8.ofNat (n % 64 + 0x80)) = true := by
  simp only [isCont, toNat_ofNat_of_lt (show n % 64 + 0x80 < 256 by omega), Bool.and_eq_true,
    decide_eq_true_eq]
  omega

/-- A continuation byte carries six bits. -/
theorem low6_ofNat (n : Nat) : low6 (UInt8.ofNat (n % 64 + 0x80)) = n % 64 := by
  simp only [low6, toNat_ofNat_of_lt (show n % 64 + 0x80 < 256 by omega)]
  omega

/-! ### One step of reading at each length of encoding -/

theorem step_one {c : Char} (h : c.toNat ≤ 0x7f) (rest : List UInt8) :
    step (UInt8.ofNat c.toNat) rest = (some c, 0) := by
  have hb := toNat_ofNat_of_lt (n := c.toNat) (by omega)
  simp only [step, hb, scalar, Char.ofNat_toNat]
  rw [if_pos (by omega)]

theorem step_two {c : Char} (h1 : 0x7f < c.toNat) (h2 : c.toNat ≤ 0x7ff) (rest : List UInt8) :
    step (UInt8.ofNat (c.toNat / 64 % 32 + 0xc0)) (UInt8.ofNat (c.toNat % 64 + 0x80) :: rest) =
      (some c, 1) := by
  have hb0 := toNat_ofNat_of_lt (n := c.toNat / 64 % 32 + 0xc0) (by omega)
  have hv : (c.toNat / 64 % 32 + 0xc0) % 32 * 64 + c.toNat % 64 = c.toNat := by omega
  simp only [step, hb0, isCont_ofNat, low6_ofNat, scalar, if_true]
  rw [if_neg (by omega), if_pos (by simp only [Bool.and_eq_true, decide_eq_true_eq]; omega), hv,
    Char.ofNat_toNat]

theorem step_three {c : Char} (h1 : 0x7ff < c.toNat) (h2 : c.toNat ≤ 0xffff) (rest : List UInt8) :
    step (UInt8.ofNat (c.toNat / 4096 % 16 + 0xe0))
      (UInt8.ofNat (c.toNat / 64 % 64 + 0x80) :: UInt8.ofNat (c.toNat % 64 + 0x80) :: rest) =
        (some c, 2) := by
  have hvalid := toNat_valid c
  have hb0 := toNat_ofNat_of_lt (n := c.toNat / 4096 % 16 + 0xe0) (by omega)
  have hb1 := toNat_ofNat_of_lt (n := c.toNat / 64 % 64 + 0x80) (by omega)
  have hv : (c.toNat / 4096 % 16 + 0xe0) % 16 * 4096 + c.toNat / 64 % 64 * 64 + c.toNat % 64 =
      c.toNat := by omega
  -- the second byte is in the range its lead byte allows: surrogates are not characters
  have hsecond : secondOfThree (UInt8.ofNat (c.toNat / 4096 % 16 + 0xe0))
      (UInt8.ofNat (c.toNat / 64 % 64 + 0x80)) = true := by
    simp only [secondOfThree, hb0, hb1, isCont]
    split <;> (try split) <;> simp only [Bool.and_eq_true, decide_eq_true_eq] <;> omega
  simp only [step, hb0, isCont_ofNat, low6_ofNat, scalar, hsecond, Bool.not_true,
    Bool.false_eq_true, if_false]
  rw [if_neg (by omega), if_neg (by simp only [Bool.and_eq_true, decide_eq_true_eq]; omega),
    if_pos (by simp only [Bool.and_eq_true, decide_eq_true_eq]; omega), hv, Char.ofNat_toNat]

theorem step_four {c : Char} (h1 : 0xffff < c.toNat) (rest : List UInt8) :
    step (UInt8.ofNat (c.toNat / 262144 % 8 + 0xf0))
      (UInt8.ofNat (c.toNat / 4096 % 64 + 0x80) :: UInt8.ofNat (c.toNat / 64 % 64 + 0x80) ::
        UInt8.ofNat (c.toNat % 64 + 0x80) :: rest) = (some c, 3) := by
  have hvalid := toNat_valid c
  have hb0 := toNat_ofNat_of_lt (n := c.toNat / 262144 % 8 + 0xf0) (by omega)
  have hb1 := toNat_ofNat_of_lt (n := c.toNat / 4096 % 64 + 0x80) (by omega)
  have hv : (c.toNat / 262144 % 8 + 0xf0) % 8 * 262144 + c.toNat / 4096 % 64 * 4096 +
      c.toNat / 64 % 64 * 64 + c.toNat % 64 = c.toNat := by omega
  -- the second byte is in the range its lead byte allows: nothing lies above `U+10FFFF`
  have hsecond : secondOfFour (UInt8.ofNat (c.toNat / 262144 % 8 + 0xf0))
      (UInt8.ofNat (c.toNat / 4096 % 64 + 0x80)) = true := by
    simp only [secondOfFour, hb0, hb1, isCont]
    split <;> (try split) <;> simp only [Bool.and_eq_true, decide_eq_true_eq] <;> omega
  simp only [step, hb0, isCont_ofNat, low6_ofNat, scalar, hsecond, Bool.not_true,
    Bool.false_eq_true, if_false]
  rw [if_neg (by omega), if_neg (by simp only [Bool.and_eq_true, decide_eq_true_eq]; omega),
    if_neg (by simp only [Bool.and_eq_true, decide_eq_true_eq]; omega),
    if_pos (by simp only [Bool.and_eq_true, decide_eq_true_eq]; omega), hv, Char.ofNat_toNat]

/-- An ASCII character is its own byte. -/
theorem encodeChar_of_le {c : Char} (h : c.toNat ≤ 0x7f) : encodeChar c = [UInt8.ofNat c.toNat] := by
  simp only [encodeChar, String.utf8EncodeChar, Char.toNat_val, if_pos h]

/-- At the first byte of a character's encoding, reading returns the character and claims
the rest of its encoding, whatever follows. -/
theorem step_encodeChar (c : Char) (rest : List UInt8) :
    ∃ b bs, encodeChar c = b :: bs ∧ step b (bs ++ rest) = (some c, bs.length) := by
  by_cases h1 : c.toNat ≤ 0x7f
  · exact ⟨_, [], encodeChar_of_le h1, step_one h1 rest⟩
  by_cases h2 : c.toNat ≤ 0x7ff
  · refine ⟨_, [_], ?_, step_two (by omega) h2 rest⟩
    simp only [encodeChar, String.utf8EncodeChar, Char.toNat_val, if_neg h1, if_pos h2]
  by_cases h3 : c.toNat ≤ 0xffff
  · refine ⟨_, [_, _], ?_, step_three (by omega) h3 rest⟩
    simp only [encodeChar, String.utf8EncodeChar, Char.toNat_val, if_neg h1, if_neg h2, if_pos h3]
  · refine ⟨_, [_, _, _], ?_, step_four (by omega) rest⟩
    simp only [encodeChar, String.utf8EncodeChar, Char.toNat_val, if_neg h1, if_neg h2, if_neg h3]

/-! ### Whole texts -/

theorem decodeChars_encodeChar_append (c : Char) (rest : List UInt8) :
    decodeChars (encodeChar c ++ rest) = c :: decodeChars rest := by
  obtain ⟨b, bs, he, hs⟩ := step_encodeChar c rest
  rw [he, List.cons_append, decodeChars.eq_2, hs, List.drop_left]
  rfl

theorem decodeStrict_encodeChar_append (c : Char) (rest : List UInt8) :
    decodeStrict (encodeChar c ++ rest) = (decodeStrict rest).map (c :: ·) := by
  obtain ⟨b, bs, he, hs⟩ := step_encodeChar c rest
  rw [he, List.cons_append, decodeStrict.eq_2, hs, List.drop_left]
  cases decodeStrict rest <;> rfl

theorem encode_eq_flatMap (s : String) : encode s = s.toList.flatMap encodeChar := rfl

/-- A text of ASCII characters is written one byte a character. -/
theorem encode_ofList_of_le {cs : List Char} (h : ∀ c ∈ cs, c.toNat ≤ 0x7f) :
    encode (String.ofList cs) = cs.map fun c => UInt8.ofNat c.toNat := by
  rw [encode_eq_flatMap, String.toList_ofList]
  induction cs with
  | nil => rfl
  | cons c cs ih =>
    rw [List.flatMap_cons, encodeChar_of_le (h c (by simp)), ih (fun d hd => h d (by simp [hd]))]
    rfl

/-- Lossy reading gives back the characters of a text's encoding. -/
theorem decodeChars_encode (s : String) : decodeChars (encode s) = s.toList := by
  rw [encode_eq_flatMap]
  induction s.toList with
  | nil => rw [List.flatMap_nil, decodeChars.eq_1]
  | cons c cs ih => rw [List.flatMap_cons, decodeChars_encodeChar_append, ih]

/-- Strict reading accepts a text's encoding and gives back its characters. -/
theorem decodeStrict_encode (s : String) : decodeStrict (encode s) = some s.toList := by
  rw [encode_eq_flatMap]
  induction s.toList with
  | nil => rw [List.flatMap_nil, decodeStrict.eq_1]
  | cons c cs ih => rw [List.flatMap_cons, decodeStrict_encodeChar_append, ih]; rfl

@[simp] theorem decode?_encode (s : String) : decode? (encode s) = some s := by
  simp [decode?, decodeStrict_encode]

@[simp] theorem decodeLossy_encode (s : String) : decodeLossy (encode s) = s := by
  simp [decodeLossy, decodeChars_encode]

end StudyPlanner.Text.Utf8
