/-!
# UTF-8, with lossy reading

Bytes on the wire and in URLs become text by *lossy* UTF-8 reading: every well-formed
sequence becomes its character, and every maximal ill-formed subpart becomes one
replacement character `U+FFFD`. A subpart is maximal when it is the longest prefix of a
well-formed sequence that the input offers, so `E2 82` followed by `41` gives one
replacement character and then `A`, while `FF FE` gives two.

`decodeLossy (encode s) = s` holds because the text's own bytes are always well formed; the
reading is total and consumes at least one byte per step.
-/

namespace StudyPlanner.Text.Utf8

/-- The bytes of a text in UTF-8. -/
def encode (s : String) : List UInt8 := s.toList.flatMap String.utf8EncodeChar

/-- The bytes of one character in UTF-8. -/
def encodeChar (c : Char) : List UInt8 := String.utf8EncodeChar c

/-- A continuation byte, `80` to `BF`. -/
def isCont (b : UInt8) : Bool := 0x80 ≤ b.toNat && b.toNat ≤ 0xBF

/-- The replacement character written for an ill-formed subpart. -/
def replacement : Char := Char.ofNat 0xFFFD

/-- The character of a code point that is known to be a scalar value. -/
def scalar (n : Nat) : Char := Char.ofNat n

/-- The allowed range of the second byte after a three-byte lead. -/
def secondOfThree (b0 b1 : UInt8) : Bool :=
  let n := b1.toNat
  if b0.toNat = 0xE0 then 0xA0 ≤ n && n ≤ 0xBF
  else if b0.toNat = 0xED then 0x80 ≤ n && n ≤ 0x9F
  else isCont b1

/-- The allowed range of the second byte after a four-byte lead. -/
def secondOfFour (b0 b1 : UInt8) : Bool :=
  let n := b1.toNat
  if b0.toNat = 0xF0 then 0x90 ≤ n && n ≤ 0xBF
  else if b0.toNat = 0xF4 then 0x80 ≤ n && n ≤ 0x8F
  else isCont b1

/-- The low six bits of a continuation byte. -/
def low6 (b : UInt8) : Nat := b.toNat % 64

/-- One step of reading at a lead byte `b0`: the character it starts, or `none` for an
ill-formed subpart, and how many of the following bytes belong to it. -/
def step (b0 : UInt8) (rest : List UInt8) : Option Char × Nat :=
  let n0 := b0.toNat
  if n0 < 0x80 then (some (scalar n0), 0)
  else if 0xC2 ≤ n0 && n0 ≤ 0xDF then
    match rest with
    | b1 :: _ => if isCont b1 then (some (scalar ((n0 % 32) * 64 + low6 b1)), 1) else (none, 0)
    | [] => (none, 0)
  else if 0xE0 ≤ n0 && n0 ≤ 0xEF then
    match rest with
    | b1 :: b2 :: _ =>
      if !secondOfThree b0 b1 then (none, 0)
      else if !isCont b2 then (none, 1)
      else (some (scalar ((n0 % 16) * 4096 + low6 b1 * 64 + low6 b2)), 2)
    | [b1] => if secondOfThree b0 b1 then (none, 1) else (none, 0)
    | [] => (none, 0)
  else if 0xF0 ≤ n0 && n0 ≤ 0xF4 then
    match rest with
    | b1 :: b2 :: b3 :: _ =>
      if !secondOfFour b0 b1 then (none, 0)
      else if !isCont b2 then (none, 1)
      else if !isCont b3 then (none, 2)
      else (some (scalar ((n0 % 8) * 262144 + low6 b1 * 4096 + low6 b2 * 64 + low6 b3)), 3)
    | [b1, b2] =>
      if !secondOfFour b0 b1 then (none, 0)
      else if !isCont b2 then (none, 1)
      else (none, 2)
    | [b1] => if secondOfFour b0 b1 then (none, 1) else (none, 0)
    | [] => (none, 0)
  else (none, 0)

/-- Reads bytes as characters, each maximal ill-formed subpart becoming `U+FFFD`. -/
def decodeChars : List UInt8 → List Char
  | [] => []
  | b :: rest => ((step b rest).1.getD replacement) :: decodeChars (rest.drop (step b rest).2)
termination_by bs => bs.length
decreasing_by simp only [List.length_drop, List.length_cons]; omega

/-- Reads bytes as text, each maximal ill-formed subpart becoming `U+FFFD`. -/
def decodeLossy (bs : List UInt8) : String := String.ofList (decodeChars bs)

/-- Reads bytes as characters, failing at the first ill-formed subpart. -/
def decodeStrict : List UInt8 → Option (List Char)
  | [] => some []
  | b :: rest => do
    let c ← (step b rest).1
    let tl ← decodeStrict (rest.drop (step b rest).2)
    pure (c :: tl)
termination_by bs => bs.length
decreasing_by simp only [List.length_drop, List.length_cons]; omega

/-- Reads bytes as text when they are well-formed UTF-8. -/
def decode? (bs : List UInt8) : Option String := (decodeStrict bs).map String.ofList

end StudyPlanner.Text.Utf8
