import StudyPlanner.Proto.Message
import StudyPlanner.Proofs.Utf8
import Mathlib.Tactic.Ring
/-!
# Reading back what the writer wrote

Every message's writer emits its fields one after another, each a key and a value, leaving
out the fields that hold their default. This module proves that the reader takes each of
those fields back, so that a message reads back as itself; the request messages themselves
are done in `Proofs.Requests`.

* `readVarint_encodeVarint` and `readKey_encodeKey`: numbers below `2^64` and keys of small
  tags read back exactly, whatever follows them.
* `ReadsAs step depth bs acc acc'`: the field written as `bs` turns the message read so far,
  `acc`, into `acc'`. An empty `bs` (a field left out) must leave `acc` as it is; this is why
  a left-out field reads back right only while the message still holds its default there.
  One lemma per kind of field: `reads_int64Field`, `reads_int32Field`, `reads_boolField`,
  `reads_stringField`, `reads_messageField`, `reads_optionalField`.
* `Decodes step depth acc bs fin rest`: reading the fields written as `bs` from `acc`, with
  `rest` after them, ends at `fin` exactly where `rest` starts. `Decodes.field` and
  `Decodes.last` chain it field by field; `decodes_repeatedField` reads a repeated field.

A text or nested message must be shorter than `2^64` bytes for its length to be a varint;
each lemma asks this of the bytes of its own field.
-/

namespace StudyPlanner.Proto

/-! ### Varints and keys -/

/-- One byte of a varint. Stated here rather than taken from the definition's own equation, so
that its powers of 128 are those of the statements below. -/
theorem readVarintFrom_cons (i acc : Nat) (b : UInt8) (rest : List UInt8) :
    readVarintFrom i acc (b :: rest) =
      if b.toNat < 128 then
        if i = 9 ∧ 2 ≤ b.toNat then fault .invalidVarint else .ok (acc + b.toNat * 128 ^ i, rest)
      else if i = 9 then fault .invalidVarint
      else readVarintFrom (i + 1) (acc + (b.toNat - 128) * 128 ^ i) rest := rfl

/-- The varint of `n`, read from the `i`-th byte on, adds `n * 128^i` to what was read. -/
theorem readVarintFrom_encodeVarint (n : Nat) (i acc : Nat) (rest : List UInt8)
    (h : n * 128 ^ i < 2 ^ 64) :
    readVarintFrom i acc (encodeVarint n ++ rest) = .ok (acc + n * 128 ^ i, rest) := by
  induction n using Nat.strongRecOn generalizing i acc with
  | ind n ih =>
    have h9 : (128 : Nat) ^ 9 = 2 ^ 63 := by decide
    by_cases hn : n < 128
    · -- the last byte: below 128, and at most 1 when it is the tenth
      rw [encodeVarint_small hn, List.singleton_append, readVarintFrom_cons]
      have hb : (UInt8.ofNat n).toNat = n := by simp; omega
      rw [hb, if_pos hn, if_neg]
      rintro ⟨rfl, h2⟩
      rw [h9] at h
      have : 2 * 2 ^ 63 ≤ n * 2 ^ 63 := Nat.mul_le_mul_right _ h2
      omega
    · -- a byte with the high bit set, then the rest of the number from the next place
      have hi : i ≠ 9 := by
        rintro rfl
        rw [h9] at h
        have : 128 * 2 ^ 63 ≤ n * 2 ^ 63 := Nat.mul_le_mul_right _ (by omega)
        omega
      have hsplit : n = n % 128 + 128 * (n / 128) := (Nat.mod_add_div n 128).symm
      have hnext : n / 128 * 128 ^ (i + 1) ≤ n * 128 ^ i := by
        rw [Nat.pow_succ, Nat.mul_comm (128 ^ i) 128, ← Nat.mul_assoc]
        exact Nat.mul_le_mul_right _ (Nat.div_mul_le_self n 128)
      have hsum : n % 128 * 128 ^ i + n / 128 * 128 ^ (i + 1) = n * 128 ^ i := by
        conv_rhs => rw [hsplit]
        ring
      rw [encodeVarint_large hn, List.cons_append, readVarintFrom_cons]
      have hb : (UInt8.ofNat (n % 128 + 128)).toNat = n % 128 + 128 := by simp; omega
      rw [hb, if_neg (by omega), if_neg hi, ih (n / 128) (by omega) (i + 1) _ (by omega),
        Nat.add_sub_cancel, Nat.add_assoc, hsum]

theorem readVarint_encodeVarint {n : Nat} (h : n < 2 ^ 64) (rest : List UInt8) :
    readVarint (encodeVarint n ++ rest) = .ok (n, rest) := by
  rw [readVarint, readVarintFrom_encodeVarint n 0 0 rest (by simpa using h)]
  simp

/-- A key with a tag from 1 to `2^29 - 1` reads back as its tag and wire type. -/
theorem readKey_encodeKey {tag : Nat} (w : WireType) (h0 : 0 < tag) (h : tag < 2 ^ 29)
    (rest : List UInt8) : readKey (encodeKey tag w ++ rest) = .ok ((tag, w), rest) := by
  have hcode : w.code < 8 := by cases w <;> decide
  have hmod : (tag * 8 + w.code) % 8 = w.code := by omega
  have hdiv : (tag * 8 + w.code) / 8 = tag := by omega
  rw [encodeKey, readKey, readVarint_encodeVarint (by omega)]
  simp only
  rw [if_neg (by omega), hmod, WireType.ofCode?_code, hdiv]
  simp only
  rw [if_neg (by omega)]

theorem encodeKey_ne_nil (tag : Nat) (w : WireType) : encodeKey tag w ≠ [] :=
  encodeVarint_ne_nil _

/-! ### Integers on the wire -/

@[simp] theorem int64OfWire_wireOfInt64 (v : Int64) : int64OfWire (wireOfInt64 v) = v := by
  simp [int64OfWire, wireOfInt64]

theorem wireOfInt64_lt (v : Int64) : wireOfInt64 v < 2 ^ 64 := v.toUInt64.toNat_lt

theorem wireOfInt64_eq_zero {v : Int64} : wireOfInt64 v = 0 ↔ v = 0 := by
  constructor
  · intro h
    apply Int64.toBitVec_inj.mp
    exact BitVec.eq_of_toNat_eq h
  · rintro rfl
    rfl

/-- The low 32 bits of a 32-bit value's sign extension are the value. -/
@[simp] theorem int32OfWire_wireOfInt32 (v : Int32) : int32OfWire (wireOfInt32 v) = v := by
  simp only [int32OfWire, wireOfInt32]
  apply Int32.toBitVec_inj.mp
  simp only [UInt32.toBitVec_toInt32]
  ext i hi
  simp [BitVec.getLsbD_signExtend, hi, BitVec.getLsbD_eq_getElem]
  intro
  omega

theorem wireOfInt32_lt (v : Int32) : wireOfInt32 v < 2 ^ 64 := v.toInt64.toUInt64.toNat_lt

theorem wireOfInt32_eq_zero {v : Int32} : wireOfInt32 v = 0 ↔ v = 0 := by
  constructor
  · intro h
    rw [← int32OfWire_wireOfInt32 v, h]
    rfl
  · rintro rfl
    rfl

/-! ### Values after their key -/

variable {α : Type}

theorem readVarintField_encodeVarint {n : Nat} (h : n < 2 ^ 64) (rest : List UInt8) :
    readVarintField .varint (encodeVarint n ++ rest) = .ok (n, rest) := by
  simp [readVarintField, expectWire, readVarint_encodeVarint h, bind, Except.bind]

theorem readInt64_encodeVarint (v : Int64) (rest : List UInt8) :
    readInt64 .varint (encodeVarint (wireOfInt64 v) ++ rest) = .ok (v, rest) := by
  simp [readInt64, readVarintField_encodeVarint (wireOfInt64_lt v), bind, Except.bind, pure,
    Except.pure]

theorem readInt32_encodeVarint (v : Int32) (rest : List UInt8) :
    readInt32 .varint (encodeVarint (wireOfInt32 v) ++ rest) = .ok (v, rest) := by
  simp [readInt32, readVarintField_encodeVarint (wireOfInt32_lt v), bind, Except.bind, pure,
    Except.pure]

theorem readBool_encodeVarint_one (rest : List UInt8) :
    readBool .varint (encodeVarint 1 ++ rest) = .ok (true, rest) := by
  simp [readBool, readVarintField_encodeVarint (show 1 < 2 ^ 64 by decide), bind, Except.bind,
    pure, Except.pure]

/-- A length and that many bytes read back as the bytes. -/
theorem readBytes_encode {bs : List UInt8} (h : bs.length < 2 ^ 64) (rest : List UInt8) :
    readBytes .lengthDelimited (encodeVarint bs.length ++ (bs ++ rest)) = .ok (bs, rest) := by
  simp [readBytes, expectWire, readVarint_encodeVarint h, readFixed, bind, Except.bind]

theorem readString_encode {s : String} (h : (Text.Utf8.encode s).length < 2 ^ 64)
    (rest : List UInt8) :
    readString .lengthDelimited
      (encodeVarint (Text.Utf8.encode s).length ++ (Text.Utf8.encode s ++ rest)) =
        .ok (s, rest) := by
  rw [readString]
  simp [readBytes_encode h, bind, Except.bind, pure, Except.pure]

/-! ### One field -/

/-- Reads one field at the front: its key, then its value into `acc`. -/
def readOneField (step : FieldStep α) (depth : Nat) (acc : α) (bs : List UInt8) : Readout α :=
  match readKey bs with
  | .error e => .error e
  | .ok ((tag, w), rest) => step acc tag w depth rest

/-- The field written as `bs` turns `acc` into `acc'`: a left-out field changes nothing, and
a written one is read whole, whatever follows it. -/
def ReadsAs (step : FieldStep α) (depth : Nat) (bs : List UInt8) (acc acc' : α) : Prop :=
  (bs = [] ∧ acc' = acc) ∨
    (bs ≠ [] ∧ ∀ rest, readOneField step depth acc (bs ++ rest) = .ok (acc', rest))

section Fields

variable {step : FieldStep α} {depth tag : Nat} {acc : α} {msg name : String}

theorem readOneField_encodeKey (w : WireType) (h0 : 0 < tag) (h : tag < 2 ^ 29)
    (rest : List UInt8) :
    readOneField step depth acc (encodeKey tag w ++ rest) = step acc tag w depth rest := by
  rw [readOneField, readKey_encodeKey w h0 h]

/-- A varint field reads back through its reader, and is left out at zero. -/
theorem reads_varintField {β : Type} {read : WireType → List UInt8 → Except DecodeError (β × List UInt8)}
    {set : β → α} {v : β} {n : Nat}
    (hstep : ∀ w bs, step acc tag w depth bs = field msg name (read w bs) set)
    (h0 : 0 < tag) (htag : tag < 2 ^ 29) (hread : ∀ rest, read .varint (encodeVarint n ++ rest) = .ok (v, rest))
    (hzero : n = 0 → set v = acc) :
    ReadsAs step depth (varintField tag n) acc (set v) := by
  by_cases hn : n = 0
  · exact .inl ⟨by simp [varintField, hn], hzero hn⟩
  · refine .inr ⟨by simp [varintField, hn, encodeKey_ne_nil], fun rest => ?_⟩
    rw [varintField, if_neg hn, List.append_assoc, readOneField_encodeKey _ h0 htag, hstep,
      hread, field]

theorem reads_int64Field {set : Int64 → α} {v : Int64}
    (hstep : ∀ w bs, step acc tag w depth bs = field msg name (readInt64 w bs) set)
    (h0 : 0 < tag) (htag : tag < 2 ^ 29) (hzero : set 0 = acc) :
    ReadsAs step depth (int64Field tag v) acc (set v) :=
  reads_varintField hstep h0 htag (readInt64_encodeVarint v)
    (fun h => (wireOfInt64_eq_zero.mp h) ▸ hzero)

theorem reads_int32Field {set : Int32 → α} {v : Int32}
    (hstep : ∀ w bs, step acc tag w depth bs = field msg name (readInt32 w bs) set)
    (h0 : 0 < tag) (htag : tag < 2 ^ 29) (hzero : set 0 = acc) :
    ReadsAs step depth (int32Field tag v) acc (set v) :=
  reads_varintField hstep h0 htag (readInt32_encodeVarint v)
    (fun h => (wireOfInt32_eq_zero.mp h) ▸ hzero)

theorem reads_boolField {set : Bool → α} {b : Bool}
    (hstep : ∀ w bs, step acc tag w depth bs = field msg name (readBool w bs) set)
    (h0 : 0 < tag) (htag : tag < 2 ^ 29) (hzero : set false = acc) :
    ReadsAs step depth (boolField tag b) acc (set b) := by
  cases b with
  | false => exact .inl ⟨rfl, hzero⟩
  | true => exact reads_varintField hstep h0 htag readBool_encodeVarint_one (by simp)

theorem reads_stringField {set : String → α} {s : String}
    (hstep : ∀ w bs, step acc tag w depth bs = field msg name (readString w bs) set)
    (h0 : 0 < tag) (htag : tag < 2 ^ 29) (hzero : set "" = acc)
    (hlen : (stringField tag s).length < 2 ^ 64) :
    ReadsAs step depth (stringField tag s) acc (set s) := by
  by_cases hs : s.isEmpty
  · have he : s = "" := String.isEmpty_iff.mp hs
    subst he
    exact .inl ⟨rfl, hzero⟩
  · have hbytes : (Text.Utf8.encode s).length < 2 ^ 64 := by
      simp only [stringField, hs, bytesField, Bool.false_eq_true, if_false,
        List.length_append] at hlen
      omega
    refine .inr ⟨by simp [stringField, hs, bytesField, encodeKey_ne_nil], fun rest => ?_⟩
    rw [stringField, if_neg hs, bytesField, List.append_assoc, List.append_assoc,
      readOneField_encodeKey _ h0 htag, hstep, readString_encode hbytes, field]

end Fields

/-! ### Reading fields one after another -/

/-- Reading the fields written as `bs` from `acc`, with `rest` after them, ends at `fin` just
where `rest` starts, given fuel for every byte. -/
def Decodes (step : FieldStep α) (depth : Nat) (acc : α) (bs : List UInt8) (fin : α)
    (rest : List UInt8) : Prop :=
  ∀ fuel, bs.length < fuel →
    readFieldsAbove step depth rest.length fuel acc (bs ++ rest) = .ok (fin, rest)

section Decoding

variable {step : FieldStep α} {depth : Nat}

theorem Decodes.nil (acc : α) (rest : List UInt8) : Decodes step depth acc [] acc rest := by
  intro fuel hfuel
  obtain ⟨f, rfl⟩ : ∃ f, fuel = f + 1 := ⟨fuel - 1, by simp at hfuel; omega⟩
  rw [readFieldsAbove, List.nil_append, if_neg (Nat.lt_irrefl _)]

/-- One more field in front: read it, then the rest. -/
theorem Decodes.field {acc acc' fin : α} {bs more rest : List UInt8}
    (hf : ReadsAs step depth bs acc acc') (hd : Decodes step depth acc' more fin rest) :
    Decodes step depth acc (bs ++ more) fin rest := by
  rcases hf with ⟨rfl, rfl⟩ | ⟨hne, hread⟩
  · simpa using hd
  · intro fuel hfuel
    have hpos := List.length_pos_iff.mpr hne
    obtain ⟨f, rfl⟩ : ∃ f, fuel = f + 1 := ⟨fuel - 1, by simp at hfuel; omega⟩
    have hlong : (bs ++ more ++ rest).length > rest.length := by
      simp only [List.length_append]
      omega
    have hfield := hread (more ++ rest)
    rw [readFieldsAbove, if_pos hlong, List.append_assoc]
    unfold readOneField at hfield
    -- the loop reads the key just as `readOneField` does
    cases hkey : readKey (bs ++ (more ++ rest)) with
    | error e => rw [hkey] at hfield; cases hfield
    | ok key =>
      obtain ⟨⟨tag, w⟩, r⟩ := key
      rw [hkey] at hfield
      simp only [hfield]
      exact hd f (by simp only [List.length_append] at hfuel; omega)

/-- The last field: read it, and the fields end there. -/
theorem Decodes.last {acc fin : α} {bs rest : List UInt8} (hf : ReadsAs step depth bs acc fin) :
    Decodes step depth acc bs fin rest := by
  simpa using Decodes.field hf (Decodes.nil fin rest)

/-- A message whose fields decode from the default reads back as itself. -/
theorem readMessage_of_decodes {init m : α} {bs : List UInt8}
    (h : Decodes step recursionLimit init bs m []) : readMessage step init bs = .ok m := by
  have hrun := h (bs.length + 1) (Nat.lt_succ_self _)
  rw [List.append_nil, List.length_nil] at hrun
  simp [readMessage, hrun, Except.map]

end Decoding

/-! ### Nested and repeated messages -/

section Nested

variable {β : Type} {step : FieldStep α} {inner : FieldStep β} {depth tag : Nat} {acc : α}
  {msg name : String}

/-- A nested message whose fields decode one level down reads back as what they decode to. -/
theorem readNested_encode {init fin : β} {body : List UInt8} (hdepth : depth ≠ 0)
    (hlen : body.length < 2 ^ 64) (hbody : ∀ rest, Decodes inner (depth - 1) init body fin rest)
    (rest : List UInt8) :
    readNested inner init .lengthDelimited depth (encodeVarint body.length ++ body ++ rest) =
      .ok (fin, rest) := by
  have hrun := hbody rest ((body ++ rest).length + 1) (by simp only [List.length_append]; omega)
  simp [readNested, expectWire, hdepth, List.append_assoc, readVarint_encodeVarint hlen, bind,
    Except.bind, pure, Except.pure]
  rw [← List.length_append, hrun]
  simp

theorem reads_messageField {init fin : β} {body : List UInt8} {set : β → α}
    (hstep : ∀ w bs, step acc tag w depth bs = field msg name (readNested inner init w depth bs) set)
    (h0 : 0 < tag) (htag : tag < 2 ^ 29) (hdepth : depth ≠ 0)
    (hlen : (messageField tag body).length < 2 ^ 64)
    (hbody : ∀ rest, Decodes inner (depth - 1) init body fin rest) :
    ReadsAs step depth (messageField tag body) acc (set fin) := by
  have hbytes : body.length < 2 ^ 64 := by
    simp only [messageField, bytesField, List.length_append] at hlen
    omega
  refine .inr ⟨by simp [messageField, bytesField, encodeKey_ne_nil], fun rest => ?_⟩
  rw [messageField, bytesField, List.append_assoc, List.append_assoc,
    readOneField_encodeKey _ h0 htag, hstep, ← List.append_assoc,
    readNested_encode hdepth hbytes hbody, field]

/-- An optional nested message: left out when absent, read as a nested message when present.
`set` stores the field's value in the message read so far. -/
theorem reads_optionalField {encode : β → List UInt8} {init : β} {x : Option β}
    (set : Option β → α)
    (hstep : ∀ w bs, step acc tag w depth bs =
      field msg name (readNested inner init w depth bs) (fun v => set (some v)))
    (h0 : 0 < tag) (htag : tag < 2 ^ 29) (hdepth : depth ≠ 0) (hzero : set none = acc)
    (hlen : (optionalField tag encode x).length < 2 ^ 64)
    (henc : ∀ y, (encode y).length < 2 ^ 64 → ∀ rest, Decodes inner (depth - 1) init (encode y) y rest) :
    ReadsAs step depth (optionalField tag encode x) acc (set x) := by
  cases x with
  | none => exact .inl ⟨rfl, hzero⟩
  | some y =>
    have hbody : (encode y).length < 2 ^ 64 := by
      simp only [optionalField, messageField, bytesField, List.length_append] at hlen
      omega
    -- elaborated on its own: the setter comes from `hstep`, not from the goal
    exact (reads_messageField hstep h0 htag hdepth hlen (henc y hbody) :)

/-- A repeated nested message: each element is read in turn and appended. The messages read
so far are `put pre`; after the field they are `put (pre ++ xs)`. -/
theorem decodes_repeatedField [Inhabited β] {encode : β → List UInt8} {xs pre : List β} {fin : α}
    {more rest : List UInt8} (put : List β → α)
    (hstep : ∀ pre w bs, step (put pre) tag w depth bs =
      field msg name (readNested inner default w depth bs) (fun v => put (pre ++ [v])))
    (h0 : 0 < tag) (htag : tag < 2 ^ 29) (hdepth : depth ≠ 0)
    (henc : ∀ y, (encode y).length < 2 ^ 64 → ∀ rest, Decodes inner (depth - 1) default (encode y) y rest)
    (hlen : (repeatedField tag encode xs).length < 2 ^ 64)
    (hmore : Decodes step depth (put (pre ++ xs)) more fin rest) :
    Decodes step depth (put pre) (repeatedField tag encode xs ++ more) fin rest := by
  induction xs generalizing pre with
  | nil => simpa [repeatedField] using hmore
  | cons x xs ih =>
    have hsplit : repeatedField tag encode (x :: xs) =
        messageField tag (encode x) ++ repeatedField tag encode xs := by
      simp [repeatedField]
    rw [hsplit, List.length_append] at hlen
    have hbody : (encode x).length < 2 ^ 64 := by
      simp only [messageField, bytesField, List.length_append] at hlen
      omega
    rw [hsplit, List.append_assoc]
    refine Decodes.field (reads_messageField (hstep pre) h0 htag hdepth (by omega) (henc x hbody)) ?_
    exact ih (by omega) (by simpa using hmore)

end Nested

end StudyPlanner.Proto
