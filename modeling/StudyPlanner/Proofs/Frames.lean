import StudyPlanner.Remote.Frame
/-!
# Reading a body inverts writing its frames

A reply body is the frames a server wrote, one after another, possibly cut short inside one
more frame. The main statement, `decodeBody_frames_append`, says what reading such a body
gives, for every list of frames and every cut:

* the frames are read back exactly as they were written, and folded into the body one at a
  time by `Body.push` (so compressed frames fail, the last trailer frame wins, and a second
  data frame fails), the first failing frame deciding the result;
* when no frame fails and the body stops inside the next frame, the result is a truncation:
  of the header when fewer than five bytes are left, else of the payload, whose announced
  length is that frame's payload length.

The proof reads one frame at a time (`decodeFrames_encode_append`), then a whole list
(`decodeFrames_frames_append`), and handles the cut on its own (`decodeFrames_truncated`).
-/

namespace StudyPlanner.Remote

/-- The bytes of a list of frames, written one after another. -/
def encodeFrames (fs : List Frame) : List UInt8 := fs.flatMap Frame.encode

/-- The failure of a body that stops `t` bytes into a frame whose payload has `len` bytes. -/
def truncation (t : List UInt8) (len : Nat) : CallError :=
  if t.length < 5 then .protocol ("truncated frame header (" ++ toString t.length ++ " bytes)")
  else .protocol ("truncated frame: expected " ++ toString len ++ " bytes, got " ++
    toString (t.length - 5))

@[simp] theorem encodeFrames_nil : encodeFrames [] = [] := rfl

@[simp] theorem encodeFrames_cons (f : Frame) (fs : List Frame) :
    encodeFrames (f :: fs) = f.encode ++ encodeFrames fs := by
  simp [encodeFrames]

/-! ### The header of one frame -/

/-- The four header bytes of a length below `2^32` read back as that length. -/
theorem readBigEndian32_bigEndian32 {n : Nat} (h : n < 4294967296) :
    readBigEndian32 (bigEndian32 n)[0]! (bigEndian32 n)[1]! (bigEndian32 n)[2]!
      (bigEndian32 n)[3]! = n := by
  simp only [bigEndian32, readBigEndian32]
  simp
  omega

theorem Frame.encode_eq (f : Frame) :
    f.encode = f.flag :: (bigEndian32 (f.payload.length % 4294967296))[0]! ::
      (bigEndian32 (f.payload.length % 4294967296))[1]! ::
      (bigEndian32 (f.payload.length % 4294967296))[2]! ::
      (bigEndian32 (f.payload.length % 4294967296))[3]! :: f.payload := by
  simp [Frame.encode, bigEndian32]

@[simp] theorem Frame.length_encode (f : Frame) : f.encode.length = f.payload.length + 5 := by
  rw [Frame.encode_eq]
  simp

/-! ### Reading whole frames -/

/-- A whole frame at the front is read as itself and added to the body with `Body.push`. -/
theorem decodeFrames_encode_append (acc : Body) {f : Frame}
    (hf : f.payload.length < 4294967296) (rest : List UInt8) :
    decodeFrames acc (f.encode ++ rest) = acc.push f >>= fun acc' => decodeFrames acc' rest := by
  have hmod : f.payload.length % 4294967296 = f.payload.length := Nat.mod_eq_of_lt hf
  rw [Frame.encode_eq]
  simp only [List.cons_append]
  rw [decodeFrames.eq_2, hmod, readBigEndian32_bigEndian32 hf]
  have hfits : ¬ (f.payload ++ rest).length < f.payload.length := by simp
  rw [if_neg hfits, List.take_left, List.drop_left]
  -- the match on `push` is the bind of `Except`
  cases acc.push ⟨f.flag, f.payload⟩ <;> rfl

/-- Whole frames at the front are folded into the body one by one, in order. -/
theorem decodeFrames_frames_append (fs : List Frame)
    (hfs : ∀ f ∈ fs, f.payload.length < 4294967296) (acc : Body) (rest : List UInt8) :
    decodeFrames acc (encodeFrames fs ++ rest) =
      fs.foldlM Body.push acc >>= fun body => decodeFrames body rest := by
  induction fs generalizing acc with
  | nil => rfl
  | cons f fs ih =>
    have hf : f.payload.length < 4294967296 := hfs f (List.mem_cons_self ..)
    have hrest : ∀ g ∈ fs, g.payload.length < 4294967296 :=
      fun g hg => hfs g (List.mem_cons_of_mem f hg)
    rw [encodeFrames_cons, List.append_assoc, decodeFrames_encode_append acc hf,
      List.foldlM_cons]
    cases acc.push f with
    | error e => rfl
    | ok acc' => exact ih hrest acc'

/-! ### A body cut inside a frame -/

/-- A body that stops inside a frame, after fewer bytes than the frame has, fails with the
truncation of that frame. -/
theorem decodeFrames_truncated (acc : Body) {g : Frame} (hg : g.payload.length < 4294967296)
    {t : List UInt8} (ht : t <+: g.encode) (hlt : t.length < g.encode.length) (hne : t ≠ []) :
    decodeFrames acc t = .error (truncation t g.payload.length) := by
  obtain ⟨u, hu⟩ := ht
  match t, hne with
  | flag :: a :: b :: c :: d :: rest, _ =>
    -- a whole header: the length it announces is the payload's, and less of it is left
    have hmod : g.payload.length % 4294967296 = g.payload.length := Nat.mod_eq_of_lt hg
    rw [Frame.encode_eq, hmod] at hu
    simp only [List.cons_append, List.cons.injEq] at hu
    obtain ⟨-, rfl, rfl, rfl, rfl, hrest⟩ := hu
    have hshort : rest.length < g.payload.length := by
      simp only [Frame.length_encode, List.length_cons] at hlt
      omega
    rw [decodeFrames.eq_2, readBigEndian32_bigEndian32 hg, if_pos hshort, truncation,
      if_neg (by simp)]
    simp
  | [x], _ => rw [decodeFrames.eq_3] <;> simp [truncation]
  | [x, y], _ => rw [decodeFrames.eq_3] <;> simp [truncation]
  | [x, y, z], _ => rw [decodeFrames.eq_3] <;> simp [truncation]
  | [x, y, z, w], _ => rw [decodeFrames.eq_3] <;> simp [truncation]

/-! ### The whole body -/

/-- Reading a body of whole frames followed by a proper prefix `t` of one more frame `g`: the
frames are folded into the body from the left with `Body.push`; if none fails, an empty `t`
gives the body and any other `t` the truncation of `g`, whose header announces
`g.payload.length` bytes. -/
theorem decodeBody_frames_append (fs : List Frame)
    (hfs : ∀ f ∈ fs, f.payload.length < 4294967296) (g : Frame)
    (hg : g.payload.length < 4294967296) (t : List UInt8) (ht : t <+: g.encode)
    (hlt : t.length < g.encode.length) :
    decodeBody (encodeFrames fs ++ t) =
      fs.foldlM Body.push {} >>= fun body =>
        if t = [] then .ok body else .error (truncation t g.payload.length) := by
  rw [decodeBody, decodeFrames_frames_append fs hfs]
  congr 1
  funext body
  by_cases hnil : t = []
  · subst hnil
    rw [if_pos rfl, decodeFrames.eq_1]
  · rw [if_neg hnil, decodeFrames_truncated body hg ht hlt hnil]

/-- A frame with flag `0x40` is a data frame, so a second one fails, and that failure comes
before the cut at the end. -/
theorem decodeBody_second_message_before_cut :
    decodeBody (encodeFrames [⟨0x00, [7]⟩, ⟨0x40, [8]⟩] ++ [0x80, 0, 0]) =
      .error (.protocol "more than one message in a unary response") := by
  rw [decodeBody_frames_append _ (by decide) ⟨0x80, [1, 2]⟩ (by decide) _ (by decide) (by decide)]
  rfl

end StudyPlanner.Remote
