import StudyPlanner.Web.Route
import StudyPlanner.Proofs.Navigation
/-!
# Links survive their URL

A link to a destination is written as the URL of the destination's route, and a reload or a
followed link reads that URL back as a route. `link_survives_url` says that this gives the
destination's route again, for every destination, and that the page shown there reads the
destination back from the route's query.

The URL of a study page puts its query, already form-encoded, through one more round of
percent-encoding; reading the URL percent-decodes the query once. Three facts carry the proof.

* Percent-encoding a text writes each byte as ASCII characters that percent-decode to the byte
  (`decodeBytes_byteChars`), so decoding once gives the query back
  (`decodeOnce_encodeComponent`).
* The encoded query holds none of `#`, `?` and `/` (`encodeComponent_facts`), so the URL is cut
  after its page name and nowhere in the query (`parse_withQuery`).
* The page names are plain words that decoding leaves as they are.
-/

namespace StudyPlanner.Web

open StudyPlanner.Text

/-! ### One byte -/

/-- The characters percent-encoding writes for one byte, keeping those `keep` admits. -/
def byteChars (keep : UInt8 → Bool) (b : UInt8) : List Char :=
  if keep b then [Char.ofNat b.toNat] else Percent.escapeByte b

/-- The characters that end a URL's path (`?`, `#`) or cut it into segments (`/`). -/
def urlMarks : List Char := ['#', '?', '/']

theorem not_mem_urlMarks {c : Char} : c ∉ urlMarks ↔ c ≠ '#' ∧ c ≠ '?' ∧ c ≠ '/' := by
  simp only [urlMarks, List.mem_cons, List.mem_nil_iff, or_false, not_or]

theorem encodeWith_toList (keep : UInt8 → Bool) (s : String) :
    (Percent.encodeWith keep s).toList = (Utf8.encode s).flatMap (byteChars keep) := by
  rw [Percent.encodeWith, String.toList_ofList]
  rfl

/-- An unreserved byte is ASCII, and neither `%` nor a mark of a URL. -/
theorem isUnreserved_facts {b : UInt8} (h : Percent.isUnreserved b = true) :
    b.toNat ≤ 0x7f ∧ b.toNat ≠ 0x25 ∧ b.toNat ≠ 0x23 ∧ b.toNat ≠ 0x3F ∧ b.toNat ≠ 0x2F := by
  simp only [Percent.isUnreserved, Percent.isAlphanumeric, Bool.or_eq_true, Bool.and_eq_true,
    decide_eq_true_eq] at h
  omega

/-- The digits of an escape are ASCII, read back as their value, and no mark of a URL. -/
theorem digitUpper_url_facts : ∀ n, n < 16 →
    (Hex.digitUpper n).toNat ≤ 0x7f ∧
      Percent.hexValue? (asciiByte (Hex.digitUpper n)) = some n ∧ Hex.digitUpper n ∉ urlMarks := by
  decide

/-- The characters written for a byte are ASCII and no mark of a URL. -/
theorem byteChars_facts (b : UInt8) :
    ∀ c ∈ byteChars Percent.isUnreserved b, c.toNat ≤ 0x7f ∧ c ∉ urlMarks := by
  intro c hc
  unfold byteChars at hc
  split at hc
  · -- an unreserved byte, written as itself
    rename_i hkeep
    have hb := isUnreserved_facts hkeep
    rw [List.mem_singleton] at hc
    subst hc
    have hchar : (Char.ofNat b.toNat).toNat = b.toNat := toNat_charOfNat (by omega)
    refine ⟨by rw [hchar]; exact hb.1, ?_⟩
    simp only [urlMarks, List.mem_cons, List.mem_nil_iff, or_false, ← Char.toNat_inj, hchar,
      Char.reduceToNat]
    omega
  · -- an escape: `%` and two digits
    have hb : b.toNat < 256 := b.toNat_lt
    have hhi := digitUpper_url_facts (b.toNat / 16) (by omega)
    have hlo := digitUpper_url_facts (b.toNat % 16) (by omega)
    simp only [Percent.escapeByte, List.mem_cons, List.mem_nil_iff, or_false] at hc
    rcases hc with rfl | rfl | rfl
    · decide
    · exact ⟨hhi.1, hhi.2.2⟩
    · exact ⟨hlo.1, hlo.2.2⟩

/-- The characters written for a byte percent-decode to the byte, whatever follows, when the
bytes kept as they are hold no `%`. -/
theorem decodeBytes_byteChars {keep : UInt8 → Bool}
    (hkeep : ∀ b, keep b = true → b.toNat ≤ 0x7f ∧ b.toNat ≠ 0x25) (b : UInt8)
    (rest : List UInt8) :
    Percent.decodeBytes ((byteChars keep b).map asciiByte ++ rest) =
      b :: Percent.decodeBytes rest := by
  have hb256 : b.toNat < 256 := b.toNat_lt
  unfold byteChars
  split
  · -- a kept byte: written as itself
    rename_i hk
    have hb := hkeep b hk
    rw [List.map_singleton, asciiByte_charOfNat hb.1, List.singleton_append]
    exact decodeBytes_cons_of_ne hb.2 rest
  · -- an escape: `%` and the two digits of the byte
    obtain ⟨-, hhi, -⟩ := digitUpper_url_facts (b.toNat / 16) (by omega)
    obtain ⟨-, hlo, -⟩ := digitUpper_url_facts (b.toNat % 16) (by omega)
    simp only [Percent.escapeByte, List.map_cons, List.map_nil, List.cons_append, List.nil_append]
    rw [Percent.decodeBytes.eq_2, if_pos (by decide), hhi, hlo]
    show UInt8.ofNat (b.toNat / 16 * 16 + b.toNat % 16) :: _ = _
    rw [show b.toNat / 16 * 16 + b.toNat % 16 = b.toNat by omega, UInt8.ofNat_toNat]

theorem decodeBytes_flatMap_byteChars {keep : UInt8 → Bool}
    (hkeep : ∀ b, keep b = true → b.toNat ≤ 0x7f ∧ b.toNat ≠ 0x25) (bs : List UInt8) :
    Percent.decodeBytes ((bs.flatMap (byteChars keep)).map asciiByte) = bs := by
  induction bs with
  | nil => rw [List.flatMap_nil, List.map_nil, Percent.decodeBytes.eq_1]
  | cons b bs ih => rw [List.flatMap_cons, List.map_append, decodeBytes_byteChars hkeep, ih]

/-- Bytes without `%` percent-decode to themselves. -/
theorem decodeBytes_of_forall_ne {bs : List UInt8} (h : ∀ b ∈ bs, b.toNat ≠ 0x25) :
    Percent.decodeBytes bs = bs := by
  induction bs with
  | nil => exact Percent.decodeBytes.eq_1
  | cons b bs ih =>
    rw [decodeBytes_cons_of_ne (h b List.mem_cons_self),
      ih fun x hx => h x (List.mem_cons_of_mem b hx)]

/-! ### One text -/

/-- The percent-encoding of a text is ASCII and holds no mark of a URL. -/
theorem encodeComponent_facts (s : String) :
    ∀ c ∈ (Percent.encodeComponent s).toList, c.toNat ≤ 0x7f ∧ c ∉ urlMarks := by
  intro c hc
  rw [Percent.encodeComponent, encodeWith_toList, List.mem_flatMap] at hc
  obtain ⟨b, -, hb⟩ := hc
  exact byteChars_facts b c hb

/-- Decoding a percent-encoded text once gives the text. -/
theorem decodeOnce_encodeComponent (s : String) :
    Route.decodeOnce (Percent.encodeComponent s) = some s := by
  have hascii : ∀ c ∈ (Percent.encodeComponent s).toList, c.toNat ≤ 0x7f :=
    fun c hc => (encodeComponent_facts s c hc).1
  have hstr : Percent.encodeComponent s = String.ofList (Percent.encodeComponent s).toList :=
    String.ofList_toList.symm
  rw [Route.decodeOnce, hstr, Utf8.encode_ofList_of_le hascii]
  show Utf8.decode? (Percent.decodeBytes ((Percent.encodeComponent s).toList.map asciiByte)) = _
  rw [Percent.encodeComponent, encodeWith_toList,
    decodeBytes_flatMap_byteChars fun b hb => ⟨(isUnreserved_facts hb).1, (isUnreserved_facts hb).2.1⟩,
    Utf8.decode?_encode]

/-- A text whose bytes hold no `%` decodes once to itself. -/
theorem decodeOnce_of_forall_ne {s : String} (h : ∀ b ∈ Utf8.encode s, b.toNat ≠ 0x25) :
    Route.decodeOnce s = some s := by
  rw [Route.decodeOnce, decodeBytes_of_forall_ne h, Utf8.decode?_encode]

/-! ### Reading a URL -/

/-- A page name: a non-empty word without marks of a URL, which decoding leaves as it is. -/
structure PageName (seg : String) : Prop where
  ne_nil : seg.toList ≠ []
  no_marks : ∀ c ∈ seg.toList, c ∉ urlMarks
  decodes : Route.decodeOnce seg = some seg

/-- Only the leading `/` cuts the path of a page name: its segments are the name alone. -/
theorem splitAt_slash_pageName {seg : String} (h : PageName seg) :
    splitAt '/' ('/' :: seg.toList) = [[], seg.toList] := by
  have hslash : '/' ∉ seg.toList := fun hm => h.no_marks '/' hm (by decide)
  rw [← List.nil_append ('/' :: seg.toList), splitAt_append_cons (List.not_mem_nil),
    splitAt_of_not_mem hslash]

/-- The segments of a page name's path, as the reader decodes them. -/
theorem segments_pageName {seg : String} (h : PageName seg) :
    ((splitAt '/' ('/' :: seg.toList)).drop 1).map
        (fun p => (Route.decodeOnce (String.ofList p)).getD (String.ofList p)) = [seg] := by
  rw [splitAt_slash_pageName h]
  simp [h.decodes]

/-- A page's path, `/` and its name, holds neither `#` nor `?`. -/
theorem PageName.path_facts {seg : String} (h : PageName seg) :
    ∀ c ∈ '/' :: seg.toList, (c != '#') = true ∧ (c != '?') = true := by
  intro c hc
  rw [List.mem_cons] at hc
  rcases hc with rfl | hc
  · decide
  · obtain ⟨hhash, hquery, -⟩ := not_mem_urlMarks.mp (h.no_marks c hc)
    exact ⟨bne_iff_ne.mpr hhash, bne_iff_ne.mpr hquery⟩

/-- The last character of a page name is no `/`, so the path keeps it. -/
theorem getLast?_pageName {seg : String} (h : PageName seg) :
    ('/' :: seg.toList).getLast? ≠ some '/' := by
  rcases List.eq_nil_or_concat seg.toList with hnil | ⟨init, x, hx⟩
  · exact absurd hnil h.ne_nil
  · have hlast : x ≠ '/' := (not_mem_urlMarks.mp (h.no_marks x (by simp [hx]))).2.2
    rw [hx, List.concat_eq_append, ← List.cons_append, List.getLast?_concat]
    exact fun hsome => hlast (Option.some.inj hsome)

/-- A page name with a percent-encoded query reads back as the page's route with the query. -/
theorem parse_withQuery {path seg : String} (hpath : path.toList = '/' :: seg.toList)
    (h : PageName seg) (q : String) :
    Route.parse (Route.withQuery path q) = some (Route.ofSegments [seg] q) := by
  have henc := encodeComponent_facts q
  have hurl : (Route.withQuery path q).toList =
      '/' :: (seg.toList ++ '?' :: (Percent.encodeComponent q).toList) := by
    simp [Route.withQuery, hpath]
  -- no `#` anywhere, and the first `?` is the one after the name
  have hhash : ∀ c ∈ (Route.withQuery path q).toList, (c != '#') = true := by
    intro c hc
    rw [hurl, List.mem_cons, List.mem_append, List.mem_cons] at hc
    rcases hc with rfl | hc | rfl | hc
    · decide
    · exact (h.path_facts c (List.mem_cons_of_mem _ hc)).1
    · decide
    · exact bne_iff_ne.mpr (not_mem_urlMarks.mp (henc c hc).2).1
  have hname : ∀ c ∈ '/' :: seg.toList, (c != '?') = true := fun c hc => (h.path_facts c hc).2
  have hspan : ((Route.withQuery path q).toList.takeWhile (· != '#')).span (· != '?') =
      ('/' :: seg.toList, '?' :: (Percent.encodeComponent q).toList) := by
    rw [List.takeWhile_eq_self_iff.mpr hhash, hurl, ← List.cons_append,
      List.span_eq_takeWhile_dropWhile, List.takeWhile_append_of_pos hname,
      List.dropWhile_append_of_pos hname]
    simp
  simp only [Route.parse, hspan]
  simp only [if_neg (getLast?_pageName h), String.ofList_toList, decodeOnce_encodeComponent,
    Option.getD_some, hurl, segments_pageName h]

/-- A page name alone reads back as the page's route. -/
theorem parse_pageName {path seg : String} (hpath : path.toList = '/' :: seg.toList)
    (h : PageName seg) : Route.parse path = some (Route.ofSegments [seg] "") := by
  have hhash : ∀ c ∈ path.toList, (c != '#') = true := fun c hc => (h.path_facts c (hpath ▸ hc)).1
  have hname : ∀ c ∈ path.toList, (c != '?') = true := fun c hc => (h.path_facts c (hpath ▸ hc)).2
  have hspan : (path.toList.takeWhile (· != '#')).span (· != '?') = ('/' :: seg.toList, []) := by
    rw [List.takeWhile_eq_self_iff.mpr hhash, List.span_eq_takeWhile_dropWhile,
      List.takeWhile_eq_self_iff.mpr hname, List.dropWhile_eq_nil_iff.mpr hname, hpath]
  have hempty : Route.decodeOnce "" = some "" :=
    decodeOnce_of_forall_ne fun b hb => by simp [Utf8.encode_eq_flatMap] at hb
  simp only [Route.parse, hspan]
  simp only [if_neg (getLast?_pageName h), String.ofList_nil, hempty, Option.getD_some, hpath,
    segments_pageName h]

/-- The root reads back as the sign-in page, whatever its empty query decodes to. -/
theorem parse_root : Route.parse "/" = some .signIn := by
  simp [Route.parse, splitAt, Route.ofSegments]

/-- A word of lower-case letters (`a` is 97, `z` is 122) is a page name: its letters are no
marks of a URL, and each is written as one byte that is not `%`. -/
theorem PageName.of_word (seg : String) (hne : seg.toList ≠ [])
    (hlower : seg.toList.all (fun c => decide (97 ≤ c.toNat ∧ c.toNat ≤ 122)) = true) :
    PageName seg := by
  have hletter : ∀ c ∈ seg.toList, 97 ≤ c.toNat ∧ c.toNat ≤ 122 :=
    fun c hc => of_decide_eq_true (List.all_eq_true.mp hlower c hc)
  refine ⟨hne, fun c hc => ?_, decodeOnce_of_forall_ne ?_⟩
  · have h := hletter c hc
    rw [not_mem_urlMarks]
    refine ⟨?_, ?_, ?_⟩ <;> rintro rfl <;> simp at h
  · intro b hb
    have hs : String.ofList seg.toList = seg := String.ofList_toList
    rw [← hs, Utf8.encode_ofList_of_le fun c hc => (hletter c hc).2.trans (by decide)] at hb
    obtain ⟨c, hc, rfl⟩ := List.mem_map.mp hb
    have h := hletter c hc
    rw [UInt8.toNat_ofNat']
    omega

/-- Every route a destination leads to reads back from its URL. -/
theorem parse_url_ofDestination (d : Destination) :
    Route.parse (Route.ofDestination d).url = some (Route.ofDestination d) := by
  cases d with
  | signIn => exact parse_root
  | signUp => exact parse_pageName (by decide) (.of_word "signup" (by decide) (by decide))
  | home => exact parse_pageName (by decide) (.of_word "home" (by decide) (by decide))
  | account =>
    exact parse_pageName (by decide) (.of_word "account" (by decide) (by decide))
  | roadmap p =>
    exact parse_withQuery (by decide) (.of_word "roadmap" (by decide) (by decide)) _
  | subject p =>
    exact parse_withQuery (by decide) (.of_word "subject" (by decide) (by decide)) _
  | resource p =>
    exact parse_withQuery (by decide) (.of_word "resource" (by decide) (by decide)) _
  | «section» p =>
    exact parse_withQuery (by decide) (.of_word "section" (by decide) (by decide)) _
  | topic p =>
    exact parse_withQuery (by decide) (.of_word "topic" (by decide) (by decide)) _
  | card p =>
    exact parse_withQuery (by decide) (.of_word "card" (by decide) (by decide)) _

/-! ### The page at a route -/

/-- The destination a route's page shows: the route's page with the parameters it reads from
the route's query; none for an unknown path, or parameters that do not read. -/
def Route.destination? : Route → Option Destination
  | .signIn => some .signIn
  | .signUp => some .signUp
  | .home => some .home
  | .account => some .account
  | .roadmap q => (RoadmapParams.fromQuery q).toOption.map .roadmap
  | .subject q => (SubjectParams.fromQuery q).toOption.map .subject
  | .resource q => (ResourceParams.fromQuery q).toOption.map .resource
  | .section q => (SectionParams.fromQuery q).toOption.map .section
  | .topic q => (TopicParams.fromQuery q).toOption.map .topic
  | .card q => (CardParams.fromQuery q).toOption.map .card
  | .notFound _ => none

/-- The page at a destination's route shows the destination. -/
theorem destination?_ofDestination (d : Destination) :
    (Route.ofDestination d).destination? = some d := by
  cases d <;>
    simp [Route.ofDestination, Route.destination?, RoadmapParams.fromQuery_toQuery,
      SubjectParams.fromQuery_toQuery, ResourceParams.fromQuery_toQuery,
      SectionParams.fromQuery_toQuery, TopicParams.fromQuery_toQuery,
      CardParams.fromQuery_toQuery, Except.toOption]

/-- Links survive their URL: the URL of a destination's route reads back as that route, and
the page there reads the destination back from it. -/
theorem link_survives_url (d : Destination) :
    Route.parse (Route.ofDestination d).url = some (Route.ofDestination d) ∧
      (Route.parse (Route.ofDestination d).url).bind Route.destination? = some d := by
  have hparse := parse_url_ofDestination d
  refine ⟨hparse, ?_⟩
  rw [hparse, Option.bind_some, destination?_ofDestination]

end StudyPlanner.Web
