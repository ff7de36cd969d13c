import StudyPlanner.App.Server
import StudyPlanner.Proofs.Frames
import StudyPlanner.Proofs.TrailerText
/-!
# An answer is read in a fixed order

`readResponse` turns an HTTP answer (status, headers, body) into the reply message of a call
or the reason it failed. The main statement, `response_read_in_order`, says that the outcome
is decided by the first of these that applies, whatever the later ones would give:

* the status in the headers, checked with the message in the headers, when it fails;
* an HTTP status other than `2xx`, as the transport failure `HTTP <status> from <method>`;
* a body whose frames do not read, with the framing's failure;
* a failing status in the trailer frame;
* otherwise the message of the data frame, or nothing when there is none.

A header whose value holds a character that is not visible ASCII counts as absent
(`headerValue_of_not_visible`). And a data frame followed by a trailer frame of status `0`,
with no status in the headers, gives the data frame's message for every `2xx` status
(`readResponse_data_then_ok`); that one rests on reading frames back (`Proofs.Frames`) and on
reading the status of trailer text (`Proofs.TrailerText`).
-/

namespace StudyPlanner.App

open StudyPlanner.Remote StudyPlanner.Text

/-! ### One step at a time -/

theorem isSuccess_iff {code : Nat} : isSuccess code = true ↔ 200 ≤ code ∧ code < 300 := by
  simp [isSuccess]

section Steps

variable {method : String} {http : Nat} {headers : List (String × String)} {body : List UInt8}

/-- A failing status in the headers decides the answer, whatever the HTTP status and the body. -/
theorem readResponse_of_header_error {e : CallError}
    (h : checkStatus (headerValue headers "grpc-status") (headerValue headers "grpc-message") =
      .error e) :
    readResponse method http headers body = .error e := by
  rw [readResponse, h]
  rfl

section HeadersPass

variable (hstatus :
  checkStatus (headerValue headers "grpc-status") (headerValue headers "grpc-message") = .ok ())
include hstatus

/-- Past the headers, an HTTP status other than `2xx` fails the call, whatever the body. -/
theorem readResponse_of_not_success (hhttp : isSuccess http = false) :
    readResponse method http headers body =
      .error (.transport ("HTTP " ++ statusText http ++ " from " ++ method)) := by
  rw [readResponse, hstatus]
  simp only [hhttp, Bool.not_false]
  rfl

/-- Past the headers and with a `2xx` status, the body is read as frames, and then their
trailers are checked. -/
theorem readResponse_of_success (hhttp : isSuccess http = true) :
    readResponse method http headers body =
      decodeBody body >>= fun frames =>
        frames.trailers.check >>= fun _ => .ok (frames.message.getD []) := by
  rw [readResponse, hstatus]
  simp only [hhttp, Bool.not_true]
  rfl

/-- Past the headers and with a `2xx` status, frames that do not read fail the call. -/
theorem readResponse_of_frames_error (hhttp : isSuccess http = true) {e : CallError}
    (hbody : decodeBody body = .error e) : readResponse method http headers body = .error e := by
  rw [readResponse_of_success hstatus hhttp, hbody]
  rfl

/-- Past the headers, with a `2xx` status and frames that read, the trailers' status decides. -/
theorem readResponse_of_frames (hhttp : isSuccess http = true) {frames : Body}
    (hbody : decodeBody body = .ok frames) :
    readResponse method http headers body =
      frames.trailers.check >>= fun _ => .ok (frames.message.getD []) := by
  rw [readResponse_of_success hstatus hhttp, hbody]
  rfl

end HeadersPass

end Steps

/-! ### Headers -/

theorem mem_dropWhile_of_not {p : Char → Bool} {l : List Char} {a : Char} (ha : a ∈ l)
    (hp : p a = false) : a ∈ l.dropWhile p := by
  induction l with
  | nil => cases ha
  | cons b l ih =>
    by_cases hb : p b = true
    · rw [List.dropWhile_cons_of_pos hb]
      rcases List.mem_cons.mp ha with rfl | ha
      · rw [hb] at hp
        cases hp
      · exact ih ha
    · rw [List.dropWhile_cons_of_neg hb]
      exact ha

/-- A header counts as absent when the first header of its name holds a character that is not
visible ASCII (a tab, or a space up to `~`). -/
theorem headerValue_of_not_visible {headers : List (String × String)} {name : String}
    {h : String × String} (hfirst : headers.find? (fun h => sameHeader h.1 name) = some h)
    (hbad : ∃ c ∈ h.2.toList, ¬ (c = '\t' ∨ (' ' ≤ c ∧ c.toNat < 127))) :
    headerValue headers name = none := by
  obtain ⟨c, hc, hvisible⟩ := hbad
  -- the character is no space or tab, so trimming those keeps it
  have hgap : (c = ' ' || c = '\t') = false := by
    simp only [Bool.or_eq_false_iff, decide_eq_false_iff_not]
    exact ⟨fun hsp => hvisible (.inr ⟨by subst hsp; decide, by subst hsp; decide⟩),
      fun htab => hvisible (.inl htab)⟩
  have hkept : c ∈ ((h.2.toList.dropWhile fun c => c = ' ' || c = '\t').reverse.dropWhile
      fun c => c = ' ' || c = '\t').reverse := by
    rw [List.mem_reverse]
    exact mem_dropWhile_of_not (List.mem_reverse.mpr (mem_dropWhile_of_not hc hgap)) hgap
  have htext : isHeaderText (String.ofList ((h.2.toList.dropWhile fun c => c = ' ' || c = '\t'
      ).reverse.dropWhile fun c => c = ' ' || c = '\t').reverse) = false := by
    rw [isHeaderText, String.toList_ofList, List.all_eq_false]
    refine ⟨c, hkept, ?_⟩
    simpa [Char.le_def] using hvisible
  rw [headerValue, hfirst, Option.bind_some]
  exact if_neg (by rw [htext]; decide)

/-- No header of the name: nothing to read. -/
theorem headerValue_of_forall_ne {headers : List (String × String)} {name : String}
    (h : ∀ g ∈ headers, sameHeader g.1 name = false) : headerValue headers name = none := by
  rw [headerValue, List.find?_eq_none.mpr fun g hg => by rw [h g hg]; decide, Option.bind_none]

/-! ### A data frame, then status `0` -/

/-- The trailer text a service sends with a successful reply. -/
theorem check_status_zero : (Trailers.parse (Utf8.encode "grpc-status: 0\r\n")).check = .ok () := by
  have hstatus := Trailers.get?_status_line (fun l (hl : l ∈ ([] : List String)) => absurd hl List.not_mem_nil)
    (Trailers.oneLine_of_cr_not_mem (by decide) : Trailers.OneLine " 0") ""
  rw [show Trailers.joinLines ([] ++ ["grpc-status:" ++ " 0"]) ++ "" = "grpc-status: 0\r\n" from rfl]
    at hstatus
  rw [Trailers.check, hstatus]
  rfl

/-- A data frame gives the message of a body that has none yet. -/
theorem Body.push_data (b : Body) (hb : b.message = none) (p : List UInt8) :
    b.push ⟨dataFlag, p⟩ = .ok { b with message := some p } := by
  rw [Body.push, if_neg (show ¬ (dataFlag &&& 0x01 ≠ 0) by decide),
    if_neg (show ¬ (dataFlag &&& 0x80 ≠ 0) by decide), hb]

/-- A trailer frame gives the trailers. -/
theorem Body.push_trailer (b : Body) (p : List UInt8) :
    b.push ⟨trailerFlag, p⟩ = .ok { b with trailers := Trailers.parse p } := by
  rw [Body.push, if_neg (show ¬ (trailerFlag &&& 0x01 ≠ 0) by decide),
    if_pos (show trailerFlag &&& 0x80 ≠ 0 by decide)]

/-- A data frame and a trailer frame of status `0` read as the message and those trailers. -/
theorem decodeBody_data_then_ok {m : List UInt8} (hm : m.length < 4294967296) :
    decodeBody (encodeData m ++ trailerFrame "grpc-status: 0\r\n") =
      .ok { message := some m, trailers := Trailers.parse (Utf8.encode "grpc-status: 0\r\n") } := by
  have hframes : encodeData m ++ trailerFrame "grpc-status: 0\r\n" ++ [] =
      encodeFrames [⟨dataFlag, m⟩, ⟨trailerFlag, Utf8.encode "grpc-status: 0\r\n"⟩] ++ [] := by
    simp [encodeData, trailerFrame]
  have hlen : (Utf8.encode "grpc-status: 0\r\n").length < 4294967296 := by decide
  -- the two frames, then nothing more: no cut
  rw [← List.append_nil (encodeData m ++ _), hframes,
    decodeBody_frames_append _ (by simp [hm, hlen]) ⟨dataFlag, []⟩ (by decide) [] (List.nil_prefix)
      (by simp), List.foldlM_cons, Body.push_data _ rfl]
  show List.foldlM Body.push _ _ >>= _ = _
  rw [List.foldlM_cons, Body.push_trailer]
  rfl

/-- With no status in the headers and any `2xx` status, a data frame followed by a trailer frame
of status `0` gives the data frame's message. -/
theorem readResponse_data_then_ok (method : String) {http : Nat} (hhttp : isSuccess http = true)
    {headers : List (String × String)}
    (hgrpc : ∀ g ∈ headers, sameHeader g.1 "grpc-status" = false ∧
      sameHeader g.1 "grpc-message" = false)
    {m : List UInt8} (hm : m.length < 4294967296) :
    readResponse method http headers (encodeData m ++ trailerFrame "grpc-status: 0\r\n") = .ok m := by
  have hstatus : checkStatus (headerValue headers "grpc-status")
      (headerValue headers "grpc-message") = .ok () := by
    rw [headerValue_of_forall_ne fun g hg => (hgrpc g hg).1]
    rfl
  rw [readResponse_of_frames hstatus hhttp (decodeBody_data_then_ok hm), check_status_zero]
  rfl

/-! ### The order as a whole -/

/-- The answer to a call is decided by the first of: a failing status in the headers, an HTTP
status outside `200..299`, frames that do not read, a failing status in the trailers; past all
of these it is the data frame's message (none reads as empty). A header value that is not
visible ASCII is absent, and a data frame followed by a status-`0` trailer frame reads back as
its message. -/
theorem response_read_in_order :
    (∀ (method : String) (http : Nat) (headers : List (String × String)) (body : List UInt8)
      (e : CallError),
      checkStatus (headerValue headers "grpc-status") (headerValue headers "grpc-message") =
        .error e →
      readResponse method http headers body = .error e) ∧
    (∀ (method : String) (http : Nat) (headers : List (String × String)) (body : List UInt8),
      checkStatus (headerValue headers "grpc-status") (headerValue headers "grpc-message") =
        .ok () →
      ¬ (200 ≤ http ∧ http < 300) →
      readResponse method http headers body =
        .error (.transport ("HTTP " ++ statusText http ++ " from " ++ method))) ∧
    (∀ (method : String) (http : Nat) (headers : List (String × String)) (body : List UInt8)
      (e : CallError),
      checkStatus (headerValue headers "grpc-status") (headerValue headers "grpc-message") =
        .ok () →
      200 ≤ http ∧ http < 300 → decodeBody body = .error e →
      readResponse method http headers body = .error e) ∧
    (∀ (method : String) (http : Nat) (headers : List (String × String)) (body : List UInt8)
      (frames : Body) (e : CallError),
      checkStatus (headerValue headers "grpc-status") (headerValue headers "grpc-message") =
        .ok () →
      200 ≤ http ∧ http < 300 → decodeBody body = .ok frames → frames.trailers.check = .error e →
      readResponse method http headers body = .error e) ∧
    (∀ (method : String) (http : Nat) (headers : List (String × String)) (body : List UInt8)
      (frames : Body),
      checkStatus (headerValue headers "grpc-status") (headerValue headers "grpc-message") =
        .ok () →
      200 ≤ http ∧ http < 300 → decodeBody body = .ok frames → frames.trailers.check = .ok () →
      readResponse method http headers body = .ok (frames.message.getD [])) ∧
    (∀ (headers : List (String × String)) (name : String) (h : String × String),
      headers.find? (fun h => sameHeader h.1 name) = some h →
      (∃ c ∈ h.2.toList, ¬ (c = '\t' ∨ (' ' ≤ c ∧ c.toNat < 127))) →
      headerValue headers name = none) ∧
    (∀ (method : String) (http : Nat) (headers : List (String × String)) (m : List UInt8),
      200 ≤ http ∧ http < 300 →
      (∀ g ∈ headers, sameHeader g.1 "grpc-status" = false ∧
        sameHeader g.1 "grpc-message" = false) →
      m.length < 4294967296 →
      readResponse method http headers (encodeData m ++ trailerFrame "grpc-status: 0\r\n") =
        .ok m) := by
  refine ⟨fun _ _ _ _ _ h => readResponse_of_header_error h, ?_, ?_, ?_, ?_,
    fun _ _ _ hfirst hbad => headerValue_of_not_visible hfirst hbad, ?_⟩
  · intro method http headers body hstatus hhttp
    exact readResponse_of_not_success hstatus (Bool.eq_false_iff.mpr (mt isSuccess_iff.mp hhttp))
  · intro method http headers body e hstatus hhttp hbody
    exact readResponse_of_frames_error hstatus (isSuccess_iff.mpr hhttp) hbody
  · intro method http headers body frames e hstatus hhttp hbody hcheck
    rw [readResponse_of_frames hstatus (isSuccess_iff.mpr hhttp) hbody, hcheck]
    rfl
  · intro method http headers body frames hstatus hhttp hbody hcheck
    rw [readResponse_of_frames hstatus (isSuccess_iff.mpr hhttp) hbody, hcheck]
    rfl
  · intro method http headers m hhttp hgrpc hm
    exact readResponse_data_then_ok method (isSuccess_iff.mpr hhttp) hgrpc hm

/-- A refusal in the headers wins over a `401` and over an empty body; and a reply with a
content type and no status header reads back as its message. -/
theorem refusal_in_headers_wins :
    readResponse "ListCards" 401 [("grpc-status", " 16"), ("grpc-message", "bad%20credentials")]
        [] = .error (.status 16 "bad credentials") ∧
    readResponse "ListCards" 200 [("content-type", "application/grpc-web+proto")]
        (encodeData [8, 1] ++ trailerFrame "grpc-status: 0\r\n") = .ok [8, 1] :=
  ⟨response_read_in_order.1 "ListCards" 401 _ [] _ (by
      rw [show headerValue [("grpc-status", " 16"), ("grpc-message", "bad%20credentials")]
          "grpc-status" = some (Decimal.ofInt (16 : Int32).toInt) by decide,
        show headerValue [("grpc-status", " 16"), ("grpc-message", "bad%20credentials")]
          "grpc-message" = some (Percent.encodeWith Percent.isAlphanumeric "bad credentials") by
          decide,
        Trailers.checkStatus_written]
      rfl),
    response_read_in_order.2.2.2.2.2.2 "ListCards" 200 _ [8, 1] (by decide) (by decide)
      (by decide)⟩

end StudyPlanner.App
