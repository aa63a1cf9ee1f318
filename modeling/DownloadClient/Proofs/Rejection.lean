import Mathlib
import DownloadClient.Proofs.Json.Value
import DownloadClient.Proofs.Json.Written
import DownloadClient.Proofs.Outcome

/-! Rejections: responses that succeed by their status, with nothing but an envelope in the body
that tells of a failure. -/

namespace DownloadClient.Client

open DownloadClient.Api DownloadClient.Json DownloadClient.Session DownloadClient.Text
  DownloadClient.Web

/-- An envelope and nothing else, its two members in either order. -/
def Carries (body : ByteArray) (e : Envelope) : Prop :=
  ∃ ms, (ms = e.members ∨ ms = e.members.reverse) ∧ Reader.any.readBytes body = .ok (.object ms)

theorem readable_code (code : Int32) : Readable (.integer code.toInt) := by
  have lower := code.le_toInt
  have upper := code.toInt_lt
  have least : (Nat.pow 2 63 : Int) = 9223372036854775808 := rfl
  have limit : (wordLimit : Int) = 18446744073709551616 := rfl
  refine readable_integer ?_ ?_
  · omega
  · omega

theorem carries_write {l : Layout} (hl : l.Plain) (e : Envelope) :
    Carries (String.ofList (e.toJson.write l 0)).toUTF8 e := by
  refine ⟨e.members, .inl rfl, any_readBytes_write hl 0 ?_ ?_⟩
  · intro n hn
    obtain rfl : n = .integer e.code.toInt := by
      simpa [Envelope.toJson, Envelope.members, numerals, numeralsOfMembers, numeralsOfMember]
        using hn
    exact readable_code e.code
  · simp [Envelope.toJson, Envelope.members, depth, depthOfMembers, depthOfMember, nestingLimit]

theorem carries_compact (e : Envelope) : Carries e.toJson.compact.toUTF8 e :=
  carries_write .compact e

theorem carries_pretty (e : Envelope) : Carries e.toJson.pretty.toUTF8 e :=
  carries_write .pretty e

@[simp] theorem int32_code (code : Int32) :
    Shape.int32 (.number (.integer code.toInt)) = .ok code := by
  have lower := code.le_toInt
  have upper := code.toInt_lt
  rw [Shape.int32, if_pos (by omega), Int32.ofInt_toInt]

theorem ofMembers_of_members {e : Envelope} {ms : List (String × Json)}
    (h : ms = e.members ∨ ms = e.members.reverse) : Envelope.ofMembers ms = .ok e := by
  obtain rfl | rfl := h <;>
    simp [Envelope.ofMembers, Envelope.members, Envelope.gather, shape, Shape.string, bind,
      Except.bind]

section Readers

variable {e : Envelope} {ms : List (String × Json)} (h : ms = e.members ∨ ms = e.members.reverse)
  {room : Nat} {t : Tree} (ht : t.value (room + 1) = .ok (.object ms))
include h ht

theorem reader_of_members : Envelope.reader (room + 1) t = .ok e := by
  cases hasValue_of_value ht with
  | object hm hs =>
    obtain rfl | rfl := h
    all_goals
      obtain ⟨t, t', rfl, ⟨⟩, ⟨⟩⟩ := members_eq_pair hm
      simp [Envelope.reader, Envelope.record, Reader.record, enter, scan, Field.of, Reader.int32,
        Reader.string, Reader.ofShape, Tree.shape, Except.map,
        Shape.string, Fields.required, Fields.get?, hs, bind, Except.bind, pure, Except.pure]

theorem flattened_of_members {α γ : Type} (r : Flattened α Envelope γ)
    (inner : r.inner = Envelope.ofMembers)
    (fields : ∀ k ∈ ["code", "message"], r.fields.find? (·.name == k) = none) :
    Reader.flattened r (room + 1) t = (r.own room []).map (r.build · e) := by
  have names : ∀ x ∈ ms, x.1 ∈ ["code", "message"] := by
    obtain rfl | rfl := h <;> simp [Envelope.members]
  rw [flattened_of_value r ht fun x hx => fields x.1 (names x hx), inner,
    ofMembers_of_members h]
  cases r.own room [] <;> rfl

end Readers

theorem login_of_carries {body : ByteArray} {e : Envelope} (h : Carries body e) :
    Operation.login.reader.readBytes body = .error (.missing "token") := by
  obtain ⟨ms, hms, h⟩ := h
  obtain ⟨t, ht, read⟩ := exists_tree_of_any h
  rw [read]
  exact flattened_of_members hms ht LoginResponse.flattened rfl (by decide)

theorem reader_of_carries {op : Operation} (ho : op ≠ .login) {body : ByteArray} {e : Envelope}
    (h : Carries body e) : ∃ y, op.reader.readBytes body = .ok y ∧ op.envelope y = e := by
  obtain ⟨ms, hms, h⟩ := h
  obtain ⟨t, ht, read⟩ := exists_tree_of_any h
  rw [read]
  cases op with
  | login => exact absurd rfl ho
  | remoteList =>
    exact ⟨_, flattened_of_members hms ht ListResponse.flattened rfl (by decide), rfl⟩
  | downloadStatus =>
    exact ⟨_, flattened_of_members hms ht StatusResponse.flattened rfl (by decide), rfl⟩
  | _ => exact ⟨e, reader_of_members hms ht, rfl⟩

structure Rejected {op : Operation} (x : Called op) (e : Envelope) : Prop where
  result : x.result = .error (.server e.code e.message)
  message : blank e.message = false → x.error?.map CallError.message = some (trimmed e.message)

theorem rejected_of_result {op : Operation} {x : Called op} {e : Envelope}
    (h : x.result = .error (.server e.code e.message)) : Rejected x e where
  result := h
  message hb := by
    simp [Called.error?, h, CallError.message, CallError.nonBlank?, hb]

/-- A response to a login cannot be read without a token, so its envelope is never seen. -/
theorem rejected_call_iff [Locator] {c : Configuration} {op : Operation} {r : op.Request}
    {own : Option Duration} {n : Network} {y : HttpResponse} {e : Envelope}
    (ha : Answered c op r own n y) (hs : Successful y) (hb : Carries y.body e) (he : e.code ≠ 0) :
    (Rejected (call c op r own n) e ↔ op ≠ .login) ∧
      (op = .login → (call c op r own n).result =
        .error (.decode (op.unread y.body (.missing "token")))) := by
  have result := ha.result
  by_cases ho : op = .login
  · subst ho
    rw [classify_of_undecodable hs (login_of_carries hb)] at result
    refine ⟨⟨fun h => ?_, fun h => absurd rfl h⟩, fun _ => result⟩
    rw [h.result] at result
    cases result
  · obtain ⟨z, hz, hv⟩ := reader_of_carries ho hb
    rw [classify_of_decoded hs hz, hv, if_neg he] at result
    exact ⟨⟨fun _ => ho, fun _ => rejected_of_result result⟩, fun h => absurd h ho⟩

theorem pause_rejected_login_undecoded :
    letI := Locator.atEnd
    Rejected (call (.of "http://a.example" none none) .downloadPause ⟨"f"⟩ none (.scripted
        [{ status := 200, body := (Envelope.failure "busy").toJson.compact.toUTF8 }]))
      (.failure "busy") ∧
    (call (.of "http://a.example" none none) .login ⟨"a", "b"⟩ none (.scripted
        [{ status := 200, body := (Envelope.failure "busy").toJson.pretty.toUTF8 }])).result =
      .error (.decode (Operation.login.unread (Envelope.failure "busy").toJson.pretty.toUTF8
        (.missing "token"))) := by
  let := Locator.atEnd
  have pause := ready_example .downloadPause ⟨"f"⟩ (by decide)
  have login := ready_example .login ⟨"a", "b"⟩ (by decide)
  constructor
  · have answered := pause.answered none 200 (Envelope.failure "busy").toJson.compact.toUTF8 []
      (by decide) rfl (by simp [Configuration.of])
    exact (rejected_call_iff answered ⟨by decide, by decide⟩ (carries_compact _)
      (by decide)).1.2 (by decide)
  · have answered := login.answered none 200 (Envelope.failure "busy").toJson.pretty.toUTF8 []
      (by decide) rfl (by simp [Configuration.of])
    exact (rejected_call_iff answered ⟨by decide, by decide⟩ (carries_pretty _) (by decide)).2 rfl

end DownloadClient.Client
