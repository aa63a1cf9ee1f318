import DownloadClient.Proofs.Form
import DownloadClient.Proofs.InFlight
import DownloadClient.Proofs.RoundTrip

/-! What a backend receives of a call: one request, from which the request that was made is read
back. It is the body, or for a list the last pair of the query. -/

namespace DownloadClient.Client

open DownloadClient.Api DownloadClient.Json DownloadClient.Session DownloadClient.Text
  DownloadClient.Web

def Operation.requestReader : (op : Operation) → Reader op.Request
  | .login => LoginRequest.reader
  | .remoteList => ListRequest.reader
  | .downloadBegin => BeginRequest.reader
  | .downloadPause => FileRequest.pauseReader
  | .downloadResume => FileRequest.resumeReader
  | .downloadRemove => RemoveRequest.reader
  | .downloadStatus => StatusRequest.reader

theorem readText_requestJson (op : Operation) (r : op.Request) :
    op.requestReader.readText (op.requestJson r).compact = .ok r := by
  cases op with
  | login => exact readText_compact ((LoginRequest.returns r).mono (by decide))
  | remoteList => exact readText_compact ((ListRequest.returns r).mono (by decide))
  | downloadBegin => exact readText_compact ((BeginRequest.returns r).mono (by decide))
  | downloadPause => exact readText_compact ((FileRequest.returns _ r).mono (by decide))
  | downloadResume => exact readText_compact ((FileRequest.returns _ r).mono (by decide))
  | downloadRemove => exact readText_compact ((RemoveRequest.returns r).mono (by decide))
  | downloadStatus => exact readText_compact ((StatusRequest.returns r).mono (by decide))

structure Posts (op : Operation) (r : op.Request) (u : Address) (q : HttpRequest) : Prop where
  method : q.method = .post
  url : q.url = u.target
  contentType : q.contentType = some "application/json"
  body : op.requestReader.readText q.body = .ok r

structure Asks (path : String) (u : Address) (q : HttpRequest) : Prop where
  method : q.method = .get
  url : ∃ added, q.url = Address.target { u with query := some (u.query.getD [] ++ added) } ∧
    ∀ c ∈ added, c.isAlphanum = true ∨ c ∈ ['*', '-', '.', '_', '+', '%', '&', '=']
  pairs : Form.pairs (q.url.query.getD []) =
    Form.pairs (u.query.getD []) ++ [(encoded "path", encoded path)]
  body : q.body = ""

/-- What a message tells of the request of an operation. -/
def Tells : (op : Operation) → op.Request → Address → HttpRequest → Prop
  | .remoteList, r, u, q => Asks (ListRequest.path r) u q
  | .login, r, u, q => Posts .login r u q
  | .downloadBegin, r, u, q => Posts .downloadBegin r u q
  | .downloadPause, r, u, q => Posts .downloadPause r u q
  | .downloadResume, r, u, q => Posts .downloadResume r u q
  | .downloadRemove, r, u, q => Posts .downloadRemove r u q
  | .downloadStatus, r, u, q => Posts .downloadStatus r u q

theorem tells_iff_posts {op : Operation} (h : op ≠ .remoteList) (r : op.Request) (u : Address)
    (q : HttpRequest) : Tells op r u q ↔ Posts op r u q := by
  cases op <;> first | exact Iff.rfl | exact absurd rfl h

theorem Tells.unique {op : Operation} {r r' : op.Request} {u : Address} {q : HttpRequest}
    (h : Tells op r u q) (h' : Tells op r' u q) : r = r' := by
  by_cases list : op = .remoteList
  · subst list
    have pairs := h.pairs.symm.trans h'.pairs
    have path := List.append_cancel_left pairs
    simp only [List.cons.injEq, Prod.mk.injEq, true_and, and_true] at path
    exact ListRequest.mk.injEq .. ▸ encoded_injective path
  · rw [tells_iff_posts list] at h h'
    exact Except.ok.inj (h.body.symm.trans h'.body)

theorem target_located_anonymous (op : Operation) (r : op.Request) (u : Address) :
    (located op r (anonymous u)).target = (located op r u).target := by
  unfold anonymous
  split
  · rfl
  · cases op <;> simp [located, Address.target, Function.comp_def]

theorem mem_of_isEncoded {c : Char} (h : Form.isEncoded c = true ∨ c = '&' ∨ c = '=') :
    c.isAlphanum = true ∨ c ∈ ['*', '-', '.', '_', '+', '%', '&', '='] := by
  simp only [Form.isEncoded, Form.unreserved, Bool.or_eq_true, List.contains_iff_mem,
    beq_iff_eq] at h
  simp only [List.mem_cons] at h ⊢
  tauto

theorem tells_carried (op : Operation) (r : op.Request) (u : Address) (header : Option String) :
    Tells op r u (carried op r (located op r (anonymous u)) header) := by
  by_cases list : op = .remoteList
  · subst list
    have whole : (carried .remoteList r (located .remoteList r (anonymous u)) header).url =
        Address.target
          { u with query := some (Form.append u.query "path".toList r.path.toList) } := by
      change Address.target (located .remoteList r (anonymous u)) = _
      rw [target_located_anonymous]
      rfl
    refine ⟨rfl, ⟨Form.added u.query "path".toList r.path.toList, ?_, fun c hc =>
      mem_of_isEncoded (Form.mem_added hc)⟩, ?_, rfl⟩
    · rw [whole, ← Form.append_eq]
    · rw [whole]
      exact Form.pairs_append_encodePair _ _ _
  · have same : located op r u = u := by
      cases op <;> first | rfl | exact absurd rfl list
    rw [tells_iff_posts list, carried, if_neg list, target_located_anonymous, same]
    exact ⟨rfl, rfl, rfl, readText_requestJson op r⟩

theorem prepare_tells {c : Configuration} {op : Operation} {r : op.Request} {q : HttpRequest}
    (h : prepare c op r = .ok q) :
    ∃ u, Address.ofString (endpointText c.baseUrl op.path) = .ok u ∧ Tells op r u q := by
  obtain ⟨u, hu, h⟩ := bind_eq_ok.1 h
  obtain ⟨header, -, h⟩ := bind_eq_ok.1 h
  obtain ⟨whole, ha, h⟩ := bind_eq_ok.1 h
  obtain rfl := addressed_eq_ok ha
  cases h
  refine ⟨u, ?_, tells_carried op r u _⟩
  cases hp : Address.ofString (endpointText c.baseUrl op.path) with
  | error e => simp [endpoint, hp, Except.mapError] at hu
  | ok v => simpa [endpoint, hp, Except.mapError] using hu

/-- A backend receives one message of a call that can be sent, and no other request of that
operation would have led to it. -/
theorem received_tells [Locator] {c : Configuration} {op : Operation} {r : op.Request} {u : Address}
    (h : Ready c op r u) (own : Option Duration) (replies : List Reply) :
    ∃ q, (call c op r own (.scripted replies)).received = [q] ∧ Tells op r u q ∧
      ∀ r', Tells op r' u q → r' = r := by
  obtain ⟨q, hq⟩ := h.prepare
  obtain ⟨v, hv, tells⟩ := prepare_tells hq
  obtain rfl : u = v := Except.ok.inj (h.parsed.symm.trans hv)
  refine ⟨q, ?_, tells, fun r' h' => h'.unique tells⟩
  rw [call, hq, send]
  exact received_exchange _ q replies

theorem separators_received :
    letI := Locator.atEnd
    ∃ u, Ready (.of "http://a.example?x=1" none none) .remoteList ⟨"/a b&c=\u00e9+%"⟩ u ∧
      u.scheme = "http".toList ∧ u.query = some "x=1/api/remote_list".toList ∧
      ∃ q, (call (.of "http://a.example?x=1" none none) .remoteList ⟨"/a b&c=\u00e9+%"⟩ none
          (.scripted [])).received = [q] ∧
        Tells .remoteList ⟨"/a b&c=\u00e9+%"⟩ u q ∧
        ∀ r', Tells .remoteList r' u q → r' = ⟨"/a b&c=\u00e9+%"⟩ := by
  let := Locator.atEnd
  have parsed : Address.ofString (endpointText "http://a.example?x=1" Operation.remoteList.path) =
      .ok ⟨"http".toList, some ⟨[], none, .domain "a.example".toList, none⟩, .segments [[]],
        some "x=1/api/remote_list".toList, none⟩ := by cbv
  have ready : Ready (.of "http://a.example?x=1" none none) .remoteList ⟨"/a b&c=\u00e9+%"⟩ _ :=
    ⟨parsed, tokenSendable_of_none _,
      .inl rfl, by decide, by simp [Address.host, Host.text], by decide⟩
  exact ⟨_, ready, rfl, rfl, received_tells ready none []⟩

theorem length_le_text_located (r : ListRequest) (u : Address) :
    r.path.length ≤ (located .remoteList r u).text.length := by
  have query := Form.length_le_append u.query "path".toList r.path.toList
  simp only [located, Address.text, Address.tail, List.length_append, List.length_cons]
  rw [← String.length_toList]
  omega

theorem received_eq_nil_of_long [Locator] {c : Configuration} {r : ListRequest}
    (h : 65534 < r.path.length) (own : Option Duration) (n : Network) :
    (call c .remoteList r own n).received = [] := by
  have prepares := prepares_prepare c .remoteList r
  rw [call]
  generalize prepare c .remoteList r = prepared at prepares
  cases prepares with
  | @ready u _ ready =>
    have short := ready.sendable.length
    have long := length_le_text_located r (anonymous u)
    omega
  | _ => rfl

/-- The endpoint and the token are fine, but nothing is sent: with its path the address is too
long, or its host holds a brace. -/
theorem unsendable_not_received :
    letI := Locator.atEnd
    ((∃ u, Address.ofString (endpointText "http://a.example" Operation.remoteList.path) = .ok u ∧
        u.scheme = "http".toList) ∧
      TokenSendable (.of "http://a.example" none none) ∧
      ∀ replies, (call (.of "http://a.example" none none) .remoteList
        ⟨String.ofList (List.replicate 65535 'a')⟩ none (.scripted replies)).received = []) ∧
    (∃ u, Address.ofString (endpointText "http://a\x7bb" Operation.downloadPause.path) = .ok u ∧
        u.scheme = "http".toList) ∧
      TokenSendable (.of "http://a\x7bb" none none) ∧
      ∀ replies, (call (.of "http://a\x7bb" none none) .downloadPause ⟨"f"⟩ none
        (.scripted replies)).received = [] := by
  let := Locator.atEnd
  refine ⟨⟨⟨exampleEndpoint .remoteList, ?_, rfl⟩, tokenSendable_of_none _, ?_⟩,
    ⟨⟨"http".toList, some ⟨[], none, .domain "a\x7bb".toList, none⟩,
    .segments ["api".toList, "download_pause".toList], none, none⟩, ?_, rfl⟩,
    tokenSendable_of_none _, ?_⟩
  · cbv
  · refine fun replies => received_eq_nil_of_long ?_ none _
    rw [String.length_ofList, List.length_replicate]
    omega
  · cbv
  · have refused : prepare (.of "http://a\x7bb" none none) .downloadPause ⟨"f"⟩ =
        .error (.address "http://a\x7bb/api/download_pause") := by cbv
    intro replies
    rw [call, refused]
    rfl

end DownloadClient.Client
