import Mathlib
import DownloadClient.Client.Call

/-! How a call ends. Its request has to be one that can be sent, a reply has to come whole and in
time, and then its status, its body and the envelope in the body are judged, in this order. -/

namespace DownloadClient.Client

open DownloadClient.Api DownloadClient.Json DownloadClient.Session DownloadClient.Text
  DownloadClient.Web

def HeaderForbids (b : UInt8) : Prop := b < 0x20 ∧ b ≠ 0x09 ∨ b = 0x7f

def TokenSendable (c : Configuration) : Prop :=
  ∀ t ∈ c.accessToken, ∀ b ∈ t.toUTF8.data, ¬ HeaderForbids b

structure Sendable (op : Operation) (r : op.Request) (u : Address) : Prop where
  scheme : u.scheme = "http".toList ∨ u.scheme = "https".toList
  host : u.host ≠ .empty
  characters : ∀ x ∈ ['"', '\x60', '{', '}'], x ∉ u.host.text
  length : (located op r (anonymous u)).text.length ≤ 65534

/-- Nothing stands in the way of a request to the address. -/
structure Ready (c : Configuration) (op : Operation) (r : op.Request) (u : Address) : Prop where
  parsed : Address.ofString (endpointText c.baseUrl op.path) = .ok u
  token : TokenSendable c
  sendable : Sendable op r u

theorem tokenSendable_of_none (url : String) : TokenSendable (.of url none none) := by
  simp [TokenSendable, Configuration.of, Configuration.normalToken]

theorem headerForbids_ofNat {n : Nat} (h : n < 256) :
    HeaderForbids (UInt8.ofNat n) ↔ n < 0x20 ∧ n ≠ 0x09 ∨ n = 0x7f := by
  simp only [HeaderForbids, UInt8.lt_iff_toNat_lt, ← UInt8.toNat_inj, ne_eq, UInt8.toNat_ofNat']
  simp
  omega

theorem isHeaderChar_iff (c : Char) :
    isHeaderChar c = true ↔ ¬ (c.toNat < 0x20 ∧ c.toNat ≠ 0x09 ∨ c.toNat = 0x7f) := by
  have h9 : c = '\t' ↔ c.toNat = 9 := by rw [← Char.toNat_inj]; rfl
  have h127 : c = '\x7f' ↔ c.toNat = 0x7f := by rw [← Char.toNat_inj]; rfl
  simp [isHeaderChar, h9, h127]
  omega

theorem forall_utf8EncodeChar_iff (c : Char) :
    (∀ b ∈ String.utf8EncodeChar c, ¬ HeaderForbids b) ↔ isHeaderChar c = true := by
  have hc : c.toNat = c.val.toNat := rfl
  rw [isHeaderChar_iff, hc]
  simp only [String.utf8EncodeChar]
  generalize c.val.toNat = n
  by_cases h1 : n ≤ 127
  · simp [h1, headerForbids_ofNat (n := n) (by omega)]
  · have high (m : Nat) (h : 128 ≤ m) (h' : m < 256) : ¬ HeaderForbids (UInt8.ofNat m) := by
      rw [headerForbids_ofNat h']
      omega
    have fine : ¬ (n < 0x20 ∧ n ≠ 0x09 ∨ n = 0x7f) := by omega
    simp only [h1, fine, if_false, not_false_eq_true, iff_true]
    split
    · simp (disch := omega) only [List.forall_mem_cons, high, not_false_eq_true, true_and,
        List.not_mem_nil, false_implies, implies_true]
    · split <;>
        simp (disch := omega) only [List.forall_mem_cons, high, not_false_eq_true, true_and,
          List.not_mem_nil, false_implies, implies_true]

theorem all_isHeaderChar_iff (t : String) :
    t.toList.all isHeaderChar = true ↔ ∀ b ∈ t.toUTF8.data, ¬ HeaderForbids b := by
  have bytes : t.toUTF8.data.toList = t.toList.flatMap String.utf8EncodeChar := by
    rw [String.toUTF8, ← String.utf8Encode_toList, List.utf8Encode]
    simp
  simp only [← Array.mem_toList_iff, bytes, List.all_eq_true, ← forall_utf8EncodeChar_iff,
    List.mem_flatMap]
  exact ⟨fun h b ⟨x, hx, hb⟩ => h x hx b hb, fun h x hx b hb => h b ⟨x, hx, hb⟩⟩

theorem bearer_of_sendable {c : Configuration} (h : TokenSendable c) :
    ∃ header, bearer c = .ok header := by
  unfold bearer
  split
  · exact ⟨_, rfl⟩
  · next t ht => exact ⟨_, if_pos ((all_isHeaderChar_iff t).2 (h t ht))⟩

theorem bearer_of_not_sendable {c : Configuration} (h : ¬ TokenSendable c) :
    bearer c = .error .token := by
  unfold bearer
  split
  · next ht => exact absurd (by simp [TokenSendable, ht]) h
  · next t ht =>
    refine if_neg fun hall => h fun t' ht' => ?_
    rw [Option.mem_unique ht' ht]
    exact (all_isHeaderChar_iff t).1 hall

@[simp] theorem scheme_anonymous (u : Address) : (anonymous u).scheme = u.scheme := by
  unfold anonymous
  split <;> rfl

@[simp] theorem host_anonymous (u : Address) : (anonymous u).host = u.host := by
  unfold anonymous
  split
  · rfl
  · cases h : u.authority <;> simp [Address.host, h]

@[simp] theorem scheme_located (op : Operation) (r : op.Request) (u : Address) :
    (located op r u).scheme = u.scheme := by
  cases op <;> rfl

@[simp] theorem host_located (op : Operation) (r : op.Request) (u : Address) :
    (located op r u).host = u.host := by
  cases op <;> rfl

theorem sendable_eq_true_iff (op : Operation) (r : op.Request) (u : Address) (h : u.host ≠ .empty) :
    sendable (located op r (anonymous u)) = true ↔ Sendable op r u := by
  have characters : u.host.text.any requestLineForbids = false ↔
      ∀ x ∈ ['"', '\x60', '{', '}'], x ∉ u.host.text := by
    simp only [List.any_eq_false, requestLineForbids, List.contains_iff_mem]
    exact ⟨fun h x hx hm => h x hm hx, fun h x hm hx => h x hx hm⟩
  simp only [sendable, scheme_located, scheme_anonymous, host_located, host_anonymous,
    Bool.and_eq_true, Bool.or_eq_true, beq_iff_eq, Bool.not_eq_true', characters]
  exact ⟨fun ⟨⟨hs, hc⟩, hl⟩ => ⟨hs, h, hc, of_decide_eq_true hl⟩,
    fun hu => ⟨⟨hu.scheme, hu.characters⟩, decide_eq_true hu.length⟩⟩

theorem addressed_of_sendable {op : Operation} {r : op.Request} {u : Address}
    (h : Sendable op r u) : addressed op r u = .ok (located op r (anonymous u)) := by
  rw [addressed, if_neg h.host]
  exact if_pos ((sendable_eq_true_iff op r u h.host).2 h)

theorem addressed_of_not_sendable {op : Operation} {r : op.Request} {u : Address}
    (h : ¬ Sendable op r u) : ∃ url, addressed op r u = .error (.address url) := by
  unfold addressed
  split
  · exact ⟨_, rfl⟩
  · next hh => exact ⟨_, if_neg fun hs => h ((sendable_eq_true_iff op r u hh).1 hs)⟩

theorem prepare_of_unparsed {c : Configuration} {op : Operation} (r : op.Request)
    {e : AddressError} (h : Address.ofString (endpointText c.baseUrl op.path) = .error e) :
    prepare c op r = .error (.endpoint (endpointText c.baseUrl op.path) e) := by
  simp only [prepare, endpoint, h]
  rfl

theorem prepare_of_parsed {c : Configuration} {op : Operation} (r : op.Request) {u : Address}
    (h : Address.ofString (endpointText c.baseUrl op.path) = .ok u) :
    prepare c op r = bearer c >>= fun token => addressed op r u >>= fun whole =>
      .ok (carried op r whole ((basic? u).or token)) := by
  simp only [prepare, endpoint, h]
  rfl

theorem Ready.prepare {c : Configuration} {op : Operation} {r : op.Request} {u : Address}
    (h : Ready c op r u) :
    ∃ request, prepare c op r = .ok request := by
  obtain ⟨header, hb⟩ := bearer_of_sendable h.token
  refine ⟨carried op r (located op r (anonymous u)) ((basic? u).or header), ?_⟩
  rw [prepare_of_parsed r h.parsed, hb, addressed_of_sendable h.sendable]
  rfl

inductive Prepares (c : Configuration) (op : Operation) (r : op.Request) : Prepared → Prop
  | unparsed {e : AddressError}
      (hu : Address.ofString (endpointText c.baseUrl op.path) = .error e) :
      Prepares c op r (.error (.endpoint (endpointText c.baseUrl op.path) e))
  | token {u : Address} (hu : Address.ofString (endpointText c.baseUrl op.path) = .ok u)
      (ht : ¬ TokenSendable c) : Prepares c op r (.error .token)
  | address {u : Address} {url : String}
      (hu : Address.ofString (endpointText c.baseUrl op.path) = .ok u) (ht : TokenSendable c)
      (hs : ¬ Sendable op r u) : Prepares c op r (.error (.address url))
  | ready {u : Address} {request : HttpRequest} (h : Ready c op r u) : Prepares c op r (.ok request)

theorem prepares_prepare (c : Configuration) (op : Operation) (r : op.Request) :
    Prepares c op r (prepare c op r) := by
  cases hu : Address.ofString (endpointText c.baseUrl op.path) with
  | error e =>
    rw [prepare_of_unparsed r hu]
    exact .unparsed hu
  | ok u =>
    by_cases ht : TokenSendable c
    · by_cases hs : Sendable op r u
      · have ready : Ready c op r u := ⟨hu, ht, hs⟩
        obtain ⟨request, hp⟩ := ready.prepare
        exact hp ▸ .ready ready
      · obtain ⟨header, hb⟩ := bearer_of_sendable ht
        obtain ⟨url, ha⟩ := addressed_of_not_sendable hs
        rw [prepare_of_parsed r hu, hb, ha]
        exact .address hu ht hs
    · rw [prepare_of_parsed r hu, bearer_of_not_sendable ht]
      exact .token hu ht

def Final (status : Nat) : Prop := status = 101 ∨ 200 ≤ status ∧ status ≤ 999

instance (status : Nat) : Decidable (Final status) :=
  inferInstanceAs (Decidable (status = 101 ∨ 200 ≤ status ∧ status ≤ 999))

/-- A reply comes whole and in time. -/
def Arrives (timeout : Option Duration) (n : Network) (x : HttpResponse) : Prop :=
  ∃ reply rest, n = .scripted (reply :: rest) ∧ reply.delivery = .complete ∧
    Final reply.status ∧ (∀ t ∈ timeout, reply.delay.milliseconds < t.milliseconds) ∧
    x = ⟨reply.status, if bodiless reply.status then .empty else reply.body⟩

def Answered (c : Configuration) (op : Operation) (r : op.Request) (own : Option Duration)
    (n : Network) (x : HttpResponse) : Prop :=
  ∃ u, Ready c op r u ∧ Arrives (own.or c.timeout) n x

theorem isFinal_iff (status : Nat) : isFinal status = true ↔ Final status := by
  simp [isFinal, Final]

theorem response?_eq_some_iff (reply : Reply) (timeout : Option Duration) (x : HttpResponse) :
    reply.response? timeout = some x ↔ reply.delivery = .complete ∧ Final reply.status ∧
      (∀ t ∈ timeout, reply.delay.milliseconds < t.milliseconds) ∧
      x = ⟨reply.status, if bodiless reply.status then .empty else reply.body⟩ := by
  have late : (timeout.any fun t => decide (t.milliseconds ≤ reply.delay.milliseconds)) = false ↔
      ∀ t ∈ timeout, reply.delay.milliseconds < t.milliseconds := by
    cases timeout <;> simp
  simp only [Reply.response?, isFinal_iff, late]
  split
  · next h =>
    rw [Option.some.injEq, eq_comm]
    exact ⟨fun hx => ⟨h.1, h.2.1, h.2.2, hx⟩, fun hx => hx.2.2.2⟩
  · next h =>
    simp only [reduceCtorEq, false_iff]
    exact fun hx => h ⟨hx.1, hx.2.1, hx.2.2.1⟩

theorem response_exchange_iff {n : Network} {timeout : Option Duration} {request : HttpRequest}
    (x : HttpResponse) : (n.exchange timeout request).response = some x ↔ Arrives timeout n x := by
  unfold Network.exchange Arrives
  split
  · simp
  · simp
  · simp [response?_eq_some_iff]

theorem Arrives.unique {timeout : Option Duration} {n : Network} {x y : HttpResponse}
    (hx : Arrives timeout n x) (hy : Arrives timeout n y) : x = y := by
  obtain ⟨reply, rest, hn, -, -, -, rfl⟩ := hx
  obtain ⟨reply', rest', hn', -, -, -, rfl⟩ := hy
  obtain rfl : reply = reply' := by simpa using (List.cons.inj (Network.scripted.inj
    (hn.symm.trans hn'))).1
  rfl

def Successful (x : HttpResponse) : Prop := 200 ≤ x.status ∧ x.status < 300

def TokenBlank : (op : Operation) → op.Response → Prop
  | .login, y => blank (LoginResponse.token y) = true
  | .remoteList, _ => False
  | .downloadBegin, _ => False
  | .downloadPause, _ => False
  | .downloadResume, _ => False
  | .downloadRemove, _ => False
  | .downloadStatus, _ => False

def emptyToken : DecodeFailure := ⟨.custom "login response carried an empty token", none⟩

theorem checked_of_tokenBlank {op : Operation} {y : op.Response} (h : TokenBlank op y) :
    checked op y = .error (.decode emptyToken) := by
  cases op with
  | login => exact if_pos h
  | _ => exact h.elim

theorem checked_of_not_tokenBlank {op : Operation} {y : op.Response} (h : ¬ TokenBlank op y) :
    checked op y = .ok y := by
  cases op with
  | login => exact if_neg h
  | _ => rfl

inductive Judged [Locator] (op : Operation) (x : HttpResponse) : Except Cause op.Response → Prop
  | status (hs : ¬ Successful x) : Judged op x (.error (.status x.status
      ((Reader.any.readBytes x.body).toOption.bind Envelope.ofErrorBody?)))
  | undecoded {reason : DecodeError} (hs : Successful x)
      (hy : op.reader.readBytes x.body = .error reason) :
      Judged op x (.error (.decode (op.unread x.body reason)))
  | rejected {y : op.Response} (hs : Successful x) (hy : op.reader.readBytes x.body = .ok y)
      (hc : (op.envelope y).code ≠ 0) :
      Judged op x (.error (.server (op.envelope y).code (op.envelope y).message))
  | tokenless {y : op.Response} (hs : Successful x) (hy : op.reader.readBytes x.body = .ok y)
      (hc : (op.envelope y).code = 0) (hb : TokenBlank op y) :
      Judged op x (.error (.decode emptyToken))
  | accepted {y : op.Response} (hs : Successful x) (hy : op.reader.readBytes x.body = .ok y)
      (hc : (op.envelope y).code = 0) (hb : ¬ TokenBlank op y) : Judged op x (.ok y)

theorem errorBody?_eq (body : ByteArray) :
    errorBody? body = (Reader.any.readBytes body).toOption.bind Envelope.ofErrorBody? := by
  unfold errorBody?
  split <;> simp [*, Except.toOption]

section Classify

variable [Locator] {op : Operation} {x : HttpResponse} {y : op.Response}

theorem classify_of_not_successful (h : ¬ Successful x) :
    classify op x = .error (.status x.status
      ((Reader.any.readBytes x.body).toOption.bind Envelope.ofErrorBody?)) := by
  have hs : x.isSuccess = false := by simpa [HttpResponse.isSuccess, Successful] using h
  rw [classify, if_pos hs, errorBody?_eq]

theorem classify_of_undecodable (h : Successful x) {reason : DecodeError}
    (he : op.reader.readBytes x.body = .error reason) :
    classify op x = .error (.decode (op.unread x.body reason)) := by
  have hs : x.isSuccess = true := by simpa [HttpResponse.isSuccess, Successful] using h
  simp [classify, hs, he]

theorem classify_of_decoded (h : Successful x) (hy : op.reader.readBytes x.body = .ok y) :
    classify op x = if (op.envelope y).code = 0 then checked op y
      else .error (.server (op.envelope y).code (op.envelope y).message) := by
  have hs : x.isSuccess = true := by simpa [HttpResponse.isSuccess, Successful] using h
  simp [classify, hs, hy, Envelope.isSuccess, Envelope.successCode]

theorem judged_classify (op : Operation) (x : HttpResponse) : Judged op x (classify op x) := by
  by_cases hs : Successful x
  · cases hy : op.reader.readBytes x.body with
    | error e =>
      rw [classify_of_undecodable hs hy]
      exact .undecoded hs hy
    | ok y =>
      rw [classify_of_decoded hs hy]
      by_cases hc : (op.envelope y).code = 0
      · rw [if_pos hc]
        by_cases hb : TokenBlank op y
        · rw [checked_of_tokenBlank hb]
          exact .tokenless hs hy hc hb
        · rw [checked_of_not_tokenBlank hb]
          exact .accepted hs hy hc hb
      · rw [if_neg hc]
        exact .rejected hs hy hc
  · rw [classify_of_not_successful hs]
    exact .status hs

theorem classify_ne_unsent (op : Operation) (x : HttpResponse) :
    (∀ e, classify op x ≠ .error (.setup e)) ∧ classify op x ≠ .error .noResponse := by
  have judged := judged_classify op x
  generalize classify op x = result at judged
  cases judged <;> simp

theorem classify_eq_ok_iff : classify op x = .ok y ↔ Successful x ∧
    op.reader.readBytes x.body = .ok y ∧ (op.envelope y).code = 0 ∧ ¬ TokenBlank op y := by
  have judged := judged_classify op x
  generalize classify op x = result at judged
  cases judged with
  | status hs => simp [hs]
  | undecoded hs hy => simp [hy]
  | rejected hs hy hc =>
    simp only [hy, reduceCtorEq, Except.ok.injEq, false_iff]
    rintro ⟨-, rfl, h, -⟩
    exact hc h
  | tokenless hs hy hc hb =>
    simp only [hy, reduceCtorEq, Except.ok.injEq, false_iff]
    rintro ⟨-, rfl, -, h⟩
    exact h hb
  | accepted hs hy hc hb =>
    simp only [hs, hy, true_and, Except.ok.injEq]
    exact ⟨fun e => e ▸ ⟨rfl, hc, hb⟩, fun h => h.1⟩

end Classify

theorem received_exchange (timeout : Option Duration) (q : HttpRequest) (replies : List Reply) :
    ((Network.scripted replies).exchange timeout q).received = [q] := by
  cases replies <;> rfl

theorem length_received_exchange (n : Network) (timeout : Option Duration) (r : HttpRequest) :
    (n.exchange timeout r).received.length ≤ 1 := by
  unfold Network.exchange
  split <;> simp

section Call

variable {c : Configuration} {op : Operation} {r : op.Request} {own : Option Duration}
  {n : Network}

theorem Ready.answered {u : Address} (h : Ready c op r u) (own : Option Duration) (status : Nat)
    (body : ByteArray) (rest : List Reply) (final : Final status) (hs : bodiless status = false)
    (patient : ∀ t ∈ own.or c.timeout, 0 < t.milliseconds) :
    Answered c op r own (.scripted ({ status, body } :: rest)) ⟨status, body⟩ :=
  ⟨u, h, _, rest, rfl, rfl, final, patient, by simp [hs]⟩

theorem not_unparsed {u : Address}
    (h : Address.ofString (endpointText c.baseUrl op.path) = .ok u) (raw : String)
    (e : AddressError) :
    ¬ (raw = endpointText c.baseUrl op.path ∧ Address.ofString raw = .error e) := by
  rintro ⟨rfl, he⟩
  rw [h] at he
  cases he

theorem Ready.result_call [Locator] {u : Address} (h : Ready c op r u) (own : Option Duration)
    (n : Network) :
    ((∃ y, Arrives (own.or c.timeout) n y ∧ (call c op r own n).result = classify op y) ∨
      (¬ ∃ y, Arrives (own.or c.timeout) n y) ∧
        (call c op r own n).result = .error .noResponse) ∧
      (call c op r own n).received.length ≤ 1 := by
  obtain ⟨request, hp⟩ := h.prepare
  rw [call, hp]
  refine ⟨?_, length_received_exchange _ _ _⟩
  cases hx : (n.exchange (own.or c.timeout) request).response with
  | none =>
    refine .inr ⟨fun ⟨y, hy⟩ => ?_, by rw [send, hx, conclude]⟩
    rw [(response_exchange_iff y).2 hy] at hx
    cases hx
  | some y => exact .inl ⟨y, (response_exchange_iff y).1 hx, by rw [send, hx, conclude]⟩

theorem Answered.result [Locator] {y : HttpResponse} (h : Answered c op r own n y) :
    (call c op r own n).result = classify op y := by
  obtain ⟨u, hu, ha⟩ := h
  obtain ⟨⟨z, hz, hx⟩ | ⟨hn, -⟩, -⟩ := hu.result_call own n
  · rw [hx, hz.unique ha]
  · exact absurd ⟨y, ha⟩ hn

end Call

def exampleEndpoint (op : Operation) : Address :=
  ⟨"http".toList, some ⟨[], none, .domain "a.example".toList, none⟩,
    .segments ["api".toList, op.name.toList], none, none⟩

theorem ready_example (op : Operation) (r : op.Request)
    (length : (located op r (anonymous (exampleEndpoint op))).text.length ≤ 65534) :
    Ready (.of "http://a.example" none none) op r (exampleEndpoint op) where
  parsed := by cases op <;> cbv
  token := tokenSendable_of_none _
  sendable := ⟨.inl rfl, by simp [exampleEndpoint, Address.host],
    by simp [exampleEndpoint, Address.host, Host.text], length⟩

end DownloadClient.Client
