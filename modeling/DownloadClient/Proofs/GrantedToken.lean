import DownloadClient.Proofs.Endpoint
import DownloadClient.Proofs.RoundTrip

/-! The token that a login leaves behind. A login takes any token that is not blank, but the token
goes into a header, and headers hold no control characters. Once a token with such a character is
stored no request is sent any more, not even another login. -/

namespace DownloadClient.Client

open DownloadClient.Api DownloadClient.Session DownloadClient.Text DownloadClient.Web

def Unbearable (token : String) : Prop := ∃ b ∈ token.toUTF8.data, HeaderForbids b

def TooLong (url : String) (op : Operation) (r : op.Request) : Prop :=
  ∃ u, Address.ofString (endpointText url op.path) = .ok u ∧
    longestAddress < (located op r (anonymous u)).text.length

/-- What a URL must be for requests to reach a backend, whatever they are. -/
def Reachable (url : String) : Prop :=
  ∀ op : Operation, ∃ u, Address.ofString (endpointText url op.path) = .ok u ∧
    (u.scheme = "http".toList ∨ u.scheme = "https".toList) ∧ u.host ≠ .empty ∧
    ∀ x ∈ ['"', '\x60', '{', '}'], x ∉ u.host.text

section Prepare

variable {c : Configuration} {op : Operation} {r : op.Request}

theorem exists_prepare_eq_error_iff :
    (∃ e, prepare c op r = .error e) ↔ ¬ ∃ u, Ready c op r u := by
  constructor
  · rintro ⟨e, he⟩ ⟨u, hu⟩
    obtain ⟨request, hp⟩ := hu.prepare
    simp [he] at hp
  · intro h
    have prepares := prepares_prepare c op r
    generalize prepare c op r = prepared at prepares
    cases prepares with
    | unparsed hu => exact ⟨_, rfl⟩
    | token hu ht => exact ⟨_, rfl⟩
    | address hu ht hs => exact ⟨_, rfl⟩
    | ready hr => exact absurd ⟨_, hr⟩ h

theorem ready_of_call_eq_ok [Locator] {own : Option Duration} {n : Network} {y : op.Response}
    (h : (call c op r own n).result = .ok y) : ∃ u, Ready c op r u := by
  refine not_not.1 fun unsent => ?_
  obtain ⟨e, he⟩ := exists_prepare_eq_error_iff.2 unsent
  simp [call_eq_setup_iff.2 he] at h

theorem Ready.reachable {u : Address} (h : Ready c op r u) : Reachable c.baseUrl := by
  intro other
  have special : Address.Kind.of u.scheme = .special := by
    obtain plain | secure := h.sendable.scheme
    · rw [plain]
      rfl
    · rw [secure]
      rfl
  -- All endpoints have the same front, so they share scheme and authority.
  have parsed := h.parsed
  rw [Address.ofString, toList_endpointText] at parsed
  obtain ⟨v, hv, scheme, authority⟩ :=
    Address.exists_parse_of_special (tail_name op) (tail_name other) parsed special
  have host : v.host = u.host := by rw [Address.host, authority, Address.host]
  refine ⟨v, ?_, ?_, ?_⟩
  · rw [Address.ofString, toList_endpointText, hv]
  · rw [scheme]
    exact h.sendable.scheme
  · rw [host]
    exact ⟨h.sendable.host, h.sendable.characters⟩

theorem Reachable.exists_ready_iff (h : Reachable c.baseUrl) :
    (∃ u, Ready c op r u) ↔ TokenSendable c ∧ ¬ TooLong c.baseUrl op r := by
  obtain ⟨u, hu, scheme, host, characters⟩ := h op
  constructor
  · rintro ⟨v, hv⟩
    refine ⟨hv.token, ?_⟩
    rintro ⟨w, hw, long⟩
    obtain rfl : v = w := by simpa using hv.parsed.symm.trans hw
    exact absurd hv.sendable.length long.not_ge
  · rintro ⟨token, short⟩
    exact ⟨u, hu, token, scheme, host, characters, not_lt.1 fun long => short ⟨u, hu, long⟩⟩

theorem received_call_iff [Locator] (own : Option Duration) (replies : List Reply) :
    (∃ request, (call c op r own (.scripted replies)).received = [request]) ↔
      ∃ u, Ready c op r u := by
  constructor
  · rintro ⟨request, received⟩
    refine not_not.1 fun unsent => ?_
    obtain ⟨e, he⟩ := exists_prepare_eq_error_iff.2 unsent
    simp [call, he, send] at received
  · rintro ⟨u, hu⟩
    obtain ⟨request, hp⟩ := hu.prepare
    refine ⟨request, ?_⟩
    rw [call, hp, send]
    exact received_exchange _ request replies

end Prepare

namespace Services

theorem exists_call_eq_setup_iff [Locator] {σ : Type} [Store σ] (s : Services σ) (op : Operation)
    (r : op.Request) (n : Network) :
    (∃ name e, (s.call op r n).result = .error ⟨name, .setup e⟩) ↔
      ¬ ∃ u, Ready (s.client op) op r u := by
  rw [← exists_prepare_eq_error_iff]
  simp [call_eq_setup_iff]

variable {s : Services State}

theorem Attentive.tokenSendable_client_iff (h : s.Attentive) (token : blank s.session.token = false)
    (op : Operation) : TokenSendable (s.client op) ↔ ¬ Unbearable s.session.token := by
  rw [TokenSendable, (h.seen_client op).2, Cache.accessToken_configuration, Cache.usableToken,
    token]
  simp [Unbearable]

theorem Attentive.exists_ready_iff (h : s.Attentive) (token : blank s.session.token = false)
    (reachable : Reachable s.session.url) (op : Operation) (r : op.Request) :
    (∃ u, Ready (s.client op) op r u) ↔
      ¬ (Unbearable s.session.token ∨ TooLong s.session.url op r) := by
  have url : (s.client op).baseUrl = s.session.url := (h.seen_client op).1
  rw [(url ▸ reachable : Reachable (s.client op).baseUrl).exists_ready_iff,
    h.tokenSendable_client_iff token, url, not_or]

structure Stuck (s : Services State) : Prop where
  attentive : s.Attentive
  token : blank s.session.token = false
  unbearable : Unbearable s.session.token

def Action.KeepsToken : Action → Prop
  | .setBackendUrl _ => True
  | .logout => False
  | .setToken _ => False
  | .clearToken => False
  | .call _ _ => True

theorem Stuck.not_ready (h : s.Stuck) (op : Operation) (r : op.Request) :
    ¬ ∃ u, Ready (s.client op) op r u :=
  fun ⟨_, hu⟩ => (h.attentive.tokenSendable_client_iff h.token op).1 hu.token h.unbearable

theorem Stuck.call [Locator] (h : s.Stuck) (op : Operation) (r : op.Request) (n : Network) :
    (s.call op r n).received = [] ∧ (s.call op r n).services.session = s.session := by
  obtain ⟨e, he⟩ := exists_prepare_eq_error_iff.2 (h.not_ready op r)
  refine ⟨?_, session_call_of_error s op r n ((s.call_eq_setup_iff op r n).2 ⟨rfl, he⟩)⟩
  rw [received_call, Client.call, he, send]

theorem Stuck.act [Locator] (h : s.Stuck) (n : Network) {a : Action} (keeps : a.KeepsToken) :
    (s.act n a).1.Stuck ∧ (s.act n a).2.received = [] := by
  cases a with
  | setBackendUrl url =>
    exact ⟨⟨h.attentive.withSession _, h.token, h.unbearable⟩, rfl⟩
  | call op r =>
    obtain ⟨received, session⟩ := h.call op r n
    have attentive := h.attentive.call op r n
    simp only [Services.act]
    generalize s.call op r n = x at received session attentive
    exact ⟨⟨attentive, session ▸ h.token, session ▸ h.unbearable⟩, received⟩
  | logout => exact keeps.elim
  | setToken token => exact keeps.elim
  | clearToken => exact keeps.elim

theorem Stuck.trace [Locator] (h : s.Stuck) (n : Network) {actions : List Action}
    (keeps : ∀ a ∈ actions, a.KeepsToken) : ∀ o ∈ s.trace n actions, o.received = [] := by
  induction actions generalizing s n with
  | nil => simp [Services.trace]
  | cons a rest ih =>
    obtain ⟨first, later⟩ := List.forall_mem_cons.1 keeps
    obtain ⟨stuck, received⟩ := h.act n first
    rw [Services.trace]
    exact List.forall_mem_cons.2 ⟨received, ih stuck _ later⟩

structure LoggedIn (s : Services State) (url token : String) : Prop where
  attentive : s.Attentive
  session_url : s.session.url = url
  session_token : s.session.token = token
  token : blank token = false
  reachable : Reachable url

theorem Attentive.loggedIn [Locator] (h : s.Attentive) {q : LoginRequest} {n : Network}
    {y : LoginResponse} (granted : (s.call .login q n).result = .ok y) :
    (s.call .login q n).services.LoggedIn s.session.url y.token where
  attentive := h.call .login q n
  session_url := s.url_call .login q n
  session_token := by
    have called := call_eq_ok_iff.1 granted
    simp only [Services.call]
    rw [called]
    rfl
  token := by
    obtain ⟨-, -, -, -, -, -, -, -, -, -, -, hb⟩ := s.call_of_ok .login q n granted
    exact Bool.eq_false_iff.2 hb
  reachable := by
    obtain ⟨u, hu⟩ := ready_of_call_eq_ok (call_eq_ok_iff.1 granted)
    have url : (s.client .login).baseUrl = s.session.url := (h.seen_client .login).1
    exact url ▸ hu.reachable

theorem login_of_written [Locator] {q : LoginRequest} {u : Address}
    (ready : Ready (s.client .login) .login q u) (patient : 0 < (s.budgets.get .login).milliseconds)
    {y : LoginResponse} (success : y.envelope.code = 0) (token : blank y.token = false)
    (rest : List Reply) :
    (s.call .login q (.scripted ({ body := y.toJson.compact.toUTF8 } :: rest))).result = .ok y := by
  have read : LoginResponse.reader.readBytes y.toJson.compact.toUTF8 = .ok y := by
    rw [Json.Reader.readBytes, symbols_toUTF8]
    exact readText_compact (y.returns.mono (by decide))
  have answered : Answered (s.client .login) .login q (some (s.budgets.get .login))
      (.scripted ({ body := y.toJson.compact.toUTF8 } :: rest)) ⟨200, y.toJson.compact.toUTF8⟩ :=
    ready.answered _ _ _ rest (by decide) rfl (by simpa using patient)
  rw [call_eq_ok_iff, answered.result, classify_eq_ok_iff]
  exact ⟨⟨le_rfl, (by decide : 200 < 300)⟩, read, success, Bool.eq_false_iff.1 token⟩

/-- After a login that succeeded a call is not set up if its token cannot stand in a header, or if
its URL is too long; other calls are sent. In the first case nothing is sent any more, until there
is another token. -/
theorem setup_after_login_iff [Locator] (h : s.Attentive) {q : LoginRequest} {n : Network}
    {y : LoginResponse} (granted : (s.call .login q n).result = .ok y) :
    let t := (s.call .login q n).services
    (∀ op r,
      (∀ m, (∃ name e, (t.call op r m).result = .error ⟨name, .setup e⟩) ↔
        Unbearable y.token ∨ TooLong s.session.url op r) ∧
      ∀ replies, (∃ request, (t.call op r (.scripted replies)).received = [request]) ↔
        ¬ (Unbearable y.token ∨ TooLong s.session.url op r)) ∧
    (Unbearable y.token → ∀ m actions, (∀ a ∈ actions, a.KeepsToken) →
      ∀ o ∈ t.trace m actions, o.received = []) := by
  intro t
  have login : t.LoggedIn s.session.url y.token := h.loggedIn granted
  generalize t = t at login
  obtain ⟨attentive, url, token, notBlank, reachable⟩ := login
  rw [← token] at notBlank ⊢
  rw [← url] at reachable ⊢
  refine ⟨fun op r => ?_, fun unbearable m actions keeps =>
    (Stuck.mk attentive notBlank unbearable).trace m keeps⟩
  have ready := attentive.exists_ready_iff notBlank reachable op r
  refine ⟨fun m => ?_, fun replies => ?_⟩
  · rw [exists_call_eq_setup_iff, ready, not_not]
  · rw [received_call, received_call_iff, ready]

theorem line_feed_granted :
    letI := Locator.atEnd
    let s : Services State := .of ⟨"http://a.example", "", none⟩ .urlOrToken
    let y : LoginResponse := ⟨⟨0, "success"⟩, "bad\ntoken"⟩
    let x := s.call .login ⟨"a", "b"⟩ (.scripted [{ body := y.toJson.compact.toUTF8 }])
    x.result = .ok y ∧
    (∃ name e, (x.services.call .login ⟨"a", "b"⟩ (.scripted [{}])).result =
      .error ⟨name, .setup e⟩) ∧
    ¬ ∃ request, (x.services.call .downloadPause ⟨"f"⟩ (.scripted [{}])).received = [request] := by
  intro s y x
  let := Locator.atEnd
  have client : s.client .login = .of "http://a.example" none none :=
    (sound_of _ _ _).client_eq .login
  have ready : Ready (s.client .login) .login ⟨"a", "b"⟩ (exampleEndpoint .login) := by
    rw [client]
    exact ready_example .login ⟨"a", "b"⟩ (by decide)
  have granted : x.result = .ok y := login_of_written ready (by decide) rfl (by decide) []
  have unbearable : Unbearable y.token := ⟨10, by decide +kernel, .inl ⟨by decide, by decide⟩⟩
  obtain ⟨calls, -⟩ := setup_after_login_iff (attentive_of _ _) granted
  refine ⟨granted, ((calls .login _).1 _).2 (.inl unbearable), ?_⟩
  rw [(calls .downloadPause _).2]
  exact not_not.2 (.inl unbearable)

end Services
end DownloadClient.Client
