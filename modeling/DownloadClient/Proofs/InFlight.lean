import Mathlib
import DownloadClient.Client.Services
import DownloadClient.Proofs.Json.Value
import DownloadClient.Proofs.Services

/-! Calls in flight. A call begins with a client and a request, and ends, some time later, with what
came back; other calls, switches of the backend and logouts happen in between, in any order. Only a
login that succeeds writes to the session, and only when it ends; the request of a call belongs to
the session in which the call began. -/

namespace DownloadClient.Session

def Write.apply {σ : Type} [Store σ] (s : σ) : Write → σ
  | .url u => Store.setBackendUrl u s
  | .token t => Store.setToken t s
  | .logout => Store.clearToken s

def Write.url? : Write → Option String
  | .url u => some u
  | .token _ | .logout => none

def Write.token? : Write → Option String
  | .token t => some t
  | .logout => some ""
  | .url _ => none

theorem url_foldl_apply (s : State) (ws : List Write) :
    (ws.foldl Write.apply s).url = (ws.filterMap Write.url?).getLast?.getD s.url := by
  induction ws generalizing s with
  | nil => rfl
  | cons w ws ih =>
    rw [List.foldl_cons, ih]
    cases w with
    | url u =>
      simp only [List.filterMap_cons, Write.url?, List.getLast?_cons]
      rfl
    | token t => rfl
    | logout => rfl

theorem token_foldl_apply (s : State) (ws : List Write) :
    (ws.foldl Write.apply s).token = (ws.filterMap Write.token?).getLast?.getD s.token := by
  induction ws generalizing s with
  | nil => rfl
  | cons w ws ih =>
    rw [List.foldl_cons, ih]
    cases w with
    | url u => rfl
    | token t =>
      simp only [List.filterMap_cons, Write.token?, List.getLast?_cons]
      rfl
    | logout =>
      simp only [List.filterMap_cons, Write.token?, List.getLast?_cons]
      rfl

theorem writes_foldl_apply (s : Recorder) (ws : List Write) :
    (ws.foldl Write.apply s).writes = s.writes ++ ws := by
  induction ws generalizing s with
  | nil => simp
  | cons w ws ih =>
    have first : (Write.apply s w).writes = s.writes ++ [w] := by cases w <;> rfl
    rw [List.foldl_cons, ih, first, List.append_assoc, List.singleton_append]

end DownloadClient.Session

namespace DownloadClient.Client

open DownloadClient.Api DownloadClient.Session DownloadClient.Web

structure Flight where
  op : Operation
  request : op.Request
  prepared : Prepared

namespace Flight

variable {σ : Type} [Store σ]

def of (s : Services σ) (op : Operation) (r : op.Request) : Flight :=
  ⟨op, r, prepare (s.client op) op r⟩

def land [Locator] (f : Flight) (response : Option HttpResponse) : Except Cause f.op.Response :=
  match f.prepared with
  | .error e => .error (.setup e)
  | .ok _ => conclude f.op response

theorem exists_land_eq_send [Locator] (op : Operation) (r : op.Request) (p : Prepared)
    (timeout : Option Duration) (n : Network) :
    ∃ response, land ⟨op, r, p⟩ response = (send op timeout n p).result := by
  cases p with
  | error e => exact ⟨none, rfl⟩
  | ok request => exact ⟨(n.exchange timeout request).response, rfl⟩

/-- A call is its beginning and its end, with nothing in between. -/
theorem exists_land_eq_call [Locator] (s : Services σ) (op : Operation) (r : op.Request)
    (n : Network) :
    ∃ response,
      (s.call op r n).services = (s.refreshed op).finish op ((of s op r).land response) ∧
      (s.call op r n).result = ((of s op r).land response).mapError (CallError.mk op.name) := by
  obtain ⟨response, h⟩ := exists_land_eq_send op r (prepare (s.client op) op r)
    ((some (s.budgets.get op)).or (s.client op).timeout) n
  refine ⟨response, ?_, ?_⟩
  · simp only [Services.call, Client.call, of, h]
  · simp only [Services.call, Client.call, of, h]

end Flight

def grantedToken? : (op : Operation) → Except Cause op.Response → Option String
  | .login, .ok r => some (LoginResponse.token r)
  | _, _ => none

inductive Happening
  | switched (url : String)
  | loggedOut
  | started (f : Flight)
  | ended (f : Flight) (response : Option HttpResponse)

namespace Happening

def write? [Locator] : Happening → Option Write
  | .switched url => some (.url url)
  | .loggedOut => some .logout
  | .started _ => none
  | .ended f response => (grantedToken? f.op (f.land response)).map .token

def started? : Happening → Option Flight
  | .started f => some f
  | .switched _ | .loggedOut | .ended _ _ => none

def ended? : Happening → Option Flight
  | .ended f _ => some f
  | .switched _ | .loggedOut | .started _ => none

end Happening

structure Traffic (σ : Type) where
  services : Services σ
  flights : List Flight
  past : List Happening

namespace Traffic

/-- What may come next. The call that ends is any of those in flight. -/
inductive Event
  | setBackendUrl (url : String)
  | logout
  | start (op : Operation) (r : op.Request)
  | finish (i : Nat) (response : Option HttpResponse)

variable {σ : Type} [Store σ]

def of (session : σ) (budgets : PerOperation Duration) : Traffic σ :=
  ⟨.of session .urlOrToken budgets, [], []⟩

def step [Locator] (t : Traffic σ) : Event → Traffic σ
  | .setBackendUrl url =>
    { t with services := t.services.setBackendUrl url, past := t.past ++ [.switched url] }
  | .logout => { t with services := t.services.logout, past := t.past ++ [.loggedOut] }
  | .start op r =>
    let f := Flight.of t.services op r
    ⟨t.services.refreshed op, t.flights ++ [f], t.past ++ [.started f]⟩
  | .finish i response =>
    match t.flights[i]? with
    | none => t
    | some f =>
      ⟨t.services.finish f.op (f.land response), t.flights.eraseIdx i,
        t.past ++ [.ended f response]⟩

def run [Locator] (session : σ) (budgets : PerOperation Duration) (events : List Event) :
    Traffic σ :=
  events.foldl step (.of session budgets)

def sessionAfter [Locator] (session : σ) (past : List Happening) : σ :=
  (past.filterMap Happening.write?).foldl Write.apply session

end Traffic

theorem prepare_congr {c c' : Configuration} (hu : c.baseUrl = c'.baseUrl)
    (ht : c.accessToken = c'.accessToken) (op : Operation) (r : op.Request) :
    prepare c op r = prepare c' op r := by
  simp only [prepare, bearer, hu, ht]

theorem bearer_eq_ok {c : Configuration} {header : Option String} (h : bearer c = .ok header) :
    header = c.accessToken.map ("Bearer " ++ ·) := by
  unfold bearer at h
  split at h
  · next ht => simpa [ht, eq_comm] using h
  · next t ht =>
    split at h
    · simpa [ht, eq_comm] using h
    · cases h

theorem addressed_eq_ok {op : Operation} {r : op.Request} {u whole : Address}
    (h : addressed op r u = .ok whole) : whole = located op r (anonymous u) := by
  unfold addressed at h
  split at h
  · cases h
  · dsimp only at h
    split at h
    · exact (Except.ok.inj h).symm
    · cases h

/-- Where a request goes, and the token that it carries. Credentials in the address take the place
of the token. -/
structure HttpRequest.Bears (request : HttpRequest) (url : String) (token : Option String)
    (op : Operation) (r : op.Request) : Prop where
  goes : ∃ u, Address.ofString (endpointText url op.path) = .ok u ∧
    request.url = (located op r (anonymous u)).target ∧
    request.authorization = (basic? u).or (token.map ("Bearer " ++ ·))

theorem bears_of_prepare {c : Configuration} {op : Operation} {r : op.Request}
    {request : HttpRequest} (h : prepare c op r = .ok request) :
    request.Bears c.baseUrl c.accessToken op r := by
  obtain ⟨u, hu, h⟩ := Json.bind_eq_ok.1 h
  obtain ⟨header, hb, h⟩ := Json.bind_eq_ok.1 h
  obtain ⟨whole, ha, h⟩ := Json.bind_eq_ok.1 h
  obtain rfl := bearer_eq_ok hb
  obtain rfl := addressed_eq_ok ha
  cases h
  cases hp : Address.ofString (endpointText c.baseUrl op.path) with
  | error e =>
    rw [endpoint, hp] at hu
    cases hu
  | ok v =>
    rw [endpoint, hp] at hu
    cases hu
    refine ⟨u, hp, ?_, ?_⟩
    · unfold carried
      split <;> rfl
    · unfold carried
      split <;> rfl

theorem Cache.Bound.current_refresh {c : Cache} (h : c.Bound) (hp : c.policy = .urlOrToken)
    (config : Configuration) : (c.refresh config).client.config.baseUrl = config.baseUrl ∧
      (c.refresh config).client.config.accessToken = config.accessToken :=
  ⟨h.baseUrl_refresh config, h.accessToken_refresh hp config⟩

namespace Services

variable {σ : Type} [Store σ]

structure Attentive (s : Services σ) : Prop where
  policy_eq : ∀ op, (s.caches.get op).policy = .urlOrToken
  bound : ∀ op, (s.caches.get op).Bound

theorem attentive_of (session : σ) (budgets : PerOperation Duration) :
    (of session .urlOrToken budgets).Attentive where
  policy_eq op := by rw [of, PerOperation.get_uniform]; rfl
  bound op := by rw [of, PerOperation.get_uniform]; exact Cache.bound_build _ _ _

theorem Attentive.refreshed {s : Services σ} (h : s.Attentive) (op : Operation) :
    (s.refreshed op).Attentive where
  policy_eq other := by
    rw [caches_refreshed]
    split <;> simp [h.policy_eq]
  bound other := by
    rw [caches_refreshed]
    split
    · exact (h.bound op).refresh _
    · exact h.bound other

omit [Store σ] in
theorem Attentive.withSession {s : Services σ} (h : s.Attentive) (session : σ) :
    Attentive { s with session } :=
  ⟨h.policy_eq, h.bound⟩

theorem Attentive.seen_client {s : Services σ} (h : s.Attentive) (op : Operation) :
    (s.client op).baseUrl = (Store.configuration s.session).baseUrl ∧
      (s.client op).accessToken = (Store.configuration s.session).accessToken := by
  rw [client, caches_refreshed, if_pos rfl]
  exact (h.bound op).current_refresh (h.policy_eq op) (Store.configuration s.session)

theorem Attentive.prepare_client {s : Services σ} (h : s.Attentive) (op : Operation)
    (r : op.Request) :
    prepare (s.client op) op r = prepare (Store.configuration s.session) op r :=
  prepare_congr (h.seen_client op).1 (h.seen_client op).2 op r

end Services

structure Flight.BegunIn {σ : Type} [Store σ] (f : Flight) (session : σ) : Prop where
  prepared_eq : f.prepared = prepare (Store.configuration session) f.op f.request
  bears : ∀ request, f.prepared = .ok request → request.Bears (Store.backendUrl session)
    (Configuration.normalToken (Store.accessToken session)) f.op f.request

namespace Traffic

variable {σ : Type} [Store σ]

theorem sessionAfter_append [Locator] (session : σ) (past : List Happening) (h : Happening) :
    sessionAfter session (past ++ [h]) =
      (h.write?.map (Write.apply (sessionAfter session past))).getD
        (sessionAfter session past) := by
  cases hw : h.write? <;> simp [sessionAfter, List.filterMap_append, hw]

theorem login_ok_of_grantedToken? {op : Operation} {result : Except Cause op.Response}
    {token : String} (h : grantedToken? op result = some token) :
    op = .login ∧ ∃ y, result = .ok y := by
  cases op with
  | login =>
    cases result with
    | error e => cases h
    | ok y => exact ⟨rfl, y, rfl⟩
  | _ => cases h

theorem stored_eq (session : σ) (op : Operation) (result : Except Cause op.Response) :
    Services.stored session op result =
      ((grantedToken? op result).map fun t => Store.setToken t session).getD session := by
  cases op with
  | login => cases result <;> rfl
  | _ => rfl

def Grants [Locator] (t : Traffic σ) (e : Event) : Prop :=
  ∃ i response f, e = .finish i response ∧ t.flights[i]? = some f ∧ f.op = .login ∧
    ∃ y, f.land response = .ok y

theorem step_finish_of_none [Locator] {t : Traffic σ} {i : Nat} (h : t.flights[i]? = none)
    (response : Option HttpResponse) : t.step (.finish i response) = t := by
  rw [step, h]

theorem step_finish_of_some [Locator] {t : Traffic σ} {i : Nat} {f : Flight}
    (h : t.flights[i]? = some f) (response : Option HttpResponse) : t.step (.finish i response) =
      ⟨t.services.finish f.op (f.land response), t.flights.eraseIdx i,
        t.past ++ [.ended f response]⟩ := by
  rw [step, h]

theorem session_step [Locator] (t : Traffic σ) (e : Event) :
    (t.step e).services.session = t.services.session ∨
      (∃ url, e = .setBackendUrl url) ∨ e = .logout ∨ t.Grants e := by
  cases e with
  | setBackendUrl url => exact .inr (.inl ⟨url, rfl⟩)
  | logout => exact .inr (.inr (.inl rfl))
  | start op r => exact .inl rfl
  | finish i response =>
    cases hf : t.flights[i]? with
    | none => exact .inl (by rw [step_finish_of_none hf])
    | some f =>
      cases hg : grantedToken? f.op (f.land response) with
      | none =>
        refine .inl ?_
        rw [step_finish_of_some hf, Services.finish, stored_eq, hg]
        rfl
      | some token =>
        exact .inr (.inr (.inr ⟨i, response, f, rfl, hf, login_ok_of_grantedToken? hg⟩))

/-- What every run keeps. The session is what was written to it, each call began in the session of
its time, and the calls that began are those that ended and those in flight. -/
structure Orderly [Locator] (session : σ) (t : Traffic σ) : Prop where
  attentive : t.services.Attentive
  session_eq : t.services.session = sessionAfter session t.past
  begun : ∀ before f rest, t.past = before ++ .started f :: rest →
    f.BegunIn (sessionAfter session before)
  perm : (t.past.filterMap Happening.started?).Perm
    (t.past.filterMap Happening.ended? ++ t.flights)

theorem orderly_of [Locator] (session : σ) (budgets : PerOperation Duration) :
    (of session budgets).Orderly session where
  attentive := Services.attentive_of session budgets
  session_eq := rfl
  begun before f rest h := by simp [of] at h
  perm := .refl _

variable {session : σ} {t : Traffic σ}

theorem Orderly.next [Locator] (ht : t.Orderly session) {s : Services σ} {flights : List Flight}
    {h : Happening} (hs : s.Attentive)
    (hw : s.session = (h.write?.map (Write.apply t.services.session)).getD t.services.session)
    (hb : ∀ f, h = .started f → f.BegunIn t.services.session)
    (hp : (t.flights ++ h.started?.toList).Perm (h.ended?.toList ++ flights)) :
    Orderly session ⟨s, flights, t.past ++ [h]⟩ where
  attentive := hs
  session_eq := by rw [sessionAfter_append, ← ht.session_eq, hw]
  begun := by
    intro before f rest e
    obtain rfl | ⟨rest, last, rfl⟩ := rest.eq_nil_or_concat'
    · obtain ⟨e, last⟩ := List.append_inj' e rfl
      rw [← e, ← ht.session_eq]
      exact hb f (List.cons.inj last).1
    · rw [← List.cons_append, ← List.append_assoc] at e
      exact ht.begun before f rest (List.append_inj' e rfl).1
  perm := by
    have begun : (t.past ++ [h]).filterMap Happening.started? =
        t.past.filterMap Happening.started? ++ h.started?.toList := by
      cases hs : h.started? <;> simp [hs]
    have ended : (t.past ++ [h]).filterMap Happening.ended? =
        t.past.filterMap Happening.ended? ++ h.ended?.toList := by
      cases he : h.ended? <;> simp [he]
    rw [begun, ended, List.append_assoc]
    refine (ht.perm.append_right _).trans ?_
    rw [List.append_assoc]
    exact hp.append_left _

theorem begunIn_of {s : Services σ} (h : s.Attentive) (op : Operation) (r : op.Request) :
    (Flight.of s op r).BegunIn s.session where
  prepared_eq := h.prepare_client op r
  bears _ hr := bears_of_prepare ((h.prepare_client op r).symm.trans hr)

theorem Orderly.step [Locator] (ht : t.Orderly session) (e : Event) :
    (t.step e).Orderly session := by
  have attentive := ht.attentive
  cases e with
  | setBackendUrl url =>
    change Orderly session ⟨t.services.setBackendUrl url, t.flights, t.past ++ [.switched url]⟩
    refine ht.next (attentive.withSession _) rfl (by simp) ?_
    simp [Happening.started?, Happening.ended?]
  | logout =>
    change Orderly session ⟨t.services.logout, t.flights, t.past ++ [.loggedOut]⟩
    refine ht.next (attentive.withSession _) rfl (by simp) ?_
    simp [Happening.started?, Happening.ended?]
  | start op r =>
    change Orderly session ⟨t.services.refreshed op, t.flights ++ [.of t.services op r],
      t.past ++ [.started (.of t.services op r)]⟩
    refine ht.next (attentive.refreshed op) rfl ?_ (.refl _)
    rintro f ⟨⟩
    exact begunIn_of attentive op r
  | finish i response =>
    cases hf : t.flights[i]? with
    | none => rwa [step_finish_of_none hf]
    | some f =>
      rw [step_finish_of_some hf]
      refine ht.next (attentive.withSession _) ?_ (by simp) ?_
      · rw [Services.finish, stored_eq, Happening.write?, Option.map_map]
        rfl
      · obtain ⟨hi, rfl⟩ := List.getElem?_eq_some_iff.1 hf
        simpa [Happening.started?, Happening.ended?] using (List.getElem_cons_eraseIdx_perm hi).symm

theorem orderly_run [Locator] (session : σ) (budgets : PerOperation Duration)
    (events : List Event) : (run session budgets events).Orderly session := by
  have go (t : Traffic σ) (ht : t.Orderly session) :
      (events.foldl Traffic.step t).Orderly session := by
    induction events generalizing t with
    | nil => exact ht
    | cons e events ih => exact ih _ (ht.step e)
  exact go _ (orderly_of session budgets)

/-- Calls in flight, switches and logouts in any order: the session holds what was last written, and
that is by logins that succeed, in the order in which they end, by logouts and by switches; the
request of a call goes where the session pointed when the call began. -/
theorem session_and_requests_of_run [Locator] (budgets : PerOperation Duration)
    (events : List Event) :
    (∀ (σ : Type) [Store σ] (session : σ), (run session budgets events).Orderly session ∧
      ∀ e, ((run session budgets events).step e).services.session =
          (run session budgets events).services.session ∨
        (∃ url, e = .setBackendUrl url) ∨ e = .logout ∨ (run session budgets events).Grants e) ∧
    (∀ session : State,
      let t := run session budgets events
      let writes := t.past.filterMap Happening.write?
      t.services.session.url = (writes.filterMap Write.url?).getLast?.getD session.url ∧
      t.services.session.token = (writes.filterMap Write.token?).getLast?.getD session.token) ∧
    ∀ session : Recorder,
      let t := run session budgets events
      t.services.session.writes = session.writes ++ t.past.filterMap Happening.write? := by
  refine ⟨fun σ _ session => ⟨orderly_run session budgets events, session_step _⟩, ?_, ?_⟩
  · intro session t writes
    have h : t.services.session = sessionAfter session t.past :=
      (orderly_run session budgets events).session_eq
    rw [h]
    exact ⟨url_foldl_apply session writes, token_foldl_apply session writes⟩
  · intro session t
    have h : t.services.session = sessionAfter session t.past :=
      (orderly_run session budgets events).session_eq
    rw [h]
    exact writes_foldl_apply session _

theorem token_not_sent_beside_credentials :
    letI := Locator.atEnd
    let session := State.of "http://u:p@a.example" (some "t") none
    ∃ f request,
      (run session defaultBudgets [.start .downloadPause ⟨"f"⟩]).past = [.started f] ∧
      f.prepared = .ok request ∧ request.authorization = some "Basic dTpw" ∧
      Configuration.normalToken (Store.accessToken session) = some "t" := by
  intro session
  let := Locator.atEnd
  let request : HttpRequest := ⟨.post, ⟨"http".toList,
    some ⟨[], none, .domain "a.example".toList, none⟩,
    .segments ["api".toList, "download_pause".toList], none, none⟩, some "Basic dTpw",
    some "application/json", "\x7b\"file_id\":\"f\"\x7d"⟩
  have prepared : prepare (Store.configuration session) .downloadPause ⟨"f"⟩ = .ok request := by cbv
  have began := begunIn_of (Services.attentive_of session defaultBudgets) .downloadPause ⟨"f"⟩
  exact ⟨_, request, rfl, began.prepared_eq.trans prepared, rfl, by decide⟩

end Traffic
end DownloadClient.Client
