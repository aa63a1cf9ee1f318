import DownloadClient.Proofs.Address
import DownloadClient.Proofs.InFlight
import DownloadClient.Proofs.Program
import DownloadClient.Proofs.Script
import DownloadClient.Proofs.Usage

/-! URLs in use. A URL is accepted by itself, but it is used with the path of an operation behind
it. It can be used for all operations or for none, and for all if it is still an address with a
slash behind it; otherwise every call fails before anything is sent. -/

namespace DownloadClient.Client

open DownloadClient.Command DownloadClient.Session DownloadClient.Text DownloadClient.Web

/-- The endpoints of all operations are addresses. -/
def Usable (url : String) : Prop :=
  ∀ op : Operation, ∃ u, Address.ofString (endpointText url op.path) = .ok u

theorem exists_slashes (s : List Char) :
    ∃ n, s = (s.reverse.dropWhile (· == '/')).reverse ++ List.replicate n '/' := by
  have whole := congrArg List.reverse (List.takeWhile_append_dropWhile (p := (· == '/'))
    (l := s.reverse))
  have slashes : s.reverse.takeWhile (· == '/') =
      List.replicate (s.reverse.takeWhile (· == '/')).length '/' := by
    refine List.eq_replicate_iff.2 ⟨rfl, fun c hc => ?_⟩
    simpa using List.mem_takeWhile_imp hc
  rw [List.reverse_append, List.reverse_reverse, slashes, List.reverse_replicate] at whole
  exact ⟨_, whole.symm⟩

theorem tail_name (op : Operation) :
    Address.Tail ('a' :: 'p' :: 'i' :: '/' :: op.name.toList) := by
  have plain : ∀ c ∈ op.name.toList, c ≠ '#' ∧ c ≠ '?' ∧ Address.isControlOrSpace c = false := by
    cases op <;> simp [Operation.name, Address.isControlOrSpace]
  refine .path _ ?_ fun c hc => (plain c hc).2.2
  rintro (h | h)
  · exact (plain _ h).1 rfl
  · exact (plain _ h).2.1 rfl

theorem toList_endpointText (url : String) (op : Operation) : (endpointText url op.path).toList =
    (url.toList.reverse.dropWhile (· == '/')).reverse ++
      '/' :: 'a' :: 'p' :: 'i' :: '/' :: op.name.toList := by
  simp [endpointText, Operation.path]

theorem exists_front (url : String) : ∃ front n, url.toList = front ++ List.replicate n '/' ∧
    ∀ op : Operation, ∃ x, Address.Tail x ∧
      (endpointText url op.path).toList = front ++ '/' :: x := by
  obtain ⟨n, hn⟩ := exists_slashes url.toList
  exact ⟨_, n, hn, fun op => ⟨_, tail_name op, toList_endpointText url op⟩⟩

theorem exists_ofString_of_accepted {url : String} (h : Accepted url) :
    ∃ u, Address.ofString url = .ok u := by
  obtain ⟨s, hs⟩ := h
  unfold parseUrl at hs
  obtain ⟨u, hu, rfl⟩ := Json.map_eq_ok.1 hs
  exact ⟨u, hu⟩

theorem exists_endpoint_iff {url : String} (h : Accepted url) (op : Operation) :
    (∃ u, Address.ofString (endpointText url op.path) = .ok u) ↔
      ∃ u, Address.ofString (url ++ "/") = .ok u := by
  obtain ⟨front, n, hurl, endpoints⟩ := exists_front url
  obtain ⟨x, tail, text⟩ := endpoints op
  obtain ⟨u, hu⟩ := exists_ofString_of_accepted h
  have slash : (url ++ "/").toList = front ++ '/' :: List.replicate n '/' := by
    rw [String.toList_append, hurl, List.append_assoc, ← List.replicate_succ, List.replicate_succ']
    rfl
  rw [Address.ofString, hurl] at hu
  simp only [Address.ofString, text, slash]
  exact Address.exists_parse_append_iff hu tail (.slashes n)

theorem usable_iff {url : String} (h : Accepted url) :
    Usable url ↔ ∃ u, Address.ofString (url ++ "/") = .ok u :=
  ⟨fun usable => (exists_endpoint_iff h .login).1 (usable .login),
    fun slash op => (exists_endpoint_iff h op).2 slash⟩

theorem usable_iff_of_visible {url : String} (h : Accepted url)
    (visible : ∀ c ∈ url.toList.getLast?, 0x20 < c.toNat) :
    Usable url ↔ ¬ Address.LoneAt url.toList := by
  obtain ⟨u, hu⟩ := exists_ofString_of_accepted h
  have front : Address.frontOf url.toList = Address.cleaned url.toList :=
    Address.frontOf_eq_cleaned fun c hc => by simpa [Address.isControlOrSpace] using visible c hc
  rw [usable_iff h, Address.ofString, String.toList_append]
  exact Address.exists_parse_slash_iff front hu

theorem prepare_eq_endpoint_iff {c : Configuration} {op : Operation} {r : op.Request}
    {raw : String} {reason : AddressError} : prepare c op r = .error (.endpoint raw reason) ↔
      raw = endpointText c.baseUrl op.path ∧ Address.ofString raw = .error reason := by
  have prepares := prepares_prepare c op r
  generalize prepare c op r = prepared at prepares
  cases prepares with
  | unparsed hu =>
    rw [Except.error.injEq, SetupError.endpoint.injEq, eq_comm]
    refine and_congr_right ?_
    rintro rfl
    rw [hu, Except.error.injEq]
  | token hu => exact iff_of_false (by simp) (not_unparsed hu raw reason)
  | address hu => exact iff_of_false (by simp) (not_unparsed hu raw reason)
  | ready h => exact iff_of_false (by simp) (not_unparsed h.parsed raw reason)

namespace Services

theorem Attentive.call [Locator] {σ : Type} [Store σ] {s : Services σ} (h : s.Attentive)
    (op : Operation) (r : op.Request) (n : Network) : (s.call op r n).services.Attentive :=
  (h.refreshed op).withSession _

theorem url_call [Locator] (s : Services State) (op : Operation) (r : op.Request) (n : Network) :
    (s.call op r n).services.session.url = s.session.url := by
  simp only [call, finish]
  generalize (Client.call (s.client op) op r (some (s.budgets.get op)) n).result = result
  cases op with
  | login => cases result <;> rfl
  | _ => rfl

end Services

end DownloadClient.Client

namespace DownloadClient.Command

open DownloadClient.Client DownloadClient.Display DownloadClient.Session DownloadClient.Text
  DownloadClient.Web

def Ran.Misdirected {α : Type} (r : Ran α) : Prop :=
  ∃ name raw reason, r.result = .error (.call ⟨name, .setup (.endpoint raw reason)⟩)

structure Context.Sound (c : Context) : Prop where
  url : Accepted c.services.session.url
  attentive : c.services.Attentive

theorem Context.sound_begun {settings : Settings} (h : Accepted settings.apiUrl) (n : Network) :
    (begun settings n).Sound where
  url := h
  attentive := Services.attentive_of _ _

theorem Context.Sound.runCall [Locator] {c : Context} (h : c.Sound) (format : OutputFormat)
    (x : Call) : (runCall c format x).context.Sound where
  url := by
    have url := c.services.url_call x.op x.request c.network
    simp only [Command.runCall]
    rw [url]
    exact h.url
  attentive := by
    simp only [Command.runCall]
    exact h.attentive.call x.op x.request c.network

theorem Context.Sound.runLine [Locator] {c : Context} (h : c.Sound) (format : OutputFormat)
    (answer : Option Answer) (line : String) :
    (runLine c format answer line).context.Sound := by
  unfold Command.runLine
  split
  · exact h
  · next command hc =>
    cases command with
    | api command =>
      rw [runShellCommand, Ran.goingOn, runApi]
      split
      · exact h
      · next x hx => exact h.runCall format x
    | setUrl url => exact ⟨accepted_of_parseLine hc, h.attentive.withSession _⟩
    | logout => exact ⟨h.url, h.attentive.withSession _⟩
    | exit => exact h
  · split <;> exact h
  · exact h

theorem misdirected_runCall_iff [Locator] {c : Context} (h : c.Sound) (format : OutputFormat)
    (x : Call) : (runCall c format x).Misdirected ↔ ¬ Usable c.services.session.url := by
  have failed (e : CallError) : (runCall c format x).result = .error (.call e) ↔
      (c.services.call x.op x.request c.network).result = .error e := by
    simp only [runCall]
    cases (c.services.call x.op x.request c.network).result <;> simp [Except.mapError, Except.map]
  have endpoint : (runCall c format x).Misdirected ↔
      ¬ ∃ u, Address.ofString (endpointText c.services.session.url x.op.path) = .ok u := by
    simp only [Ran.Misdirected, failed, Services.call_eq_setup_iff,
      h.attentive.prepare_client x.op x.request, prepare_eq_endpoint_iff, ↓existsAndEq, true_and]
    change (∃ reason, Address.ofString (endpointText c.services.session.url x.op.path) = _) ↔ _
    cases Address.ofString (endpointText c.services.session.url x.op.path) <;> simp
  rw [endpoint, exists_endpoint_iff h.url, usable_iff h.url]

theorem misdirected_runApi_iff [Locator] {c : Context} (h : c.Sound) (format : OutputFormat)
    (answer : Option Answer) (command : ApiCommand) :
    (runApi c format answer command).Misdirected ↔
      (∃ x, command.call answer = .ok x) ∧ ¬ Usable c.services.session.url := by
  unfold runApi
  cases hx : command.call answer with
  | error e => cases declined_of_call hx <;> simp [Ran.Misdirected]
  | ok x => simpa using misdirected_runCall_iff h format x

theorem misdirected_runLine [Locator] {c : Context} (h : c.Sound) {format : OutputFormat}
    {answer : Option Answer} {line : String} (hm : (runLine c format answer line).Misdirected) :
    ¬ Usable (runLine c format answer line).context.services.session.url := by
  have session : (runLine c format answer line).context.services.session = c.services.session := by
    obtain ⟨name, raw, reason, hr⟩ := hm
    exact (runLine_of_failed hr rfl).2
  rw [session]
  unfold runLine at hm
  split at hm
  · simp [Ran.Misdirected] at hm
  · next command hc =>
    cases command with
    | api command =>
      have direct : (runApi c format answer command).Misdirected := by
        obtain ⟨name, raw, reason, hr⟩ := hm
        rw [runShellCommand, Ran.goingOn] at hr
        refine ⟨name, raw, reason, ?_⟩
        cases ha : (runApi c format answer command).result with
        | ok _ => simp [ha, Except.map] at hr
        | error e => simpa [ha, Except.map] using hr
      exact ((misdirected_runApi_iff h format answer command).1 direct).2
    | setUrl url => simp [runShellCommand, Ran.Misdirected] at hm
    | logout => simp [runShellCommand, Ran.Misdirected] at hm
    | exit => simp [runShellCommand, Ran.Misdirected] at hm
  · split at hm <;> simp [Ran.Misdirected] at hm
  · simp [Ran.Misdirected] at hm

/-- A URL that was accepted can be used if a slash may follow it: if it ends with something visible,
unless an `@` stands alone in it. The program and its shell use accepted URLs only, and their calls
are misdirected where the URL cannot be used. -/
theorem misdirected_iff_of_accepted [Locator] {url : String} (h : Accepted url) :
    (Usable url ↔ ∃ u, Address.ofString (url ++ "/") = .ok u) ∧
    ((∀ c ∈ url.toList.getLast?, 0x20 < c.toNat) →
      (Usable url ↔ ¬ Address.LoneAt url.toList)) ∧
    ∀ env words settings command n, parseArguments env words = .ok (settings, command) →
      Accepted settings.apiUrl ∧
      (∀ answer api, command = .api api → settings.apiUrl = url →
        ((runApi (begun settings n) settings.output answer api).Misdirected ↔
          (∃ x, api.call answer = .ok x) ∧ ¬ Usable url)) ∧
      ∀ terminal lines, ∀ ran ∈ outcomes (begun settings n) settings.output terminal lines,
        Accepted ran.context.services.session.url ∧
          (ran.Misdirected → ran.context.services.session.url = url → ¬ Usable url) := by
  refine ⟨usable_iff h, usable_iff_of_visible h, ?_⟩
  intro env words settings command n parsed
  have accepted := accepted_of_parseArguments parsed
  have sound := Context.sound_begun accepted n
  refine ⟨accepted, ?_, fun terminal lines ran hr => ?_⟩
  · rintro answer api - rfl
    exact misdirected_runApi_iff sound settings.output answer api
  · obtain ⟨c, answer, line, hc, rfl⟩ := exists_of_mem_outcomes (P := Context.Sound)
      (fun c answer line hc => Context.Sound.runLine hc settings.output answer line) sound hr
    refine ⟨(hc.runLine settings.output answer line).url, ?_⟩
    rintro hm rfl
    exact misdirected_runLine hc hm

theorem control_character_misdirects :
    letI := Locator.atEnd
    let url := "http://a\x01"
    let settings := settingsOf fun name => if name = "api-url" then some url else none
    let n := Network.scripted [{}]
    parseArguments noEnvironment ["--api-url", url, "pause", "f"] =
      .ok (settings, .api (.pause "f")) ∧
    Accepted url ∧ ¬ Usable url ∧
    (runApi (begun settings n) settings.output none (.pause "f")).Misdirected ∧
    Accepted "a://@" ∧ ¬ Usable "a://@" := by
  intro url settings n
  let := Locator.atEnd
  have parsed : parseArguments noEnvironment ["--api-url", url, "pause", "f"] =
      .ok (settings, .api (.pause "f")) := by decide +kernel
  have accepted : Accepted url := accepted_of_parseArguments parsed
  obtain ⟨usable, -, runs⟩ := misdirected_iff_of_accepted accepted
  have notUsable : ¬ Usable url := by
    rw [usable]
    have notAddress : Address.ofString (url ++ "/") = .error .domain := by cbv
    simp [notAddress]
  obtain ⟨-, direct, -⟩ := runs noEnvironment _ settings _ n parsed
  have lone : Accepted "a://@" := ⟨"a://@", by decide +kernel⟩
  have notUsable' : ¬ Usable "a://@" := by
    have visible : ∀ c ∈ "a://@".toList.getLast?, 0x20 < c.toNat := by simp
    rw [(misdirected_iff_of_accepted lone).2.1 visible, not_not]
    exact ⟨"a".toList, by cbv, by decide⟩
  exact ⟨parsed, accepted, notUsable, (direct none _ rfl rfl).2 ⟨⟨_, rfl⟩, notUsable⟩, lone,
    notUsable'⟩

end DownloadClient.Command
