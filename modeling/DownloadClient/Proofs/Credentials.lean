import Mathlib
import DownloadClient.Client.Services

/-! Two logins side by side, with credentials of their own. The backend is told the credentials, and
nobody else is: what comes of the two is the same but for the bodies of what was sent. What is noted
gives away the first character of an address and its domain, and nothing more. -/

namespace DownloadClient.Client

open DownloadClient.Api DownloadClient.Log DownloadClient.Session DownloadClient.Text

def localPart (email : String) : List Char := email.toList.takeWhile (· != '@')

def domainPart (email : String) : List Char := (email.toList.dropWhile (· != '@')).tail

structure LikeEmails (a b : String) : Prop where
  first : (localPart a).head? = (localPart b).head?
  domain : domainPart a = domainPart b

theorem getD_cut? {α : Type} [DecidableEq α] (x : α) (s : List α) :
    (cut? x s).getD (s, []) = (s.takeWhile (· != x), (s.dropWhile (· != x)).tail) := by
  induction s with
  | nil => rfl
  | cons c r ih =>
    by_cases h : c = x
    · simp [cut?, h]
    · have other : (c != x) = true := by simpa using h
      cases hr : cut? x r with
      | none => simpa [cut?, h, other, hr] using ih
      | some parts => simpa [cut?, h, other, hr] using Prod.ext_iff.1 ih

def shownDomain (domain : List Char) : List Char := if domain.isEmpty then [] else '@' :: domain

theorem shownDomain_injective : Function.Injective shownDomain := by
  intro d e h
  cases d <;> cases e <;> simp_all [shownDomain]

theorem maskEmail_eq (email : String) : maskEmail email = String.ofList
    ((localPart email).head?.toList ++ "***".toList ++ shownDomain (domainPart email)) := by
  simp only [maskEmail, getD_cut?, localPart, domainPart, shownDomain, List.take_one]
  rfl

theorem maskEmail_eq_iff {a b : String} : maskEmail a = maskEmail b ↔ LikeEmails a b := by
  rw [maskEmail_eq, maskEmail_eq, String.ofList_inj]
  constructor
  · intro h
    -- A star in front of the three stars would have to be followed by a fourth one.
    have noStar (d e : List Char) : shownDomain d ≠ '*' :: shownDomain e := by
      cases d <;> simp [shownDomain]
    cases ha : (localPart a).head? with
    | none =>
      cases hb : (localPart b).head? with
      | none => exact ⟨by rw [ha, hb], shownDomain_injective (by simpa [ha, hb] using h)⟩
      | some c => simp [ha, hb, noStar] at h
    | some c =>
      cases hb : (localPart b).head? with
      | none => simp [ha, hb, (noStar _ _).symm] at h
      | some c' =>
        obtain ⟨rfl, h⟩ : c = c' ∧ shownDomain (domainPart a) = shownDomain (domainPart b) := by
          simpa [ha, hb] using h
        exact ⟨by rw [ha, hb], shownDomain_injective h⟩
  · rintro ⟨first, domain⟩
    rw [first, domain]

structure HttpRequest.Like (p q : HttpRequest) : Prop where
  method : p.method = q.method
  url : p.url = q.url
  authorization : p.authorization = q.authorization
  contentType : p.contentType = q.contentType

inductive Prepared.Like : Prepared → Prepared → Prop
  | error (e : SetupError) : Like (.error e) (.error e)
  | ok {p q : HttpRequest} (h : p.Like q) : Like (.ok p) (.ok q)

theorem like_carried (a b : LoginRequest) (u : Web.Address) (authorization : Option String) :
    (carried .login a u authorization).Like (carried .login b u authorization) := by
  have posts : ¬ Operation.login = .remoteList := nofun
  simp only [carried, if_neg posts]
  generalize (Operation.login.requestJson a).compact = body
  generalize (Operation.login.requestJson b).compact = body'
  exact ⟨rfl, rfl, rfl, rfl⟩

theorem like_prepare (c : Configuration) (a b : LoginRequest) :
    Prepared.Like (prepare c .login a) (prepare c .login b) := by
  have addressed_eq (u : Web.Address) : addressed .login a u = addressed .login b u := rfl
  unfold prepare
  cases endpoint c.baseUrl Operation.login.path with
  | error e => exact .error e
  | ok u =>
    cases bearer c with
    | error e => exact .error e
    | ok token =>
      simp only [bind, Except.bind, addressed_eq]
      cases addressed .login b u with
      | error e => exact .error e
      | ok whole => exact .ok (like_carried a b whole _)

structure Exchange.Like (x y : Exchange) : Prop where
  response : x.response = y.response
  received : List.Forall₂ HttpRequest.Like x.received y.received
  network : x.network = y.network

theorem HttpRequest.Like.exchange {p q : HttpRequest} (h : p.Like q) (n : Network)
    (timeout : Option Duration) : (n.exchange timeout p).Like (n.exchange timeout q) := by
  cases n with
  | unreachable => exact ⟨rfl, .nil, rfl⟩
  | scripted replies =>
    cases replies with
    | nil => exact ⟨rfl, .cons h .nil, rfl⟩
    | cons reply rest => exact ⟨rfl, .cons h .nil, rfl⟩

structure Called.Like {op : Operation} (x y : Called op) : Prop where
  result : x.result = y.result
  received : List.Forall₂ HttpRequest.Like x.received y.received
  network : x.network = y.network
  log : x.log = y.log

theorem Prepared.Like.send [Locator] {x y : Prepared} (h : x.Like y) (op : Operation)
    (timeout : Option Duration) (n : Network) :
    (send op timeout n x).Like (send op timeout n y) := by
  cases h with
  | error e => exact ⟨rfl, .nil, rfl, rfl⟩
  | ok h =>
    have exchanged := h.exchange n timeout
    exact ⟨congrArg (conclude op) exchanged.response, exchanged.received, exchanged.network,
      congrArg (arrival op) exchanged.response⟩

theorem like_call [Locator] (c : Configuration) (a b : LoginRequest) (own : Option Duration)
    (n : Network) : (call c .login a own n).Like (call c .login b own n) :=
  (like_prepare c a b).send _ _ _

theorem exists_describe_eq : ∃ front back, ∀ r : LoginRequest,
    r.describe = front ++ quoted r.email ++ back := by
  have regroup (a b c d e : String) : a ++ b ++ c ++ d ++ e = a ++ b ++ (c ++ d ++ e) := by
    simp only [String.append_assoc]
  exact ⟨_, _, fun r => regroup _ _ _ _ _⟩

namespace Services

variable {σ : Type} [Store σ]

/-- What came of two calls, down to the services and the replies that they leave behind. The text
that the user is shown is part of the result. -/
structure Outcome.Like {op : Operation} (x y : Outcome σ op) : Prop where
  services : x.services = y.services
  network : x.network = y.network
  result : x.result = y.result
  received : List.Forall₂ HttpRequest.Like x.received y.received

/-- No two logins can be told apart by what comes of them, whatever the services are and whatever
the backend replies. They can be told apart by what is noted only as far as their masked addresses
differ. The texts of the two requests in messages have the same words around the addresses. -/
theorem like_call_login [Locator] (s : Services σ) (n : Network) (a b : LoginRequest) :
    (s.call .login a n).Like (s.call .login b n) ∧
      ((s.call .login a n).log = (s.call .login b n).log ↔ LikeEmails a.email b.email) ∧
      ∃ front back, ∀ r : LoginRequest, r.describe = front ++ quoted r.email ++ back := by
  refine ⟨?_, ?_, ?_⟩
  · have called := like_call (s.client .login) a b (some (s.budgets.get .login)) n
    simp only [call]
    generalize Client.call (s.client .login) .login a _ n = x at called ⊢
    generalize Client.call (s.client .login) .login b _ n = y at called ⊢
    exact ⟨by rw [called.result], called.network, by rw [called.result], called.received⟩
  · have called := like_call (s.client .login) a b (some (s.budgets.get .login)) n
    simp only [call]
    generalize Client.call (s.client .login) .login a _ n = x at called ⊢
    generalize Client.call (s.client .login) .login b _ n = y at called ⊢
    simp [startNoted, greeting, Called.error?, called.result, called.log, Operation.spanFields,
      maskEmail_eq_iff]
  · exact exists_describe_eq

end Services
end DownloadClient.Client
