import DownloadClient.Proofs.Json.Telling
import DownloadClient.Proofs.Rejection
import DownloadClient.Proofs.Script

/-! What the user is told of a call that has failed: the server's words where there are any, and
otherwise how the call ended. Nobody is ever told nothing. -/

namespace DownloadClient.Json

theorem get?_eq_some_iff {name : String} {x j : Json} : x.get? name = some j ↔
    ∃ before after, x = .object (before ++ (name, j) :: after) ∧ ∀ y ∈ after, y.1 ≠ name := by
  constructor
  · intro h
    cases x with
    | object members =>
      obtain ⟨⟨name', j'⟩, hf, rfl⟩ := Option.map_eq_some_iff.1 h
      obtain ⟨hn, after, before, e, others⟩ := List.find?_eq_some_iff_append.1 hf
      obtain rfl : name' = name := by simpa using hn
      refine ⟨before.reverse, after.reverse, ?_, fun y hy => ?_⟩
      · rw [← members.reverse_reverse, e]
        simp
      · simpa using others y (List.mem_reverse.1 hy)
    | _ => cases h
  · rintro ⟨before, after, rfl, others⟩
    have none : after.reverse.find? (·.1 == name) = none := by
      simpa [List.find?_eq_none] using others
    simp [get?, List.find?_append, none]

end DownloadClient.Json

namespace DownloadClient.Client

open DownloadClient.Api DownloadClient.Json DownloadClient.Session DownloadClient.Text
  DownloadClient.Web

def HasMessage (body : ByteArray) (m : String) : Prop :=
  ∃ before after, Reader.any.readBytes body =
      .ok (.object (before ++ ("message", .text m) :: after)) ∧ ∀ x ∈ after, x.1 ≠ "message"

theorem map_message_ofErrorBody? {x : Json} {m : String} :
    (Envelope.ofErrorBody? x).map (·.message) = some m ↔ x.get? "message" = some (.text m) := by
  unfold Envelope.ofErrorBody?
  split
  · next m' h => simp [h]
  · next h => simpa using fun e => h m e

theorem hasMessage_iff {body : ByteArray} {m : String} : HasMessage body m ↔
    ((Reader.any.readBytes body).toOption.bind Envelope.ofErrorBody?).map (·.message) = some m := by
  cases hx : Reader.any.readBytes body with
  | error e => simp [HasMessage, hx, Except.toOption]
  | ok x =>
    rw [Except.toOption, Option.bind_some, map_message_ofErrorBody?, get?_eq_some_iff]
    simp [HasMessage, hx]

inductive Answers (y : HttpResponse) : String → Prop
  | said {m : String} (h : HasMessage y.body m) (hm : blank m = false) : Answers y (trimmed m)
  | unsaid (h : ∀ m, HasMessage y.body m → blank m = true) :
      Answers y ("request failed with status code " ++ CallError.signed y.status)

section Messages

variable {name m : String}

end Messages

theorem HasMessage.unique {body : ByteArray} {m m' : String} (h : HasMessage body m)
    (h' : HasMessage body m') : m = m' :=
  Option.some.inj ((hasMessage_iff.1 h).symm.trans (hasMessage_iff.1 h'))

theorem Answers.unique {y : HttpResponse} {a b : String} (ha : Answers y a) (hb : Answers y b) :
    a = b := by
  cases ha with
  | said h hm =>
    cases hb with
    | said h' hm' => rw [h.unique h']
    | unsaid none => simp [none _ h] at hm
  | unsaid none =>
    cases hb with
    | said h hm => simp [none _ h] at hm
    | unsaid none' => rfl

/-- The texts for each end of a call, by what goes wrong first. -/
inductive Told [Locator] (c : Configuration) (op : Operation) (r : op.Request)
    (own : Option Duration) (n : Network) : String → Prop
  | unready (h : ¬ ∃ u, Ready c op r u) : Told c op r own n "Error in request setup"
  | unanswered (ready : ∃ u, Ready c op r u) (h : ¬ ∃ y, Answered c op r own n y) :
      Told c op r own n "No response received from server"
  | answered {y : HttpResponse} {text : String} (ha : Answered c op r own n y)
      (hs : ¬ Successful y) (h : Answers y text) : Told c op r own n text
  | rejected {y : HttpResponse} {z : op.Response} (ha : Answered c op r own n y)
      (hs : Successful y) (hz : op.reader.readBytes y.body = .ok z)
      (hc : (op.envelope z).code ≠ 0) (hm : blank (op.envelope z).message = false) :
      Told c op r own n (trimmed (op.envelope z).message)
  | wordless {y : HttpResponse} {z : op.Response} (ha : Answered c op r own n y)
      (hs : Successful y) (hz : op.reader.readBytes y.body = .ok z)
      (hc : (op.envelope z).code ≠ 0) (hm : blank (op.envelope z).message = true) :
      Told c op r own n
        ("server reported error code " ++ CallError.signed (op.envelope z).code.toInt)
  | undecoded {y : HttpResponse} {reason : DecodeError} (ha : Answered c op r own n y)
      (hs : Successful y) (he : op.reader.readBytes y.body = .error reason) :
      Told c op r own n (trimmed (op.unread y.body reason).message)
  | tokenless {y : HttpResponse} {z : op.Response} (ha : Answered c op r own n y)
      (hs : Successful y) (hz : op.reader.readBytes y.body = .ok z)
      (hc : (op.envelope z).code = 0) (hb : TokenBlank op z) :
      Told c op r own n (trimmed emptyToken.message)

theorem not_blank_unread [Locator] {op : Operation} {body : ByteArray} {reason : DecodeError}
    (h : op.reader.readBytes body = .error reason) :
    blank (op.unread body reason).message = false := by
  have told : blank reason.message = false := op.tells_reader.readBytes body reason h
  exact not_blank_append (not_blank_append (not_blank_append (not_blank_append told _) _) _) _

theorem not_blank_emptyToken : blank emptyToken.message = false := by decide

section Call

variable [Locator] {c : Configuration} {op : Operation} {r : op.Request} {own : Option Duration}
  {n : Network} {cause : Cause} {text : String}

end Call

structure Solid (text : String) : Prop where
  ne_empty : text ≠ ""
  unpadded : Unpadded text

theorem solid_trimmed {s : String} (h : blank s = false) : Solid (trimmed s) :=
  ⟨trimmed_ne_empty h, unpadded_trimmed s⟩

theorem not_isBlank_of_isDigit {c : Char} (h : isDigit c = true) : isBlank c = false := by
  have bounds : 48 ≤ c.toNat ∧ c.toNat ≤ 57 := by
    simpa [isDigit, Char.le_def, UInt32.le_iff_toNat_le] using h
  simp [isBlank, blankRanges]
  omega

theorem exists_last_signed (i : Int) :
    ∃ c ∈ (CallError.signed i).toList.getLast?, isBlank c = false := by
  have digits (n : Nat) : ∃ c ∈ (decimal n).getLast?, isBlank c = false := by
    have last := List.getLast?_eq_some_getLast (decimal_ne_nil n)
    exact ⟨_, last, not_isBlank_of_isDigit (isDigit_of_mem_decimal n _ (List.getLast_mem _))⟩
  rw [CallError.signed, String.toList_ofList]
  cases i with
  | ofNat n => exact digits n
  | negSucc n =>
    obtain ⟨c, hc, solid⟩ := digits (n + 1)
    exact ⟨c, by rw [signedDecimal, List.getLast?_cons, hc]; rfl, solid⟩

theorem solid_numbered {s : String} (first : ∃ c ∈ s.toList.head?, isBlank c = false) (i : Int) :
    Solid (s ++ CallError.signed i) where
  ne_empty := by
    intro e
    obtain ⟨c, hc, -⟩ := first
    rw [(String.append_eq_empty_iff.1 e).1] at hc
    cases hc
  unpadded := unpadded_append first (exists_last_signed i)

theorem Answers.solid {y : HttpResponse} {text : String} (h : Answers y text) : Solid text := by
  cases h with
  | said h hm => exact solid_trimmed hm
  | unsaid h => exact solid_numbered ⟨'r', rfl, by decide⟩ _

theorem Told.solid [Locator] {c : Configuration} {op : Operation} {r : op.Request}
    {own : Option Duration} {n : Network} {text : String} (h : Told c op r own n text) :
    Solid text := by
  cases h with
  | unready h =>
    have solid := solid_trimmed (s := "Error in request setup") (by decide)
    exact solid
  | unanswered ready h =>
    have solid := solid_trimmed (s := "No response received from server") (by decide)
    exact solid
  | answered ha hs h => exact h.solid
  | rejected ha hs hz hc hm => exact solid_trimmed hm
  | wordless ha hs hz hc hm => exact solid_numbered ⟨'s', rfl, by decide⟩ _
  | undecoded ha hs he => exact solid_trimmed (not_blank_unread he)
  | tokenless ha hs hz hc hb => exact solid_trimmed not_blank_emptyToken

end DownloadClient.Client

namespace DownloadClient.Command

open DownloadClient.Api DownloadClient.Client DownloadClient.Display DownloadClient.Session
  DownloadClient.Text DownloadClient.Web

section Shown

variable {s : Context} {answer : Option Answer} {command : ApiCommand} {c : Configuration}
  {op : Operation} {r : op.Request} {own : Option Duration} {n : Network} {e : CallError}

end Shown

end DownloadClient.Command
