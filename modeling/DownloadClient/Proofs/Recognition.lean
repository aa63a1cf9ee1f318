import DownloadClient.Proofs.Json.Recovered
import DownloadClient.Proofs.Message

/-! Two ways to an envelope: a response is read with a reader of its own, an error body as a value
that is looked into. Of an object that can be read in both ways they find the same. -/

namespace DownloadClient.Json

variable {α : Type} {name : String} {room : Nat} {t : Tree} {x : Json}
  {xs : List (String × Json)}

theorem get?_cons_of_some {m : String × Json} (h : (object xs).get? name = some x) :
    (object (m :: xs)).get? name = some x := by
  obtain ⟨before, after, e, last⟩ := get?_eq_some_iff.1 h
  cases e
  exact get?_eq_some_iff.2 ⟨m :: before, after, rfl, last⟩

/-- The member of a name is there, and its value is read to `a`. -/
def Gives (xs : List (String × Json)) (name : String) (f : Shape → Except DecodeError α)
    (a : α) : Prop :=
  ∃ x, (object xs).get? name = some x ∧ f x.shape = .ok a

section Gives

variable {f : Shape → Except DecodeError α} {a : α}

theorem Gives.cons {m : String × Json} (h : Gives xs name f a) : Gives (m :: xs) name f a :=
  h.imp fun _ h => ⟨get?_cons_of_some h.1, h.2⟩

end Gives

section Scan

variable {known : List Field} {seen : List String} {rest ms : List (Key × Tree)} {fs : Fields}
  {k : String}

variable {ys : List (String × Json)}

end Scan

end DownloadClient.Json

namespace DownloadClient.Api.Envelope

open DownloadClient.Json

section Once

variable {α : Type} {name k : String} {f : Shape → Except DecodeError α} {before : Option α}
  {a b : α} {x : Json} {xs : List (String × Json)}

end Once

section Readers

variable {room : Nat} {t : Tree} {xs : List (String × Json)}
  (ht : t.value room = .ok (.object xs))
include ht

end Readers
end DownloadClient.Api.Envelope

namespace DownloadClient.Client

open DownloadClient.Api DownloadClient.Json DownloadClient.Session DownloadClient.Text

end DownloadClient.Client

namespace DownloadClient.Command

open DownloadClient.Api DownloadClient.Client DownloadClient.Json DownloadClient.Session
  DownloadClient.Text DownloadClient.Web

end DownloadClient.Command
