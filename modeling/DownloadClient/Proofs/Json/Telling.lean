import DownloadClient.Client.Operation
import DownloadClient.Proofs.Json.Value
import DownloadClient.Proofs.Trimmed

/-! Readers that say what is wrong. Where one fails, the message of its failure is not blank;
readers made of such readers are such readers again. -/

namespace DownloadClient.Json

open DownloadClient.Text

variable {α β γ : Type}

theorem SyntaxError.not_blank_message (e : SyntaxError) : blank e.message = false := by
  cases e <;> decide

theorem DecodeError.not_blank_message {e : DecodeError} (h : ∀ m, e ≠ .custom m) :
    blank e.message = false := by
  cases e with
  | malformed e => exact e.not_blank_message
  | missing field => exact not_blank_append (not_blank_append (by decide) _) _
  | duplicate field => exact not_blank_append (not_blank_append (by decide) _) _
  | type found expected =>
    exact not_blank_append (not_blank_append (not_blank_append (by decide) _) _) _
  | value found expected =>
    exact not_blank_append (not_blank_append (not_blank_append (by decide) _) _) _
  | length found record fields =>
    iterate 6 refine not_blank_append ?_ _
    decide
  | variant found known =>
    exact not_blank_append (not_blank_append (not_blank_append (by decide) _) _) _
  | custom m => exact absurd rfl (h m)

/-- What fails, fails with a message. -/
def Tells (x : Except DecodeError α) : Prop := ∀ e, x = .error e → blank e.message = false

namespace Tells

theorem ok (a : α) : Tells (.ok a) := nofun

theorem error {e : DecodeError} (h : ∀ m, e ≠ .custom m) : Tells (.error e : Except _ α) := by
  rintro _ ⟨⟩
  exact DecodeError.not_blank_message h

theorem duplicate (field : String) : Tells (.error (.duplicate field) : Except _ α) := error nofun

theorem bind {x : Except DecodeError α} {f : α → Except DecodeError β} (hx : Tells x)
    (hf : ∀ a, Tells (f a)) : Tells (x >>= f) := by
  intro e he
  cases x with
  | error e' =>
    obtain rfl : e' = e := Except.error.inj he
    exact hx e' rfl
  | ok a => exact hf a e he

theorem malformed (x : Except SyntaxError α) : Tells (Json.malformed x) := by
  cases x with
  | error e => exact error nofun
  | ok a => exact ok a

theorem enter (room : Nat) : Tells (enter room) := by
  cases room with
  | zero => exact error nofun
  | succ room => exact ok room

theorem mapM {f : α → Except DecodeError β} (h : ∀ a, Tells (f a)) (l : List α) :
    Tells (l.mapM f) := by
  induction l with
  | nil => exact ok []
  | cons a l ih =>
    rw [List.mapM_cons]
    exact (h a).bind fun b => ih.bind fun bs => ok _

end Tells

def Reader.Tells (r : Reader α) : Prop := ∀ room t, Json.Tells (r room t)

namespace Reader.Tells

theorem readBytes {r : Reader α} (h : r.Tells) (b : ByteArray) : Json.Tells (r.readBytes b) := by
  refine (h _ _).bind fun x => ?_
  split
  · exact .error nofun
  · exact .ok x

theorem ofShape {f : Shape → Except DecodeError α} (h : ∀ s, Json.Tells (f s)) :
    (Reader.ofShape f).Tells :=
  fun _ _ => (Json.Tells.malformed _).bind h

theorem mismatch (expected : String) : (Reader.mismatch expected : Reader α).Tells :=
  ofShape fun _ => .error nofun

theorem list {r : Reader α} (h : r.Tells) : (Reader.list r).Tells := by
  intro room t
  unfold Reader.list
  split
  · exact (Json.Tells.enter _).bind fun room => (Json.Tells.mapM (h room) _).bind fun xs =>
      (Json.Tells.malformed _).bind fun _ => .ok xs
  · exact mismatch _ _ _

theorem check (c : Cases α) (name : String) : Json.Tells (c.check name) := by
  unfold Cases.check
  split
  · exact .ok ()
  · exact .error nofun

theorem cases {c : Cases α} (bare : ∀ name, Json.Tells (c.bare name))
    (applied : ∀ name, (c.applied name).Tells) : (Reader.cases c).Tells := by
  intro room t
  unfold Reader.cases
  split
  · exact (Json.Tells.malformed _).bind fun name => (check c name).bind fun _ => bare name
  · refine (Json.Tells.enter _).bind fun room => ?_
    split
    · next stop =>
      refine .error ?_
      unfold Cases.noKey
      split <;> nofun
    · refine (Json.Tells.malformed _).bind fun name => (check c name).bind fun _ =>
        (applied name _ _).bind fun x => ?_
      split
      · exact .ok x
      · exact .error nofun
      · exact .error nofun
  · exact .error nofun
  · exact .error nofun

end Reader.Tells

def Field.Tells (f : Field) : Prop := f.check.Tells

namespace Reader.Tells

variable {r : Reader α} (h : r.Tells)
include h

theorem field (name : String) : (Field.of name r).Tells :=
  fun room t => (h room t).bind fun _ => .ok ()

theorem required (fs : Fields) (name : String) (room : Nat) :
    Json.Tells (fs.required name r room) := by
  unfold Fields.required
  split
  · exact h _ _
  · exact .error nofun

theorem withDefault (fs : Fields) (name : String) (default : α) (room : Nat) :
    Json.Tells (fs.withDefault name r default room) := by
  unfold Fields.withDefault
  split
  · exact h _ _
  · exact .ok default

end Reader.Tells

section Records

variable {known : List Field} (fields : ∀ f ∈ known, f.Tells)
include fields

theorem tells_scan (room : Nat) (seen : List String) (members : List (Key × Tree)) :
    Tells (scan known room seen members) := by
  induction members generalizing seen with
  | nil => exact .ok []
  | cons m rest ih =>
    rw [scan]
    refine (Tells.malformed _).bind fun name => ?_
    split
    · exact (Tells.malformed _).bind fun _ => ih seen
    · next f hf =>
      split
      · exact .duplicate name
      · exact (fields f (List.mem_of_find?_eq_some hf) _ _).bind fun _ =>
          (ih _).bind fun fs => .ok _

theorem tells_scanValues (room : Nat) (seen : List String) (members : List (Key × Tree)) :
    Tells (scanValues known room seen members) := by
  induction members generalizing seen with
  | nil => exact .ok _
  | cons m rest ih =>
    rw [scanValues]
    refine (Tells.malformed _).bind fun name => ?_
    split
    · exact (Tells.malformed _).bind fun _ => (ih seen).bind fun _ => .ok _
    · next f hf =>
      split
      · exact .duplicate name
      · exact (fields f (List.mem_of_find?_eq_some hf) _ _).bind fun _ =>
          (ih _).bind fun _ => .ok _

theorem tells_positional (r : Record α) (room : Nat) (stop : ListStop) (taken : Nat)
    (items : List Tree) : Tells (r.positional room stop taken known items) := by
  induction known generalizing taken items with
  | nil =>
    cases items with
    | nil => cases stop <;> first | exact .ok [] | exact .error nofun
    | cons t items => exact .error nofun
  | cons f known ih =>
    obtain ⟨first, rest⟩ := List.forall_mem_cons.1 fields
    cases items with
    | nil =>
      refine (Tells.malformed _).bind fun _ => ?_
      split
      · exact .ok []
      · exact .error nofun
    | cons t items => exact (first room t).bind fun _ => (ih rest _ _).bind fun _ => .ok _

end Records

theorem Reader.Tells.record {r : Record α} (fields : ∀ f ∈ r.fields, f.Tells)
    (build : ∀ room fs, Json.Tells (r.build room fs)) : (Reader.record r).Tells := by
  intro room t
  unfold Reader.record
  split
  · exact (Json.Tells.enter _).bind fun room => (tells_positional fields _ _ _ _ _).bind fun fs =>
      build room fs
  · exact (Json.Tells.enter _).bind fun room => (tells_scan fields _ _ _).bind fun fs =>
      (Json.Tells.malformed _).bind fun _ => build room fs
  · exact mismatch _ _ _

theorem Reader.Tells.flattened {r : Flattened α β γ} (fields : ∀ f ∈ r.fields, f.Tells)
    (own : ∀ room fs, Json.Tells (r.own room fs)) (inner : ∀ ms, Json.Tells (r.inner ms)) :
    (Reader.flattened r).Tells := by
  intro room t
  unfold Reader.flattened
  split
  · exact (Json.Tells.enter _).bind fun room => (tells_scanValues fields _ _ _).bind fun x =>
      (Json.Tells.malformed _).bind fun _ => (own room _).bind fun _ => (inner _).bind fun _ =>
      .ok _
  · exact mismatch _ _ _

namespace Shape

theorem tells_int32 (s : Shape) : Tells s.int32 := by
  unfold int32
  split
  · split
    · exact .ok _
    · exact .error nofun
  · exact .error nofun

theorem tells_word (s : Shape) : Tells s.word := by
  unfold word
  split
  · split
    · exact .ok _
    · exact .error nofun
  · exact .error nofun

theorem tells_real (s : Shape) : Tells s.real := by
  unfold real
  split
  · exact .ok _
  · exact .ok _
  · exact .error nofun

theorem tells_string (s : Shape) : Tells s.string := by
  unfold string
  split
  · exact .ok _
  · exact .error nofun

theorem tells_unit (s : Shape) : Tells s.unit := by
  unfold unit
  split
  · exact .ok _
  · exact .error nofun

end Shape

namespace Reader

theorem tells_int32 : Reader.int32.Tells := .ofShape Shape.tells_int32

theorem tells_word : Reader.word.Tells := .ofShape Shape.tells_word

theorem tells_real : Reader.real.Tells := .ofShape Shape.tells_real

theorem tells_string : Reader.string.Tells := .ofShape Shape.tells_string

theorem tells_unit : Reader.unit.Tells := .ofShape Shape.tells_unit

end Reader
end DownloadClient.Json

namespace DownloadClient.Api

open DownloadClient.Json DownloadClient.Json.Reader

theorem Envelope.tells_reader : Envelope.reader.Tells := by
  refine .record ?_ fun room fs => ?_
  · simp only [record, List.forall_mem_cons]
    exact ⟨tells_int32.field _, tells_string.field _, nofun⟩
  · exact (tells_int32.required fs _ room).bind fun code =>
      (tells_string.required fs _ room).bind fun message => .ok _

theorem Envelope.tells_gather (code : Option Int32) (message : Option String)
    (ms : List (String × Json)) : Tells (gather code message ms) := by
  induction ms generalizing code message with
  | nil => cases code <;> cases message <;> first | exact .ok _ | exact .error nofun
  | cons m rest ih =>
    obtain ⟨name, x⟩ := m
    unfold gather
    split
    · split
      · exact .duplicate _
      · exact (Shape.tells_int32 _).bind fun c => ih _ _
    · split
      · split
        · exact .duplicate _
        · exact (Shape.tells_string _).bind fun m => ih _ _
      · exact ih _ _

theorem LoginResponse.tells_reader : LoginResponse.reader.Tells := by
  refine .flattened ?_ (fun room fs => tells_string.required fs _ room)
    (Envelope.tells_gather none none)
  simp only [flattened, List.forall_mem_cons]
  exact ⟨tells_string.field _, nofun⟩

theorem RemoteFile.tells_reader : RemoteFile.reader.Tells := by
  refine .record (fun f hf => ?_) fun room fs => ?_
  · obtain ⟨name, -, rfl⟩ := List.mem_map.1 hf
    exact tells_string.field name
  · have text (name : String) := tells_string.withDefault fs name "" room
    iterate 10 refine (text _).bind fun _ => ?_
    exact .ok _

theorem ListResponse.tells_reader : ListResponse.reader.Tells := by
  have files := RemoteFile.tells_reader.list
  refine .flattened ?_ (fun room fs => files.withDefault fs _ _ room)
    (Envelope.tells_gather none none)
  simp only [flattened, List.forall_mem_cons]
  exact ⟨files.field _, nofun⟩

theorem DownloadState.tells_reader : DownloadState.reader.Tells := by
  have bare (name : String) : Tells (DownloadState.bare name) := by
    unfold DownloadState.bare
    split <;> first | exact .ok _ | exact .error nofun
  refine .cases bare fun name room t => ?_
  simp only [cases]
  split
  · exact (tells_string room t).bind fun reason => .ok _
  · exact (tells_unit room t).bind fun _ => bare _

theorem DownloadStatus.tells_reader : DownloadStatus.reader.Tells := by
  refine .record ?_ fun room fs => ?_
  · simp only [record, List.forall_mem_cons]
    exact ⟨tells_word.field _, tells_word.field _, tells_real.field _, tells_word.field _,
      tells_string.field _, tells_string.field _, tells_string.field _,
      DownloadState.tells_reader.field _, nofun⟩
  · have word (name : String) := tells_word.required fs name room
    have text (name : String) := tells_string.required fs name room
    have speed := tells_real.required fs "current_speed" room
    have status := DownloadState.tells_reader.required fs "status" room
    exact (word _).bind fun _ => (word _).bind fun _ => speed.bind fun _ => (word _).bind fun _ =>
      (text _).bind fun _ => (text _).bind fun _ => (text _).bind fun _ => status.bind fun _ =>
      .ok _

theorem StatusResponse.tells_reader : StatusResponse.reader.Tells := by
  have downloads := DownloadStatus.tells_reader.list
  refine .flattened ?_ (fun room fs => downloads.withDefault fs _ _ room)
    (Envelope.tells_gather none none)
  simp only [flattened, List.forall_mem_cons]
  exact ⟨downloads.field _, nofun⟩

end DownloadClient.Api

namespace DownloadClient.Client

theorem Operation.tells_reader (op : Operation) : op.reader.Tells := by
  cases op with
  | login => exact Api.LoginResponse.tells_reader
  | remoteList => exact Api.ListResponse.tells_reader
  | downloadStatus => exact Api.StatusResponse.tells_reader
  | _ => exact Api.Envelope.tells_reader

end DownloadClient.Client
