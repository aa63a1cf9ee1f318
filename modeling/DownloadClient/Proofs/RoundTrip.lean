import DownloadClient.Display.Table
import DownloadClient.Proofs.Json.Returned
import DownloadClient.Proofs.Rejection

/-! What is sent and received is read back from its text: every request, every response, and the
JSON that is printed of them. -/

namespace DownloadClient.Api

open DownloadClient.Client DownloadClient.Display DownloadClient.Json

theorem LoginRequest.returns (r : LoginRequest) : Returns reader 1 r.toJson r := by
  refine .texts [("email", r.email), ("password", r.password)] rfl (by simp) fun room => ?_
  simp [record, Fields.required, bind, Except.bind, pure, Except.pure]

theorem ListRequest.returns (r : ListRequest) : Returns reader 1 r.toJson r := by
  refine .texts [("path", r.path)] rfl (by simp) fun room => ?_
  simp [record, Fields.required, bind, Except.bind, pure, Except.pure]

theorem BeginRequest.returns (r : BeginRequest) : Returns reader 1 r.toJson r := by
  refine .texts [("file_id", r.fileId), ("output_dir", r.outputDir), ("rename", r.rename)] rfl
    (by simp) fun room => ?_
  simp [record, Fields.required, bind, Except.bind, pure, Except.pure]

theorem FileRequest.returns (name : String) (r : FileRequest) :
    Returns (.record (record name)) 1 r.toJson r := by
  refine .texts [("file_id", r.fileId)] rfl (by simp) fun room => ?_
  simp [record, Fields.required, bind, Except.bind, pure, Except.pure]

theorem RemoveRequest.returns (r : RemoveRequest) : Returns reader 1 r.toJson r := by
  refine .record (.cons ⟨rfl, .field _ (.string _)⟩ (.cons ⟨rfl, .field _ (.flag _)⟩ .nil))
    (by decide) fun room => ?_
  simp [record, Fields.required, bind, Except.bind, pure, Except.pure]

theorem StatusFilter.returns (f : StatusFilter) : Returns reader 0 f.toJson f := by
  cases f <;> exact .bare (by decide) rfl

theorem StatusRequest.filter_returns (filter : Option (List StatusFilter)) :
    Returns filterReader 1 (filterJson filter) filter := by
  cases filter with
  | none => exact .null _ _
  | some fs => exact .optional (.list fun f _ => f.returns) nofun

theorem StatusRequest.returns (r : StatusRequest) : Returns reader 2 r.toJson r := by
  have filter := filter_returns r.filter
  refine .record (.cons ⟨rfl, .field _ filter⟩ .nil) (by decide) fun room => ?_
  simp [record, Fields.withDefault, filter.read, bind, Except.bind, pure, Except.pure]

namespace Envelope

@[simp] theorem int32_tree (room : Nat) (code : Int32) :
    Reader.int32 room (Json.number (.integer code.toInt)).tree = .ok code := int32_code code

theorem readable_members (e : Envelope) : ∀ m ∈ e.members, ∀ n ∈ m.2.numerals, Readable n := by
  simpa [members, numerals] using readable_code e.code

theorem returns (e : Envelope) : Returns reader 1 e.toJson e := by
  have code : Returns Reader.int32 0 (.number (.integer e.code.toInt)) e.code :=
    .number (readable_code e.code) (int32_code e.code)
  refine .record (.cons ⟨rfl, .field _ code⟩ (.cons ⟨rfl, .field _ (.string _)⟩ .nil)) (by decide)
    fun room => ?_
  simp [record, members, Fields.required, bind, Except.bind, pure, Except.pure]

theorem flattened_returns {α β γ : Type} {r : Flattened α Envelope γ} {needs : Nat}
    {name : String} {part : Reader β} {j : Json} {x : α} {y : β} (e : Envelope)
    (fields : r.fields = [.of name part]) (inner : r.inner = ofMembers)
    (other : name ∉ ["code", "message"]) (h : Returns part needs j y)
    (own : ∀ room, r.own (room + needs) (fieldsOf [(name, j)]) = .ok x) :
    Returns (.flattened r) (needs + 1) (.object (e.members ++ [(name, j)])) (r.build x e) := by
  refine .flattened fields (.field name h) ?_ e.readable_members ?_ own ?_
  · simpa [members, Field.of, eq_comm] using other
  · simp [members, depth]
  · rw [inner, ofMembers_of_members (.inl rfl)]

end Envelope

theorem LoginResponse.returns (r : LoginResponse) : Returns reader 1 r.toJson r := by
  refine Envelope.flattened_returns (r := flattened) r.envelope rfl rfl (by decide)
    (.string r.token) fun room => ?_
  simp [flattened, Fields.required]

theorem RemoteFile.returns (f : RemoteFile) : Returns reader 1 f.toJson f := by
  refine .texts [("kind", f.kind), ("id", f.id), ("parent_id", f.parentId), ("name", f.name),
    ("size", f.size), ("file_extension", f.fileExtension), ("mime_type", f.mimeType),
    ("created_time", f.createdTime), ("modified_time", f.modifiedTime), ("phase", f.phase)] rfl
    (by simp) fun room => ?_
  simp [record, Fields.withDefault, bind, Except.bind, pure, Except.pure]

theorem ListResponse.files_return (files : List RemoteFile) :
    Returns (Reader.list RemoteFile.reader) 2 (filesJson files) files :=
  .list fun f _ => f.returns

theorem ListResponse.returns (r : ListResponse) : Returns reader 3 r.toJson r := by
  have files := files_return r.files
  refine Envelope.flattened_returns (r := flattened) r.envelope rfl rfl (by decide) files
    fun room => ?_
  simp [flattened, Fields.withDefault, files.read]

theorem DownloadState.returns (s : DownloadState) : Returns reader 1 s.toJson s := by
  cases s with
  | hasError reason =>
    have applied : Returns (cases.applied "HasError") 0 (.text reason) (.hasError reason) :=
      ⟨by simp [numerals], fun _ => rfl⟩
    exact .applied (by decide) applied
  | _ => exact .mono (.bare (by decide) rfl) (Nat.zero_le 1)

namespace DownloadStatus

@[simp] theorem word_tree (room : Nat) (n : UInt64) :
    Reader.word room (wordJson n).tree = .ok n := by
  have limit : n.toNat < wordLimit := n.toNat_lt
  change Shape.word (.number (.integer n.toNat)) = _
  simp [Shape.word, limit]

theorem word_returns (n : UInt64) : Returns Reader.word 0 (wordJson n) n :=
  .number (readable_ofNat n.toNat_lt) (word_tree 0 n)

theorem returns {s : DownloadStatus} (h : ReadsBack s.currentSpeed) :
    Returns reader 2 s.toJson s := by
  have word (n : UInt64) : Returns Reader.word 1 (wordJson n) n :=
    (word_returns n).mono (Nat.zero_le 1)
  have text (s : String) : Returns Reader.string 1 (.text s) s :=
    (Returns.string s).mono (Nat.zero_le 1)
  have speed := (Returns.real h).mono (Nat.zero_le 1)
  have status := s.status.returns
  refine .record (.cons ⟨rfl, .field _ (word _)⟩ (.cons ⟨rfl, .field _ (word _)⟩
    (.cons ⟨rfl, .field _ speed⟩ (.cons ⟨rfl, .field _ (word _)⟩ (.cons ⟨rfl, .field _ (text _)⟩
    (.cons ⟨rfl, .field _ (text _)⟩ (.cons ⟨rfl, .field _ (text _)⟩
    (.cons ⟨rfl, .field _ status⟩ .nil)))))))) (by decide) fun room => ?_
  simp [record, Fields.required, status.read, bind, Except.bind, pure, Except.pure]

end DownloadStatus

namespace StatusResponse

theorem downloads_return {ds : List DownloadStatus} (h : ∀ d ∈ ds, ReadsBack d.currentSpeed) :
    Returns (Reader.list DownloadStatus.reader) 3 (downloadsJson ds) ds :=
  .list fun d hd => DownloadStatus.returns (h d hd)

theorem returns {r : StatusResponse} (h : ∀ d ∈ r.downloads, ReadsBack d.currentSpeed) :
    Returns reader 4 r.toJson r := by
  have downloads := downloads_return h
  refine Envelope.flattened_returns (r := flattened) r.envelope rfl rfl (by decide) downloads
    fun room => ?_
  simp [flattened, Fields.withDefault, downloads.read]

end StatusResponse

inductive Wire
  | envelope
  | loginRequest
  | loginResponse
  | listRequest
  | remoteFile
  | listResponse
  | beginRequest
  | pauseRequest
  | resumeRequest
  | removeRequest
  | statusFilter
  | statusRequest
  | downloadState
  | downloadStatus
  | statusResponse
  deriving DecidableEq, Repr

namespace Wire

def Value : Wire → Type
  | .envelope => Envelope
  | .loginRequest => LoginRequest
  | .loginResponse => LoginResponse
  | .listRequest => ListRequest
  | .remoteFile => RemoteFile
  | .listResponse => ListResponse
  | .beginRequest => BeginRequest
  | .pauseRequest => FileRequest
  | .resumeRequest => FileRequest
  | .removeRequest => RemoveRequest
  | .statusFilter => StatusFilter
  | .statusRequest => StatusRequest
  | .downloadState => DownloadState
  | .downloadStatus => DownloadStatus
  | .statusResponse => StatusResponse

def toJson : (w : Wire) → w.Value → Json
  | .envelope => Envelope.toJson
  | .loginRequest => LoginRequest.toJson
  | .loginResponse => LoginResponse.toJson
  | .listRequest => ListRequest.toJson
  | .remoteFile => RemoteFile.toJson
  | .listResponse => ListResponse.toJson
  | .beginRequest => BeginRequest.toJson
  | .pauseRequest => FileRequest.toJson
  | .resumeRequest => FileRequest.toJson
  | .removeRequest => RemoveRequest.toJson
  | .statusFilter => StatusFilter.toJson
  | .statusRequest => StatusRequest.toJson
  | .downloadState => DownloadState.toJson
  | .downloadStatus => DownloadStatus.toJson
  | .statusResponse => StatusResponse.toJson

def reader : (w : Wire) → Reader w.Value
  | .envelope => Envelope.reader
  | .loginRequest => LoginRequest.reader
  | .loginResponse => LoginResponse.reader
  | .listRequest => ListRequest.reader
  | .remoteFile => RemoteFile.reader
  | .listResponse => ListResponse.reader
  | .beginRequest => BeginRequest.reader
  | .pauseRequest => FileRequest.pauseReader
  | .resumeRequest => FileRequest.resumeReader
  | .removeRequest => RemoveRequest.reader
  | .statusFilter => StatusFilter.reader
  | .statusRequest => StatusRequest.reader
  | .downloadState => DownloadState.reader
  | .downloadStatus => DownloadStatus.reader
  | .statusResponse => StatusResponse.reader

def speeds : (w : Wire) → w.Value → List Float
  | .downloadStatus, s => [DownloadStatus.currentSpeed s]
  | .statusResponse, r => (StatusResponse.downloads r).map DownloadStatus.currentSpeed
  | _, _ => []

theorem returns (w : Wire) (x : w.Value) (h : ∀ v ∈ w.speeds x, ReadsBack v) :
    Returns w.reader 4 (w.toJson x) x := by
  cases w with
  | envelope => exact (Envelope.returns x).mono (by decide)
  | loginRequest => exact (LoginRequest.returns x).mono (by decide)
  | loginResponse => exact (LoginResponse.returns x).mono (by decide)
  | listRequest => exact (ListRequest.returns x).mono (by decide)
  | remoteFile => exact (RemoteFile.returns x).mono (by decide)
  | listResponse => exact (ListResponse.returns x).mono (by decide)
  | beginRequest => exact (BeginRequest.returns x).mono (by decide)
  | pauseRequest => exact (FileRequest.returns _ x).mono (by decide)
  | resumeRequest => exact (FileRequest.returns _ x).mono (by decide)
  | removeRequest => exact (RemoveRequest.returns x).mono (by decide)
  | statusFilter => exact (StatusFilter.returns x).mono (by decide)
  | statusRequest => exact (StatusRequest.returns x).mono (by decide)
  | downloadState => exact (DownloadState.returns x).mono (by decide)
  | downloadStatus =>
    exact (DownloadStatus.returns (h _ (List.mem_singleton_self _))).mono (by decide)
  | statusResponse => exact StatusResponse.returns fun d hd => h _ (List.mem_map_of_mem hd)

end Wire

theorem readText_compact {α : Type} {r : Reader α} {j : Json} {x : α} (h : Returns r 4 j x) :
    r.readText j.compact = .ok x := by
  have none : ∀ c ∈ ([] : List Char), isSpace c := by simp
  have := h.readText (by decide) .compact none
  rwa [List.append_nil] at this

theorem readText_emit {α : Type} {r : Reader α} {j : Json} {x : α} (h : Returns r 4 j x)
    (table : String) : r.readText (emit .json j table) = .ok x := by
  have newline : ∀ c ∈ ['\n'], isSpace c := by simp [isSpace]
  have := h.readText (by decide) .pretty newline
  rwa [String.ofList_append] at this

/-- Every value is read back from the text it is sent as, and what a command prints as JSON is
read back as what it prints. -/
theorem Wire.read_of_written :
    (∀ (w : Wire) (x : w.Value), (∀ v ∈ w.speeds x, ReadsBack v) →
      w.reader.readText (w.toJson x).compact = .ok x) ∧
    (∀ r : LoginResponse, LoginResponse.reader.readText (renderLogin r .json) = .ok r) ∧
    (∀ r : ListResponse,
      (Reader.list RemoteFile.reader).readText (renderList r .json) = .ok r.files) ∧
    (∀ r : StatusResponse, (∀ d ∈ r.downloads, ReadsBack d.currentSpeed) →
      (Reader.list DownloadStatus.reader).readText (renderStatus r .json) = .ok r.downloads) := by
  refine ⟨fun w x h => readText_compact (w.returns x h), fun r => ?_, fun r => ?_, fun r h => ?_⟩
  · exact readText_emit (r.returns.mono (by decide)) _
  · exact readText_emit ((ListResponse.files_return r.files).mono (by decide)) _
  · exact readText_emit ((StatusResponse.downloads_return h).mono (by decide)) _

theorem readsBack_half : ReadsBack 0.5 := by
  have written : numeralText (.real 0.5) = "0.5".toList := by decide +kernel
  have first : next (some '0') (Text.ofChars ".5".toList) =
      (some (.number (.ok (.real 0.5))), []) := rfl
  have number : tokens (Text.ofChars "0.5".toList) = [.number (.ok (.real 0.5))] :=
    (tokens_cons_of_some first).trans (by rw [tokens])
  rw [ReadsBack, written, Reader.readText, Reader.readSymbols, State.ofSymbols,
    String.toList_ofList, number]
  rfl

theorem Wire.read_of_half_speed :
    ∃ s : DownloadStatus, s.currentSpeed = 0.5 ∧
      DownloadStatus.reader.readText s.toJson.compact = .ok s ∧
      (Reader.list DownloadStatus.reader).readText (renderStatus { downloads := [s] } .json) =
        .ok [s] := by
  refine ⟨⟨2, 1, 0.5, 2, "f", "a", "/a", .paused⟩, rfl, ?_, ?_⟩
  · exact Wire.read_of_written.1 .downloadStatus _ (List.forall_mem_singleton.2 readsBack_half)
  · exact Wire.read_of_written.2.2.2 _ (List.forall_mem_singleton.2 readsBack_half)

end DownloadClient.Api
