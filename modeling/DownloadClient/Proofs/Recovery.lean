import DownloadClient.Proofs.Json.Recovered
import DownloadClient.Proofs.RoundTrip

/-! The members of what is received may stand in any order and with unknown ones among them, and
what may be missing may be left out: every value is recovered from every text of it. -/

namespace DownloadClient.Api

open DownloadClient.Client DownloadClient.Json

def names {α : Type} (r : Record α) : List String := r.fields.map Field.name

def plain {α : Type} (r : Record α) : Schema := .struct (names r) [] fun _ => .atom

def only (name : String) (S : Schema) (n : String) : Schema := if n = name then S else .atom

theorem only_self (name : String) (S : Schema) : only name S name = S := if_pos rfl

theorem only_of_ne {name n : String} (h : n ≠ name) (S : Schema) : only name S n = .atom :=
  if_neg h

def response (name : String) (omittable : List (String × Json)) (S : Schema) : Schema :=
  .struct (names Envelope.record ++ [name]) omittable (only name S)

def RemoteFile.schema : Schema :=
  .struct (names record) (fieldNames.map (·, .text "")) fun _ => .atom

def ListResponse.schema : Schema := response "files" [("files", .list [])] (.list RemoteFile.schema)

def StatusRequest.schema : Schema := .struct (names record) [] fun _ => .list .atom

def DownloadState.schema : Schema := .case .atom

def DownloadStatus.schema : Schema :=
  .struct (names record) [] (only "status" DownloadState.schema)

def StatusResponse.schema : Schema :=
  response "download_status" [("download_status", .list [])] (.list DownloadStatus.schema)

def Wire.schema : Wire → Schema
  | .envelope => plain Envelope.record
  | .loginRequest => plain LoginRequest.record
  | .loginResponse => response "token" [] .atom
  | .listRequest => plain ListRequest.record
  | .remoteFile => RemoteFile.schema
  | .listResponse => ListResponse.schema
  | .beginRequest => plain BeginRequest.record
  | .pauseRequest => plain (FileRequest.record "DownloadPauseReq")
  | .resumeRequest => plain (FileRequest.record "DownloadResumeReq")
  | .removeRequest => plain RemoveRequest.record
  | .statusFilter => .atom
  | .statusRequest => StatusRequest.schema
  | .downloadState => DownloadState.schema
  | .downloadStatus => DownloadStatus.schema
  | .statusResponse => StatusResponse.schema

theorem LoginRequest.recovers (r : LoginRequest) :
    Recovers (plain record) reader 1 r.toJson r := by
  refine .texts [("email", r.email), ("password", r.password)] rfl (by simp) fun room fs h => ?_
  have texts := h.texts (by simp)
  simp only [List.forall_mem_cons] at texts
  simp [record, texts, bind, Except.bind, pure, Except.pure]

theorem ListRequest.recovers (r : ListRequest) : Recovers (plain record) reader 1 r.toJson r := by
  refine .texts [("path", r.path)] rfl (by simp) fun room fs h => ?_
  have texts := h.texts (by simp)
  simp only [List.forall_mem_cons] at texts
  simp [record, texts, bind, Except.bind, pure, Except.pure]

theorem BeginRequest.recovers (r : BeginRequest) :
    Recovers (plain record) reader 1 r.toJson r := by
  refine .texts [("file_id", r.fileId), ("output_dir", r.outputDir), ("rename", r.rename)] rfl
    (by simp) fun room fs h => ?_
  have texts := h.texts (by simp)
  simp only [List.forall_mem_cons] at texts
  simp [record, texts, bind, Except.bind, pure, Except.pure]

theorem FileRequest.recovers (name : String) (r : FileRequest) :
    Recovers (plain (record name)) (.record (record name)) 1 r.toJson r := by
  refine .texts [("file_id", r.fileId)] rfl (by simp) fun room fs h => ?_
  have texts := h.texts (by simp)
  simp only [List.forall_mem_cons] at texts
  simp [record, texts, bind, Except.bind, pure, Except.pure]

theorem RemoveRequest.recovers (r : RemoveRequest) :
    Recovers (plain record) reader 1 r.toJson r := by
  have fileId : Recovers .atom Reader.string 0 (.text r.fileId) r.fileId := .atom (.string _)
  have flag : Recovers .atom Reader.flag 0 (.bool r.needRemoveFile) r.needRemoveFile :=
    .atom (.flag _)
  refine .record (.cons ⟨rfl, fileId.field _⟩ (.cons ⟨rfl, flag.field _⟩ .nil)) (by decide)
    fun room fs h => ?_
  have fileId := h.required (.head _) fileId nofun
  have flag := h.required (.tail _ (.head _)) flag nofun
  simp only [record, fileId, flag, bind, Except.bind, pure, Except.pure]

theorem StatusRequest.filter_recovers (filter : Option (List StatusFilter)) :
    Recovers (.list .atom) filterReader 1 (filterJson filter) filter := by
  cases filter with
  | none => exact .of_write (.null _ _) fun _ _ => id
  | some fs =>
    have items : ∀ f ∈ fs, Recovers .atom StatusFilter.reader 0 f.toJson f :=
      fun f _ => .atom f.returns
    exact .optional (.list items) nofun

theorem StatusRequest.recovers (r : StatusRequest) : Recovers schema reader 2 r.toJson r := by
  have filter := filter_recovers r.filter
  refine .record (.cons ⟨rfl, filter.field _⟩ .nil) (by decide) fun room fs h => ?_
  have filter : fs.withDefault "filter" filterReader none _ = .ok r.filter :=
    h.withDefault (.head _) filter nofun
  simp only [record, filter, bind, Except.bind, pure, Except.pure]

namespace Envelope

theorem code_returns (code : Int32) :
    Returns Reader.int32 0 (.number (.integer code.toInt)) code :=
  .number (readable_code code) (int32_code code)

theorem recovers (e : Envelope) : Recovers (plain record) reader 1 e.toJson e := by
  have code : Recovers .atom Reader.int32 0 (.number (.integer e.code.toInt)) e.code :=
    .atom (code_returns e.code)
  have message : Recovers .atom Reader.string 0 (.text e.message) e.message := .atom (.string _)
  refine .record (.cons ⟨rfl, code.field _⟩ (.cons ⟨rfl, message.field _⟩ .nil)) (by decide)
    fun room fs h => ?_
  have code := h.required (.head _) code nofun
  have message := h.required (.tail _ (.head _)) message nofun
  simp only [record, code, message, bind, Except.bind, pure, Except.pure]

theorem gather_filter (code : Option Int32) (message : Option String)
    (xs : List (String × Json)) :
    gather code message xs = gather code message (xs.filter (·.1 ∈ ["code", "message"])) := by
  induction xs generalizing code message with
  | nil => rfl
  | cons x xs ih =>
    obtain ⟨name, x⟩ := x
    by_cases hc : name = "code"
    · subst hc
      cases code <;> simp [gather, ih, bind, Except.bind]
    · by_cases hm : name = "message"
      · subst hm
        cases message <;> simp [gather, ih, bind, Except.bind]
      · simp [gather, hc, hm, ih]

theorem ofMembers_of_perm {e : Envelope} {xs : List (String × Json)}
    (h : (xs.filter (·.1 ∈ ["code", "message"])).Perm e.members) : ofMembers xs = .ok e := by
  rw [ofMembers, gather_filter]
  refine ofMembers_of_members ?_
  have := List.mem_permutations'.2 h
  simpa [members, List.permutations', List.permutations'Aux] using this

theorem response_recovers {α β γ : Type} {r : Flattened α Envelope γ} {needs : Nat}
    {name : String} {omittable : List (String × Json)} {S : Schema} {part : Reader β} {j : Json}
    {x : α} {y : β} (e : Envelope) (fields : r.fields = [.of name part])
    (inner : r.inner = ofMembers) (other : name ∉ ["code", "message"])
    (own : ∀ m ∈ omittable, m.1 = name) (h : Recovers S part needs j y)
    (build : ∀ room fs, Kept (only name S) omittable (room + needs) [(name, j)] fs →
      Recovers (only name S name) part needs j y → r.own (room + needs) fs = .ok x) :
    Recovers (response name omittable S) (.flattened r) (needs + 1)
      (.object (e.members ++ [(name, j)])) (r.build x e) := by
  have h' : Recovers (only name S name) part needs j y := by
    rwa [only_self]
  have code : Recovers .atom Reader.any needs (.number (.integer e.code.toInt))
      (.number (.integer e.code.toInt)) :=
    .atom ⟨by simpa [numerals] using readable_code e.code, fun _ => rfl⟩
  have message : Recovers .atom Reader.any needs (.text e.message) (.text e.message) :=
    .atom ⟨by simp [numerals], fun _ => rfl⟩
  have schema : response name omittable S =
      .struct ((e.members ++ [(name, j)]).map (·.1)) omittable (only name S) := rfl
  rw [schema]
  have distinct : ((e.members ++ [(name, j)]).map (·.1)).Nodup := by
    simpa [members, eq_comm] using other
  have checks : List.Forall₂ (Field.Recovers (only name S) needs) r.fields [(name, j)] := by
    rw [fields]
    exact .cons ⟨rfl, h'.field name⟩ .nil
  have values : ∀ m ∈ e.members, Recovers (only name S m.1) Reader.any needs m.2 m.2 := by
    obtain ⟨ne_code, ne_message⟩ : name ≠ "code" ∧ name ≠ "message" := by simpa using other
    refine List.forall_mem_cons.2 ⟨?_, List.forall_mem_singleton.2 ?_⟩
    · rw [only_of_ne ne_code.symm]
      exact code
    · rw [only_of_ne ne_message.symm]
      exact message
  refine .flattened ⟨distinct, checks, values⟩ (fun m hm => ?_)
    (fun room fs held => build room fs held h') fun xs hxs => ?_
  · rw [own m hm]
    exact other
  · rw [inner]
    exact ofMembers_of_perm hxs

end Envelope

theorem LoginResponse.recovers (r : LoginResponse) :
    Recovers (response "token" [] .atom) reader 1 r.toJson r := by
  refine Envelope.response_recovers (r := flattened) r.envelope rfl rfl (by decide) nofun
    (.atom (.string r.token)) fun room fs h token => ?_
  exact h.required (.head _) token nofun

theorem RemoteFile.recovers (f : RemoteFile) : Recovers schema reader 1 f.toJson f := by
  refine .texts [("kind", f.kind), ("id", f.id), ("parent_id", f.parentId), ("name", f.name),
    ("size", f.size), ("file_extension", f.fileExtension), ("mime_type", f.mimeType),
    ("created_time", f.createdTime), ("modified_time", f.modifiedTime), ("phase", f.phase)] rfl
    (by simp) fun room fs h => ?_
  have texts := h.textsOrEmpty (by simp)
  simp only [List.forall_mem_cons] at texts
  simp [record, texts, bind, Except.bind, pure, Except.pure]

theorem ListResponse.recovers (r : ListResponse) : Recovers schema reader 3 r.toJson r := by
  have files : Recovers (.list RemoteFile.schema) (Reader.list RemoteFile.reader) 2
      (filesJson r.files) r.files := .list fun f _ => f.recovers
  refine Envelope.response_recovers (r := flattened) r.envelope rfl rfl (by decide) (by simp)
    files fun room fs h files => ?_
  exact h.withDefault (.head _) files (by simp [filesJson])

theorem DownloadState.recovers (s : DownloadState) : Recovers schema reader 1 s.toJson s := by
  cases s with
  | hasError reason =>
    have payload : Recovers .atom (cases.applied "HasError") 0 (.text reason) (.hasError reason) :=
      .atom ⟨by simp [numerals], fun _ => rfl⟩
    exact .applied (by decide) payload
  | _ => exact .of_write (DownloadState.returns _) fun _ _ => id

namespace DownloadStatus

theorem recovers {s : DownloadStatus} (h : ReadsBack s.currentSpeed) :
    Recovers schema reader 2 s.toJson s := by
  have word (n : UInt64) : Recovers .atom Reader.word 1 (wordJson n) n :=
    .atom ((word_returns n).mono (Nat.zero_le 1))
  have text (s : String) : Recovers .atom Reader.string 1 (.text s) s :=
    .atom ((Returns.string s).mono (Nat.zero_le 1))
  have speed : Recovers .atom Reader.real 1 (.number (.real s.currentSpeed)) s.currentSpeed :=
    .atom ((Returns.real h).mono (Nat.zero_le 1))
  have status := s.status.recovers
  refine .record (.cons ⟨rfl, (word s.total).field _⟩ (.cons ⟨rfl, (word s.downloaded).field _⟩
    (.cons ⟨rfl, speed.field _⟩ (.cons ⟨rfl, (word s.downloadedTime).field _⟩
    (.cons ⟨rfl, (text s.fileId).field _⟩ (.cons ⟨rfl, (text s.remoteFileName).field _⟩
    (.cons ⟨rfl, (text s.downloadToLocalPath).field _⟩
    (.cons ⟨rfl, status.field _⟩ .nil)))))))) (by decide) fun room fs held => ?_
  have total : fs.required "total" Reader.word _ = .ok s.total :=
    held.required (by simp) (word s.total) nofun
  have downloaded : fs.required "downloaded" Reader.word _ = .ok s.downloaded :=
    held.required (by simp) (word s.downloaded) nofun
  have speed : fs.required "current_speed" Reader.real _ = .ok s.currentSpeed :=
    held.required (by simp) speed nofun
  have downloadedTime : fs.required "downloaded_time" Reader.word _ = .ok s.downloadedTime :=
    held.required (by simp) (word s.downloadedTime) nofun
  have fileId : fs.required "file_id" Reader.string _ = .ok s.fileId :=
    held.required (by simp) (text s.fileId) nofun
  have remoteFileName : fs.required "remote_file_name" Reader.string _ = .ok s.remoteFileName :=
    held.required (by simp) (text s.remoteFileName) nofun
  have downloadToLocalPath :
      fs.required "download_to_local_path" Reader.string _ = .ok s.downloadToLocalPath :=
    held.required (by simp) (text s.downloadToLocalPath) nofun
  have status : fs.required "status" DownloadState.reader _ = .ok s.status :=
    held.required (by simp) status nofun
  simp only [record, total, downloaded, speed, downloadedTime, fileId, remoteFileName,
    downloadToLocalPath, status, bind, Except.bind, pure, Except.pure]

end DownloadStatus

namespace StatusResponse

theorem recovers {r : StatusResponse} (h : ∀ d ∈ r.downloads, ReadsBack d.currentSpeed) :
    Recovers schema reader 4 r.toJson r := by
  have downloads : Recovers (.list DownloadStatus.schema) (Reader.list DownloadStatus.reader) 3
      (downloadsJson r.downloads) r.downloads := .list fun d hd => DownloadStatus.recovers (h d hd)
  refine Envelope.response_recovers (r := flattened) r.envelope rfl rfl (by decide) (by simp)
    downloads fun room fs h downloads => ?_
  exact h.withDefault (.head _) downloads (by simp [downloadsJson])

end StatusResponse

namespace Wire

theorem recovers (w : Wire) (x : w.Value) (h : ∀ v ∈ w.speeds x, ReadsBack v) :
    Recovers w.schema w.reader 4 (w.toJson x) x := by
  cases w with
  | envelope => exact (Envelope.recovers x).mono (by decide)
  | loginRequest => exact (LoginRequest.recovers x).mono (by decide)
  | loginResponse => exact (LoginResponse.recovers x).mono (by decide)
  | listRequest => exact (ListRequest.recovers x).mono (by decide)
  | remoteFile => exact (RemoteFile.recovers x).mono (by decide)
  | listResponse => exact (ListResponse.recovers x).mono (by decide)
  | beginRequest => exact (BeginRequest.recovers x).mono (by decide)
  | pauseRequest => exact (FileRequest.recovers _ x).mono (by decide)
  | resumeRequest => exact (FileRequest.recovers _ x).mono (by decide)
  | removeRequest => exact (RemoveRequest.recovers x).mono (by decide)
  | statusFilter => exact (Recovers.atom (StatusFilter.returns x)).mono (by decide)
  | statusRequest => exact (StatusRequest.recovers x).mono (by decide)
  | downloadState => exact (DownloadState.recovers x).mono (by decide)
  | downloadStatus =>
    exact (DownloadStatus.recovers (h _ (List.mem_singleton_self _))).mono (by decide)
  | statusResponse => exact StatusResponse.recovers fun d hd => h _ (List.mem_map_of_mem hd)

/-- Every value is read back from its encoding, and from every text that differs from it in blanks,
in the order of members, in members of other names and in what is left out because it is empty. -/
theorem recovered_of_rendered (w : Wire) (x : w.Value) (h : ∀ v ∈ w.speeds x, ReadsBack v) :
    w.schema.Renders nestingLimit (w.toJson x) (w.toJson x).compact.toList ∧
      ∀ s : String, w.schema.Renders nestingLimit (w.toJson x) s.toList →
        w.reader.readText s = .ok x ∧ w.reader.readBytes s.toUTF8 = .ok x := by
  constructor
  · rw [Json.compact, String.toList_ofList]
    exact renders_compact _ _ _ _
  · intro s hs
    rw [readBytes_toUTF8, and_self_iff]
    exact (w.recovers x h).readText (by decide) hs

theorem reversed_download_recovered :
    ∃ s : DownloadStatus, s.currentSpeed = 0.5 ∧ ∀ ms, s.toJson = .object ms →
      DownloadStatus.reader.readText
        (Json.object (("trace", .list [.null]) :: ms.reverse)).compact = .ok s := by
  refine ⟨⟨2, 1, 0.5, 2, "f", "a", "/a", .paused⟩, rfl, fun ms hms => ?_⟩
  have half := recovered_of_rendered .downloadStatus ⟨2, 1, 0.5, 2, "f", "a", "/a", .paused⟩
    (List.forall_mem_singleton.2 readsBack_half)
  refine (half.2 _ ?_).1
  have own : ∀ m ∈ ms, m.1 ∈ names DownloadStatus.record := by
    cases hms
    exact fun m hm => List.mem_map_of_mem (f := (·.1)) hm
  have foreign : "trace" ∉ names DownloadStatus.record := by decide
  have perm : (List.filter (fun m : String × Json => m.1 ∈ names DownloadStatus.record)
      (("trace", .list [.null]) :: ms.reverse) ++ []).Perm ms := by
    have all := List.filter_eq_self.2 fun m hm => decide_eq_true (own m (List.mem_reverse.1 hm))
    rw [List.filter_cons_of_neg (by simpa using foreign), all, List.append_nil]
    exact ms.reverse_perm
  rw [Json.compact, String.toList_ofList]
  change Schema.Renders _ _ (DownloadStatus.toJson _) _
  rw [hms]
  refine renders_object perm (List.forall_mem_nil _) (fun m hm unknown => ?_) 0
  obtain rfl | hm := List.mem_cons.1 hm
  · simp [depth, depthOfItems, numerals, numeralsOfItems]
  · exact absurd (own m (List.mem_reverse.1 hm)) unknown

end Wire

end DownloadClient.Api
