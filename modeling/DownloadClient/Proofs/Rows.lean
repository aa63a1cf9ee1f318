import DownloadClient.Display.Table
import DownloadClient.Proofs.Size

/-! Tables line by line. A listing has a row for each file, and a progress table one for each
download, with the reason behind it where one has failed. Ids, names and reasons are printed as the
drive gives them: each line feed in them makes one line more, and nothing else in an answer adds a
line, takes one away or cuts one. -/

namespace DownloadClient.Text

def lines (s : String) : List (List Char) := (splitWhen (· == '\n') s.toList).dropLast

def feeds (s : String) : Nat := s.toList.count '\n'

def stacked (texts : List (List Char)) : List Char := texts.flatMap (· ++ ['\n'])

variable {s : String} {texts : List (List Char)}

theorem stacked_cons (t : List Char) (texts : List (List Char)) :
    stacked (t :: texts) = t ++ '\n' :: stacked texts := by
  simp [stacked]

theorem stacked_append (ts us : List (List Char)) : stacked (ts ++ us) = stacked ts ++ stacked us :=
  List.flatMap_append

theorem getLast?_stacked (ne : texts ≠ []) : (stacked texts).getLast? = some '\n' := by
  rw [← List.dropLast_append_getLast ne, stacked_append]
  simp [stacked]

theorem stacked_of_append {t : List Char} {r : String} (top : s.toList = t ++ ['\n'])
    (below : r.toList = stacked texts) : (s ++ r).toList = stacked (t :: texts) := by
  rw [String.toList_append, top, below, stacked_cons, List.append_assoc, List.singleton_append]

theorem splitWhen_stacked (texts : List (List Char)) :
    splitWhen (· == '\n') (stacked texts) = texts.flatMap (splitWhen (· == '\n')) ++ [[]] := by
  induction texts with
  | nil => rfl
  | cons t texts ih =>
    rw [stacked_cons, splitWhen_append_cons (by rfl), ih, List.flatMap_cons, List.append_assoc]

theorem count_stacked (texts : List (List Char)) :
    (stacked texts).count '\n' = texts.length + (texts.map (·.count '\n')).sum := by
  induction texts with
  | nil => rfl
  | cons t texts ih =>
    rw [stacked_cons, List.count_append, List.count_cons_self, ih, List.map_cons, List.sum_cons,
      List.length_cons]
    omega

theorem length_lines (s : String) : (lines s).length = feeds s := by
  rw [lines, List.length_dropLast, length_splitWhen, Nat.add_sub_cancel, feeds]

theorem lines_of_stacked (h : s.toList = stacked texts) :
    lines s = texts.flatMap (splitWhen (· == '\n')) := by
  rw [lines, h, splitWhen_stacked, List.dropLast_concat]

theorem lines_of_stacked_plain (h : s.toList = stacked texts) (plain : ∀ t ∈ texts, '\n' ∉ t) :
    lines s = texts := by
  have uncut : ∀ t ∈ texts, splitWhen (· == '\n') t = [t] := fun t ht =>
    splitWhen_of_all fun c hc => by simpa using ne_of_mem_of_not_mem hc (plain t ht)
  calc lines s = texts.flatMap (splitWhen (· == '\n')) := lines_of_stacked h
    _ = texts.flatMap ([·]) := List.flatMap_congr uncut
    _ = texts := List.flatMap_singleton' texts

end DownloadClient.Text

namespace DownloadClient.Api

def RemoteFile.shownName (f : RemoteFile) : String := if f.isFolder then f.name ++ "/" else f.name

def DownloadState.reasons : DownloadState → List String
  | .hasError reason => [reason]
  | _ => []

end DownloadClient.Api

namespace DownloadClient.Display

open DownloadClient.Api DownloadClient.Number DownloadClient.Text

inductive Row (id name : String) : List Char → Prop
  | of {between : List Char} (plain : '\n' ∉ between) :
      Row id name (id.toList ++ between ++ name.toList)

inductive Titled (body : List (List Char) → Prop) : List (List Char) → Prop
  | of {title : List Char} {texts : List (List Char)} (titles : Row "ID" "NAME" title)
      (below : body texts) : Titled body (title :: texts)

inductive FileRows : List RemoteFile → List (List Char) → Prop
  | none : FileRows [] ["(empty)".toList]
  | some {fs : List RemoteFile} {texts : List (List Char)} (ne : fs ≠ [])
      (rows : List.Forall₂ (fun f => Row f.id f.shownName) fs texts) : FileRows fs texts

def reasonText (reason : String) : List Char := ("  reason: " ++ reason).toList

inductive DownloadRows : List DownloadStatus → List (List Char) → Prop
  | nil : DownloadRows [] []
  | cons {d : DownloadStatus} {ds : List DownloadStatus} {text : List Char}
      {texts : List (List Char)} (row : Row d.fileId d.remoteFileName text)
      (rest : DownloadRows ds texts) :
      DownloadRows (d :: ds) (text :: (d.status.reasons.map reasonText ++ texts))

def fileFeeds (f : RemoteFile) : Nat := feeds f.id + feeds f.name

def downloadFeeds (d : DownloadStatus) : Nat :=
  feeds d.fileId + feeds d.remoteFileName + (d.status.reasons.map feeds).sum

/-- The lines of a table are titles and so many texts below them, each text cut at the line feeds in
it. There are so many cuts in all, and the lines are texts of that kind just where there is none. -/
structure Tabulates (table : String) (body : List (List Char) → Prop) (count cuts : Nat) :
    Prop where
  ended : table.toList.getLast? = some '\n'
  length : (lines table).length = 1 + count + cuts
  texts : ∃ texts, Titled body texts ∧ lines table = texts.flatMap (splitWhen (· == '\n'))
  whole : Titled body (lines table) ↔ cuts = 0

variable {id name : String}

theorem Row.count {text : List Char} (h : Row id name text) :
    text.count '\n' = feeds id + feeds name := by
  obtain ⟨plain⟩ := h
  rw [List.count_append, List.count_append, List.count_eq_zero.2 plain, feeds, feeds, Nat.add_zero]

theorem row_columns (width : Nat) (id name : String) (cells : List (List Char))
    (plain : ∀ cell ∈ cells, '\n' ∉ cell) : ∃ text, Row id name text ∧
      (columns (left width id :: (cells ++ [name.toList]))).toList = text ++ ['\n'] := by
  have between : '\n' ∉ padding width id.toList ++ cells.flatMap (' ' :: ·) ++ [' '] := by
    simpa [padding] using plain
  exact ⟨_, .of between, by simp [columns, intercalate_concat, left]⟩

theorem feed_not_mem_left (width : Nat) {s : String} (h : '\n' ∉ s.toList) :
    '\n' ∉ left width s := by
  simp [left, padding, h]

theorem feed_not_mem_right (width : Nat) {s : String} (h : '\n' ∉ s.toList) :
    '\n' ∉ right width s := by
  simp [right, padding, h]

theorem feed_not_mem_placed (places h : Nat) : '\n' ∉ placed places h :=
  not_mem_placed (by decide) (by decide) places h

theorem feed_not_mem_amount (a : Amount) : '\n' ∉ a.text := by
  have unit : '\n' ∉ a.sizeUnit.name.toList := by
    cases a.sizeUnit <;> decide
  simp [Amount.text, feed_not_mem_placed, unit]

theorem feed_not_mem_formatBytes (n : UInt64) : '\n' ∉ (formatBytes n).toList := by
  rw [formatBytes, String.toList_ofList]
  split
  · simp [not_mem_decimal (by decide : isDigit '\n' = false)]
  · exact feed_not_mem_amount _

theorem feed_not_mem_formatSpeed (x : Float) : '\n' ∉ (formatSpeed x).toList := by
  rw [formatSpeed, String.toList_ofList]
  split
  · simp [feed_not_mem_placed]
  · simp [feed_not_mem_amount]

theorem feed_not_mem_percent (x : Float) : '\n' ∉ (percent x).toList := by
  have fixed (v : Binary64) : '\n' ∉ v.fixed 1 := by
    rw [Binary64.fixed]
    split <;> simp [Number.fixed, feed_not_mem_placed]
  rw [percent]
  split
  · simp [fixed]
  · decide
  · decide

theorem feed_not_mem_label (s : DownloadState) : '\n' ∉ s.label.toList := by
  cases s <;> simp [DownloadState.label]

theorem tabulates_of_stacked {table : String} {body : List (List Char) → Prop} {count cuts : Nat}
    {title : List Char} {texts : List (List Char)} (titles : Row "ID" "NAME" title)
    (below : body texts) (text : table.toList = stacked (title :: texts))
    (length : ∀ {ts}, body ts → ts.length = count)
    (cut : ∀ {ts}, body ts → (ts.map (·.count '\n')).sum = cuts) :
    Tabulates table body count cuts := by
  have uncut : title.count '\n' = 0 := titles.count
  have total : (lines table).length = 1 + count + cuts := by
    rw [length_lines, feeds, text, count_stacked, List.length_cons, length below, List.map_cons,
      List.sum_cons, uncut, cut below]
    omega
  refine ⟨?_, total, ⟨_, .of titles below, lines_of_stacked text⟩, fun held => ?_, fun zero => ?_⟩
  · rw [text]
    exact getLast?_stacked (List.cons_ne_nil _ _)
  · -- a table that holds this and no more has no room for a line that a line feed has made
    generalize lines table = ls at held total
    obtain ⟨-, below⟩ := held
    rw [List.length_cons, length below] at total
    omega
  · have plain : ∀ t ∈ texts, '\n' ∉ t := by
      have sum := cut below
      rw [zero, List.sum_eq_zero_iff] at sum
      exact fun t ht => List.count_eq_zero.1 (sum _ (List.mem_map_of_mem ht))
    rw [lines_of_stacked_plain text (List.forall_mem_cons.2 ⟨List.count_eq_zero.1 uncut, plain⟩)]
    exact .of titles below

theorem row_listRow (id name : String) {kind size : String} (hk : '\n' ∉ kind.toList)
    (hs : '\n' ∉ size.toList) :
    ∃ text, Row id name text ∧ (listRow id kind size name).toList = text ++ ['\n'] :=
  row_columns 24 id name [left 4 kind, right 11 size]
    (by simp [feed_not_mem_left, feed_not_mem_right, hk, hs])

theorem row_fileRow (f : RemoteFile) :
    ∃ text, Row f.id f.shownName text ∧ (fileRow f).toList = text ++ ['\n'] := by
  have size : '\n' ∉ ((f.sizeBytes?.map formatBytes).getD "?").toList := by
    cases f.sizeBytes? with
    | none => decide
    | some n => exact feed_not_mem_formatBytes n
  rw [fileRow, RemoteFile.shownName]
  split
  · exact row_listRow f.id (f.name ++ "/") (by decide) (by decide)
  · exact row_listRow f.id f.name (by decide) size

theorem rows_join_fileRow (fs : List RemoteFile) :
    ∃ texts, List.Forall₂ (fun f => Row f.id f.shownName) fs texts ∧
      (String.join (fs.map fileRow)).toList = stacked texts := by
  induction fs with
  | nil => exact ⟨[], .nil, rfl⟩
  | cons f fs ih =>
    obtain ⟨text, row, printed⟩ := row_fileRow f
    obtain ⟨texts, rows, below⟩ := ih
    rw [List.map_cons, String.join_cons]
    exact ⟨text :: texts, .cons row rows, stacked_of_append printed below⟩

theorem fileRows_printed (fs : List RemoteFile) : ∃ texts, FileRows fs texts ∧
    (String.join (fs.map fileRow) ++ if fs.isEmpty then "(empty)\n" else "").toList =
      stacked texts := by
  cases fs with
  | nil => exact ⟨_, .none, by decide⟩
  | cons f fs =>
    obtain ⟨texts, rows, printed⟩ := rows_join_fileRow (f :: fs)
    exact ⟨texts, .some (List.cons_ne_nil f fs) rows, by simpa using printed⟩

theorem feeds_shownName (f : RemoteFile) : feeds f.shownName = feeds f.name := by
  rw [RemoteFile.shownName]
  split
  · simp [feeds]
  · rfl

namespace FileRows

variable {fs : List RemoteFile} {texts : List (List Char)}

theorem length (h : FileRows fs texts) : texts.length = max fs.length 1 := by
  cases h with
  | none => rfl
  | some ne rows => rw [← rows.length_eq, max_eq_left (List.length_pos_of_ne_nil ne)]

theorem sum_count (h : FileRows fs texts) :
    (texts.map (·.count '\n')).sum = (fs.map fileFeeds).sum := by
  cases h with
  | none => rfl
  | some ne rows =>
    clear ne
    induction rows with
    | nil => rfl
    | cons row rows ih =>
      rw [List.map_cons, List.map_cons, List.sum_cons, List.sum_cons, ih, row.count,
        feeds_shownName, fileFeeds]

end FileRows

theorem tabulates_listTable (r : ListResponse) : Tabulates (listTable r) (FileRows r.files)
    (max r.files.length 1) (r.files.map fileFeeds).sum := by
  have plain : '\n' ∉ "TYPE".toList ∧ '\n' ∉ "SIZE".toList := by decide
  obtain ⟨title, titles, top⟩ := row_listRow "ID" "NAME" plain.1 plain.2
  obtain ⟨texts, rows, below⟩ := fileRows_printed r.files
  refine tabulates_of_stacked titles rows ?_ FileRows.length FileRows.sum_count
  rw [listTable, String.append_assoc]
  exact stacked_of_append top below

theorem row_statusRow (id name : String) {state progress size speed : String}
    (ht : '\n' ∉ state.toList) (hp : '\n' ∉ progress.toList) (hs : '\n' ∉ size.toList)
    (hv : '\n' ∉ speed.toList) : ∃ text, Row id name text ∧
      (statusRow id state progress size speed name).toList = text ++ ['\n'] :=
  row_columns 24 id name [left 11 state, right 7 progress, right 11 size, right 13 speed]
    (by simp [feed_not_mem_left, feed_not_mem_right, ht, hp, hs, hv])

theorem stacked_reasonLine (s : DownloadState) :
    (reasonLine s).toList = stacked (s.reasons.map reasonText) := by
  cases s <;> simp [reasonLine, DownloadState.reasons, stacked, reasonText]

theorem rows_join_downloadRow (ds : List DownloadStatus) :
    ∃ texts, DownloadRows ds texts ∧
      (String.join (ds.map downloadRow)).toList = stacked texts := by
  induction ds with
  | nil => exact ⟨[], .nil, rfl⟩
  | cons d ds ih =>
    obtain ⟨text, row, printed⟩ := row_statusRow d.fileId d.remoteFileName
      (feed_not_mem_label d.status) (feed_not_mem_percent d.percentComplete)
      (feed_not_mem_formatBytes d.total) (feed_not_mem_formatSpeed d.currentSpeed)
    obtain ⟨texts, rows, below⟩ := ih
    rw [List.map_cons, String.join_cons, downloadRow, String.append_assoc]
    refine ⟨_, .cons row rows, stacked_of_append printed ?_⟩
    rw [String.toList_append, stacked_reasonLine, below, stacked_append]

namespace DownloadRows

variable {ds : List DownloadStatus} {texts : List (List Char)}

theorem length (h : DownloadRows ds texts) :
    texts.length = (ds.map fun d => 1 + d.status.reasons.length).sum := by
  induction h with
  | nil => rfl
  | cons row rest ih =>
    rw [List.length_cons, List.length_append, List.length_map, ih, List.map_cons, List.sum_cons]
    omega

theorem sum_count (h : DownloadRows ds texts) :
    (texts.map (·.count '\n')).sum = (ds.map downloadFeeds).sum := by
  have reason (r : String) : (reasonText r).count '\n' = feeds r := by
    simp [reasonText, feeds]
  induction h with
  | nil => rfl
  | cons row rest ih =>
    simp [row.count, ih, downloadFeeds, reason, Function.comp_def, Nat.add_assoc]

end DownloadRows

theorem tabulates_statusTable (r : StatusResponse) : Tabulates (statusTable r)
    (DownloadRows r.downloads) (r.downloads.map fun d => 1 + d.status.reasons.length).sum
    (r.downloads.map downloadFeeds).sum := by
  have plain : ∀ word ∈ ["STATE", "PROG", "SIZE", "SPEED"], '\n' ∉ word.toList := by decide
  obtain ⟨title, titles, top⟩ := row_statusRow "ID" "NAME" (plain "STATE" (by decide))
    (plain "PROG" (by decide)) (plain "SIZE" (by decide)) (plain "SPEED" (by decide))
  obtain ⟨texts, rows, below⟩ := rows_join_downloadRow r.downloads
  exact tabulates_of_stacked titles rows (stacked_of_append top below) DownloadRows.length
    DownloadRows.sum_count

/-- Below the titles stand a row for each file, or for each download with its reason behind it if it
has failed. A line feed in an id, a name or a reason makes one line more; where there is none, each
of these texts is a line. -/
theorem line_for_each_entry (l : ListResponse) (s : StatusResponse) :
    Tabulates (listTable l) (FileRows l.files) (max l.files.length 1)
      (l.files.map fileFeeds).sum ∧
    Tabulates (statusTable s) (DownloadRows s.downloads)
      (s.downloads.map fun d => 1 + d.status.reasons.length).sum
      (s.downloads.map downloadFeeds).sum :=
  ⟨tabulates_listTable l, tabulates_statusTable s⟩

def cutFile : RemoteFile := { id := "f", name := "a\nb" }

def cutDownload : DownloadStatus where
  total := 0
  downloaded := 0
  currentSpeed := 0
  downloadedTime := 0
  fileId := "f"
  remoteFileName := "a"
  downloadToLocalPath := ""
  status := .hasError "disk\nfull"

theorem line_feed_cuts_line :
    lines (listTable { files := [cutFile] }) =
      ["ID                       TYPE        SIZE NAME".toList,
        "f                        file           ? a".toList, "b".toList] ∧
    (lines (listTable { files := [cutFile] })).length ≠ 1 + max 1 1 ∧
    (lines (statusTable { downloads := [cutDownload] })).length ≠ 1 + (1 + 1) := by
  refine ⟨by decide +kernel, ?_, ?_⟩
  · rw [(tabulates_listTable _).length]
    decide
  · rw [(tabulates_statusTable _).length]
    decide

end DownloadClient.Display
