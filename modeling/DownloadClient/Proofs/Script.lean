import DownloadClient.Proofs.Shell
import DownloadClient.Proofs.Utf8

/-! Scripts. The shell carries out the lines of its input in their order, up to one that leaves it
or one that is no text; lines that fail do not stop it. A script put behind another one goes on in
the context that the first one has left, and how lines end makes no difference. -/

namespace DownloadClient.Command

open DownloadClient.Client DownloadClient.Display DownloadClient.Log DownloadClient.Text

def withoutReturn (bytes : List UInt8) : List UInt8 :=
  if bytes.getLast? = some carriageReturn then bytes.dropLast else bytes

def pieces (input : List UInt8) : List (List UInt8) :=
  let parts := splitWhen (· == lineFeed) input
  if parts.getLast? = some [] then parts.dropLast else parts

def scriptLines (input : List UInt8) : List (List UInt8) := (pieces input).map withoutReturn

def Leaves (line : String) : Prop := parseLine line = .ok (some .exit)

inductive Stop
  | atEnd
  | leaving
  | unreadable
  deriving DecidableEq

namespace Stop

def exitCode : Stop → Nat
  | .atEnd | .leaving => 0
  | .unreadable => 3

def Gives : Stop → Except CommandError Unit → Prop
  | .atEnd | .leaving => (· = .ok ())
  | .unreadable => fun result => ∃ f, result = .error (.input f)

/-- These are the lines up to where a script stops: its end, the first line that leaves the shell,
which is one of them, or the first line that is no text, which is not. -/
def At (lines : List (List UInt8)) (xs : List String) : Stop → Prop
  | .atEnd => lines = xs.map encoded ∧ ∀ x ∈ xs, ¬ Leaves x
  | .leaving => ∃ ys x rest, xs = ys ++ [x] ∧ lines = xs.map encoded ++ rest ∧
      (∀ y ∈ ys, ¬ Leaves y) ∧ Leaves x
  | .unreadable => ∃ bytes rest, lines = xs.map encoded ++ bytes :: rest ∧
      (∀ x ∈ xs, ¬ Leaves x) ∧ ∀ x, bytes ≠ encoded x

end Stop

/-- What comes of lines that are carried out in turn, each in the context that the one before it has
left. -/
def outcomes [Locator] (c : Context) (format : OutputFormat) (terminal : Option Terminal) :
    List String → List (Ran LineOutcome)
  | [] => []
  | x :: xs =>
    let first := runLine c format (terminal.map Terminal.first) x
    first :: outcomes first.context format (terminal.map Terminal.next) xs

theorem exists_of_mem_outcomes [Locator] {P : Context → Prop} {format : OutputFormat}
    (step : ∀ c answer x, P c → P (runLine c format answer x).context) {c : Context} (h : P c)
    {terminal : Option Terminal} {xs : List String} {ran : Ran LineOutcome}
    (hr : ran ∈ outcomes c format terminal xs) :
    ∃ c answer x, P c ∧ ran = runLine c format answer x := by
  induction xs generalizing c terminal with
  | nil => cases hr
  | cons x xs ih =>
    obtain rfl | hr := List.mem_cons.1 hr
    · exact ⟨c, _, x, h, rfl⟩
    · exact ih (step c _ x h) hr

def contextAfter [Locator] (c : Context) (format : OutputFormat) (xs : List String) : Context :=
  xs.foldl (fun c x => (runLine c format none x).context) c

def Ran.complaint {α : Type} (r : Ran α) : String :=
  match r.result with
  | .ok _ => ""
  | .error e => e.line

structure Transcript.Tells [Locator] (s : Transcript) (c : Context) (format : OutputFormat)
    (xs : List String) (stop : Stop) : Prop where
  context : s.context = contextAfter c format xs
  stdout : s.stdout = .join ((outcomes c format none xs).map (·.stdout))
  stderr : s.stderr = .join ((outcomes c format none xs).map (·.complaint))
  received : s.received = (outcomes c format none xs).flatMap (·.received)
  log : s.log = (outcomes c format none xs).flatMap (·.log)
  result : stop.Gives s.result
  exitCode : (Finished.ofTranscript s).exitCode = stop.exitCode

def Transcript.andThen (s t : Transcript) : Transcript :=
  ⟨t.context, t.result, s.stdout ++ t.stdout, s.stderr ++ t.stderr, s.received ++ t.received,
    s.log ++ t.log⟩

def withReturns (input : List UInt8) : List UInt8 :=
  input.flatMap fun b => if b = lineFeed then [carriageReturn, lineFeed] else [b]

namespace Stop

theorem At.cons {lines : List (List UInt8)} {xs : List String} {stop : Stop} {x : String}
    (hx : ¬ Leaves x) (h : stop.At lines xs) : stop.At (encoded x :: lines) (x :: xs) := by
  have all (ys : List String) (hys : ∀ y ∈ ys, ¬ Leaves y) : ∀ y ∈ x :: ys, ¬ Leaves y :=
    List.forall_mem_cons.2 ⟨hx, hys⟩
  cases stop with
  | atEnd => exact ⟨congrArg (encoded x :: ·) h.1, all xs h.2⟩
  | leaving =>
    obtain ⟨ys, y, rest, rfl, rfl, hys, hy⟩ := h
    exact ⟨x :: ys, y, rest, rfl, rfl, all ys hys, hy⟩
  | unreadable =>
    obtain ⟨bytes, rest, rfl, hxs, hb⟩ := h
    exact ⟨bytes, rest, rfl, all xs hxs, hb⟩

theorem at_leaving {x : String} (h : Leaves x) (rest : List (List UInt8)) :
    leaving.At (encoded x :: rest) [x] := ⟨[], x, rest, rfl, rfl, by simp, h⟩

theorem at_unreadable {bytes : List UInt8} (h : ∀ x, bytes ≠ encoded x)
    (rest : List (List UInt8)) : unreadable.At (bytes :: rest) [] :=
  ⟨bytes, rest, rfl, by simp, h⟩

theorem At.of_nil {xs : List String} {stop : Stop} (h : stop.At [] xs) :
    xs = [] ∧ stop = atEnd := by
  cases stop with
  | atEnd => exact ⟨List.map_eq_nil_iff.1 h.1.symm, rfl⟩
  | leaving =>
    obtain ⟨ys, x, rest, rfl, h, -⟩ := h
    simp at h
  | unreadable =>
    obtain ⟨bytes, rest, h, -⟩ := h
    simp at h

inductive First (bytes : List UInt8) (lines : List (List UInt8)) : List String → Stop → Prop
  | leaves {x : String} (hx : bytes = encoded x) (h : Leaves x) : First bytes lines [x] .leaving
  | unreadable (h : ∀ x, bytes ≠ encoded x) : First bytes lines [] .unreadable
  | stays {x : String} {xs : List String} {stop : Stop} (hx : bytes = encoded x)
      (hn : ¬ Leaves x) (h : stop.At lines xs) : First bytes lines (x :: xs) stop

theorem At.first {bytes : List UInt8} {lines : List (List UInt8)} {xs : List String} {stop : Stop}
    (h : stop.At (bytes :: lines) xs) : First bytes lines xs stop := by
  cases stop with
  | atEnd =>
    obtain ⟨h, hxs⟩ := h
    cases xs with
    | nil => cases h
    | cons x xs =>
      obtain ⟨hx, hxs⟩ := List.forall_mem_cons.1 hxs
      obtain ⟨rfl, rfl⟩ := List.cons_eq_cons.1 h
      exact .stays rfl hx ⟨rfl, hxs⟩
  | leaving =>
    obtain ⟨ys, x, rest, rfl, h, hys, hx⟩ := h
    cases ys with
    | nil => exact .leaves (List.cons_eq_cons.1 h).1 hx
    | cons y ys =>
      obtain ⟨hy, hys⟩ := List.forall_mem_cons.1 hys
      obtain ⟨rfl, rfl⟩ := List.cons_eq_cons.1 h
      exact .stays rfl hy ⟨ys, x, rest, rfl, rfl, hys, hx⟩
  | unreadable =>
    obtain ⟨bad, rest, h, hxs, hb⟩ := h
    cases xs with
    | nil =>
      obtain ⟨rfl, rfl⟩ := List.cons_eq_cons.1 h
      exact .unreadable hb
    | cons x xs =>
      obtain ⟨hx, hxs⟩ := List.forall_mem_cons.1 hxs
      obtain ⟨rfl, rfl⟩ := List.cons_eq_cons.1 h
      exact .stays rfl hx ⟨bad, rest, rfl, hxs, hb⟩

theorem At.unique {lines : List (List UInt8)} {xs ys : List String} {stop other : Stop}
    (h : stop.At lines xs) (h' : other.At lines ys) : xs = ys ∧ stop = other := by
  induction lines generalizing xs ys stop other with
  | nil =>
    obtain ⟨rfl, rfl⟩ := h.of_nil
    obtain ⟨rfl, rfl⟩ := h'.of_nil
    exact ⟨rfl, rfl⟩
  | cons bytes lines ih =>
    cases h.first with
    | leaves hx hl =>
      cases h'.first with
      | leaves hy hl' => exact ⟨by rw [encoded_injective (hx.symm.trans hy)], rfl⟩
      | unreadable hn => exact absurd hx (hn _)
      | stays hy hn ht => exact absurd hl (encoded_injective (hx.symm.trans hy) ▸ hn)
    | unreadable hn =>
      cases h'.first with
      | leaves hy hl => exact absurd hy (hn _)
      | unreadable => exact ⟨rfl, rfl⟩
      | stays hy hn' ht => exact absurd hy (hn _)
    | stays hx hn ht =>
      cases h'.first with
      | leaves hy hl => exact absurd hl (encoded_injective (hx.symm.trans hy) ▸ hn)
      | unreadable hn' => exact absurd hx (hn' _)
      | stays hy hn' ht' =>
        obtain ⟨rfl, rfl⟩ := ih ht ht'
        exact ⟨by rw [encoded_injective (hx.symm.trans hy)], rfl⟩

end Stop

theorem runLine_congr [Locator] {x y : String} (h : parseLine x = parseLine y) (c : Context)
    (format : OutputFormat) (answer : Option Answer) :
    runLine c format answer x = runLine c format answer y := by
  rw [runLine, runLine, h]

theorem runLine_leave_iff [Locator] (c : Context) (format : OutputFormat) (answer : Option Answer)
    (x : String) : (runLine c format answer x).result = .ok .leave ↔ Leaves x := by
  rw [runLine, Leaves]
  split
  · next h => simp [h]
  · next command h =>
    rw [h]
    cases command with
    | api command =>
      rw [runShellCommand]
      cases hr : (runApi c format answer command).result <;> simp [Ran.goingOn, hr, Except.map]
    | setUrl url => simp [runShellCommand]
    | logout => simp [runShellCommand]
    | exit => simp [runShellCommand]
  · next e h =>
    rw [h]
    split <;> simp
  · next h => simp [h]

theorem wordsFrom_return {quote : Option Char} (hq : ∀ q ∈ quote, isQuote q = true)
    (w : Option (List Char)) (s : List Char) :
    wordsFrom quote w (s ++ ['\r']) = wordsFrom quote w s := by
  have noQuote : isQuote '\r' = false := by decide
  have blank : isBlank '\r' = true := by decide
  -- Outside quotes a blank ends a word as the end of the line does; in quotes it ends nothing, but
  -- then the quote stays open, and there are no words at all.
  fun_induction wordsFrom quote w s with
  | case1 q w =>
    have hr : '\r' ≠ q := by
      rintro rfl
      simp [hq] at noQuote
    simp [wordsFrom, hr]
  | case2 w => simp [wordsFrom, noQuote, blank]
  | case3 q w r ih => simpa [wordsFrom] using ih (by simp)
  | case4 q w c r hc ih => simpa [wordsFrom, hc] using ih hq
  | case5 w c r hc ih => simpa [wordsFrom, hc] using ih (by simpa using hc)
  | case6 w c r hc hb ih => simp [wordsFrom, hc, hb, ih]
  | case7 w c r hc hb ih => simpa [wordsFrom, hc, hb] using ih (by simp)

theorem parseLine_return (x : String) : parseLine (x ++ "\r") = parseLine x := by
  have words : words? (x ++ "\r") = words? x := by
    rw [words?, words?, String.toList_append]
    exact congrArg _ (wordsFrom_return (by simp) none x.toList)
  rw [parseLine, parseLine, words]

theorem encoded_return (x : String) : encoded (x ++ "\r") = encoded x ++ [carriageReturn] := by
  rw [encoded_append]
  rfl

theorem withoutReturn_concat (bytes : List UInt8) :
    withoutReturn (bytes ++ [carriageReturn]) = bytes := by
  simp [withoutReturn]

theorem withoutReturn_or (bytes : List UInt8) :
    withoutReturn bytes = bytes ∨ bytes = withoutReturn bytes ++ [carriageReturn] := by
  unfold withoutReturn
  split
  · next h =>
    obtain ⟨front, rfl⟩ := List.getLast?_eq_some_iff.1 h
    simp
  · exact .inl rfl

theorem exists_of_encoded_return {x : String} {bytes : List UInt8}
    (h : encoded x = bytes ++ [carriageReturn]) : ∃ y, bytes = encoded y ∧ x = y ++ "\r" := by
  obtain ⟨front, c, back, hx, hc, rfl, hb⟩ := exists_of_encoded_eq (by decide) h
  refine ⟨.ofList front, rfl, encoded_injective ?_⟩
  rw [h, encoded_return]

theorem withoutReturn_text (bytes : List UInt8) :
    (∃ x y, bytes = encoded x ∧ withoutReturn bytes = encoded y ∧ parseLine x = parseLine y) ∨
      (∀ x, bytes ≠ encoded x) ∧ ∀ y, withoutReturn bytes ≠ encoded y := by
  by_cases h : ∃ x, bytes = encoded x
  · obtain ⟨x, hx⟩ := h
    refine .inl ?_
    obtain he | he := withoutReturn_or bytes
    · exact ⟨x, x, hx, he.trans hx, rfl⟩
    · obtain ⟨y, hy, rfl⟩ := exists_of_encoded_return (hx.symm.trans he)
      exact ⟨_, y, hx, hy, parseLine_return y⟩
  · refine .inr ⟨fun x hx => h ⟨x, hx⟩, fun y hy => h ?_⟩
    obtain he | he := withoutReturn_or bytes
    · exact ⟨y, he.symm.trans hy⟩
    · exact ⟨y ++ "\r", by rw [he, hy, encoded_return]⟩

namespace InputLine

theorem content_ended (bytes : List UInt8) :
    content ⟨bytes, true⟩ = withoutReturn bytes := by
  simp [content, withoutReturn]

theorem content_open (bytes : List UInt8) : content ⟨bytes, false⟩ = bytes := by
  simp [content]

theorem text_of_encoded {l : InputLine} {x : String} (h : l.content = encoded x) :
    l.text = .ok x := by
  rw [text, fromUTF8?_eq_some_iff.2 h]

theorem text_of_not_encoded {l : InputLine} (h : ∀ x, l.content ≠ encoded x) :
    l.text = .error (faultOf l.raw) := by
  simp only [text, fromUTF8?_eq_none_iff.2 h, raw]
  cases l.ended <;> simp

inductive Shows (l : InputLine) : Prop
  | text {x y : String} (hx : l.text = .ok x) (hy : withoutReturn l.bytes = encoded y)
      (h : parseLine x = parseLine y)
  | fault (hf : l.text = .error (faultOf l.raw)) (h : ∀ x, l.bytes ≠ encoded x)
      (h' : ∀ y, withoutReturn l.bytes ≠ encoded y)

theorem shows (l : InputLine) : l.Shows := by
  obtain ⟨bytes, ended⟩ := l
  obtain ⟨x, y, hx, hy, h⟩ | ⟨hx, hy⟩ := withoutReturn_text bytes
  · cases ended with
    | true => exact .text (text_of_encoded ((content_ended bytes).trans hy)) hy rfl
    | false => exact .text (text_of_encoded ((content_open bytes).trans hx)) hy h
  · cases ended with
    | true => exact .fault (text_of_not_encoded (content_ended bytes ▸ hy)) hx hy
    | false => exact .fault (text_of_not_encoded (content_open bytes ▸ hx)) hx hy

end InputLine

theorem pieces_append {bytes : List UInt8} (h : lineFeed ∉ bytes) (r : List UInt8) :
    pieces (bytes ++ lineFeed :: r) = bytes :: pieces r := by
  have plain : ∀ b ∈ bytes, (b == lineFeed) = false := fun b hb => by
    simpa using ne_of_mem_of_not_mem hb h
  have ne := splitWhen_ne_nil (· == lineFeed) r
  rw [pieces, pieces, splitWhen_append plain (by simp)]
  simp only [List.getLast?_cons_of_ne_nil ne]
  split
  · rw [List.dropLast_cons_of_ne_nil ne]
  · rfl

theorem pieces_of_plain {bytes : List UInt8} (h : lineFeed ∉ bytes) (ne : bytes ≠ []) :
    pieces bytes = [bytes] := by
  have plain : ∀ b ∈ bytes, (b == lineFeed) = false := fun b hb => by
    simpa using ne_of_mem_of_not_mem hb h
  simp [pieces, splitWhen_of_all plain, ne]

theorem Cut.pieces_raw {ls : List InputLine} (h : Cut ls) :
    pieces (ls.flatMap InputLine.raw) = ls.map (·.bytes) := by
  induction h with
  | nil => rfl
  | last plain ne => simpa [InputLine.raw] using pieces_of_plain plain ne
  | @line bytes ls plain h ih =>
    have := pieces_append plain (ls.flatMap InputLine.raw)
    simpa [InputLine.raw, ih] using this

theorem flatMap_raw_inputLines (input : List UInt8) :
    (inputLines input).flatMap InputLine.raw = input := by
  induction input with
  | nil => rfl
  | cons b r ih =>
    rw [inputLines]
    split
    · next hb => simp [InputLine.raw, ih, hb]
    · cases hr : inputLines r with
      | nil => simpa [hr, InputLine.raw] using ih
      | cons l ls => simpa [hr, InputLine.raw] using ih

theorem scriptLines_eq (input : List UInt8) :
    scriptLines input = (inputLines input).map fun l => withoutReturn l.bytes := by
  have cut := (cut_inputLines input).pieces_raw
  rw [flatMap_raw_inputLines] at cut
  rw [scriptLines, cut, List.map_map]
  rfl

theorem Transcript.stderr_after {α : Type} (first : Ran α) (prompted : String)
    (s : Transcript) : (Transcript.after first prompted s).stderr = first.complaint ++ s.stderr :=
  rfl

theorem Transcript.Tells.nil [Locator] (c : Context) (format : OutputFormat) {stop : Stop}
    {result : Except CommandError Unit} (h : stop.Gives result)
    (code : (Finished.ofTranscript ⟨c, result, "", "", [], []⟩).exitCode = stop.exitCode) :
    Transcript.Tells ⟨c, result, "", "", [], []⟩ c format [] stop :=
  ⟨rfl, by simp [outcomes], by simp [outcomes], rfl, rfl, h, code⟩

theorem Transcript.Tells.cons [Locator] {s : Transcript} {c : Context} {format : OutputFormat}
    {x : String} {xs : List String} {stop : Stop}
    (h : s.Tells (runLine c format none x).context format xs stop) :
    (Transcript.after (runLine c format none x) "" s).Tells c format (x :: xs) stop where
  context := h.context
  stdout := by simp [Transcript.after, outcomes, h.stdout]
  stderr := by
    rw [stderr_after, h.stderr, outcomes, List.map_cons, String.join_cons]
    rfl
  received := by simp [Transcript.after, outcomes, h.received]
  log := by simp [Transcript.after, outcomes, h.log]
  result := h.result
  exitCode := by
    have code := h.exitCode
    unfold Finished.ofTranscript at code ⊢
    simp only [Transcript.after]
    cases hr : s.result <;> simp_all

theorem runLines_of_leaves [Locator] {l : InputLine} {x : String} (hx : l.text = .ok x)
    (leaves : Leaves x) (c : Context) (format : OutputFormat) (ls : List InputLine) :
    runLines c format "" none (l :: ls) = .after (runLine c format none x) ""
      ⟨(runLine c format none x).context, .ok (), "", "", [], []⟩ := by
  rw [runLines, hx, Option.map_none]
  simp only [(runLine_leave_iff c format none x).2 leaves]

theorem runLines_of_stays [Locator] {l : InputLine} {x : String} (hx : l.text = .ok x)
    (stays : ¬ Leaves x) (c : Context) (format : OutputFormat) (ls : List InputLine) :
    runLines c format "" none (l :: ls) = .after (runLine c format none x) ""
      (runLines (runLine c format none x).context format "" none ls) := by
  have on := mt (runLine_leave_iff c format none x).1 stays
  rw [runLines, hx, Option.map_none, Option.map_none]
  dsimp only
  split
  · next hr => exact absurd hr on
  · rfl

theorem tells_runLines [Locator] (c : Context) (format : OutputFormat) (ls : List InputLine) :
    ∃ xs stop, Stop.At (ls.map fun l => withoutReturn l.bytes) xs stop ∧
      (runLines c format "" none ls).Tells c format xs stop := by
  induction ls generalizing c with
  | nil => exact ⟨[], .atEnd, ⟨rfl, by simp⟩, .nil c format rfl rfl⟩
  | cons l ls ih =>
    cases l.shows with
    | fault hf hx hy =>
      rw [runLines, hf]
      exact ⟨[], .unreadable, Stop.at_unreadable hy _, .nil c format ⟨_, rfl⟩ rfl⟩
    | @text x y hx hy h =>
      -- The shell may see a carriage return behind the last line, which the line itself has not.
      have same : Leaves x ↔ Leaves y := by rw [Leaves, Leaves, h]
      rw [List.map_cons, hy]
      by_cases leaves : Leaves y
      · rw [runLines_of_leaves hx (same.2 leaves), runLine_congr h]
        exact ⟨[y], .leaving, Stop.at_leaving leaves _, .cons (.nil _ format rfl rfl)⟩
      · obtain ⟨xs, stop, ends, tells⟩ := ih (runLine c format none y).context
        rw [runLines_of_stays hx (mt same.1 leaves), runLine_congr h]
        exact ⟨y :: xs, stop, ends.cons leaves, tells.cons⟩

theorem inputLines_append {a : List UInt8} (h : a.getLast? = some lineFeed) (b : List UInt8) :
    inputLines (a ++ b) = inputLines a ++ inputLines b := by
  obtain ⟨front, rfl⟩ := List.getLast?_eq_some_iff.1 h
  rw [List.append_assoc, List.singleton_append]
  clear h
  induction front with
  | nil => simp [inputLines]
  | cons c front ih =>
    rw [List.cons_append, List.cons_append, inputLines, ih, inputLines]
    split
    · rfl
    · -- The front has a line, and its last one is ended: nothing that follows joins it.
      cases hf : inputLines (front ++ [lineFeed]) with
      | nil =>
        have := flatMap_raw_inputLines (front ++ [lineFeed])
        simp [hf] at this
      | cons l ls => rfl

theorem Cut.forall_encoded {ls : List InputLine} (h : Cut ls) {a : String}
    (ha : ls.flatMap InputLine.raw = encoded a) : ∀ l ∈ ls, ∃ x, l.bytes = encoded x := by
  induction h generalizing a with
  | nil => simp
  | last plain ne => simpa using ⟨a, by simpa [InputLine.raw] using ha⟩
  | line plain h ih =>
    simp only [List.flatMap_cons, InputLine.raw, if_true, List.append_assoc,
      List.singleton_append] at ha
    obtain ⟨x, c, y, -, -, hx, hy⟩ := exists_of_encoded_eq (by decide) ha.symm
    exact List.forall_mem_cons.2 ⟨⟨_, hx⟩, ih hy⟩

theorem Transcript.andThen_after {α : Type} (first : Ran α) (s t : Transcript) :
    (Transcript.after first "" s).andThen t = .after first "" (s.andThen t) := by
  simp [andThen, after, String.append_assoc]

theorem runLines_append [Locator] (c : Context) (format : OutputFormat) {ls : List InputLine}
    (h : ∀ l ∈ ls, ∃ x, l.text = .ok x ∧ ¬ Leaves x) (ms : List InputLine) :
    (runLines c format "" none ls).result = .ok () ∧
      runLines c format "" none (ls ++ ms) = (runLines c format "" none ls).andThen
        (runLines (runLines c format "" none ls).context format "" none ms) := by
  induction ls generalizing c with
  | nil => exact ⟨rfl, by simp [Transcript.andThen, runLines]⟩
  | cons l ls ih =>
    obtain ⟨⟨x, hx, stays⟩, hls⟩ := List.forall_mem_cons.1 h
    obtain ⟨result, append⟩ := ih (runLine c format none x).context hls
    rw [List.cons_append, runLines_of_stays hx stays, runLines_of_stays hx stays, append,
      Transcript.andThen_after]
    exact ⟨result, rfl⟩

theorem runShell_append [Locator] (c : Context) (format : OutputFormat) {a : String}
    (ends : (encoded a).getLast? = some lineFeed)
    (stays : ∀ x, encoded x ∈ scriptLines (encoded a) → ¬ Leaves x) (b : List UInt8) :
    (runShell c format false none (encoded a)).result = .ok () ∧
      runShell c format false none (encoded a ++ b) =
        (runShell c format false none (encoded a)).andThen
          (runShell (runShell c format false none (encoded a)).context format false none b) := by
  have texts := (cut_inputLines (encoded a)).forall_encoded (flatMap_raw_inputLines _)
  have lines : ∀ l ∈ inputLines (encoded a), ∃ x, l.text = .ok x ∧ ¬ Leaves x := by
    intro l hl
    cases l.shows with
    | fault hf hx hy =>
      obtain ⟨x, h⟩ := texts l hl
      exact absurd h (hx x)
    | @text x y hx hy h =>
      have on := stays y (by rw [scriptLines_eq, ← hy]; exact List.mem_map_of_mem hl)
      exact ⟨x, hx, by rwa [Leaves, h]⟩
  simp only [runShell, inputLines_append ends]
  exact runLines_append c format lines (inputLines b)

def InputLine.returned (l : InputLine) : InputLine :=
  if l.ended then { l with bytes := l.bytes ++ [carriageReturn] } else l

theorem inputLines_withReturns (input : List UInt8) :
    inputLines (withReturns input) = (inputLines input).map InputLine.returned := by
  induction input with
  | nil => rfl
  | cons b r ih =>
    have split : withReturns (b :: r) =
        (if b = lineFeed then [carriageReturn, lineFeed] else [b]) ++ withReturns r := rfl
    rw [split, inputLines]
    by_cases hb : b = lineFeed
    · have hr : carriageReturn ≠ lineFeed := by decide
      simp [hb, inputLines, hr, ih, InputLine.returned]
    · simp only [hb, if_false, List.singleton_append, inputLines, ih]
      cases inputLines r with
      | nil => rfl
      | cons l ls =>
        cases hl : l.ended <;> simp [InputLine.returned, hl]

/-- Both lines are read alike, or both are no text, with the same fault. -/
inductive InputLine.Like (l m : InputLine) : Prop
  | text {x y : String} (hl : l.text = .ok x) (hm : m.text = .ok y) (h : parseLine x = parseLine y)
  | fault {f : Fault} (hl : l.text = .error f) (hm : m.text = .error f)

theorem InputLine.like_returned (l : InputLine) : l.returned.Like l := by
  obtain ⟨bytes, ended⟩ := l
  cases ended with
  | false =>
    cases ht : text ⟨bytes, false⟩ with
    | ok x => exact .text ht ht rfl
    | error f => exact .fault ht ht
  | true =>
    have content : (returned ⟨bytes, true⟩).content = bytes := by
      rw [returned, if_pos rfl, content_ended, withoutReturn_concat]
    obtain ⟨x, y, hx, hy, h⟩ | ⟨hx, hy⟩ := withoutReturn_text bytes
    · exact .text (text_of_encoded (content.trans hx))
        (text_of_encoded ((content_ended bytes).trans hy)) h
    · -- A fault is told by where it stands, and the return stands behind it.
      have fault := text_of_not_encoded (content_ended bytes ▸ hy)
      have fault' := text_of_not_encoded (l := returned ⟨bytes, true⟩) (content.symm ▸ hx)
      have same : faultOf (returned ⟨bytes, true⟩).raw = faultOf (raw ⟨bytes, true⟩) := by
        simpa [returned, raw] using faultOf_append hx (by decide) (by decide) [lineFeed] []
      exact .fault fault' (same ▸ fault)

theorem runLines_map [Locator] {f : InputLine → InputLine} (h : ∀ l, (f l).Like l) (c : Context)
    (format : OutputFormat) (ls : List InputLine) :
    runLines c format "" none (ls.map f) = runLines c format "" none ls := by
  induction ls generalizing c with
  | nil => rfl
  | cons l ls ih =>
    rw [List.map_cons, runLines, runLines]
    cases h l with
    | fault hf hl => rw [hf, hl]
    | text hf hl hp =>
      rw [hf, hl]
      simp only [runLine_congr hp, Option.map_none, ih]

theorem runShell_withReturns [Locator] (c : Context) (format : OutputFormat) (input : List UInt8) :
    runShell c format false none (withReturns input) = runShell c format false none input := by
  simp only [runShell, inputLines_withReturns]
  exact runLines_map InputLine.like_returned c format _

/-- The lines up to where a script stops are carried out, and no others. A script behind a text of
whole lines, none of which leaves the shell, goes on where that text has ended. Carriage returns
before line feeds make no difference. -/
theorem tells_runShell [Locator] (format : OutputFormat) :
    (∀ (c : Context) (input : List UInt8), ∃ xs stop, Stop.At (scriptLines input) xs stop ∧
      (∀ xs' stop', Stop.At (scriptLines input) xs' stop' → xs' = xs ∧ stop' = stop) ∧
      (runShell c format false none input).Tells c format xs stop) ∧
    (∀ (c : Context) (a : String) (b : List UInt8), (encoded a).getLast? = some lineFeed →
      (∀ x, encoded x ∈ scriptLines (encoded a) → ¬ Leaves x) →
        (runShell c format false none (encoded a)).result = .ok () ∧
        runShell c format false none (encoded a ++ b) =
          (runShell c format false none (encoded a)).andThen
            (runShell (runShell c format false none (encoded a)).context format false none b)) ∧
    ∀ (c : Context) (input : List UInt8),
      runShell c format false none (withReturns input) = runShell c format false none input := by
  refine ⟨fun c input => ?_, fun c a b ends stays => runShell_append c format ends stays b,
    fun c input => runShell_withReturns c format input⟩
  obtain ⟨xs, stop, ends, tells⟩ := tells_runLines c format (inputLines input)
  rw [← scriptLines_eq] at ends
  exact ⟨xs, stop, ends, fun _ _ h => h.unique ends, tells⟩

theorem quit_after_logout :
    letI := Locator.atEnd
    let c := Context.of "http://a.example" (some "t") none .unreachable
    let a := "logout\n"
    let b := encoded "quit\npause f\n"
    (encoded a).getLast? = some lineFeed ∧
    (∀ x, encoded x ∈ scriptLines (encoded a) → ¬ Leaves x) ∧
    (runShell c .table false none (encoded a)).result = .ok () ∧
    runShell c .table false none (encoded a ++ b) =
      (runShell c .table false none (encoded a)).andThen
        (runShell (runShell c .table false none (encoded a)).context .table false none b) := by
  intro c a b
  let := Locator.atEnd
  have ends : (encoded a).getLast? = some lineFeed := by decide
  have lines : scriptLines (encoded a) = [encoded "logout"] := by decide
  have stays : ∀ x, encoded x ∈ scriptLines (encoded a) → ¬ Leaves x := by
    intro x hx
    rw [lines, List.mem_singleton] at hx
    have goesOn : parseLine "logout" = .ok (some .logout) := by cbv
    rw [encoded_injective hx, Leaves, goesOn]
    simp
  exact ⟨ends, stays, (tells_runShell .table).2.1 c a b ends stays⟩

end DownloadClient.Command
