import DownloadClient.Proofs.Program
import DownloadClient.Proofs.Words

/-! Lines of the shell that are refused. They do nothing but tell of it: a script without them, and
without its blank lines, has the same effects. -/

namespace DownloadClient.Command

open DownloadClient.Client DownloadClient.Display DownloadClient.Session DownloadClient.Text

def ShellCommand.refusal? (answer : Option Answer) : ShellCommand → Option Refusal
  | .api command =>
    match command.call answer with
    | .error (.refused r) => some r
    | _ => none
  | _ => none

def refusal? (answer : Option Answer) (line : String) : Option Refusal :=
  match parseLine line with
  | .ok command => command.bind (ShellCommand.refusal? answer)
  | .error .openQuote => some (.line .openQuote)
  | .error (.usage e) => if e.isHelp then none else some (.line (.usage e))

inductive Handled [Locator] (c : Context) (format : OutputFormat) (answer : Option Answer) :
    Option Refusal → Ran LineOutcome → Prop
  | nothing : Handled c format answer none { context := c, result := .ok .goOn }
  | refused (r : Refusal) :
      Handled c format answer (some r) { context := c, result := .error (.refused r) }
  | unread (detail : String) :
      Handled c format answer none { context := c, result := .error (.password detail) }
  | help (text : String) :
      Handled c format answer none { context := c, result := .ok .goOn, stdout := text }
  | called (x : Call) : Handled c format answer none (runCall c format x).goingOn
  | setUrl (url : String) :
      Handled c format answer none (runShellCommand c format answer (.setUrl url))
  | logout : Handled c format answer none (runShellCommand c format answer .logout)
  | exit : Handled c format answer none { context := c, result := .ok .leave }

section Handled

variable [Locator]

theorem handled_runShellCommand (c : Context) (format : OutputFormat) (answer : Option Answer)
    (command : ShellCommand) :
    Handled c format answer (command.refusal? answer)
      (runShellCommand c format answer command) := by
  cases command with
  | api command =>
    rw [runShellCommand, ShellCommand.refusal?, runApi]
    cases hx : command.call answer with
    | error e =>
      cases declined_of_call hx with
      | refused r => exact .refused r
      | unread h => exact .unread _
    | ok x => exact .called x
  | setUrl url => exact .setUrl url
  | logout => exact .logout
  | exit => exact .exit

theorem handled_runLine (c : Context) (format : OutputFormat) (answer : Option Answer)
    (line : String) :
    Handled c format answer (refusal? answer line) (runLine c format answer line) := by
  rw [runLine, refusal?]
  cases parseLine line with
  | ok command =>
    cases command with
    | none => exact .nothing
    | some command => exact handled_runShellCommand c format answer command
  | error e =>
    cases e with
    | openQuote => exact .refused _
    | usage e =>
      cases he : e.isHelp with
      | true => simpa [he] using .help _
      | false => simpa [he] using .refused _

theorem result_runCall (c : Context) (format : OutputFormat) (x : Call) :
    (runCall c format x).goingOn.result = .ok .goOn ∨
      ∃ e, (c.services.call x.op x.request c.network).result = .error e ∧
        (runCall c format x).goingOn.result = .error (.call e) := by
  rw [runCall]
  generalize c.services.call x.op x.request c.network = o
  cases hr : o.result with
  | ok y => exact .inl rfl
  | error e => exact .inr ⟨e, rfl, rfl⟩

theorem runLine_refused_iff (c : Context) (format : OutputFormat) (answer : Option Answer)
    (line : String) (r : Refusal) :
    (runLine c format answer line).result = .error (.refused r) ↔
      refusal? answer line = some r := by
  have handled := handled_runLine c format answer line
  generalize runLine c format answer line = ran at handled
  generalize refusal? answer line = reason at handled
  cases handled with
  | refused r' => simp
  | called x => obtain h | ⟨e, -, h⟩ := result_runCall c format x <;> simp [h]
  | setUrl url => simp [runShellCommand]
  | logout => simp [runShellCommand]
  | _ => simp

end Handled

structure Ran.Idle {α : Type} (r : Ran α) (c : Context) : Prop where
  context : r.context = c
  stdout : r.stdout = ""
  received : r.received = []
  log : r.log = []

theorem idle_of_refused [Locator] {answer : Option Answer} {line : String}
    (h : (refusal? answer line).isSome) (c : Context) (format : OutputFormat) :
    (runLine c format answer line).Idle c := by
  obtain ⟨r, hr⟩ := Option.isSome_iff_exists.1 h
  have handled := handled_runLine c format answer line
  rw [hr] at handled
  generalize runLine c format answer line = ran at handled
  cases handled with
  | refused => exact ⟨rfl, rfl, rfl, rfl⟩

theorem runLine_of_failed [Locator] {c : Context} {format : OutputFormat}
    {answer : Option Answer} {line : String} {e : CommandError}
    (h : (runLine c format answer line).result = .error e) (failed : e.exitCode = 3) :
    (runLine c format answer line).received.length ≤ 1 ∧
      (runLine c format answer line).context.services.session = c.services.session := by
  have handled := handled_runLine c format answer line
  generalize runLine c format answer line = ran at handled h
  generalize refusal? answer line = reason at handled
  cases handled with
  | refused r =>
    cases h
    cases failed
  | unread detail => exact ⟨Nat.zero_le 1, rfl⟩
  | called x =>
    obtain hr | ⟨failure, hr, -⟩ := result_runCall c format x
    · rw [hr] at h
      cases h
    · have sent := c.services.length_received_call x.op x.request c.network
      have session := c.services.session_call_of_error _ _ _ hr
      simp only [Ran.goingOn, runCall]
      exact ⟨sent, session⟩
  | setUrl url => cases h
  | logout => cases h
  | _ => cases h

theorem runLine_of_blank [Locator] {line : String} (h : blank line = true) (c : Context)
    (format : OutputFormat) (answer : Option Answer) :
    runLine c format answer line = { context := c, result := .ok .goOn } := by
  have nothing : parseLine line = .ok none := by
    rw [parseLine, words?, wordsFrom_blanks (List.all_eq_true.1 h)]
    rfl
  rw [runLine, nothing]

def InputLine.raw (l : InputLine) : List UInt8 := l.bytes ++ if l.ended then [lineFeed] else []

/-- Lines as they are cut: only the last one may lack its end, and then there is something in it. -/
inductive Cut : List InputLine → Prop
  | nil : Cut []
  | last {bytes : List UInt8} (plain : lineFeed ∉ bytes) (ne : bytes ≠ []) : Cut [⟨bytes, false⟩]
  | line {bytes : List UInt8} {ls : List InputLine} (plain : lineFeed ∉ bytes) (h : Cut ls) :
      Cut (⟨bytes, true⟩ :: ls)

theorem cut_inputLines (input : List UInt8) : Cut (inputLines input) := by
  induction input with
  | nil => exact .nil
  | cons b r ih =>
    rw [inputLines]
    split
    · exact .line (by simp) ih
    · next hb =>
      have hb : lineFeed ≠ b := fun e => hb e.symm
      cases hr : inputLines r with
      | nil => exact .last (by simpa using hb) (by simp)
      | cons l ls =>
        rw [hr] at ih
        cases ih with
        | last plain ne => exact .last (by simp [hb, plain]) (by simp)
        | line plain h => exact .line (by simp [hb, plain]) h

theorem inputLines_append_lineFeed {bytes : List UInt8} (h : lineFeed ∉ bytes)
    (r : List UInt8) : inputLines (bytes ++ lineFeed :: r) = ⟨bytes, true⟩ :: inputLines r := by
  induction bytes with
  | nil => simp [inputLines]
  | cons b bytes ih =>
    simp only [List.mem_cons, not_or] at h
    simp [inputLines, Ne.symm h.1, ih h.2]

theorem inputLines_of_plain {bytes : List UInt8} (h : lineFeed ∉ bytes) (ne : bytes ≠ []) :
    inputLines bytes = [⟨bytes, false⟩] := by
  induction bytes with
  | nil => exact absurd rfl ne
  | cons b bytes ih =>
    simp only [List.mem_cons, not_or] at h
    cases bytes with
    | nil => simp [inputLines, Ne.symm h.1]
    | cons b' bytes =>
      rw [inputLines, if_neg (Ne.symm h.1), ih h.2 (List.cons_ne_nil _ _)]

theorem Cut.inputLines_raw {ls : List InputLine} (h : Cut ls) :
    inputLines (ls.flatMap InputLine.raw) = ls := by
  induction h with
  | nil => rfl
  | last plain ne => simpa [InputLine.raw] using inputLines_of_plain plain ne
  | @line bytes ls plain h ih =>
    have := inputLines_append_lineFeed plain (ls.flatMap InputLine.raw)
    simpa [InputLine.raw, ih] using this

theorem Cut.filter {ls : List InputLine} (h : Cut ls) (p : InputLine → Bool) :
    Cut (ls.filter p) := by
  induction h with
  | nil => exact .nil
  | @last bytes plain ne =>
    cases hp : p ⟨bytes, false⟩ with
    | true => simpa [hp] using Cut.last plain ne
    | false => simpa [hp] using Cut.nil
  | @line bytes ls plain h ih =>
    cases hp : p ⟨bytes, true⟩ with
    | true => simpa [hp] using Cut.line plain ih
    | false => simpa [hp] using ih

def InputLine.idle (l : InputLine) : Bool :=
  match l.text with
  | .ok line => blank line || (refusal? none line).isSome
  | .error _ => false

def withoutIdle (input : List UInt8) : List UInt8 :=
  ((inputLines input).filter fun l => !l.idle).flatMap InputLine.raw

structure Transcript.Agrees (s t : Transcript) : Prop where
  context : s.context = t.context
  result : s.result = t.result
  stdout : s.stdout = t.stdout
  received : s.received = t.received
  log : s.log = t.log

namespace Transcript.Agrees

theorem refl (s : Transcript) : s.Agrees s := ⟨rfl, rfl, rfl, rfl, rfl⟩

theorem trans {s t u : Transcript} (h : s.Agrees t) (h' : t.Agrees u) : s.Agrees u :=
  ⟨h.context.trans h'.context, h.result.trans h'.result, h.stdout.trans h'.stdout,
    h.received.trans h'.received, h.log.trans h'.log⟩

theorem after {α : Type} (first : Ran α) (prompted : String) {s t : Transcript}
    (h : s.Agrees t) : (Transcript.after first prompted s).Agrees (.after first prompted t) where
  context := h.context
  result := h.result
  stdout := congrArg (prompted ++ first.stdout ++ ·) h.stdout
  received := congrArg (first.received ++ ·) h.received
  log := congrArg (first.log ++ ·) h.log

theorem after_idle {α : Type} {first : Ran α} {c : Context} (h : first.Idle c) (s : Transcript) :
    (Transcript.after first "" s).Agrees s where
  context := rfl
  result := rfl
  stdout := by simp [Transcript.after, h.stdout]
  received := by simp [Transcript.after, h.received]
  log := by simp [Transcript.after, h.log]

end Transcript.Agrees

theorem runLines_of_idle [Locator] (c : Context) (format : OutputFormat) {l : InputLine}
    (h : l.idle = true) (ls : List InputLine) :
    (runLines c format "" none (l :: ls)).Agrees (runLines c format "" none ls) := by
  unfold InputLine.idle at h
  cases hl : l.text with
  | error f => simp [hl] at h
  | ok line =>
    simp only [hl, Bool.or_eq_true] at h
    rw [runLines, hl, Option.map_none, Option.map_none]
    obtain h | h := h
    · simp only [runLine_of_blank h]
      exact .after_idle ⟨rfl, rfl, rfl, rfl⟩ _
    · have idle := idle_of_refused h c format
      obtain ⟨r, hr⟩ := Option.isSome_iff_exists.1 h
      have result := (runLine_refused_iff c format none line r).2 hr
      simp only [result, idle.context]
      exact .after_idle idle _

theorem runLines_filter [Locator] (c : Context) (format : OutputFormat) (ls : List InputLine) :
    (runLines c format "" none ls).Agrees
      (runLines c format "" none (ls.filter fun l => !l.idle)) := by
  induction ls generalizing c with
  | nil => exact .refl _
  | cons l ls ih =>
    cases hl : l.idle with
    | true =>
      rw [List.filter_cons_of_neg (by simp [hl])]
      exact (runLines_of_idle c format hl ls).trans (ih c)
    | false =>
      rw [List.filter_cons_of_pos (by simp [hl])]
      -- both scripts begin with the same line, and the rest follows from what it leaves
      cases ht : l.text with
      | error f =>
        simp only [runLines, ht]
        exact .refl _
      | ok line =>
        simp only [runLines, ht, Option.map_none]
        generalize runLine c format none line = first
        split
        · exact .refl _
        · exact (ih first.context).after first ""

theorem runShell_agrees [Locator] (c : Context) (format : OutputFormat) (input : List UInt8) :
    (runShell c format false none input).Agrees
      (runShell c format false none (withoutIdle input)) := by
  have lines : inputLines (withoutIdle input) = (inputLines input).filter fun l => !l.idle :=
    ((cut_inputLines input).filter _).inputLines_raw
  simp only [runShell, lines]
  exact runLines_filter c format (inputLines input)

/-- A line is refused in every context or in none. A script has the same effects without its blank
and its refused lines, and a line that fails leaves the session as it was. -/
theorem effects_of_lines [Locator] (format : OutputFormat) :
    (∀ (c : Context) (answer : Option Answer) (line : String) (r : Refusal),
      (runLine c format answer line).result = .error (.refused r) ↔
        refusal? answer line = some r) ∧
    (∀ (c : Context) (input : List UInt8),
      (runShell c format false none input).Agrees
        (runShell c format false none (withoutIdle input))) ∧
    ∀ (c : Context) (answer : Option Answer) (line : String) (e : CommandError),
      (runLine c format answer line).result = .error e → e.exitCode = 3 →
        (runLine c format answer line).received.length ≤ 1 ∧
          (runLine c format answer line).context.services.session = c.services.session :=
  ⟨fun c answer line r => runLine_refused_iff c format answer line r,
    fun c input => runShell_agrees c format input,
    fun _ _ _ _ h failed => runLine_of_failed h failed⟩

example : withoutIdle "pause\n \nlogout\nls 'x\n".toUTF8.toList = "logout\n".toUTF8.toList := by
  cbv

end DownloadClient.Command
