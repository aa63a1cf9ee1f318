import DownloadClient.Proofs.Given
import DownloadClient.Proofs.OnTheWire
import DownloadClient.Proofs.Program
import DownloadClient.Proofs.Trimmed

/-! What a run of the program sends. Every message is the request of one command, given in the
arguments or on a line of the shell; names and paths in it are trimmed, and those that are needed
are not empty. -/

namespace DownloadClient.Command

open DownloadClient.Api DownloadClient.Client DownloadClient.Json DownloadClient.Session
  DownloadClient.Text DownloadClient.Web

structure Fills (given sent : String) : Prop where
  eq : sent = trimmed given
  unpadded : Unpadded sent
  ne_empty : sent ≠ ""

theorem fills_of_filled {s t : String} {complaint : Refusal} (h : filled s complaint = .ok t) :
    Fills s t := by
  unfold filled at h
  split at h
  · cases h
  · next some =>
    cases h
    exact ⟨rfl, unpadded_trimmed s, trimmed_ne_empty (Bool.eq_false_iff.2 some)⟩

inductive Password : Option String → Option Answer → String → Prop
  | given {p : String} {answer : Option Answer} (ne : p ≠ "") : Password (some p) answer p
  | typed {p : String} (ne : p ≠ "") : Password none (some (.typed p)) p

theorem checkedPassword_eq_ok {p q : String} (h : checkedPassword p = .ok q) : p ≠ "" ∧ q = p := by
  unfold checkedPassword at h
  split at h
  · cases h
  · next ne =>
    cases h
    exact ⟨ne, rfl⟩

theorem password_of_passwordOf {given : Option String} {answer : Option Answer} {p : String}
    (h : passwordOf given answer = .ok p) : Password given answer p := by
  cases given with
  | some q =>
    obtain ⟨ne, rfl⟩ := checkedPassword_eq_ok h
    exact .given ne
  | none =>
    cases answer with
    | none => cases h
    | some a =>
      cases a with
      | typed q =>
        obtain ⟨ne, rfl⟩ := checkedPassword_eq_ok h
        exact .typed ne
      | unread detail => cases h

inductive Causes (answer : Option Answer) : ApiCommand → Call → Prop
  | login {given email password text} (he : Fills given email)
      (hp : Password password answer text) :
      Causes answer (.login given password) ⟨.login, email, text⟩
  | list {given path} (hp : Fills given path) :
      Causes answer (.list given) ⟨.remoteList, ⟨path⟩⟩
  | begin {id fileId directory outputDir rename renamed} (hf : Fills id fileId)
      (ho : Fills directory outputDir) (hr : renamed = trimmed (rename.getD ""))
      (unpadded : Unpadded renamed) :
      Causes answer (.begin id directory rename) ⟨.downloadBegin, fileId, outputDir, renamed⟩
  | pause {id fileId} (hf : Fills id fileId) :
      Causes answer (.pause id) ⟨.downloadPause, ⟨fileId⟩⟩
  | resume {id fileId} (hf : Fills id fileId) :
      Causes answer (.resume id) ⟨.downloadResume, ⟨fileId⟩⟩
  | remove {id fileId} (hf : Fills id fileId) (deleteFile : Bool) :
      Causes answer (.remove id deleteFile) ⟨.downloadRemove, fileId, deleteFile⟩
  | statusOfAll : Causes answer (.status []) ⟨.downloadStatus, ⟨none⟩⟩
  | status {filter} (some : filter ≠ []) :
      Causes answer (.status filter) ⟨.downloadStatus, ⟨.some filter⟩⟩

theorem causes_of_call {answer : Option Answer} {command : ApiCommand} {x : Call}
    (h : command.call answer = .ok x) : Causes answer command x := by
  cases command with
  | login given password =>
    obtain ⟨email, he, h⟩ := bind_eq_ok.1 h
    obtain ⟨text, hp, h⟩ := bind_eq_ok.1 h
    cases h
    exact .login (fills_of_filled he) (password_of_passwordOf hp)
  | list given =>
    obtain ⟨path, hp, h⟩ := bind_eq_ok.1 h
    cases h
    exact .list (fills_of_filled hp)
  | begin id directory rename =>
    obtain ⟨fileId, hf, h⟩ := bind_eq_ok.1 h
    obtain ⟨outputDir, ho, h⟩ := bind_eq_ok.1 h
    cases h
    exact .begin (fills_of_filled hf) (fills_of_filled ho) rfl (unpadded_trimmed _)
  | pause id =>
    obtain ⟨fileId, hf, h⟩ := bind_eq_ok.1 h
    cases h
    exact .pause (fills_of_filled hf)
  | resume id =>
    obtain ⟨fileId, hf, h⟩ := bind_eq_ok.1 h
    cases h
    exact .resume (fills_of_filled hf)
  | remove id deleteFile =>
    obtain ⟨fileId, hf, h⟩ := bind_eq_ok.1 h
    cases h
    exact .remove (fills_of_filled hf) deleteFile
  | status filter =>
    cases h
    cases filter with
    | nil => exact .statusOfAll
    | cons f fs => exact .status (List.cons_ne_nil f fs)

/-- A message that a command has sent tells the request of its call. -/
structure SentFor (answer : Option Answer) (command : ApiCommand) (q : HttpRequest) (x : Call) :
    Prop where
  causes : Causes answer command x
  tells : ∃ url u, Address.ofString (endpointText url x.op.path) = .ok u ∧ Tells x.op x.request u q

section Received

variable [Locator]

theorem prepare_of_mem_received {c : Configuration} {op : Operation} {r : op.Request}
    {own : Option Duration} {n : Network} {q : HttpRequest}
    (h : q ∈ (Client.call c op r own n).received) : prepare c op r = .ok q := by
  rw [Client.call] at h
  cases hp : prepare c op r with
  | error e => simp [hp, send] at h
  | ok request =>
    rw [hp, send] at h
    unfold Network.exchange at h
    split at h
    · cases h
    · rw [List.mem_singleton.1 h]
    · rw [List.mem_singleton.1 h]

theorem received_runCall (c : Context) (format : Display.OutputFormat) (x : Call) :
    (runCall c format x).received =
      (Client.call (c.services.client x.op) x.op x.request (some (c.services.budgets.get x.op))
        c.network).received := by
  simp only [runCall, Services.received_call]

theorem sentFor_of_mem_received {c : Context} {format : Display.OutputFormat}
    {answer : Option Answer} {command : ApiCommand} {q : HttpRequest}
    (h : q ∈ (runApi c format answer command).received) :
    ∃ x, SentFor answer command q x := by
  unfold runApi at h
  split at h
  · cases h
  · next x hx =>
    rw [received_runCall] at h
    obtain ⟨u, hu, tells⟩ := prepare_tells (prepare_of_mem_received h)
    exact ⟨x, causes_of_call hx, _, u, hu, tells⟩

theorem mem_received_runLine {c : Context} {format : Display.OutputFormat}
    {answer : Option Answer} {line : String} {q : HttpRequest}
    (h : q ∈ (runLine c format answer line).received) :
    ∃ command, parseLine line = .ok (some (.api command)) ∧
      q ∈ (runApi c format answer command).received := by
  unfold runLine at h
  split at h
  · cases h
  · next command hp =>
    cases command with
    | api command => exact ⟨command, hp, h⟩
    | _ => cases h
  · split at h <;> cases h
  · cases h

theorem mem_received_runLines {c : Context} {format : Display.OutputFormat} {prompted : String}
    {terminal : Option Terminal} {ls : List InputLine} {q : HttpRequest}
    (h : q ∈ (runLines c format prompted terminal ls).received) :
    ∃ (i : Nat) (l : InputLine) (line : String), ls[i]? = some l ∧ l.text = .ok line ∧
      ∃ c', q ∈ (runLine c' format (terminal.map (· i)) line).received := by
  induction ls generalizing c terminal with
  | nil => cases h
  | cons l ls ih =>
    rw [runLines] at h
    split at h
    · cases h
    · next line hl =>
      have own (h : q ∈ (runLine c format (terminal.map Terminal.first) line).received) :
          ∃ (i : Nat) (l' : InputLine) (line : String), (l :: ls)[i]? = some l' ∧
            l'.text = .ok line ∧
            ∃ c', q ∈ (runLine c' format (terminal.map (· i)) line).received :=
        ⟨0, l, line, rfl, hl, c, h⟩
      dsimp only at h
      split at h
      · exact own (by simpa [Transcript.after] using h)
      · obtain h | h := List.mem_append.1 h
        · exact own h
        · obtain ⟨i, l', line', hl', text, c', h'⟩ := ih h
          -- what the rest of the input asks as its line i is asked on the line behind that
          have shifted : (terminal.map Terminal.next).map (· i) = terminal.map (· (i + 1)) := by
            rw [Option.map_map]
            rfl
          exact ⟨i + 1, l', line', hl', text, c', shifted ▸ h'⟩

end Received

/-- A command that was carried out in a run and has sent a message: the command that the arguments
are, or the command on a line of the shell, with the answer to the prompt on that line. -/
inductive Sender [Locator] (env : Environment) (words : List String) (terminal : Option Terminal)
    (input : List UInt8) (q : HttpRequest) : Option Answer → ApiCommand → Prop
  | arguments {settings command c}
      (parsed : parseArguments env words = .ok (settings, .api command))
      (said : command.SaidIn sharedFlags words)
      (sent : q ∈ (runApi c settings.output (terminal.map Terminal.first) command).received) :
      Sender env words terminal input q (terminal.map Terminal.first) command
  | line {settings i l line said command c}
      (parsed : parseArguments env words = .ok (settings, .shell))
      (read : (inputLines input)[i]? = some l) (text : l.text = .ok line)
      (commanded : parseLine line = .ok (some (.api command))) (cut : words? line = some said)
      (saidIn : command.SaidIn [] said)
      (sent : q ∈ (runApi c settings.output (terminal.map (· i)) command).received) :
      Sender env words terminal input q (terminal.map (· i)) command

theorem Sender.exists_sentFor [Locator] {env : Environment} {words : List String}
    {terminal : Option Terminal} {input : List UInt8} {q : HttpRequest} {answer : Option Answer}
    {command : ApiCommand} (h : Sender env words terminal input q answer command) :
    ∃ x, SentFor answer command q x := by
  cases h with
  | arguments _ _ sent => exact sentFor_of_mem_received sent
  | line _ _ _ _ _ _ sent => exact sentFor_of_mem_received sent

theorem received_ofRan (r : Ran Unit) : (Finished.ofRan r).received = r.received := by
  unfold Finished.ofRan
  split <;> rfl

theorem exists_sender [Locator] {env : Environment} {words : List String}
    {terminal : Option Terminal} {input : List UInt8} {n : Network} {f : Finished}
    (h : run env words terminal input n = .ok f) {q : HttpRequest} (hq : q ∈ f.received) :
    ∃ answer command, Sender env words terminal input q answer command := by
  obtain ⟨⟨settings, command⟩, hp, h⟩ := bind_eq_ok.1 h
  cases h
  cases command with
  | api command =>
    rw [perform, received_ofRan] at hq
    exact ⟨_, command, .arguments hp (saidIn_of_parseArguments hp) hq⟩
  | shell =>
    have received (s : Transcript) : (Finished.ofTranscript s).received = s.received := by
      unfold Finished.ofTranscript
      split <;> rfl
    rw [perform, received] at hq
    obtain ⟨i, l, line, hl, text, c, hq⟩ := mem_received_runLines hq
    obtain ⟨command, parsed, hq⟩ := mem_received_runLine hq
    obtain ⟨said, cut, saidIn⟩ := saidIn_of_parseLine parsed
    exact ⟨_, command, .line hp hl text parsed cut saidIn hq⟩

theorem sent_of_run [Locator] {env : Environment} {words : List String}
    {terminal : Option Terminal} {input : List UInt8} {n : Network} {f : Finished}
    (h : run env words terminal input n = .ok f) :
    ∀ q ∈ f.received, ∃ answer command x,
      Sender env words terminal input q answer command ∧ SentFor answer command q x := by
  intro q hq
  obtain ⟨answer, command, sender⟩ := exists_sender h hq
  obtain ⟨x, sent⟩ := sender.exists_sentFor
  exact ⟨answer, command, x, sender, sent⟩

theorem received_runApi [Locator] {c : Context} (format : Display.OutputFormat)
    {answer : Option Answer} {command : ApiCommand} {x : Call} {q : HttpRequest}
    {replies : List Reply} (hx : command.call answer = .ok x)
    (hp : prepare (c.services.client x.op) x.op x.request = .ok q)
    (hn : c.network = .scripted replies) :
    (runApi c format answer command).received = [q] := by
  rw [runApi, hx, received_runCall, Client.call, hp, hn]
  exact received_exchange _ q replies

theorem typed_password_sent :
    letI := Locator.atEnd
    let words := ["--api-url", "http://a.example", "login", "--email", " a@b "]
    let terminal : Terminal := fun _ => .typed " secret"
    ∃ f, run noEnvironment words (some terminal) [] (.scripted []) = .ok f ∧
      f.received.map (·.body) =
        ["\x7b\"email\":\"a@b\",\"password\":\" secret\"\x7d"] ∧
      ∀ q ∈ f.received, ∃ answer command x,
        Sender noEnvironment words (some terminal) [] q answer command ∧
          SentFor answer command q x := by
  intro words terminal
  let := Locator.atEnd
  let settings : Settings := { settingsOf fun _ => none with apiUrl := "http://a.example" }
  let command : ApiCommand := .login " a@b " none
  let request : HttpRequest := ⟨.post, exampleEndpoint .login, none, some "application/json",
    "\x7b\"email\":\"a@b\",\"password\":\" secret\"\x7d"⟩
  have parsed : parseArguments noEnvironment words = .ok (settings, .api command) := by
    decide +kernel
  have ran : run noEnvironment words (some terminal) [] (.scripted []) =
      .ok (.ofRan (runApi (begun settings (.scripted [])) settings.output
        (some (.typed " secret")) command)) := by
    rw [run, parsed]
    rfl
  have prepared : prepare ((begun settings (.scripted [])).services.client .login) .login
      ⟨"a@b", " secret"⟩ = .ok request := by
    rw [begun, Context.of, (Services.sound_of _ _ _).client_eq]
    cbv
  have asked : command.call (some (.typed " secret")) =
      .ok ⟨.login, "a@b", " secret"⟩ := by
    have some : blank " a@b " = false := by decide
    have trim : trimmed " a@b " = "a@b" := by decide
    simp only [command, ApiCommand.call, filled, some, trim]
    rfl
  have received := received_runApi settings.output asked prepared rfl
  refine ⟨_, ran, ?_, sent_of_run ran⟩
  rw [received_ofRan, received]
  rfl

end DownloadClient.Command
