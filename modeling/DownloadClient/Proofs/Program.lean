import DownloadClient.Command.Program
import DownloadClient.Proofs.Rejection
import DownloadClient.Proofs.Services

/-! How the program ends when it was started with one command for the backend: it is done, it was
refused before anything was sent, or its call has failed. -/

namespace DownloadClient.Client

open DownloadClient.Session

def Fulfils (op : Operation) (timeout : Option Duration) (reply : Reply) (y : op.Response) : Prop :=
  ∃ z, reply.response? timeout = some z ∧ Successful z ∧ op.reader.readBytes z.body = .ok y ∧
    (op.envelope y).code = 0 ∧ ¬ TokenBlank op y

theorem exchange_of_response {n : Network} {timeout : Option Duration} {request : HttpRequest}
    {z : HttpResponse} (h : (n.exchange timeout request).response = some z) :
    ∃ reply rest, n = .scripted (reply :: rest) ∧ reply.response? timeout = some z ∧
      (n.exchange timeout request).received = [request] ∧
      (n.exchange timeout request).network = .scripted rest := by
  unfold Network.exchange at h ⊢
  split at h
  · cases h
  · cases h
  · next reply rest => exact ⟨reply, rest, rfl, h, rfl, rfl⟩

theorem call_eq_ok [Locator] {c : Configuration} {op : Operation} {r : op.Request}
    {own : Option Duration} {n : Network} {y : op.Response}
    (h : (call c op r own n).result = .ok y) :
    ∃ request reply rest, n = .scripted (reply :: rest) ∧
      (call c op r own n).received = [request] ∧
      (call c op r own n).network = .scripted rest ∧ Fulfils op (own.or c.timeout) reply y := by
  unfold call at h ⊢
  cases hp : prepare c op r with
  | error e =>
    rw [hp] at h
    cases h
  | ok request =>
    rw [hp] at h
    cases hz : (n.exchange (own.or c.timeout) request).response with
    | none =>
      rw [send, hz] at h
      cases h
    | some z =>
      rw [send, hz] at h
      obtain ⟨hs, hy, hc, hb⟩ := classify_eq_ok_iff.1 h
      obtain ⟨reply, rest, hn, hr, received, left⟩ := exchange_of_response hz
      exact ⟨request, reply, rest, hn, received, left, z, hr, hs, hy, hc, hb⟩

theorem call_eq_setup_iff [Locator] {c : Configuration} {op : Operation} {r : op.Request}
    {own : Option Duration} {n : Network} {e : SetupError} :
    (call c op r own n).result = .error (.setup e) ↔ prepare c op r = .error e := by
  rw [call]
  cases prepare c op r with
  | error e' => simp [send]
  | ok request =>
    rw [send]
    cases (n.exchange (own.or c.timeout) request).response with
    | none => simp [conclude]
    | some z => simp [conclude, (classify_ne_unsent op z).1]

namespace Services

variable {σ : Type} [Store σ] (s : Services σ) (op : Operation) (r : op.Request) (n : Network)

theorem result_call [Locator] : (s.call op r n).result =
    (Client.call (s.client op) op r (some (s.budgets.get op)) n).result.mapError
      (CallError.mk op.name) := by
  simp only [call]

theorem received_call [Locator] : (s.call op r n).received =
    (Client.call (s.client op) op r (some (s.budgets.get op)) n).received := by
  simp only [call]

theorem network_call [Locator] : (s.call op r n).network =
    (Client.call (s.client op) op r (some (s.budgets.get op)) n).network := by
  simp only [call]

variable {s op r n} in
theorem call_eq_ok_iff [Locator] {y : op.Response} : (s.call op r n).result = .ok y ↔
    (Client.call (s.client op) op r (some (s.budgets.get op)) n).result = .ok y := by
  rw [result_call]
  cases (Client.call (s.client op) op r (some (s.budgets.get op)) n).result with
  | error cause => simp [Except.mapError]
  | ok z => simp [Except.mapError]

theorem call_of_ok [Locator] {y : op.Response} (h : (s.call op r n).result = .ok y) :
    ∃ request reply rest, n = .scripted (reply :: rest) ∧
      (s.call op r n).received = [request] ∧ (s.call op r n).network = .scripted rest ∧
      Fulfils op (some (s.budgets.get op)) reply y := by
  rw [received_call, network_call]
  exact call_eq_ok (call_eq_ok_iff.1 h)

theorem call_eq_setup_iff [Locator] {name : String} {e : SetupError} :
    (s.call op r n).result = .error ⟨name, .setup e⟩ ↔
      name = op.name ∧ prepare (s.client op) op r = .error e := by
  rw [result_call, ← Client.call_eq_setup_iff]
  cases (Client.call (s.client op) op r (some (s.budgets.get op)) n).result with
  | error cause => simp [Except.mapError, eq_comm]
  | ok y => simp [Except.mapError]

theorem length_received_call [Locator] : (s.call op r n).received.length ≤ 1 := by
  rw [received_call, Client.call]
  cases prepare (s.client op) op r with
  | error e => exact Nat.zero_le 1
  | ok request => exact length_received_exchange _ _ _

theorem stored_error (session : σ) (cause : Cause) :
    stored session op (.error cause) = session := by
  cases op <;> rfl

theorem session_call_of_error [Locator] {e : CallError} (h : (s.call op r n).result = .error e) :
    (s.call op r n).services.session = s.session := by
  rw [result_call] at h
  simp only [call]
  generalize Client.call (s.client op) op r (some (s.budgets.get op)) n = called at h ⊢
  cases hr : called.result with
  | error cause => exact stored_error op s.session cause
  | ok y => simp [hr, Except.mapError] at h

end Services
end DownloadClient.Client

namespace DownloadClient.Command

open DownloadClient.Api DownloadClient.Client DownloadClient.Display DownloadClient.Json
  DownloadClient.Session

theorem emit_ne_empty (format : OutputFormat) (j : Json) {table : String} (h : table ≠ "") :
    emit format j table ≠ "" := by
  cases format with
  | table => exact h
  | json => simp [emit]

theorem columns_ne_empty (cells : List (List Char)) : columns cells ≠ "" := by
  intro h
  have := congrArg String.toList h
  simp [columns] at this

theorem rendered_ne_empty (format : OutputFormat) (x : Call) (y : x.op.Response) :
    rendered format x.op x.request y ≠ "" := by
  obtain ⟨op, q⟩ := x
  cases op with
  | login => exact emit_ne_empty _ _ (by simp)
  | remoteList => exact emit_ne_empty _ _ (by simp [listTable, listRow, columns_ne_empty])
  | downloadStatus => exact emit_ne_empty _ _ (by simp [statusTable, statusRow, columns_ne_empty])
  | _ => exact emit_ne_empty _ _ (by simp)

/-- The program was started with a command for the backend. Nobody is asked for a password: it is
given, or nobody is there. -/
structure Invoked (env : Environment) (words : List String) (terminal : Option Terminal)
    (settings : Settings) (command : ApiCommand) : Prop where
  parsed : parseArguments env words = .ok (settings, .api command)
  unattended : terminal = none ∨ ∀ email, command ≠ .login email none

def begun (settings : Settings) (network : Network) : Context :=
  .of settings.apiUrl settings.token settings.timeout network

structure Done (c : Context) (answer : Option Answer) (command : ApiCommand) (left : Network)
    (f : Finished) : Prop where
  exitCode : f.exitCode = 0
  stdout : f.stdout ≠ ""
  fulfilled : ∃ x request reply rest y, command.call answer = .ok x ∧ f.received = [request] ∧
    c.network = .scripted (reply :: rest) ∧ left = .scripted rest ∧
    Fulfils x.op (some (c.services.budgets.get x.op)) reply y

structure Refused (c : Context) (answer : Option Answer) (command : ApiCommand) (left : Network)
    (f : Finished) : Prop where
  reason : ∃ r, command.call answer = .error (.refused r)
  exitCode : f.exitCode = 2
  stdout : f.stdout = ""
  received : f.received = []
  left_eq : left = c.network

structure Failed [Locator] (c : Context) (answer : Option Answer) (command : ApiCommand)
    (f : Finished) : Prop where
  exitCode : f.exitCode = 3
  stdout : f.stdout = ""
  received : f.received.length ≤ 1
  told : ∃ x e, command.call answer = .ok x ∧
    (c.services.call x.op x.request c.network).result = .error e ∧
    f.stderr = "error: " ++ e.message ++ "\n"

inductive Ending
  | done
  | refused
  | failed
  deriving DecidableEq

namespace Ending

def exitCode : Ending → Nat
  | .done => 0
  | .refused => 2
  | .failed => 3

def Of [Locator] (c : Context) (answer : Option Answer) (command : ApiCommand) (left : Network)
    (f : Finished) : Ending → Prop
  | .done => Done c answer command left f
  | .refused => Refused c answer command left f
  | .failed => Failed c answer command f

theorem exitCode_injective {e e' : Ending} (h : e.exitCode = e'.exitCode) : e = e' := by
  cases e <;> cases e' <;> first | rfl | cases h

section

variable [Locator] {c : Context} {answer : Option Answer} {command : ApiCommand} {left : Network}
  {f : Finished}

theorem Of.exitCode_eq {e : Ending} (h : e.Of c answer command left f) :
    f.exitCode = e.exitCode := by
  cases e with
  | done => exact Done.exitCode h
  | refused => exact Refused.exitCode h
  | failed => exact Failed.exitCode h

theorem Of.unique {e e' : Ending} (h : e.Of c answer command left f)
    (h' : e'.Of c answer command left f) : e = e' :=
  exitCode_injective (h.exitCode_eq.symm.trans h'.exitCode_eq)

end

end Ending

theorem line_call (e : CallError) :
    (CommandError.call e).line = "error: " ++ e.message ++ "\n" := rfl

section RunCall

variable [Locator] {c : Context} {format : OutputFormat} {x : Call}

theorem ofRan_runCall_of_error {e : CallError}
    (h : (c.services.call x.op x.request c.network).result = .error e) :
    Finished.ofRan (runCall c format x) =
      ⟨3, "", (CommandError.call e).line, (c.services.call x.op x.request c.network).received,
        (c.services.call x.op x.request c.network).log⟩ := by
  unfold runCall
  generalize c.services.call x.op x.request c.network = o at h ⊢
  simp [Finished.ofRan, h, Except.mapError, Except.map, CommandError.exitCode]

theorem ofRan_runCall_of_ok {y : x.op.Response}
    (h : (c.services.call x.op x.request c.network).result = .ok y) :
    Finished.ofRan (runCall c format x) =
      ⟨0, rendered format x.op x.request y, "",
        (c.services.call x.op x.request c.network).received,
        (c.services.call x.op x.request c.network).log⟩ := by
  unfold runCall
  generalize c.services.call x.op x.request c.network = o at h ⊢
  simp [Finished.ofRan, h, Except.mapError, Except.map]

theorem runCall_ending (c : Context) (format : OutputFormat) {answer : Option Answer}
    {command : ApiCommand} (hx : command.call answer = .ok x) :
    ∃ e : Ending, e.Of c answer command (runCall c format x).context.network
      (.ofRan (runCall c format x)) := by
  have network : (runCall c format x).context.network =
      (c.services.call x.op x.request c.network).network := by
    rw [runCall]
  rw [network]
  cases hr : (c.services.call x.op x.request c.network).result with
  | error e =>
    have sent := c.services.length_received_call x.op x.request c.network
    rw [ofRan_runCall_of_error hr]
    generalize (c.services.call x.op x.request c.network).received = received at sent ⊢
    exact ⟨.failed, Failed.mk rfl rfl sent ⟨x, e, hx, hr, line_call e⟩⟩
  | ok y =>
    obtain ⟨request, reply, rest, hn, sent, left, fulfils⟩ := c.services.call_of_ok _ _ _ hr
    rw [ofRan_runCall_of_ok hr, sent]
    exact ⟨.done, Done.mk rfl (rendered_ne_empty format x y)
      ⟨x, request, reply, rest, y, hx, rfl, hn, left, fulfils⟩⟩

end RunCall

/-- Why a command stands for no call. A terminal that gives no answer is no refusal. -/
inductive Declined (answer : Option Answer) : ApiCommand → CommandError → Prop
  | refused {command : ApiCommand} (r : Refusal) : Declined answer command (.refused r)
  | unread {email detail : String} (h : answer = some (.unread detail)) :
      Declined answer (.login email none) (.password detail)

theorem Declined.of_filled {answer : Option Answer} {command : ApiCommand} {s : String}
    {complaint : Refusal} {e : CommandError} (h : filled s complaint = .error e) :
    Declined answer command e := by
  unfold filled at h
  split at h
  · cases h
    exact .refused complaint
  · cases h

theorem Declined.of_checkedPassword {answer : Option Answer} {command : ApiCommand} {p : String}
    {e : CommandError} (h : checkedPassword p = .error e) : Declined answer command e := by
  unfold checkedPassword at h
  split at h
  · cases h
    exact .refused .emptyPassword
  · cases h

theorem declined_of_call {answer : Option Answer} {command : ApiCommand} {e : CommandError}
    (h : command.call answer = .error e) : Declined answer command e := by
  cases command with
  | login email password =>
    obtain he | ⟨_, -, h⟩ := bind_eq_error.1 h
    · exact .of_filled he
    · obtain hp | ⟨_, -, h⟩ := bind_eq_error.1 h
      · cases password with
        | some p => exact .of_checkedPassword hp
        | none =>
          cases answer with
          | none =>
            cases hp
            exact .refused .passwordNeeded
          | some a =>
            cases a with
            | typed p => exact .of_checkedPassword hp
            | unread detail =>
              cases hp
              exact .unread rfl
      · cases h
  | begin id directory rename =>
    obtain he | ⟨_, -, h⟩ := bind_eq_error.1 h
    · exact .of_filled he
    · obtain he | ⟨_, -, h⟩ := bind_eq_error.1 h
      · exact .of_filled he
      · cases h
  | status filter => cases h
  | _ =>
    obtain he | ⟨_, -, h⟩ := bind_eq_error.1 h
    · exact .of_filled he
    · cases h

theorem runApi_ending [Locator] (c : Context) (format : OutputFormat) {answer : Option Answer}
    {command : ApiCommand} (unattended : answer = none ∨ ∀ email, command ≠ .login email none) :
    ∃ e : Ending, e.Of c answer command (runApi c format answer command).context.network
      (.ofRan (runApi c format answer command)) := by
  unfold runApi
  split
  · next e he =>
    cases declined_of_call he with
    | refused r => exact ⟨.refused, Refused.mk ⟨r, he⟩ rfl rfl rfl rfl⟩
    | unread h =>
      obtain rfl | given := unattended
      · cases h
      · exact absurd rfl (given _)
  · next x hx => exact runCall_ending c format hx

theorem run_ending [Locator] {env : Environment} {words : List String}
    {terminal : Option Terminal} {settings : Settings} {command : ApiCommand}
    (h : Invoked env words terminal settings command) (input : List UInt8) (n : Network) :
    ∃ f, run env words terminal input n = .ok f ∧
      ∃! e : Ending, e.Of (begun settings n) (terminal.map Terminal.first) command
        (runApi (begun settings n) settings.output (terminal.map Terminal.first)
          command).context.network f := by
  have unattended : terminal.map Terminal.first = none ∨ ∀ email, command ≠ .login email none :=
    h.unattended.imp_left fun none => by rw [none, Option.map_none]
  obtain ⟨e, he⟩ := runApi_ending (begun settings n) settings.output unattended
  refine ⟨_, ?_, e, he, fun e' he' => he'.unique he⟩
  rw [run, h.parsed]
  rfl

theorem pause_ending :
    letI := Locator.atEnd
    let words := ["--api-url", "http://a.example", "pause", "f"]
    let settings : Settings := { settingsOf fun _ => none with apiUrl := "http://a.example" }
    let n := Network.scripted [{ body := Envelope.success.toJson.compact.toUTF8 }]
    Invoked noEnvironment words none settings (.pause "f") ∧
      ∃ f, run noEnvironment words none [] n = .ok f ∧
        Done (begun settings n) none (.pause "f")
          (runApi (begun settings n) settings.output none (.pause "f")).context.network f := by
  intro words settings n
  let := Locator.atEnd
  have invoked : Invoked noEnvironment words none settings (.pause "f") :=
    ⟨by decide +kernel, .inl rfl⟩
  have answered : Answered (.of "http://a.example" none none) .downloadPause ⟨"f"⟩
      (some (.ofSeconds 4)) n ⟨200, Envelope.success.toJson.compact.toUTF8⟩ :=
    (ready_example .downloadPause ⟨"f"⟩ (by decide)).answered _ _ _ [] (by decide) rfl (by decide)
  have other : Operation.downloadPause ≠ .login := nofun
  obtain ⟨y, hy, envelope⟩ := reader_of_carries other (carries_compact .success)
  have fulfilled : ((begun settings n).services.call .downloadPause ⟨"f"⟩ n).result = .ok y := by
    rw [Services.call_eq_ok_iff, begun, Context.of, (Services.sound_of _ _ _).client_eq]
    refine answered.result.trans (classify_eq_ok_iff.2 ⟨⟨by decide, by decide⟩, hy, ?_, id⟩)
    rw [envelope]
    rfl
  obtain ⟨f, ran, e, he, -⟩ := run_ending invoked [] n
  refine ⟨invoked, f, ran, ?_⟩
  cases e with
  | done => exact he
  | refused =>
    obtain ⟨r, hr⟩ := Refused.reason he
    cases hr
  | failed =>
    obtain ⟨x, failure, hx, hr, -⟩ := Failed.told he
    cases hx
    cases fulfilled.symm.trans hr

end DownloadClient.Command
