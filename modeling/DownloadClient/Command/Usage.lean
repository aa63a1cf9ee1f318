import DownloadClient.Api.RemoteFile
import DownloadClient.Text.Similar
import DownloadClient.Text.Split
import DownloadClient.Web.Address

/-! The words that commands take: flags with or without a value, and the words in their places. -/

namespace DownloadClient.Command

open DownloadClient.Text DownloadClient.Web

inductive UsageError
  | helpAsked
  | helpNeeded
  | noCommand
  | unknownCommand (name : String) (similar : List String)
  | unknownArgument
  | badValue
  | rejectedValue
  | missingArgument
  | givenTwice
  | needlessValue
  deriving DecidableEq, Repr

namespace UsageError

def isHelp : UsageError → Bool
  | .helpAsked | .helpNeeded => true
  | _ => false

def exitCode : UsageError → Nat
  | .helpAsked => 0
  | _ => 2

def shown (s : String) : String :=
  String.ofList (s.toList.filter fun c =>
    (decide (0x20 ≤ c.toNat) && c != '\x7f') || ['\t', '\n', '\x0c', '\r'].contains c)

def inQuotes (s : String) : String := "'" ++ s ++ "'"

def tip : List String → String
  | [] => ""
  | [name] => "\n\n  tip: a similar subcommand exists: " ++ inQuotes name
  | names =>
    "\n\n  tip: some similar subcommands exist: " ++ ", ".intercalate (names.map inQuotes)

/-- Of what the argument library says only the text for an unknown command is given word for word.
The others are short texts in the place of longer ones, which name the argument and the values that
it may have; no statement looks into them. -/
def complaint : UsageError → String
  | .helpAsked | .helpNeeded => "no command was given"
  | .noCommand => "a command is required"
  | .unknownCommand name similar =>
    "unrecognized subcommand " ++ inQuotes (shown name) ++ tip similar
  | .unknownArgument => "unexpected argument"
  | .badValue => "invalid or missing value"
  | .rejectedValue => "value not accepted"
  | .missingArgument => "a required argument was not given"
  | .givenTwice => "an argument cannot be given twice"
  | .needlessValue => "a flag takes no value"

def message (synopsis : String) (e : UsageError) : String :=
  "error: " ++ e.complaint ++ "\n\nUsage: " ++ synopsis
    ++ "\n\nFor more information, try '--help'."

end UsageError

def parseUrl (s : String) : Except AddressError String :=
  (Address.ofString (trimmed s)).map fun _ => trimmed s

inductive ValueKind
  | any
  | oneOf (names : List String)
  | url
  | seconds
  deriving DecidableEq

namespace ValueKind

def seconds? (s : String) : Option UInt64 := (Api.RemoteFile.word? s.toList).filter (0 < ·)

def read (k : ValueKind) (s : String) : Except UsageError String :=
  match k with
  | .any => .ok s
  | .oneOf names => if s ∈ names then .ok s else .error .badValue
  | .url => (parseUrl s).mapError fun _ => .rejectedValue
  | .seconds => if (seconds? s).isSome then .ok s else .error .rejectedValue

end ValueKind

inductive Takes
  | nothing
  | value (kind : ValueKind)
  /-- values with commas between them; the flag may be given again -/
  | values (kind : ValueKind)
  deriving DecidableEq

structure Flag where
  name : String
  aliases : List String := []
  takes : Takes
  standIn : Option String := none
  deriving DecidableEq

def Flag.isCalled (f : Flag) (name : String) : Bool := f.name == name || f.aliases.contains name

structure Place where
  name : String
  kind : ValueKind
  deriving DecidableEq

structure Grammar where
  flags : List Flag := []
  places : List Place := []
  required : List String := []

def Grammar.flag? (g : Grammar) (name : String) : Option Flag := g.flags.find? (·.isCalled name)

abbrev Environment := String → Option String

abbrev Matches := List (String × List String)

namespace Matches

def get? (m : Matches) (name : String) : Option (List String) := m.lookup name

def has (m : Matches) (name : String) : Bool := (m.get? name).isSome

def all (m : Matches) (name : String) : List String := (m.get? name).getD []

def first? (m : Matches) (name : String) : Option String := (m.all name).head?

def add (m : Matches) (name : String) (values : List String) : Matches :=
  (name, m.all name ++ values) :: m

end Matches

def commaParts (s : String) : List String :=
  (splitWhen (· == ',') s.toList).map String.ofList

def accept (m : Matches) (name : String) (takes : Takes) (words : List String) :
    Except UsageError Matches :=
  match takes, words with
  | .nothing, _ => if m.has name then .error .givenTwice else .ok (m.add name [])
  | _, [] => .error .badValue
  | .value kind, words => do
    if m.has name then .error .givenTwice else
    let vs ← words.mapM kind.read
    return m.add name vs
  | .values kind, words => do
    let vs ← (words.flatMap commaParts).mapM kind.read
    return m.add name vs

structure Pending where
  name : String
  takes : Takes
  words : List String := []

structure Progress where
  found : Matches := []
  pending : Option Pending := none
  places : List Place
  /-- whether all words stand in their places, as they do after `--` -/
  placesOnly : Bool := false

namespace Progress

def settle (s : Progress) : Except UsageError Progress :=
  match s.pending with
  | none => .ok s
  | some p => do
    let found ← accept s.found p.name p.takes p.words
    return { s with found, pending := none }

def awaits (s : Progress) : Bool := s.pending.any (·.words.isEmpty)

def expect (s : Progress) (name : String) (takes : Takes) (words : List String) :
    Except UsageError Progress := do
  let s ← s.settle
  return { s with pending := some ⟨name, takes, words⟩ }

end Progress

def longFlag? (w : String) : Option (String × Option String) :=
  match w.toList with
  | '-' :: '-' :: c :: r =>
    match cut? '=' (c :: r) with
    | some (name, value) => some (String.ofList name, some (String.ofList value))
    | none => some (String.ofList (c :: r), none)
  | _ => none

def shortFlag? (w : String) : Option Char :=
  match w.toList with
  | '-' :: c :: _ => if c = '-' then none else some c
  | _ => none

def helpFlag : String := "help"

def takeLong (g : Grammar) (s : Progress) (name : String) (attached : Option String) :
    Except UsageError Progress :=
  if name = helpFlag then
    match attached with
    | some _ => .error .needlessValue
    | none => do
      let _ ← s.settle
      .error .helpAsked
  else
    match g.flag? name with
    | none => .error .unknownArgument
    | some f =>
      match f.takes, attached with
      | .nothing, some _ => .error .needlessValue
      | .nothing, none => do (← s.expect f.name f.takes []).settle
      | _, some v => do (← s.expect f.name f.takes [v]).settle
      | _, none => s.expect f.name f.takes []

def takeShort (s : Progress) (c : Char) : Except UsageError Progress :=
  if c = 'h' then do
    let _ ← s.settle
    .error .helpAsked
  else .error .unknownArgument

def Progress.give (s : Progress) (w : String) : Progress :=
  { s with pending := s.pending.map fun p => { p with words := p.words ++ [w] } }

/-- A word in the next free place; `full` says what it is an error to have one too many. -/
def takePlaced (s : Progress) (w : String) (full : UsageError) : Except UsageError Progress :=
  match s.places with
  | [] => .error full
  | p :: rest => do
    let s ← s.expect p.name (.value p.kind) [w]
    return { s with places := rest }

def takeWord (g : Grammar) (s : Progress) (w : String) (full : UsageError) :
    Except UsageError Progress :=
  if s.placesOnly then takePlaced s w full
  else if w = "--" then .ok { s with placesOnly := true }
  else
    match longFlag? w, shortFlag? w with
    | some (name, attached), _ => takeLong g s name attached
    | none, some c => takeShort s c
    | none, none => if s.awaits then .ok (s.give w) else takePlaced s w full

/-- The environment is read for every flag that was not given. -/
def checkEnvironment (env : Environment) (m : Matches) : List Flag → Except UsageError Unit
  | [] => .ok ()
  | f :: fs => do
    match f.standIn.bind env with
    | some v => if m.has f.name then pure () else let _ ← accept [] f.name f.takes [v]
    | none => pure ()
    checkEnvironment env m fs

def Progress.finish (s : Progress) (g : Grammar) (env : Environment) :
    Except UsageError Matches := do
  let s ← s.settle
  checkEnvironment env s.found g.flags
  if g.required.all s.found.has then .ok s.found else .error .missingArgument

def takeAll (g : Grammar) : Progress → List String → Except UsageError Progress
  | s, [] => .ok s
  | s, w :: ws => do takeAll g (← takeWord g s w .unknownArgument) ws

structure Commands (κ : Type) where
  all : List κ
  names : κ → List String
  grammar : κ → Grammar

namespace Commands

variable {κ : Type}

def find? (c : Commands κ) (name : String) : Option κ :=
  c.all.find? fun k => (c.names k).contains name

def helpCommand : String := "help"

def isKnown (c : Commands κ) (name : String) : Bool := name == helpCommand || (c.find? name).isSome

def allNames (c : Commands κ) : List String := c.all.flatMap c.names ++ [helpCommand]

def help (c : Commands κ) : List String → UsageError
  | [] => .helpAsked
  | w :: ws =>
    if c.isKnown w then
      match ws with
      | [] => .helpAsked
      | v :: _ => .unknownCommand v []
    else .unknownCommand w []

def surplus (c : Commands κ) (s : Progress) (w : String) : UsageError :=
  if s.placesOnly && c.isKnown w then .unknownArgument
  else .unknownCommand w (similar w c.allNames)

structure Chosen (κ : Type) where
  before : Progress
  command : κ
  words : List String

def choose (c : Commands κ) (g : Grammar) :
    Progress → List String → Except UsageError (Progress × Option (Chosen κ))
  | s, [] => .ok (s, none)
  | s, w :: ws =>
    if s.placesOnly || s.awaits || !c.isKnown w then do
      choose c g (← takeWord g s w (c.surplus s w)) ws
    else
      match c.find? w with
      | some k => .ok (s, some ⟨s, k, ws⟩)
      | none => .error (c.help ws)

def anything (env : Environment) (m : Matches) (flags : List Flag) : Bool :=
  !m.isEmpty || flags.any fun f => (f.standIn.bind env).isSome

structure Parsed (κ : Type) where
  outer : Matches
  command : κ
  inner : Matches

def parse (c : Commands κ) (shared : List Flag) (env : Environment) (ws : List String) :
    Except UsageError (Parsed κ) := do
  let whole : Grammar := ⟨shared, [], []⟩
  match ← c.choose whole ⟨[], none, [], false⟩ ws with
  | (s, none) =>
    let m ← s.finish whole env
    .error (if anything env m shared then .noCommand else .helpNeeded)
  | (_, some chosen) =>
    let g := c.grammar chosen.command
    let own : Grammar := { g with flags := g.flags ++ shared }
    let s ← takeAll own ⟨[], none, own.places, false⟩ chosen.words
    let inner ← s.finish own env
    let outer ← chosen.before.finish whole env
    return ⟨outer, chosen.command, inner⟩

end Commands
end DownloadClient.Command
