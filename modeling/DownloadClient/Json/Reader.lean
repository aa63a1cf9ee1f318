import DownloadClient.Json.Tree

/-! Readers of typed values. A reader goes through the tree in reading order and fails at the first
thing that is wrong; a record may be given as an object in any order or, where it is not flattened,
as the list of its fields. -/

namespace DownloadClient.Json

/-- The first argument is the room for nested lists and objects. -/
abbrev Reader (α : Type) := Nat → Tree → Except DecodeError α

def nestingLimit : Nat := 127

def Reader.readSymbols (r : Reader α) (s : List Text.Symbol) : Except DecodeError α := do
  let state := State.ofSymbols s
  let x ← r nestingLimit state.tree
  if state.extra then .error (.malformed .trailing) else .ok x

def Reader.readBytes (r : Reader α) (b : ByteArray) : Except DecodeError α :=
  r.readSymbols (Text.symbols b)

def Reader.readText (r : Reader α) (s : String) : Except DecodeError α :=
  r.readSymbols (Text.ofChars s.toList)

def Reader.any : Reader Json := fun room t => Json.malformed (t.value room)

def Shape.int32 : Shape → Except DecodeError Int32
  | .number (.integer i) =>
    if -2147483648 ≤ i ∧ i < 2147483648 then .ok (Int32.ofInt i)
    else .error (.value (.number (.integer i)) "i32")
  | s => .error (.type s "i32")

def Shape.word : Shape → Except DecodeError UInt64
  | .number (.integer i) =>
    if 0 ≤ i ∧ i.toNat < wordLimit then .ok (UInt64.ofNat i.toNat)
    else .error (.value (.number (.integer i)) "u64")
  | s => .error (.type s "u64")

def Shape.real : Shape → Except DecodeError Float
  | .number (.integer i) => .ok (Float.ofInt i)
  | .number (.real x) => .ok x
  | s => .error (.type s "f64")

def Shape.string : Shape → Except DecodeError String
  | .text s => .ok s
  | s => .error (.type s "a string")

def Shape.flag : Shape → Except DecodeError Bool
  | .bool b => .ok b
  | s => .error (.type s "a boolean")

def Shape.unit : Shape → Except DecodeError Unit
  | .null => .ok ()
  | s => .error (.type s "unit")

def Reader.ofShape (f : Shape → Except DecodeError α) : Reader α := fun _ t => do
  f (← Json.malformed t.shape)

def Reader.int32 : Reader Int32 := .ofShape Shape.int32
def Reader.word : Reader UInt64 := .ofShape Shape.word
def Reader.real : Reader Float := .ofShape Shape.real
def Reader.string : Reader String := .ofShape Shape.string
def Reader.flag : Reader Bool := .ofShape Shape.flag
def Reader.unit : Reader Unit := .ofShape Shape.unit

def Reader.mismatch (expected : String) : Reader α := .ofShape fun s => .error (.type s expected)

def enter : Nat → Except DecodeError Nat
  | 0 => .error (.malformed .depth)
  | room + 1 => .ok room

def Reader.list (r : Reader α) : Reader (List α)
  | room, .list items stop => do
    let room ← enter room
    let xs ← items.mapM (r room)
    Json.malformed stop.read
    return xs
  | room, t => Reader.mismatch "a sequence" room t

def Reader.optional (r : Reader α) : Reader (Option α)
  | _, .null => .ok none
  | room, t => do return some (← r room t)

structure Cases (α : Type) where
  known : List String
  bare : String → Except DecodeError α
  applied : String → Reader α

def Cases.check (c : Cases α) (name : String) : Except DecodeError Unit :=
  if name ∈ c.known then .ok () else .error (.variant name c.known)

def Cases.noKey : ObjectStop → DecodeError
  | .cut => .malformed .cutValue
  | .notKey (.ok found) => .type found "variant identifier"
  | .notKey (.error e) => .malformed e
  | .brokenKey read _ => .malformed read
  | _ => .malformed .value

def Reader.cases (c : Cases α) : Reader α
  | _, .text s => do
    let name ← Json.malformed s
    c.check name
    c.bare name
  | room, .object members stop => do
    let room ← enter room
    match members with
    | [] => .error (Cases.noKey stop)
    | (key, t) :: rest =>
      let name ← Json.malformed key
      c.check name
      let x ← c.applied name room t
      match rest, stop with
      | [], .closed => .ok x
      | [], .cut => .error (.malformed .cutObject)
      | _, _ => .error (.malformed .value)
  | _, .fault read _ => .error (.malformed read)
  | _, _ => .error (.malformed .value)

structure Field where
  name : String
  check : Reader Unit

def Field.of (name : String) (r : Reader α) : Field := ⟨name, fun room t => do let _ ← r room t⟩

abbrev Fields := List (String × Tree)

def Fields.get? (fs : Fields) (name : String) : Option Tree := (fs.find? (·.1 == name)).map (·.2)

def Fields.required (fs : Fields) (name : String) (r : Reader α) (room : Nat) :
    Except DecodeError α :=
  match fs.get? name with
  | some t => r room t
  | none => .error (.missing name)

def Fields.withDefault (fs : Fields) (name : String) (r : Reader α) (default : α) (room : Nat) :
    Except DecodeError α :=
  match fs.get? name with
  | some t => r room t
  | none => .ok default

structure Record (α : Type) where
  name : String
  fields : List Field
  /-- whether a list may end before the last field -/
  short : Bool
  build : Nat → Fields → Except DecodeError α

def scan (known : List Field) (room : Nat) (seen : List String) :
    List (Key × Tree) → Except DecodeError Fields
  | [] => .ok []
  | (key, t) :: rest => do
    let name ← Json.malformed key
    match known.find? (·.name == name) with
    | none =>
      Json.malformed t.skip
      scan known room seen rest
    | some f =>
      if name ∈ seen then .error (.duplicate name)
      else
        f.check room t
        let fs ← scan known room (name :: seen) rest
        return (name, t) :: fs

def Record.positional (r : Record α) (room : Nat) (stop : ListStop) (taken : Nat) :
    List Field → List Tree → Except DecodeError Fields
  | [], [] =>
    match stop with
    | .closed => .ok []
    | .cut => .error (.malformed .cutList)
    | .trailingComma => .error (.malformed .trailingComma)
    | _ => .error (.malformed .trailing)
  | [], _ :: _ => .error (.malformed .trailing)
  | _ :: _, [] => do
    Json.malformed stop.read
    if r.short then .ok [] else .error (.length taken r.name r.fields.length)
  | f :: fs, t :: ts => do
    f.check room t
    let rest ← r.positional room stop (taken + 1) fs ts
    return (f.name, t) :: rest

def Reader.record (r : Record α) : Reader α
  | room, .list items stop => do
    let room ← enter room
    r.build room (← r.positional room stop 0 r.fields items)
  | room, .object members stop => do
    let room ← enter room
    let fs ← scan r.fields room [] members
    Json.malformed stop.read
    r.build room fs
  | room, t => Reader.mismatch ("struct " ++ r.name) room t

/-- Members in reading order: each known one is checked and kept, each other one read as a value. -/
def scanValues (known : List Field) (room : Nat) (seen : List String) :
    List (Key × Tree) → Except DecodeError (Fields × List (String × Json))
  | [] => .ok ([], [])
  | (key, t) :: rest => do
    let name ← Json.malformed key
    match known.find? (·.name == name) with
    | none =>
      let x ← Json.malformed (t.value room)
      let (fs, xs) ← scanValues known room seen rest
      return (fs, (name, x) :: xs)
    | some f =>
      if name ∈ seen then .error (.duplicate name)
      else
        f.check room t
        let (fs, xs) ← scanValues known room (name :: seen) rest
        return ((name, t) :: fs, xs)

structure Flattened (α β γ : Type) where
  name : String
  fields : List Field
  own : Nat → Fields → Except DecodeError α
  inner : List (String × Json) → Except DecodeError β
  build : α → β → γ

def Reader.flattened (r : Flattened α β γ) : Reader γ
  | room, .object members stop => do
    let room ← enter room
    let (fs, xs) ← scanValues r.fields room [] members
    Json.malformed stop.read
    let own ← r.own room fs
    let inner ← r.inner xs
    return r.build own inner
  | room, t => Reader.mismatch ("struct " ++ r.name) room t

end DownloadClient.Json
