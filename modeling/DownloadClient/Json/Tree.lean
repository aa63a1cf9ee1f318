import DownloadClient.Json.Token

/-! The tree of a text, up to the first place where it stops being JSON. That place is kept in the
tree, so that whoever walks it meets the first fault in reading order; strings and numbers that
nobody reads may hold what a reader would refuse. -/

namespace DownloadClient.Json

abbrev Key := Except SyntaxError String

inductive ListStop
  | closed
  | cut
  | separator
  | trailingComma
  | cutAfterComma
  deriving DecidableEq

inductive ObjectStop
  | closed
  | cut
  | separator
  | trailingComma
  | cutAfterComma
  | notKey (found : Except SyntaxError Shape)
  | brokenKey (read skip : SyntaxError)

inductive Tree
  | null
  | bool (b : Bool)
  | number (n : Except SyntaxError Numeral)
  | text (s : Except SyntaxError String)
  | list (items : List Tree) (stop : ListStop)
  | object (members : List (Key × Tree)) (stop : ObjectStop)
  | brokenWord (read skip : SyntaxError)
  | fault (read skip : SyntaxError)

def Token.shape : Token → Except SyntaxError Shape
  | .null => .ok .null
  | .bool b => .ok (.bool b)
  | .number n => n.map .number
  | .text s => s.map .text
  | .listOpen => .ok .sequence
  | .objectOpen => .ok .map
  | .brokenText read _ | .brokenWord read _ => .error read
  | .listClose | .objectClose | .colon | .comma | .stray => .error .value

/-- What is being read around a value, innermost first; items and members stand in reverse. -/
inductive Frame
  | list (items : List Tree)
  | member (members : List (Key × Tree)) (key : Key)

inductive State
  | value (around : List Frame)
  | item (first : Bool) (items : List Tree) (around : List Frame)
  | afterItem (items : List Tree) (around : List Frame)
  | nextKey (first : Bool) (members : List (Key × Tree)) (around : List Frame)
  | colon (members : List (Key × Tree)) (key : Key) (around : List Frame)
  | afterMember (members : List (Key × Tree)) (around : List Frame)
  | done (t : Tree) (extra : Bool)

def State.accept (t : Tree) : List Frame → State
  | [] => .done t false
  | .list items :: around => .afterItem (t :: items) around
  | .member members key :: around => .afterMember ((key, t) :: members) around

/-- The tree when nothing more is read; how the outer lists and objects stop does not matter. -/
def Tree.within (t : Tree) : List Frame → Tree
  | [] => t
  | .list items :: around => (Tree.list (t :: items).reverse .cut).within around
  | .member members key :: around =>
    (Tree.object ((key, t) :: members).reverse .cut).within around

def State.halt (t : Tree) (around : List Frame) : State := .done (t.within around) false

def State.begin (around : List Frame) : Token → State
  | .null => .accept .null around
  | .bool b => .accept (.bool b) around
  | .number n => .accept (.number n) around
  | .text s => .accept (.text s) around
  | .listOpen => .item true [] around
  | .objectOpen => .nextKey true [] around
  | .brokenText read skip => .halt (.fault read skip) around
  | .brokenWord read skip => .halt (.brokenWord read skip) around
  | .listClose | .objectClose | .colon | .comma | .stray => .halt (.fault .value .value) around

def State.step : State → Token → State
  | .value around, t => .begin around t
  | .item true items around, .listClose => .accept (.list items.reverse .closed) around
  | .item false items around, .listClose => .halt (.list items.reverse .trailingComma) around
  | .item _ items around, t => .begin (.list items :: around) t
  | .afterItem items around, .comma => .item false items around
  | .afterItem items around, .listClose => .accept (.list items.reverse .closed) around
  | .afterItem items around, _ => .halt (.list items.reverse .separator) around
  | .nextKey true members around, .objectClose => .accept (.object members.reverse .closed) around
  | .nextKey false members around, .objectClose =>
    .halt (.object members.reverse .trailingComma) around
  | .nextKey _ members around, .text key => .colon members key around
  | .nextKey _ members around, .brokenText read skip =>
    .halt (.object members.reverse (.brokenKey read skip)) around
  | .nextKey _ members around, t => .halt (.object members.reverse (.notKey t.shape)) around
  | .colon members key around, .colon => .value (.member members key :: around)
  | .colon members key around, _ => .halt (.fault .colon .colon) (.member members key :: around)
  | .afterMember members around, .comma => .nextKey false members around
  | .afterMember members around, .objectClose => .accept (.object members.reverse .closed) around
  | .afterMember members around, _ => .halt (.object members.reverse .separator) around
  | .done t _, _ => .done t true

def State.tree : State → Tree
  | .value around => (Tree.fault .cutValue .cutValue).within around
  | .item true items around => (Tree.list items.reverse .cut).within around
  | .item false items around => (Tree.list items.reverse .cutAfterComma).within around
  | .afterItem items around => (Tree.list items.reverse .cut).within around
  | .nextKey true members around => (Tree.object members.reverse .cut).within around
  | .nextKey false members around => (Tree.object members.reverse .cutAfterComma).within around
  | .colon members key around =>
    (Tree.fault .cutObject .cutObject).within (.member members key :: around)
  | .afterMember members around => (Tree.object members.reverse .cut).within around
  | .done t _ => t

def State.extra : State → Bool
  | .done _ extra => extra
  | _ => false

def State.run (ts : List Token) : State := ts.foldl State.step (.value [])

def State.ofSymbols (s : List Text.Symbol) : State := .run (tokens s)

def ListStop.read : ListStop → Except SyntaxError Unit
  | .closed => .ok ()
  | .cut => .error .cutList
  | .separator => .error .listSeparator
  | .trailingComma => .error .trailingComma
  | .cutAfterComma => .error .cutValue

def ListStop.skip : ListStop → Except SyntaxError Unit
  | .trailingComma => .error .value
  | stop => stop.read

def ObjectStop.read : ObjectStop → Except SyntaxError Unit
  | .closed => .ok ()
  | .cut => .error .cutObject
  | .separator => .error .objectSeparator
  | .trailingComma => .error .trailingComma
  | .cutAfterComma => .error .cutValue
  | .notKey _ => .error .key
  | .brokenKey read _ => .error read

def ObjectStop.skip : ObjectStop → Except SyntaxError Unit
  | .trailingComma => .error .key
  | .cutAfterComma => .error .cutObject
  | .brokenKey _ skip => .error skip
  | stop => stop.read

def Tree.shape : Tree → Except SyntaxError Shape
  | .null => .ok .null
  | .bool b => .ok (.bool b)
  | .number n => n.map .number
  | .text s => s.map .text
  | .list _ _ => .ok .sequence
  | .object _ _ => .ok .map
  | .brokenWord read _ | .fault read _ => .error read

mutual
def Tree.skip : Tree → Except SyntaxError Unit
  | .list items stop => do
    Tree.skipItems items
    stop.skip
  | .object members stop => do
    Tree.skipMembers members
    stop.skip
  | .brokenWord _ skip | .fault _ skip => .error skip
  | _ => .ok ()
def Tree.skipItems : List Tree → Except SyntaxError Unit
  | [] => .ok ()
  | t :: ts => do
    t.skip
    Tree.skipItems ts
def Tree.skipMembers : List (Key × Tree) → Except SyntaxError Unit
  | [] => .ok ()
  | m :: ms => do
    Tree.skipMember m
    Tree.skipMembers ms
def Tree.skipMember : Key × Tree → Except SyntaxError Unit
  | (_, t) => t.skip
end

mutual
def Tree.value : Nat → Tree → Except SyntaxError Json
  | _, .null => .ok .null
  | _, .bool b => .ok (.bool b)
  | _, .number n => n.map .number
  | _, .text s => s.map .text
  | 0, .list _ _ | 0, .object _ _ => .error .depth
  | room + 1, .list items stop => do
    let items ← Tree.values room items
    stop.read
    return .list items
  | room + 1, .object members stop => do
    let members ← Tree.members room members
    stop.read
    return .object members
  | _, .brokenWord read _ | _, .fault read _ => .error read
def Tree.values : Nat → List Tree → Except SyntaxError (List Json)
  | _, [] => .ok []
  | room, t :: ts => do
    let x ← t.value room
    let xs ← Tree.values room ts
    return x :: xs
def Tree.members : Nat → List (Key × Tree) → Except SyntaxError (List (String × Json))
  | _, [] => .ok []
  | room, m :: ms => do
    let x ← Tree.member room m
    let xs ← Tree.members room ms
    return x :: xs
def Tree.member : Nat → Key × Tree → Except SyntaxError (String × Json)
  | room, (key, t) => do
    let key ← key
    let x ← t.value room
    return (key, x)
end

end DownloadClient.Json
