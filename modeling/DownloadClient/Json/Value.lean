import DownloadClient.Number.Shortest

/-! JSON values, and the two layouts in which they are written: compact, and one item a line with
two spaces of indentation. -/

namespace DownloadClient

inductive Numeral
  | integer (i : Int)
  | real (x : Float)

inductive Json
  | null
  | bool (b : Bool)
  | number (n : Numeral)
  | text (s : String)
  | list (items : List Json)
  | object (members : List (String × Json))

namespace Json

open DownloadClient.Text DownloadClient.Number

def floats : FloatFormat := ⟨-5, 15⟩

def numeralText : Numeral → List Char
  | .integer i => signedDecimal i
  | .real x => (floats.text? x).getD "null".toList

def escapedChar (c : Char) : List Char :=
  match c with
  | '"' => ['\\', '"']
  | '\\' => ['\\', '\\']
  | '\x08' => ['\\', 'b']
  | '\x0c' => ['\\', 'f']
  | '\n' => ['\\', 'n']
  | '\r' => ['\\', 'r']
  | '\t' => ['\\', 't']
  | c =>
    if c < ' ' then ['\\', 'u', '0', '0', hexChar (c.toNat / 16), hexChar (c.toNat % 16)]
    else [c]

def literal (s : String) : List Char := '"' :: (s.toList.flatMap escapedChar ++ ['"'])

/-- What stands before an item at a nesting depth, and between a key and its value. -/
structure Layout where
  newline : Nat → List Char
  colon : List Char

def Layout.compact : Layout := ⟨fun _ => [], [':']⟩

def Layout.pretty : Layout := ⟨fun depth => '\n' :: List.replicate (2 * depth) ' ', [':', ' ']⟩

def Layout.block (l : Layout) (depth : Nat) (first last : Char) : List (List Char) → List Char
  | [] => [first, last]
  | parts =>
    first :: (List.intercalate [','] (parts.map (l.newline (depth + 1) ++ ·))
      ++ l.newline depth ++ [last])

mutual
def write (l : Layout) (depth : Nat) : Json → List Char
  | .null => "null".toList
  | .bool true => "true".toList
  | .bool false => "false".toList
  | .number n => numeralText n
  | .text s => literal s
  | .list items => l.block depth '[' ']' (writeItems l (depth + 1) items)
  | .object members => l.block depth '{' '}' (writeMembers l (depth + 1) members)
def writeItems (l : Layout) (depth : Nat) : List Json → List (List Char)
  | [] => []
  | x :: xs => write l depth x :: writeItems l depth xs
def writeMembers (l : Layout) (depth : Nat) : List (String × Json) → List (List Char)
  | [] => []
  | m :: ms => writeMember l depth m :: writeMembers l depth ms
def writeMember (l : Layout) (depth : Nat) : String × Json → List Char
  | (k, v) => literal k ++ l.colon ++ write l depth v
end

def compact (x : Json) : String := String.ofList (x.write .compact 0)

def pretty (x : Json) : String := String.ofList (x.write .pretty 0)

/-- The member of a name; of several, the last. -/
def get? (name : String) : Json → Option Json
  | .object members => (members.reverse.find? (·.1 == name)).map (·.2)
  | _ => none

end Json
end DownloadClient
