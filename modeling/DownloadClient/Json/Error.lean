import DownloadClient.Json.Value
import DownloadClient.Text.Quoted

namespace DownloadClient.Json

inductive SyntaxError
  | cutValue
  | cutObject
  | cutList
  | cutString
  | value
  | ident
  | colon
  | objectSeparator
  | listSeparator
  | key
  | trailingComma
  | trailing
  | number
  | range
  | escape
  | surrogate
  | hexEnd
  | codePoint
  | control
  | depth
  deriving DecidableEq, Repr

def SyntaxError.message : SyntaxError → String
  | .cutValue => "EOF while parsing a value"
  | .cutObject => "EOF while parsing an object"
  | .cutList => "EOF while parsing a list"
  | .cutString => "EOF while parsing a string"
  | .value => "expected value"
  | .ident => "expected ident"
  | .colon => "expected `:`"
  | .objectSeparator => "expected `,` or `\x7d`"
  | .listSeparator => "expected `,` or `]`"
  | .key => "key must be a string"
  | .trailingComma => "trailing comma"
  | .trailing => "trailing characters"
  | .number => "invalid number"
  | .range => "number out of range"
  | .escape => "invalid escape"
  | .surrogate => "lone leading surrogate in hex escape"
  | .hexEnd => "unexpected end of hex escape"
  | .codePoint => "invalid unicode code point"
  | .control => "control character (\\u0000-\\u001F) found while parsing a string"
  | .depth => "recursion limit exceeded"

inductive Shape
  | null
  | bool (b : Bool)
  | number (n : Numeral)
  | text (s : String)
  | sequence
  | map
  | unitVariant

def Shape.describe : Shape → String
  | .null => "null"
  | .bool true => "boolean `true`"
  | .bool false => "boolean `false`"
  | .number (.integer i) => "integer `" ++ String.ofList (numeralText (.integer i)) ++ "`"
  | .number (.real x) => "floating point `" ++ String.ofList (numeralText (.real x)) ++ "`"
  | .text s => "string " ++ Text.quoted s
  | .sequence => "sequence"
  | .map => "map"
  | .unitVariant => "unit variant"

def shape : Json → Shape
  | .null => .null
  | .bool b => .bool b
  | .number n => .number n
  | .text s => .text s
  | .list _ => .sequence
  | .object _ => .map

inductive DecodeError
  | malformed (e : SyntaxError)
  | missing (field : String)
  | duplicate (field : String)
  | type (found : Shape) (expected : String)
  | value (found : Shape) (expected : String)
  | length (found : Nat) (record : String) (fields : Nat)
  | variant (found : String) (known : List String)
  | custom (message : String)

def DecodeError.message : DecodeError → String
  | .malformed e => e.message
  | .missing field => "missing field `" ++ field ++ "`"
  | .duplicate field => "duplicate field `" ++ field ++ "`"
  | .type found expected => "invalid type: " ++ found.describe ++ ", expected " ++ expected
  | .value found expected => "invalid value: " ++ found.describe ++ ", expected " ++ expected
  | .length found record fields =>
    "invalid length " ++ String.ofList (Text.decimal found) ++ ", expected struct " ++ record
      ++ " with " ++ String.ofList (Text.decimal fields)
      ++ (if fields = 1 then " element" else " elements")
  | .variant found known =>
    "unknown variant `" ++ found ++ "`, expected one of "
      ++ ", ".intercalate (known.map fun k => "`" ++ k ++ "`")
  | .custom message => message

structure Position where
  line : Nat
  column : Nat
  deriving DecidableEq

/-- A value that is refused after it was decoded is at no position. -/
structure DecodeFailure where
  reason : DecodeError
  position : Option Position

def DecodeFailure.message (e : DecodeFailure) : String :=
  match e.position with
  | none => e.reason.message
  | some p =>
    e.reason.message ++ " at line " ++ String.ofList (Text.decimal p.line) ++ " column "
      ++ String.ofList (Text.decimal p.column)

def malformed (r : Except SyntaxError α) : Except DecodeError α := r.mapError .malformed

end DownloadClient.Json
