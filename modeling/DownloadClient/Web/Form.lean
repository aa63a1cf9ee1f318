import DownloadClient.Text.Split
import DownloadClient.Web.Percent

/-! The pairs of a query, form encoded: letters, digits and `*-._` stay, a space is a plus sign and
every other byte is percent-encoded. -/

namespace DownloadClient.Web.Form

open DownloadClient.Text

def unreserved (c : Char) : Bool := c.isAlphanum || ['*', '-', '.', '_'].contains c

def encodeChar (c : Char) : List Char :=
  if c = ' ' then ['+']
  else if unreserved c then [c]
  else (String.utf8EncodeChar c).flatMap percentByte

def encode (s : List Char) : List Char := s.flatMap encodeChar

def encodePair (name value : List Char) : List Char := encode name ++ '=' :: encode value

def append (query : Option (List Char)) (name value : List Char) : List Char :=
  match query with
  | some (c :: q) => c :: (q ++ '&' :: encodePair name value)
  | _ => encodePair name value

def decodeBytes (s : List Char) : List UInt8 :=
  percentDecode (s.map fun c => if c = '+' then ' ' else c)

def decodePair (s : List Char) : List UInt8 × List UInt8 :=
  match cut? '=' s with
  | some (name, value) => (decodeBytes name, decodeBytes value)
  | none => (decodeBytes s, [])

def pairs (query : List Char) : List (List UInt8 × List UInt8) :=
  ((splitWhen (· == '&') query).filter (· ≠ [])).map decodePair

end DownloadClient.Web.Form
