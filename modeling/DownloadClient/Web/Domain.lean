import DownloadClient.Text.Utf8
import DownloadClient.Web.Domain.Direction
import DownloadClient.Web.Domain.Joiner
import DownloadClient.Web.Domain.Mapping
import DownloadClient.Web.Punycode

/-! Domain names in the ASCII form in which they are looked up. A label that has other characters is
written with `xn--` and the Punycode of its mapped and composed form. -/

namespace DownloadClient.Web.Domain

open DownloadClient.Text

def forbidden (c : Char) : Bool :=
  decide (c.toNat ≤ 0x20) || c == '\x7f'
    || ['%', '#', '/', ':', '<', '>', '?', '@', '[', '\\', ']', '^', '|'].contains c

def encoded? (label : List Char) : Option (List Char) :=
  match label with
  | 'x' :: 'n' :: '-' :: '-' :: r => some r
  | _ => none

structure Label where
  shown : List Char
  ascii : List Char

def sound (label : List Char) : Bool :=
  label.all stands && composed label == label && !label.head?.any isMark && joinersSeen [] label

/-- A mapped label. Punycode in it has to be that of a label which is mapped and composed, and not
ASCII. -/
def label? (label : List Char) : Option Label :=
  match encoded? label with
  | some r =>
    if r.getLast?.all (· == '-') ∨ 2000 < r.length then none
    else
      match Punycode.decode? r with
      | some shown =>
        if sound shown && (encoded? shown).isNone then some ⟨shown, label⟩ else none
      | none => none
  | none =>
    if label.all Punycode.isAscii then some ⟨label, label⟩
    else if sound label ∧ label.length ≤ 1000 then
      some ⟨label, "xn--".toList ++ Punycode.encode label⟩
    else none

def labels (s : List Char) : List (List Char) := splitWhen (· == '.') s

def international? (s : List Char) : Option (List Label) := do
  let ls ← (labels (composed (← s.mapM mapped?).flatten)).mapM label?
  if (ls.any (·.shown.any isLeftward)) ∧ ¬ ls.all (keepsDirection ·.shown) then none else some ls

def isPlain (s : List Char) : Bool :=
  s.all Punycode.isAscii && (labels s).all fun l => (encoded? l).isNone

def toAscii? (b : List UInt8) : Option (List Char) := do
  let s := (← chars? (symbols b.toByteArray)).map Char.toLower
  let name ← if isPlain s then some s else
    (international? s).map fun ls => List.intercalate ['.'] (ls.map (·.ascii))
  if name.any forbidden then none else some name

end DownloadClient.Web.Domain
