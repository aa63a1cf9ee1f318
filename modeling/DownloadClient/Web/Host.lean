import DownloadClient.Text.Digits
import DownloadClient.Text.Split
import DownloadClient.Web.Domain
import DownloadClient.Web.Percent

/-! Hosts of web addresses: domain names, and IP addresses in any of the notations in which they
may be given. -/

namespace DownloadClient.Web

open DownloadClient.Text

inductive AddressError
  | relative
  | emptyHost
  | port
  | ipv4
  | ipv6
  | domain
  | hostCharacter
  deriving DecidableEq, Repr

def AddressError.message : AddressError → String
  | .relative => "relative URL without a base"
  | .emptyHost => "empty host"
  | .port => "invalid port number"
  | .ipv4 => "invalid IPv4 address"
  | .ipv6 => "invalid IPv6 address"
  | .domain => "invalid international domain name"
  | .hostCharacter => "invalid domain character"

inductive Host
  | empty
  | domain (name : List Char)
  | ipv4 (address : Nat)
  | ipv6 (pieces : List Nat)
  deriving DecidableEq

namespace Host

def radix (s : List Char) : Nat × List Char :=
  match s with
  | '0' :: 'x' :: r | '0' :: 'X' :: r => (16, r)
  | '0' :: c :: r => (8, c :: r)
  | r => (10, r)

def digits? (base : Nat) (s : List Char) : Option (List Nat) :=
  s.mapM fun c =>
    match hexValue? c with
    | some d => if d < base then some d else none
    | none => none

/-- A part of an IPv4 address: decimal, octal after `0`, or hexadecimal after `0x`. -/
def ipv4Part? (s : List Char) : Option Nat :=
  if s.isEmpty then none
  else
    let (base, r) := radix s
    (digits? base r).map (·.foldl (fun n d => n * base + d) 0)

def dotted (s : List Char) : List (List Char) :=
  let parts := splitWhen (· == '.') s
  if parts.getLast? = some [] ∧ 1 < parts.length then parts.dropLast else parts

def endsInNumber (s : List Char) : Bool :=
  match (dotted s).getLast? with
  | some last => (!last.isEmpty && last.all isDigit) || (ipv4Part? last).isSome
  | none => false

def ipv4? (s : List Char) : Option Nat := do
  let parts := dotted s
  if 4 < parts.length then none
  else
    let ns ← parts.mapM ipv4Part?
    let last ← ns.getLast?
    let front := ns.dropLast
    if front.all (· < 256) ∧ last < Nat.pow 256 (4 - front.length) then
      some (front.foldl (fun n b => n * 256 + b) 0 * Nat.pow 256 (4 - front.length) + last)
    else none

def ipv4Text (n : Nat) : List Char :=
  List.intercalate ['.'] ([n / 16777216, n / 65536 % 256, n / 256 % 256, n % 256].map decimal)

def hexRun : Nat → List Char → List Char × List Char
  | 0, r => ([], r)
  | _ + 1, [] => ([], [])
  | n + 1, c :: r =>
    if (hexValue? c).isSome then
      let (ds, rest) := hexRun n r
      (c :: ds, rest)
    else ([], c :: r)

def byte? (s : List Char) : Option Nat :=
  if s.isEmpty ∨ ¬ s.all isDigit ∨ (s.length ≠ 1 ∧ s.head? = some '0') then none
  else if ofDecimal s < 256 then some (ofDecimal s)
  else none

def embedded? (s : List Char) : Option (List Nat) := do
  match ← (splitWhen (· == '.') s).mapM byte? with
  | [a, b, c, d] => some [a * 256 + b, c * 256 + d]
  | _ => none

/-- Pieces read so far, and how many of them stand before the gap, whose first zero is one of
them. -/
structure Pieces where
  pieces : List Nat
  gap : Option Nat

def Pieces.add (p : Pieces) (ns : List Nat) : Pieces := { p with pieces := p.pieces ++ ns }

def Pieces.finish? (p : Pieces) : Option (List Nat) :=
  match p.gap with
  | none => if p.pieces.length = 8 then some p.pieces else none
  | some n =>
    some (p.pieces.take n ++ List.replicate (8 - p.pieces.length) 0 ++ p.pieces.drop n)

theorem length_hexRun (n : Nat) (s : List Char) :
    (hexRun n s).1.length + (hexRun n s).2.length = s.length := by
  fun_induction hexRun n s <;> simp_all
  omega

def readPieces? (p : Pieces) (s : List Char) : Option Pieces :=
  match s with
  | [] => some p
  | c :: r =>
    if 8 ≤ p.pieces.length then none
    else if c = ':' then
      match p.gap with
      | some _ => none
      | none => readPieces? ⟨p.pieces ++ [0], some (p.pieces.length + 1)⟩ r
    else
      match _h : hexRun 4 (c :: r) with
      | ([], _) => none
      | (ds, []) => some (p.add [ofHexadecimal ds])
      | (_, '.' :: _) =>
        if 6 < p.pieces.length then none else (embedded? (c :: r)).map p.add
      | (_ :: _, [':']) => none
      | (d :: ds, ':' :: rest) => readPieces? (p.add [ofHexadecimal (d :: ds)]) rest
      | _ => none
termination_by s.length
decreasing_by
  · exact Nat.lt_succ_self _
  · have := length_hexRun 4 (c :: r)
    rw [_h] at this
    change (d :: ds).length + (rest.length + 1) = r.length + 1 at this
    change rest.length < r.length + 1
    omega

def ipv6? (s : List Char) : Option (List Nat) :=
  match s with
  | ':' :: ':' :: r => (readPieces? ⟨[0], some 1⟩ r).bind Pieces.finish?
  | ':' :: _ => none
  | [] | [_] => none
  | r => (readPieces? ⟨[], none⟩ r).bind Pieces.finish?

def zeroRun (ps : List Nat) : Nat := (ps.takeWhile (· == 0)).length

def longestRun (at_ : Nat) : List Nat → Nat × Nat
  | [] => (at_, 0)
  | p :: ps =>
    let here := zeroRun (p :: ps)
    let later := longestRun (at_ + 1) ps
    if later.2 ≤ here then (at_, here) else later

def colons (ps : List Nat) : List Char := List.intercalate [':'] (ps.map hexadecimal)

def ipv6Text (ps : List Nat) : List Char :=
  let (start, length) := longestRun 0 ps
  if length < 2 then colons ps
  else colons (ps.take start) ++ [':', ':'] ++ colons (ps.drop (start + length))

def text : Host → List Char
  | .empty => []
  | .domain name => name
  | .ipv4 n => ipv4Text n
  | .ipv6 ps => '[' :: (ipv6Text ps ++ [']'])

def bracketed? (s : List Char) : Option (Except AddressError Host) :=
  match s with
  | '[' :: r =>
    if r.getLast? = some ']' then
      match ipv6? r.dropLast with
      | some ps => some (.ok (.ipv6 ps))
      | none => some (.error .ipv6)
    else some (.error .ipv6)
  | _ => none

def parse (s : List Char) : Except AddressError Host :=
  match bracketed? s with
  | some r => r
  | none =>
    match Domain.toAscii? (percentDecode s) with
    | none => .error .domain
    | some [] => .error .emptyHost
    | some name =>
      if endsInNumber name then
        match ipv4? name with
        | some n => .ok (.ipv4 n)
        | none => .error .ipv4
      else .ok (.domain name)

def opaqueForbidden : List Char :=
  ['\x00', '\t', '\n', '\r', ' ', '#', '/', ':', '<', '>', '?', '@', '[', '\\', ']', '^', '|']

def parseOpaque (s : List Char) : Except AddressError Host :=
  match bracketed? s with
  | some r => r
  | none =>
    if s.isEmpty then .ok .empty
    else if s.any opaqueForbidden.contains then .error .hostCharacter
    else .ok (.domain (percentEncode controlSet s))

end Host
end DownloadClient.Web
