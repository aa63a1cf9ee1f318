import DownloadClient.Json.Error
import DownloadClient.Text.Utf8

/-! The tokens of JSON. A string or number is read, or skipped where nobody asks for it; skipping
forgives what only matters for the value: stray bytes, lone surrogates, numbers out of range. -/

namespace DownloadClient.Json

open DownloadClient.Text

inductive Token
  | listOpen
  | listClose
  | objectOpen
  | objectClose
  | colon
  | comma
  | null
  | bool (b : Bool)
  | number (n : Except SyntaxError Numeral)
  | text (s : Except SyntaxError String)
  | brokenText (read skip : SyntaxError)
  | brokenWord (read skip : SyntaxError)
  | stray

inductive Piece
  | symbol (x : Symbol)
  | unit (n : Nat)
  deriving DecidableEq

inductive Ending
  | quote
  | cut
  | control
  | escape
  | hex
  deriving DecidableEq

def Ending.fault? : Ending → Option SyntaxError
  | .quote => none
  | .cut => some .cutString
  | .control => some .control
  | .escape | .hex => some .escape

structure Body where
  pieces : List Piece
  ending : Ending
  rest : List Symbol

def Body.push (p : Piece) (b : Body) : Body := { b with pieces := p :: b.pieces }

def simpleEscape? : Char → Option Char
  | '"' => some '"'
  | '\\' => some '\\'
  | '/' => some '/'
  | 'b' => some '\x08'
  | 'f' => some '\x0c'
  | 'n' => some '\n'
  | 'r' => some '\r'
  | 't' => some '\t'
  | _ => none

def hexUnit? (a b c d : Symbol) : Option Nat := do
  let w ← hexValue? (← a)
  let x ← hexValue? (← b)
  let y ← hexValue? (← c)
  let z ← hexValue? (← d)
  return ((w * 16 + x) * 16 + y) * 16 + z

def body : List Symbol → Body
  | [] => ⟨[], .cut, []⟩
  | some '"' :: r => ⟨[], .quote, r⟩
  | some '\\' :: some 'u' :: a :: b :: c :: d :: r =>
    match hexUnit? a b c d with
    | some n => (body r).push (.unit n)
    | none => ⟨[], .hex, []⟩
  | some '\\' :: some 'u' :: r =>
    ⟨[], if byteCount r < 4 then .cut else .hex, []⟩
  | some '\\' :: some c :: r =>
    match simpleEscape? c with
    | some x => (body r).push (.symbol (some x))
    | none => ⟨[], .escape, []⟩
  | some '\\' :: none :: _ => ⟨[], .escape, []⟩
  | [some '\\'] => ⟨[], .cut, []⟩
  | some c :: r => if c < ' ' then ⟨[], .control, []⟩ else (body r).push (.symbol (some c))
  | none :: r => (body r).push (.symbol none)

def isHighSurrogate (n : Nat) : Bool := decide (0xD800 ≤ n) && decide (n ≤ 0xDBFF)

def isLowSurrogate (n : Nat) : Bool := decide (0xDC00 ≤ n) && decide (n ≤ 0xDFFF)

def surrogatePair (high low : Nat) : Char :=
  Char.ofNat (0x10000 + (high - 0xD800) * 0x400 + (low - 0xDC00))

/-- The symbols of a body: a high surrogate needs a low one right behind it, and a low one does
not stand alone. -/
def join (ending : Ending) : List Piece → Except SyntaxError (List Symbol)
  | [] =>
    match ending.fault? with
    | none => .ok []
    | some e => .error e
  | .symbol x :: ps => (join ending ps).map (x :: ·)
  | .unit n :: ps =>
    if isLowSurrogate n then .error .surrogate
    else if isHighSurrogate n then
      match ps with
      | .unit m :: ps =>
        if isLowSurrogate m then (join ending ps).map (some (surrogatePair n m) :: ·)
        else .error .surrogate
      | .symbol _ :: _ => .error .hexEnd
      | [] =>
        match ending with
        | .cut => .error .cutString
        | .hex => .error .escape
        | _ => .error .hexEnd
    else (join ending ps).map (some (Char.ofNat n) :: ·)

def Body.read (b : Body) : Except SyntaxError String := do
  match chars? (← join b.ending b.pieces) with
  | some cs => .ok (String.ofList cs)
  | none => .error .codePoint

def Body.token (b : Body) : Token :=
  match b.ending.fault?, b.read with
  | none, r => .text r
  | some e, .error r => .brokenText r e
  | some e, .ok _ => .brokenText e e

structure Written where
  negative : Bool
  whole : List Char
  fraction : Option (List Char)
  exponent : Option (Bool × List Char)

def wordLimit : Nat := Nat.pow 2 64

/-- Digits taken into a 64-bit significand while they fit; the rest of them are only counted. -/
def significand (n : Nat) : List Char → Nat × Nat
  | [] => (n, 0)
  | c :: cs =>
    if n * 10 + digitValue c < wordLimit then significand (n * 10 + digitValue c) cs
    else (n, cs.length + 1)

def places (n taken : Nat) : List Char → Nat × Nat
  | [] => (n, taken)
  | c :: cs =>
    if n * 10 + digitValue c < wordLimit then places (n * 10 + digitValue c) (taken + 1) cs
    else (n, taken)

def powerOfTen (n : Nat) : Float := Float.ofScientific 1 false n

/-- A significand below `2 ^ 64` times a power of ten, each step rounded; `none` for infinity. Two
divisions by `10 ^ 308` leave nothing of it. -/
def scaled? (x : Float) (e : Int) : Option Float :=
  if 308 < e then if x == 0 then some x else none
  else if 0 ≤ e then
    let y := x * powerOfTen e.toNat
    if y.isInf then none else some y
  else if -308 ≤ e then some (x / powerOfTen (-e).toNat)
  else if x == 0 then some x
  else
    let y := x / powerOfTen 308
    let e := e + 308
    some (if -308 ≤ e then y / powerOfTen (-e).toNat else y / powerOfTen 308)

def exponentLimit : Nat := Nat.pow 2 31

def Written.real (w : Written) : Except SyntaxError Float := do
  let (n, dropped) := significand 0 w.whole
  let (n, taken) := places n 0 (w.fraction.getD [])
  let shift : Int := (dropped : Int) - taken
  let signed (x : Float) : Float := if w.negative then -x else x
  let finish (e : Int) : Except SyntaxError Float :=
    match scaled? (Float.ofNat n) e with
    | some x => .ok (signed x)
    | none => .error .range
  match w.exponent with
  | none => finish shift
  | some (negative, es) =>
    let e := ofDecimal es
    if exponentLimit ≤ e then
      if n ≠ 0 ∧ ¬ negative then .error .range else .ok (signed 0)
    else finish (if negative then shift - e else shift + e)

/-- An integer of 64 bits stays one; `-0`, and whatever has a point, an exponent or more digits,
is a double. -/
def Written.value (w : Written) : Except SyntaxError Numeral :=
  let n := ofDecimal w.whole
  match w.fraction, w.exponent with
  | none, none =>
    if ¬ w.negative ∧ n < wordLimit then .ok (.integer n)
    else if w.negative ∧ 0 < n ∧ n ≤ Nat.pow 2 63 then .ok (.integer (-n))
    else w.real.map .real
  | _, _ => w.real.map .real

def digits : List Symbol → List Char × List Symbol
  | some c :: r =>
    if isDigit c then
      let (ds, rest) := digits r
      (c :: ds, rest)
    else ([], some c :: r)
  | r => ([], r)

/-- A number whose next digit is not there: reading and skipping differ at the end of the text. -/
def brokenNumber : List Symbol → Token × List Symbol
  | [] => (.brokenWord .cutValue .number, [])
  | _ => (.brokenWord .number .number, [])

def exponentSign : List Symbol → Bool × List Symbol
  | some '+' :: r => (false, r)
  | some '-' :: r => (true, r)
  | r => (false, r)

def exponentToken (negative : Bool) (whole : List Char) (fraction : Option (List Char))
    (r : List Symbol) : Token × List Symbol :=
  match digits (exponentSign r).2 with
  | ([], rest) => brokenNumber rest
  | (ds, rest) =>
    (.number (Written.value ⟨negative, whole, fraction, some ((exponentSign r).1, ds)⟩), rest)

def fractionToken (negative : Bool) (whole : List Char) (fraction : Option (List Char)) :
    List Symbol → Token × List Symbol
  | some 'e' :: r => exponentToken negative whole fraction r
  | some 'E' :: r => exponentToken negative whole fraction r
  | r => (.number (Written.value ⟨negative, whole, fraction, none⟩), r)

def wholeToken (negative : Bool) (whole : List Char) : List Symbol → Token × List Symbol
  | some '.' :: r =>
    match digits r with
    | ([], r) => brokenNumber r
    | (ds, r) => fractionToken negative whole (some ds) r
  | r => fractionToken negative whole none r

def numberToken (negative : Bool) : List Char × List Symbol → Token × List Symbol
  | ([], r) => brokenNumber r
  | ('0' :: _ :: _, _) => (.brokenWord .number .number, [])
  | (ds, r) => wholeToken negative ds r

def wordToken (t : Token) : List Char → List Symbol → Token × List Symbol
  | [], r => (t, r)
  | _ :: _, [] => (.brokenWord .cutValue .cutValue, [])
  | c :: cs, x :: r => if x = some c then wordToken t cs r else (.brokenWord .ident .ident, [])

def next (x : Symbol) (r : List Symbol) : Option Token × List Symbol :=
  match x with
  | some ' ' | some '\t' | some '\n' | some '\r' => (none, r)
  | some '[' => (some .listOpen, r)
  | some ']' => (some .listClose, r)
  | some '{' => (some .objectOpen, r)
  | some '}' => (some .objectClose, r)
  | some ':' => (some .colon, r)
  | some ',' => (some .comma, r)
  | some '"' => (some (body r).token, (body r).rest)
  | some 'n' => (wordToken .null ['u', 'l', 'l'] r).map some id
  | some 't' => (wordToken (.bool true) ['r', 'u', 'e'] r).map some id
  | some 'f' => (wordToken (.bool false) ['a', 'l', 's', 'e'] r).map some id
  | some '-' => (numberToken true (digits r)).map some id
  | some c =>
    if isDigit c then (numberToken false ((digits r).map (c :: ·) id)).map some id
    else (some .stray, r)
  | none => (some .stray, r)

theorem length_body_rest (s : List Symbol) : (body s).rest.length ≤ s.length := by
  fun_induction body s <;> simp_all [Body.push] <;> omega

theorem length_digits_rest (s : List Symbol) : (digits s).2.length ≤ s.length := by
  fun_induction digits s <;> simp_all
  omega

theorem length_brokenNumber (s : List Symbol) : (brokenNumber s).2.length ≤ s.length := by
  cases s <;> simp [brokenNumber]

theorem length_exponentSign (s : List Symbol) : (exponentSign s).2.length ≤ s.length := by
  unfold exponentSign
  split <;> simp

theorem length_exponentToken (n : Bool) (w : List Char) (f : Option (List Char))
    (s : List Symbol) : (exponentToken n w f s).2.length ≤ s.length := by
  have hs := length_exponentSign s
  have hd := length_digits_rest (exponentSign s).2
  unfold exponentToken
  split
  · next r e =>
    rw [e] at hd
    exact Nat.le_trans (length_brokenNumber r) (Nat.le_trans hd hs)
  · next e =>
    rw [e] at hd
    exact Nat.le_trans hd hs

theorem length_fractionToken (n : Bool) (w : List Char) (f : Option (List Char))
    (s : List Symbol) : (fractionToken n w f s).2.length ≤ s.length := by
  unfold fractionToken
  split
  · next r => have := length_exponentToken n w f r; simp; omega
  · next r => have := length_exponentToken n w f r; simp; omega
  · simp

theorem length_wholeToken (n : Bool) (w : List Char) (s : List Symbol) :
    (wholeToken n w s).2.length ≤ s.length := by
  unfold wholeToken
  split
  · next r =>
    have hd := length_digits_rest r
    split
    · next r' e =>
      rw [e] at hd
      have := length_brokenNumber r'
      simp_all
      omega
    · next ds r' _ e =>
      rw [e] at hd
      have := length_fractionToken n w (some ds) r'
      simp_all
      omega
  · exact length_fractionToken _ _ _ _

theorem length_numberToken (n : Bool) (d : List Char × List Symbol) :
    (numberToken n d).2.length ≤ d.2.length := by
  unfold numberToken
  split
  · exact length_brokenNumber _
  · simp
  · exact length_wholeToken _ _ _

theorem length_wordToken (t : Token) (w : List Char) (s : List Symbol) :
    (wordToken t w s).2.length ≤ s.length := by
  fun_induction wordToken t w s <;> simp_all
  omega

theorem length_next (x : Symbol) (r : List Symbol) : (next x r).2.length ≤ r.length := by
  have number (n : Bool) (ds : List Char) :
      (numberToken n (ds, (digits r).2)).2.length ≤ r.length :=
    Nat.le_trans (length_numberToken n _) (length_digits_rest r)
  unfold next
  split <;> try simp [length_body_rest, length_wordToken]
  · exact number _ _
  · split
    · exact number _ _
    · simp

def tokens : List Symbol → List Token
  | [] => []
  | x :: r =>
    match _h : next x r with
    | (none, rest) => tokens rest
    | (some t, rest) => t :: tokens rest
termination_by s => s.length
decreasing_by
  all_goals
    have := length_next x r
    rw [_h] at this
    exact Nat.lt_succ_of_le this

end DownloadClient.Json
