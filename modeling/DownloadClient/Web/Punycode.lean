import DownloadClient.Text.Digits
import DownloadClient.Text.Split

/-! Texts of any characters written with ASCII characters alone. The ASCII characters of a text come
first, and a hyphen behind them. Then comes a number for each other character, in the order of code
points: how many pairs of a code point and a place lie between it and the one before.

A number is written in base 36 from its lowest digit on. Each place has a threshold, and a digit
below it is the last one. -/

namespace DownloadClient.Web.Punycode

open DownloadClient.Text

def isAscii (c : Char) : Bool := decide (c.toNat < 128)

def digit (d : Nat) : Char :=
  if d < 26 then Char.ofNat ('a'.toNat + d) else Char.ofNat ('0'.toNat + d - 26)

def digit? (c : Char) : Option Nat :=
  if 'a' ≤ c ∧ c ≤ 'z' then some (c.toNat - 'a'.toNat)
  else if '0' ≤ c ∧ c ≤ '9' then some (c.toNat - '0'.toNat + 26)
  else none

def threshold (place bias : Nat) : Nat := max 1 (min 26 (place - bias))

theorem threshold_mem (place bias : Nat) :
    1 ≤ threshold place bias ∧ threshold place bias ≤ 26 := by
  unfold threshold
  omega

def biasOf (delta place : Nat) : Nat :=
  if 455 < delta then biasOf (delta / 35) (place + 36) else place + 36 * delta / (delta + 38)
termination_by delta
decreasing_by omega

/-- The bias behind a number, from the characters that the text has by then. -/
def adapt (delta count : Nat) (first : Bool) : Nat :=
  let delta := if first then delta / 700 else delta / 2
  biasOf (delta + delta / count) 0

def number (bias place n : Nat) : List Char :=
  let t := threshold place bias
  if n < t then [digit n]
  else digit (t + (n - t) % (36 - t)) :: number bias (place + 36) ((n - t) / (36 - t))
termination_by n
decreasing_by
  have := threshold_mem place bias
  exact Nat.lt_of_le_of_lt (Nat.div_le_self _ _) (by omega)

structure Writing where
  text : List Char
  delta : Nat
  bias : Nat
  count : Nat

def Writing.pass (ascii point : Nat) (w : Writing) (c : Char) : Writing :=
  if c.toNat < point then { w with delta := w.delta + 1 }
  else if c.toNat = point then
    ⟨w.text ++ number w.bias 36 w.delta, 0, adapt w.delta (w.count + 1) (w.count == ascii),
      w.count + 1⟩
  else w

def Writing.run (s : List Char) (ascii : Nat) (w : Writing) (start : Nat) : List Nat → List Char
  | [] => w.text
  | point :: points =>
    let w := { w with delta := w.delta + (point - start) * (w.count + 1) }
    let w := s.foldl (pass ascii point) w
    run s ascii { w with delta := w.delta + 1 } (point + 1) points

def points (s : List Char) : List Nat :=
  ((s.filter (! isAscii ·)).map Char.toNat).eraseDups.mergeSort

def encode (s : List Char) : List Char :=
  let ascii := s.filter isAscii
  (if ascii.isEmpty then [] else ascii ++ ['-'])
    ++ Writing.run s ascii.length ⟨[], 0, 72, ascii.length⟩ 128 (points s)

def number? (bias place weight : Nat) : List Char → Option (Nat × List Char)
  | [] => none
  | c :: r => do
    let d ← digit? c
    let t := threshold place bias
    if d < t then some (d * weight, r)
    else
      let (n, rest) ← number? bias (place + 36) (weight * (36 - t)) r
      some (d * weight + n, rest)

theorem length_of_number? {bias place weight : Nat} {s : List Char} {r : Nat × List Char}
    (h : number? bias place weight s = some r) : r.2.length < s.length := by
  induction s generalizing place weight r with
  | nil => simp [number?] at h
  | cons c s ih =>
    simp only [number?, Option.bind_eq_bind, Option.bind_eq_some_iff] at h
    obtain ⟨d, _, h⟩ := h
    split at h
    · cases h
      simp
    · obtain ⟨q, hq, h⟩ := Option.bind_eq_some_iff.1 h
      cases h
      have := ih hq
      simp
      omega

def character? (n : Nat) : Option Char := if n.isValidChar then some (Char.ofNat n) else none

def insertAll? (text : List Char) (point place bias : Nat) (first : Bool) (s : List Char) :
    Option (List Char) :=
  if s.isEmpty then some text
  else
    match h : number? bias 36 1 s with
    | none => none
    | some (n, rest) =>
      let size := text.length + 1
      let point := point + (place + n) / size
      let place := (place + n) % size
      match character? point with
      | none => none
      | some c =>
        have := length_of_number? h
        insertAll? (text.take place ++ c :: text.drop place) point (place + 1)
          (adapt n size first) false rest
termination_by s.length

def decode? (s : List Char) : Option (List Char) :=
  match cutLast? '-' s with
  | none => insertAll? [] 128 0 72 true s
  | some (ascii, rest) =>
    if ascii.isEmpty ∨ ¬ ascii.all isAscii then none else insertAll? ascii 128 0 72 true rest

end DownloadClient.Web.Punycode
