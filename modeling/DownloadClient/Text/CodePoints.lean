import DownloadClient.Text.Digits
import DownloadClient.Text.Split

/-! Tables of code points, kept as text. A row is hexadecimal numbers with points between them, and
blanks stand between the rows of a line. -/

namespace DownloadClient.Text

def row (s : List Char) : List Nat := (splitWhen (· == '.') s).map ofHexadecimal

def rows (lines : List String) : List (List Nat) :=
  lines.flatMap fun line => (splitWhen (· == ' ') line.toList).map row

def ranges (lines : List String) : List (Nat × Nat) :=
  (rows lines).filterMap fun
    | [a] => some (a, a)
    | [a, b] => some (a, b)
    | _ => none

def within (rs : List (Nat × Nat)) (c : Char) : Bool :=
  rs.any fun (lo, hi) => decide (lo ≤ c.toNat) && decide (c.toNat ≤ hi)

end DownloadClient.Text
