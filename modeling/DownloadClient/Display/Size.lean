import DownloadClient.Number.Binary64

/-! Sizes and speeds in units of 1024: whole bytes below the first unit, and two decimal places in
the largest unit that the amount fills. -/

namespace DownloadClient.Display

open DownloadClient.Number DownloadClient.Text

inductive SizeUnit
  | kibi
  | mebi
  | gibi
  | tebi
  deriving DecidableEq, Repr

namespace SizeUnit

def name : SizeUnit → String
  | .kibi => "KiB"
  | .mebi => "MiB"
  | .gibi => "GiB"
  | .tebi => "TiB"

def bytes : SizeUnit → Nat
  | .kibi => 1024
  | .mebi => Nat.pow 1024 2
  | .gibi => Nat.pow 1024 3
  | .tebi => Nat.pow 1024 4

def of (n d : Nat) : SizeUnit :=
  if n < d * mebi.bytes then .kibi
  else if n < d * gibi.bytes then .mebi
  else if n < d * tebi.bytes then .gibi
  else .tebi

end SizeUnit

/-- What is shown of `n / d` bytes: hundredths of a unit, rounded to nearest. -/
structure Amount where
  hundredths : Nat
  sizeUnit : SizeUnit
  deriving DecidableEq, Repr

namespace Amount

def of (n d : Nat) : Amount :=
  let u := SizeUnit.of n d
  ⟨roundQuotient (n * 100) (d * u.bytes), u⟩

def text (a : Amount) : List Char := placed 2 a.hundredths ++ ' ' :: a.sizeUnit.name.toList

end Amount

/-- The precision to which a size is taken before it is scaled. -/
def sizeBits : Nat := 53

def formatBytes (n : UInt64) : String :=
  String.ofList
    (if n.toNat < 1024 then decimal n.toNat ++ " B".toList
    else (Amount.of (roundBits sizeBits n.toNat) 1).text)

def speedOf (x : Float) : Nat × Nat :=
  match FloatClass.of x with
  | .finite v => if v.negative then (0, 1) else v.fraction
  | _ => (0, 1)

def formatSpeed (x : Float) : String :=
  let (n, d) := speedOf x
  String.ofList
    (if n < d * 1024 then placed 0 (roundQuotient n d) ++ " B/s".toList
    else (Amount.of n d).text ++ "/s".toList)

end DownloadClient.Display
