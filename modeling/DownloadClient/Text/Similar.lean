/-! How alike two texts are: by the characters that they share, at about the same place and in the
same order. -/

namespace DownloadClient.Text

def markBetween (least most : Nat) (c : Char) :
    Nat → List (Char × Bool) → Option (List (Char × Bool))
  | _, [] => none
  | i, (d, marked) :: r =>
    if most < i then none
    else if least ≤ i ∧ c = d ∧ marked = false then some ((d, true) :: r)
    else (markBetween least most c (i + 1) r).map ((d, marked) :: ·)

/-- The characters of a text that are found in another, and the other with those marked that they
were found at. -/
def matching (range : Nat) : Nat → List Char → List (Char × Bool) → List Char × List (Char × Bool)
  | _, [], marks => ([], marks)
  | i, c :: r, marks =>
    match markBetween (i - range) (i + range) c 0 marks with
    | some marks =>
      let (found, marks) := matching range (i + 1) r marks
      (c :: found, marks)
    | none => matching range (i + 1) r marks

def similarity (a b : List Char) : Float :=
  let range := max a.length b.length / 2 - 1
  let (found, marks) := matching range 0 a (b.map (·, false))
  let others := (marks.filter (·.2)).map (·.1)
  let moved := ((found.zip others).filter fun (c, d) => c != d).length / 2
  let m := found.length
  if a.isEmpty ∧ b.isEmpty then 1
  else if m = 0 then 0
  else (m.toFloat / a.length.toFloat + m.toFloat / b.length.toFloat
    + (m - moved).toFloat / m.toFloat) / 3

def insertAlike (x : Float × String) : List (Float × String) → List (Float × String)
  | [] => [x]
  | y :: r => if x.1 < y.1 then y :: insertAlike x r else x :: y :: r

def similar (s : String) (candidates : List String) : List String :=
  let scored := candidates.map fun c => (similarity s.toList c.toList, c)
  ((scored.filter fun x => 0.7 < x.1).foldl (fun acc x => insertAlike x acc) []).map (·.2)

end DownloadClient.Text
