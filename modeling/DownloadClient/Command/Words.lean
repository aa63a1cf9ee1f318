import DownloadClient.Text.Blank

/-! A command line cut into words at its blanks. What stands between two quotes of one kind is kept
as it is, blanks included, and belongs to the word around it. -/

namespace DownloadClient.Command

open DownloadClient.Text

def isQuote (c : Char) : Bool := c == '"' || c == '\''

def wordsFrom : Option Char → Option (List Char) → List Char → Option (List (List Char))
  | some _, _, [] => none
  | none, w, [] => some (w.map List.reverse).toList
  | some q, w, c :: r =>
    if c = q then wordsFrom none w r else wordsFrom (some q) (some (c :: w.getD [])) r
  | none, w, c :: r =>
    if isQuote c then wordsFrom (some c) (some (w.getD [])) r
    else if isBlank c then
      (wordsFrom none none r).map fun ws => (w.map List.reverse).toList ++ ws
    else wordsFrom none (some (c :: w.getD [])) r

def words? (line : String) : Option (List String) :=
  (wordsFrom none none line.toList).map (·.map String.ofList)

end DownloadClient.Command
