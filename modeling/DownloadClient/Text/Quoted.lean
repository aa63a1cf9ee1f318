import DownloadClient.Text.Digits
import DownloadClient.Text.Unprintable

/-! A text between double quotes, as messages show it: quotes, backslashes and characters without
a mark of their own are escaped. -/

namespace DownloadClient.Text

def quotedChar (c : Char) : List Char :=
  match c with
  | '"' => ['\\', '"']
  | '\\' => ['\\', '\\']
  | '\n' => ['\\', 'n']
  | '\r' => ['\\', 'r']
  | '\t' => ['\\', 't']
  | '\x00' => ['\\', '0']
  | c =>
    if isUnprintable c then ['\\', 'u', '{'] ++ hexadecimal c.toNat ++ ['}']
    else [c]

def quoted (s : String) : String :=
  String.ofList ('"' :: (s.toList.flatMap quotedChar ++ ['"']))

end DownloadClient.Text
