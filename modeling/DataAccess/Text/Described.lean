import DataAccess.Text.Hex
import DataAccess.Text.Unprintable

/-!
Texts as diagnostics show them: in double quotes, with escapes for what is not seen.
-/

namespace DataAccess

namespace Text

def describedChar (c : Char) : List Char :=
  if c = '\x22' then ['\\', '\x22']
  else if c = '\\' then ['\\', '\\']
  else if c = '\n' then ['\\', 'n']
  else if c = '\r' then ['\\', 'r']
  else if c = '\t' then ['\\', 't']
  else if c.toNat = 0 then ['\\', '0']
  else if isUnprintable c then ['\\', 'u', '\x7b'] ++ Hex.digits c.toNat ++ ['\x7d']
  else [c]

def described (s : String) : String :=
  String.ofList ('\x22' :: s.toList.flatMap describedChar ++ ['\x22'])

end Text

end DataAccess
