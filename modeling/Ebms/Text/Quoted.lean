import Ebms.Text.Printable

/-! # Quoted text

Error messages show values from outside in double quotes.  Quotes, backslashes
and three controls get a backslash; every other character that cannot be shown
as itself is written by its code in hexadecimal. -/

set_option autoImplicit false

namespace Ebms.Text

def quotedChar (c : Char) : List Char :=
  if c = '"' then ['\\', '"']
  else if c = '\\' then ['\\', '\\']
  else if c = '\n' then ['\\', 'n']
  else if c = '\r' then ['\\', 'r']
  else if c = '\t' then ['\\', 't']
  else if c.toNat = 0 then ['\\', '0']
  else if isShown c then [c]
  else ['\\', 'u', '\x7b'] ++ Nat.toDigits 16 c.toNat ++ ['\x7d']

def quoted (text : String) : String :=
  String.ofList ('"' :: (text.toList.flatMap quotedChar ++ ['"']))

end Ebms.Text
