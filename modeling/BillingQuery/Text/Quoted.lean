import BillingQuery.Text.Printable

/-!
# Quoted text

The form in which a message shows a text: between double quotes, with a backslash before quotes and
backslashes, short escapes for tab, line feed, carriage return and NUL, and the code point in
braces for every other character that does not print.
-/

namespace BillingQuery.Text

/-- One character inside quotes. -/
def quoteChar (c : Char) : List Char :=
  if c = '"' then ['\\', '"']
  else if c = '\\' then ['\\', '\\']
  else if c = '\t' then ['\\', 't']
  else if c = '\n' then ['\\', 'n']
  else if c = '\r' then ['\\', 'r']
  else if c = '\x00' then ['\\', '0']
  else if isPrintable c then [c]
  else ['\\', 'u', '\x7b'] ++ Nat.toDigits 16 c.toNat ++ ['\x7d']

def quoted (s : String) : String :=
  String.ofList ('"' :: s.toList.flatMap quoteChar ++ ['"'])

end BillingQuery.Text
