import FilterQuery.Text.Hexadecimal
import FilterQuery.Text.Printable

/-!
# Quoted text

A text as messages quote it: between single quotes, or between double quotes when it holds a
single quote and no double one. A backslash and the quote in use are escaped, and so is every
character that is not printable.
-/

set_option autoImplicit false

namespace FilterQuery.Text

def quoteOf (text : List Char) : Char :=
  if text.contains '\'' && !text.contains '"' then '"' else '\''

def quotedChar (quote c : Char) : List Char :=
  if c == quote || c == '\\' then ['\\', c]
  else if c == '\t' then ['\\', 't']
  else if c == '\n' then ['\\', 'n']
  else if c == '\r' then ['\\', 'r']
  else if isPrintable c then [c]
  else if c.toNat < 0x100 then '\\' :: 'x' :: hexDigits 2 c.toNat
  else if c.toNat < 0x10000 then '\\' :: 'u' :: hexDigits 4 c.toNat
  else '\\' :: 'U' :: hexDigits 8 c.toNat

def quoted (text : String) : String :=
  let quote := quoteOf text.toList
  String.ofList (quote :: text.toList.flatMap (quotedChar quote) ++ [quote])

end FilterQuery.Text
