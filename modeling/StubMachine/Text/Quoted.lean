import StubMachine.Text.Printable

/-!
# Quoted text

The form in which listings and descriptions show a text: between double quotes, with
the quote, the backslash, tab, line feed, carriage return and NUL escaped by a
backslash, and every character that is not visible on its own written as its code
point in hexadecimal.
-/

namespace StubMachine.Text

/-- The escape of a character by its code point. -/
def codeEscape (c : Char) : List Char :=
  ['\\', 'u', '\x7b'] ++ Nat.toDigits 16 c.toNat ++ ['\x7d']

/-- The characters that stand for one character between the quotes. -/
def quoteChar (c : Char) : List Char :=
  if c = '\x00' then ['\\', '0']
  else if c = '\t' then ['\\', 't']
  else if c = '\r' then ['\\', 'r']
  else if c = '\n' then ['\\', 'n']
  else if c = '"' then ['\\', '"']
  else if c = '\\' then ['\\', '\\']
  else if isExtend c || !isVisible c then codeEscape c
  else [c]

/-- A text between quotes, with escapes. -/
def quote (s : String) : String :=
  String.ofList ('"' :: s.toList.flatMap quoteChar ++ ['"'])

end StubMachine.Text
