import SyscallTrace.Text.Printable
import SyscallTrace.Text.GraphemeExtend

/-!
# Quoted strings

A string written between double quotes so that every character can be read back: the NUL,
tab, carriage return and line feed are written as backslash escapes, as are the backslash and
the double quote; a grapheme extender or a character that is not printable is written as
`\u{h}` with its code point in lowercase hexadecimal without leading zeros; everything else
stands as it is.

Main statements:
* `quote_eq`: the quoted text is the escapes of the characters between two quotes.
* `escapeChar_of_plain`: a printable, non-extending character other than the six escaped
  ones is written as itself.
-/

namespace SyscallTrace.Text

/-- The lowercase hexadecimal digits of `n`, without leading zeros. -/
def hexDigits (n : Nat) : List Char :=
  Nat.toDigits 16 n

/-- The escape `\u{h}` of a code point. -/
def unicodeEscape (c : Char) : List Char :=
  ['\\', 'u', '\x7b'] ++ hexDigits c.toNat ++ ['\x7d']

/-- How one character is written inside a quoted string. -/
def escapeChar (c : Char) : List Char :=
  if c = '\x00' then ['\\', '0']
  else if c = '\t' then ['\\', 't']
  else if c = '\r' then ['\\', 'r']
  else if c = '\n' then ['\\', 'n']
  else if c = '\\' then ['\\', '\\']
  else if c = '"' then ['\\', '"']
  else if isGraphemeExtend c || !isPrintable c then unicodeEscape c
  else [c]

/-- The characters of a quoted string, quotes included. -/
def quoteChars (cs : List Char) : List Char :=
  '"' :: cs.flatMap escapeChar ++ ['"']

/-- A string between double quotes, with its characters escaped by `escapeChar`. -/
def quote (s : String) : String :=
  String.ofList (quoteChars s.toList)

theorem quote_eq (s : String) :
    (quote s).toList = '"' :: s.toList.flatMap escapeChar ++ ['"'] := by
  simp [quote, quoteChars]

theorem escapeChar_of_plain {c : Char} (h0 : c ≠ '\x00') (ht : c ≠ '\t') (hr : c ≠ '\r')
    (hn : c ≠ '\n') (hb : c ≠ '\\') (hq : c ≠ '"') (hg : isGraphemeExtend c = false)
    (hp : isPrintable c = true) : escapeChar c = [c] := by
  simp [escapeChar, h0, ht, hr, hn, hb, hq, hg, hp]

end SyscallTrace.Text
