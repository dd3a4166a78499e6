/-
Module: Interpose.Text.Quoted
Purpose: Characters and strings in quotes, with what cannot be printed written as escapes.
Main exports: Quoted.char, Quoted.string
-/
import Interpose.Text.Printable

namespace Interpose.Quoted

private def hexadecimal (n : Nat) : String := String.ofList (Nat.toDigits 16 n)

/-- One character inside quotes.  The quote in use and the backslash are
escaped, the common control characters have letters, and what is not printable
by itself is written as its number. -/
private def escape (quote c : Char) : String :=
  if c == Char.ofNat 0 then "\\0"
  else if c == '\t' then "\\t"
  else if c == '\r' then "\\r"
  else if c == '\n' then "\\n"
  else if c == quote || c == '\\' then String.ofList ['\\', c]
  else if Printable.isPrintable c && !Printable.isExtender c then String.singleton c
  else "\\u\x7b" ++ hexadecimal c.toNat ++ "\x7d"

def char (c : Char) : String := "'" ++ escape (Char.ofNat 39) c ++ "'"

def string (s : String) : String :=
  "\"" ++ String.join (s.toList.map (escape '"')) ++ "\""

end Interpose.Quoted
