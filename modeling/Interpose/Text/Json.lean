/-
Module: Interpose.Text.Json
Purpose: Reading JSON text, as far as settings need it.
Main exports: Json, Json.parse?
-/

namespace Interpose

/-- A JSON value.  Numbers are checked but not kept.  A string is absent when
an escape in it stands for no character; an object keeps its members in order,
repeated names included. -/
inductive Json where
  | null
  | bool (b : Bool)
  | number
  | string (decoded : Option String)
  | array (items : List Json)
  | object (members : List (Option String × Json))
deriving Inhabited

namespace Json

private def skipBlank (input : List Char) : List Char :=
  input.dropWhile fun c => c == ' ' || c == '\n' || c == '\t' || c == '\r'

def digits : List Char → Option (List Char)
  | c :: rest => if c.isDigit then some (rest.dropWhile Char.isDigit) else none
  | [] => none

/-- The rest after the part of a number before the point: no leading zeros. -/
private def wholePart : List Char → Option (List Char)
  | '0' :: rest => some rest
  | input => digits input

private def fractionPart : List Char → Option (List Char)
  | '.' :: rest => digits rest
  | input => some input

/-- The rest after an exponent, if there is one. -/
private def exponentPart : List Char → Option (List Char)
  | c :: rest =>
      if c == 'e' || c == 'E' then
        match rest with
        | '+' :: rest => digits rest
        | '-' :: rest => digits rest
        | rest => digits rest
      else some (c :: rest)
  | [] => some []

private def readNumber : List Char → Option (List Char)
  | '-' :: rest => ((wholePart rest).bind fractionPart).bind exponentPart
  | input => ((wholePart input).bind fractionPart).bind exponentPart

def hexDigit? (c : Char) : Option Nat :=
  let n := c.toNat
  if 48 ≤ n ∧ n ≤ 57 then some (n - 48)
  else if 97 ≤ n ∧ n ≤ 102 then some (n - 87)
  else if 65 ≤ n ∧ n ≤ 70 then some (n - 55)
  else none

/-- The number written by four hexadecimal digits, and the rest. -/
private def fourHex : List Char → Option (Nat × List Char)
  | a :: b :: c :: d :: rest => do
      let a ← hexDigit? a
      let b ← hexDigit? b
      let c ← hexDigit? c
      let d ← hexDigit? d
      return (((a * 16 + b) * 16 + c) * 16 + d, rest)
  | _ => none

/-- The character for the letter after a backslash. -/
private def letterEscape? (c : Char) : Option Char :=
  match c with
  | '"' => some '"'
  | '\\' => some '\\'
  | '/' => some '/'
  | 'b' => some (Char.ofNat 8)
  | 'f' => some (Char.ofNat 12)
  | 'n' => some '\n'
  | 'r' => some '\r'
  | 't' => some '\t'
  | _ => none

/-- The character of a numeric escape, absent for half a surrogate pair, and
the rest after the escape or the pair. -/
private def numericEscape (input : List Char) : Option (Option Char × List Char) := do
  let (first, rest) ← fourHex input
  if first < 0xD800 ∨ 0xE000 ≤ first then return (some (Char.ofNat first), rest)
  match rest with
  | '\\' :: 'u' :: more =>
      match fourHex more with
      | some (second, after) =>
          if first < 0xDC00 ∧ 0xDC00 ≤ second ∧ second < 0xE000 then
            return (some (Char.ofNat (0x10000 + (first - 0xD800) * 0x400 + (second - 0xDC00))),
              after)
          else return (none, rest)
      | none => return (none, rest)
  | _ => return (none, rest)

/-- The characters up to the closing quote, last one first, and the rest.
Control characters must be escaped. -/
private def stringBody :
    Nat → List Char → Option (List Char) → Option (Option (List Char) × List Char)
  | 0, _, _ => none
  | steps + 1, input, read =>
      match input with
      | [] => none
      | '"' :: rest => some (read, rest)
      | '\\' :: 'u' :: rest =>
          match numericEscape rest with
          | none => none
          | some (c, rest) => stringBody steps rest (read.bind fun cs => c.map (· :: cs))
      | '\\' :: c :: rest =>
          match letterEscape? c with
          | none => none
          | some c => stringBody steps rest (read.map (c :: ·))
      | c :: rest =>
          if c.toNat < 0x20 || c == '\\' then none else stringBody steps rest (read.map (c :: ·))

/-- A string after its opening quote. -/
private def readString (input : List Char) : Option (Option String × List Char) :=
  (stringBody (input.length + 1) input (some [])).map fun (read, rest) =>
    (read.map fun cs => String.ofList cs.reverse, rest)

mutual

/-- A value with at most `depth` values nested in it. -/
private def readValue : (depth : Nat) → List Char → Option (Json × List Char)
  | 0, _ => none
  | depth + 1, input =>
      match skipBlank input with
      | 'n' :: 'u' :: 'l' :: 'l' :: rest => some (null, rest)
      | 't' :: 'r' :: 'u' :: 'e' :: rest => some (bool true, rest)
      | 'f' :: 'a' :: 'l' :: 's' :: 'e' :: rest => some (bool false, rest)
      | '"' :: rest => (readString rest).map fun (decoded, rest) => (.string decoded, rest)
      | '[' :: rest =>
          match skipBlank rest with
          | ']' :: rest => some (array [], rest)
          | rest => (readItems depth rest).map fun (items, rest) => (array items, rest)
      | '\x7b' :: rest =>
          match skipBlank rest with
          | '\x7d' :: rest => some (object [], rest)
          | rest => (readMembers depth rest).map fun (members, rest) => (object members, rest)
      | rest => (readNumber rest).map fun rest => (.number, rest)

/-- Array items up to the closing bracket. -/
private def readItems : (depth : Nat) → List Char → Option (List Json × List Char)
  | 0, _ => none
  | depth + 1, input => do
      let (item, rest) ← readValue depth input
      match skipBlank rest with
      | ',' :: rest =>
          let (more, rest) ← readItems depth rest
          return (item :: more, rest)
      | ']' :: rest => return ([item], rest)
      | _ => none

/-- Object members up to the closing brace. -/
private def readMembers : (depth : Nat) → List Char → Option
    (List (Option String × Json) × List Char)
  | 0, _ => none
  | depth + 1, input => do
      let ('"' :: rest) := skipBlank input | none
      let (name, rest) ← readString rest
      let (':' :: rest) := skipBlank rest | none
      let (item, rest) ← readValue depth rest
      match skipBlank rest with
      | ',' :: rest =>
          let (more, rest) ← readMembers depth rest
          return ((name, item) :: more, rest)
      | '\x7d' :: rest => return ([(name, item)], rest)
      | _ => none

end

/-- The value that a whole text stands for. -/
def parse? (text : String) : Option Json :=
  let input := text.toList
  match readValue (2 * input.length + 2) input with
  | some (json, rest) => if (skipBlank rest).isEmpty then some json else none
  | none => none

end Json

end Interpose
