import Criteria.Text.Hex
import Criteria.Text.Printable

/-!
# Quoted texts

Quoted forms of texts and byte sequences, as they stand in lists and in messages. The quote is
single unless the content has a single quote and no double one; the quote, the backslash and
what cannot be printed are escaped.
-/

namespace Criteria.Text

/-- An escape of a code point: two, four or eight hexadecimal digits. -/
def escapeCode (n : Nat) : List Char :=
  if n < 0x100 then '\\' :: 'x' :: hexDigits 2 n
  else if n < 0x10000 then '\\' :: 'u' :: hexDigits 4 n
  else '\\' :: 'U' :: hexDigits 8 n

def quoteFor (hasSingle hasDouble : Bool) : Char :=
  if hasSingle && !hasDouble then '"' else '\''

/-- One character of a quoted text, where `plain` says which characters stand as they are. -/
def escapeChar (plain : Char → Bool) (quote c : Char) : List Char :=
  if c = quote ∨ c = '\\' then ['\\', c]
  else if c = '\t' then ['\\', 't']
  else if c = '\n' then ['\\', 'n']
  else if c = '\r' then ['\\', 'r']
  else if plain c then [c]
  else escapeCode c.toNat

def quoteWith (plain : Char → Bool) (s : String) : String :=
  let quote := quoteFor (s.toList.contains '\'') (s.toList.contains '"')
  String.ofList (quote :: s.toList.flatMap (escapeChar plain quote) ++ [quote])

/-- The quoted form with printable characters as they are. -/
def quoted (s : String) : String := quoteWith isPrintable s

/-- The quoted form in ASCII alone. -/
def quotedAscii (s : String) : String :=
  quoteWith (fun c => 0x20 ≤ c.toNat && c.toNat < 0x7F) s

/-- The quoted form of bytes: the character of each code below 128, an escape for the others. -/
def quotedBytes (bytes : List UInt8) : String :=
  "b" ++ quotedAscii (String.ofList (bytes.map fun b => Char.ofNat b.toNat))

/-- The quoted form of bytes that may still be changed. The single quote is escaped in it even
where double quotes enclose it. -/
def quotedBuffer (bytes : List UInt8) : String :=
  let cs := bytes.map fun b => Char.ofNat b.toNat
  let quote := quoteFor (cs.contains '\'') (cs.contains '"')
  let plain := fun (c : Char) => decide (0x20 ≤ c.toNat ∧ c.toNat < 0x7F)
  let body := cs.flatMap fun c =>
    if c = '\'' ∨ c = '\\' then ['\\', c]
    else if c = '"' then [c]
    else escapeChar plain quote c
  "bytearray(b" ++ String.ofList (quote :: body ++ [quote]) ++ ")"

/-- A list of texts in brackets, each quoted. -/
def quotedList (items : List String) : String :=
  "[" ++ String.intercalate ", " (items.map quoted) ++ "]"

example : quoted "it's" = "\"it's\"" := by decide +kernel
example : quoted "it's \"q\"" = "'it\\'s \"q\"'" := by decide +kernel
example : quoted "\n\x00é\u200b😀" = "'\\n\\x00é\\u200b😀'" := by decide +kernel
example : quotedAscii "é\u20ac" = "'\\xe9\\u20ac'" := by decide +kernel
example : quotedBytes [0x27, 0x22, 0, 0xFF] = "b'\\'\"\\x00\\xff'" := by decide +kernel
example : quotedList ["a", "b"] = "['a', 'b']" := by decide +kernel

end Criteria.Text
