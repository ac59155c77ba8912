/-!
# Code points

Code points: the codes of the characters, and the surrogates, which are the codes of none. A number
can name a surrogate, and what is read may hold one; a text has no place for it.
-/

namespace Criteria.Text

inductive CodePoint where
  | char (c : Char)
  /-- A code between 0xD800 and 0xDFFF. -/
  | surrogate (code : Nat)
deriving DecidableEq

namespace CodePoint

instance : Coe Char CodePoint := ⟨.char⟩

/-- The code point of a number below 0x110000. -/
def ofNat (n : Nat) : CodePoint := if n.isValidChar then .char (Char.ofNat n) else .surrogate n

def toNat : CodePoint → Nat
  | .char c => c.toNat
  | .surrogate code => code

/-- The character itself. The replacement character stands for every surrogate. -/
def toChar : CodePoint → Char
  | .char c => c
  | .surrogate _ => '\ufffd'

def ofChars (s : List Char) : List CodePoint := s.map .char

def toChars (s : List CodePoint) : List Char := s.map toChar

/-- Characters are kept as they are. -/
theorem toChars_ofChars (s : List Char) : toChars (ofChars s) = s := by
  simp [toChars, ofChars, Function.comp_def, toChar]

example : ofNat 0x41 = 'A' ∧ ofNat 0xD800 = .surrogate 0xD800 := by decide

end CodePoint
end Criteria.Text
