import Criteria.Text.CodePoint

/-!
# Faults of templates

What can be wrong with a template, or with the texts it is filled with.
-/

namespace Criteria.Template

open Text (CodePoint)

inductive Fault where
  /-- An opening brace at the end. -/
  | loneOpening
  | loneClosing
  | openingInName
  | unclosedField
  | missingConversion
  | noSpecAfterConversion
  | unclosedSpec
  | nestedTooDeep
  | manualToAutomatic
  | automaticToManual
  | tooManyDigits
  | missingBracket
  | misplacedAfterBracket
  | emptyAttribute
  | unknownConversion (c : Char)
  /-- A field counts further than there are texts. -/
  | slotOutOfRange
  | unknownName (name : String)
  | unknownAttribute (name : String)
  | indexOutOfRange
  | indexNotNumber
  /-- A bracket that names no member. -/
  | unknownMember (name : String)
  | notIndexable
  /-- A specification for something that is neither a text nor a number. -/
  | specNotAllowed
  | bothSeparators
  | missingPrecision
  /-- A specification that cannot be read, and the kind of what it is to set. -/
  | invalidSpec (spec kind : String)
  | separatorNotAllowed (separator : Char) (type : CodePoint)
  | unknownType (type : CodePoint) (kind : String)
  | spaceNotAllowed
  | signNotAllowed
  | negativeZeroNotAllowed
  | alternateNotAllowed
  | signAwareNotAllowed
  | precisionNotAllowed
  | negativeZeroNotForNumber
  | signNotForCharacter
  | alternateNotForCharacter
  /-- The number belongs to no character. -/
  | notCharacter
  | precisionTooBig
  /-- A width that no text can be filled up to. -/
  | noRoom
deriving DecidableEq

/-- A code point as it stands in a message, by its code if it is not a visible character below the
limit. -/
def codeText (limit : Nat) (c : CodePoint) : String :=
  if 32 < c.toNat ∧ c.toNat < limit then c.toChar.toString
  else "\\x" ++ String.ofList (Nat.toDigits 16 c.toNat)

namespace Fault

/-- The wording of the faults that lie in the template itself. -/
def message : Fault → String
  | loneOpening => "Single '\x7b' encountered in format string"
  | loneClosing => "Single '\x7d' encountered in format string"
  | openingInName => "unexpected '\x7b' in field name"
  | unclosedField => "expected '\x7d' before end of string"
  | missingConversion => "end of string while looking for conversion specifier"
  | noSpecAfterConversion => "expected ':' after conversion specifier"
  | unclosedSpec => "unmatched '\x7b' in format spec"
  | nestedTooDeep => "Max string recursion exceeded"
  | manualToAutomatic =>
    "cannot switch from manual field specification to automatic field numbering"
  | automaticToManual =>
    "cannot switch from automatic field numbering to manual field specification"
  | tooManyDigits => "Too many decimal digits in format string"
  | missingBracket => "Missing ']' in format string"
  | misplacedAfterBracket => "Only '.' or '[' may follow ']' in format field specifier"
  | emptyAttribute => "Empty attribute in format string"
  | unknownConversion c => "Unknown conversion specifier " ++ codeText 127 c
  | slotOutOfRange => "slot out of range"
  | unknownName name => "no text is named " ++ name
  | unknownAttribute name => "texts have no attribute " ++ name
  | indexOutOfRange => "index out of range"
  | indexNotNumber => "index is not a number"
  | unknownMember name => "no member is named " ++ name
  | notIndexable => "no index leads on from here"
  | specNotAllowed => "only texts and numbers can be set by a specification"
  | bothSeparators => "Cannot specify both ',' and '_'."
  | missingPrecision => "Format specifier missing precision"
  | invalidSpec spec kind =>
    "Invalid format specifier '" ++ spec ++ "' for object of type '" ++ kind ++ "'"
  | separatorNotAllowed separator type =>
    "Cannot specify '" ++ separator.toString ++ "' with '" ++ codeText 128 type ++ "'."
  | unknownType type kind =>
    "Unknown format code '" ++ codeText 128 type ++ "' for object of type '" ++ kind ++ "'"
  | spaceNotAllowed => "Space not allowed in string format specifier"
  | signNotAllowed => "Sign not allowed in string format specifier"
  | negativeZeroNotAllowed =>
    "Negative zero coercion (z) not allowed in string format specifier"
  | alternateNotAllowed => "Alternate form (#) not allowed in string format specifier"
  | signAwareNotAllowed => "'=' alignment not allowed in string format specifier"
  | precisionNotAllowed => "Precision not allowed in integer format specifier"
  | negativeZeroNotForNumber =>
    "Negative zero coercion (z) not allowed in integer format specifier"
  | signNotForCharacter => "Sign not allowed with integer format specifier 'c'"
  | alternateNotForCharacter =>
    "Alternate form (#) not allowed with integer format specifier 'c'"
  | notCharacter => "%c arg not in range(0x110000)"
  | precisionTooBig => "precision too big"
  | noRoom => "a text cannot be that long"

example : message (.unknownConversion 'x') = "Unknown conversion specifier x" := by decide
example : message (.unknownConversion 'é') = "Unknown conversion specifier \\xe9" := by decide
example : message (.unknownType (.surrogate 0xD800) "str") =
    "Unknown format code '\\xd800' for object of type 'str'" := by decide

end Fault
end Criteria.Template
