import Criteria.Template.Fault
import Criteria.Text.Digit

/-!
# Specifications in templates

Specifications of how a text or a number is set into a template: a fill character and an
alignment, a sign, a width, separators, a precision and a letter for the form. One grammar holds for
both, so that what has no meaning for a text is recognised and then refused. What is set is a list
of code points, as the character of a number may be a surrogate.
-/

namespace Criteria.Template

open Text (CodePoint)

/-- The greatest number that a template may count with. -/
def countLimit : Nat := Nat.pow 2 63 - 1

/-- Reads digits onto the number read so far. -/
def takeCountFrom (n : Nat) : List CodePoint → Except Fault (Nat × List CodePoint)
  | [] => .ok (n, [])
  | c :: s =>
    match Text.digitValue? c.toChar with
    | none => .ok (n, c :: s)
    | some d =>
      if countLimit < 10 * n + d then .error .tooManyDigits else takeCountFrom (10 * n + d) s

/-- Reads a number from the front of a text, if there is one. -/
def takeCount (s : List CodePoint) : Except Fault (Option Nat × List CodePoint) :=
  (takeCountFrom 0 s).map fun (n, rest) => (if rest.length = s.length then none else some n, rest)

structure Spec where
  fill : CodePoint
  align : Char
  sign : Option Char
  noNegativeZero : Bool
  alternate : Bool
  width : Option Nat
  separator : Option Char
  precision : Option Nat
  type : CodePoint
deriving DecidableEq

namespace Spec

def isAlign (c : Char) : Bool := c == '<' || c == '>' || c == '^' || c == '='

/-- A fill character if an alignment follows it, and the alignment. -/
def takeAlign : List CodePoint → Option CodePoint × Option Char × List CodePoint
  | [] => (none, none, [])
  | [c] => if isAlign c.toChar then (none, some c.toChar, []) else (none, none, [c])
  | c :: d :: s =>
    if isAlign d.toChar then (some c, some d.toChar, s)
    else if isAlign c.toChar then (none, some c.toChar, d :: s)
    else (none, none, c :: d :: s)

/-- One character of a class, if it is there. -/
def takeIf (p : Char → Bool) : List CodePoint → Option Char × List CodePoint
  | [] => (none, [])
  | c :: s => if p c.toChar then (some c.toChar, s) else (none, c :: s)

/-- A comma or an underscore, and not both. -/
def takeSeparator (s : List CodePoint) : Except Fault (Option Char × List CodePoint) := do
  let (comma, s) := takeIf (· == ',') s
  let (underscore, s) := takeIf (· == '_') s
  if underscore.isSome && (comma.isSome || s.head? == some (.char ',')) then throw .bothSeparators
  return (underscore.or comma, s)

def takePrecision (s : List CodePoint) : Except Fault (Option Nat × List CodePoint) :=
  match s with
  | .char '.' :: s => do
    let (precision, s) ← takeCount s
    if precision.isNone then throw .missingPrecision
    return (precision, s)
  | _ => .ok (none, s)

/-- The letters of the number formats that a separator can stand with. -/
def allowsSeparator (separator type : Char) : Bool :=
  type ∈ ['d', 'e', 'f', 'g', 'E', 'G', '%', 'F', '\x00'] ||
    separator == '_' && type ∈ ['b', 'o', 'x', 'X']

/-- What a specification is to set, and what it means where it leaves something open. -/
structure Setting where
  kind : String
  type : Char
  align : Char

/-- Reads a specification that is not empty. A zero in front of the width fills, and where things
stand on the right it goes behind the sign. -/
def read (setting : Setting) (spec : List CodePoint) : Except Fault Spec := do
  let (fill, align, s) := takeAlign spec
  let (sign, s) := takeIf (fun c => c == '+' || c == '-' || c == ' ') s
  let (z, s) := takeIf (· == 'z') s
  let (alternate, s) := takeIf (· == '#') s
  let (zero, s) := if fill.isSome then (none, s) else takeIf (· == '0') s
  let (width, s) ← takeCount s
  let (separator, s) ← takeSeparator s
  let (precision, s) ← takePrecision s
  if 1 < s.length then throw (.invalidSpec (String.ofList (CodePoint.toChars spec)) setting.kind)
  let type := s.headD setting.type
  if let some c := separator then
    if !allowsSeparator c type.toChar then throw (.separatorNotAllowed c type)
  return {
    fill := fill.getD (zero.getD ' ')
    align := align.getD (if zero.isSome && setting.align == '>' then '=' else setting.align)
    sign, noNegativeZero := z.isSome, alternate := alternate.isSome
    width, separator, precision, type }

def textSetting : Setting := ⟨"str", 's', '<'⟩

/-- Refuses what has no meaning for a text. -/
def check (spec : Spec) : Except Fault Unit := do
  if spec.type ≠ 's' then throw (.unknownType spec.type textSetting.kind)
  if spec.sign = some ' ' then throw .spaceNotAllowed
  if spec.sign.isSome then throw .signNotAllowed
  if spec.noNegativeZero then throw .negativeZeroNotAllowed
  if spec.alternate then throw .alternateNotAllowed
  if spec.align = '=' then throw .signAwareNotAllowed

/-- There is no fixed number of characters that a text can have. This many stand for running out of
memory. -/
def roomLimit : Nat := Nat.pow 2 30

/-- Refuses a count of characters that there is no room for. -/
def checkRoom (count : Option Nat) : Except Fault Unit :=
  if count.any (roomLimit < ·) then .error .noRoom else .ok ()

/-- Fills up to the width, around two parts or between them. -/
def place (spec : Spec) (front back : List CodePoint) : List CodePoint :=
  let missing := spec.width.getD 0 - (front.length + back.length)
  let filling := fun (n : Nat) => List.replicate n spec.fill
  if spec.align = '<' then front ++ back ++ filling missing
  else if spec.align = '^' then
    filling (missing / 2) ++ front ++ back ++ filling (missing - missing / 2)
  else if spec.align = '=' then front ++ filling missing ++ back
  else filling missing ++ front ++ back

end Spec

/-- A text as a specification sets it, cut off at the precision. An empty one leaves it as it is. -/
def setText (spec : List CodePoint) (s : List Char) : Except Fault (List CodePoint) :=
  if spec.isEmpty then .ok (CodePoint.ofChars s)
  else do
    let spec ← Spec.read Spec.textSetting spec
    spec.check
    Spec.checkRoom spec.width
    return spec.place [] (CodePoint.ofChars (spec.precision.elim s s.take))

end Criteria.Template
