import Criteria.Template
import Criteria.Template.Number
import Criteria.Template.Referent

/-!
# Filling templates

Filling a template: each field is replaced by the text that it counts to, and what is put in is
not read as a template again.
-/

namespace Criteria.Template

open Text (CodePoint)

/-- How the fields of a template count: by numbers they give, or one after the other. -/
inductive Numbering where
  | undecided
  | manual
  | automatic (next : Nat)
deriving DecidableEq

namespace Numbering

/-- Takes the text that a field counts to; `none` stands for a field without a number. -/
def advance : Numbering → Option Nat → Except Fault (Nat × Numbering)
  | .undecided, some n => .ok (n, .manual)
  | .manual, some n => .ok (n, .manual)
  | .automatic _, some _ => .error .automaticToManual
  | .undecided, none => .ok (0, .automatic 1)
  | .automatic next, none => .ok (next, .automatic (next + 1))
  | .manual, none => .error .manualToAutomatic

end Numbering

/-- The number that a whole text spells, `none` if it spells none. -/
def count? (s : List Char) : Except Fault (Option Nat) := do
  if s.isEmpty then return none
  let (n, rest) ← takeCountFrom 0 (CodePoint.ofChars s)
  return if rest.isEmpty then some n else none

/-- What stands at a position. -/
def itemAt (items : List Referent) : Option Nat → Except Fault Referent
  | none => .error .indexNotNumber
  | some i =>
    match items[i]? with
    | some item => .ok item
    | none => .error .indexOutOfRange

/-- The step that brackets in a name stand for: to the character of a text or to an element of a
list, at a position, to the member of a kind, or to a kind that holds what the brackets name. No
member's name is a number. -/
def access (bracket : List Char) (value : Referent) : Except Fault Referent := do
  let index ← count? bracket
  if bracket.isEmpty then throw .emptyAttribute
  let name := String.ofList bracket
  match value with
  | .text s => itemAt (s.map fun c => .text [c]) index
  | .kinds ks => itemAt (ks.map .kind) index
  | .single x => itemAt [x] index
  | .emptyTable => throw (.unknownMember name)
  | .members k =>
    match k.ownMember? name with
    | some m => return .listed k m
    | none => throw (.unknownMember name)
  | .kind k =>
    if k.isFillable then return .filled k ((index.map .number).getD (.text bracket))
    else throw .notIndexable
  | _ => throw .notIndexable

/-- The step that a point in a name stands for. -/
def accessName (name : List Char) (value : Referent) : Except Fault Referent :=
  if name.isEmpty then .error .emptyAttribute
  else
    match value.attribute? (String.ofList name) with
    | some next => .ok next
    | none => .error (.unknownAttribute (String.ofList name))

/-- Follows the steps behind the first part of a name. The number counts characters that are
already used. -/
def follow : Nat → List Char → Referent → Except Fault Referent
  | _, [], value => .ok value
  | skip + 1, _ :: s, value => follow skip s value
  | 0, '.' :: s, value => do
    let name := s.takeWhile fun c => c ≠ '.' ∧ c ≠ '['
    follow name.length s (← accessName name value)
  | 0, '[' :: s, value => do
    let bracket := s.takeWhile (· ≠ ']')
    if bracket.length = s.length then throw .missingBracket
    follow (bracket.length + 1) s (← access bracket value)
  | 0, _ :: _, _ => .error .misplacedAfterBracket

/-- What a field's name stands for. -/
def lookUp (args : List (List Char)) (name : List Char) (numbering : Numbering) :
    Except Fault (Referent × Numbering) := do
  let isFirst := fun (c : Char) => c ≠ '.' ∧ c ≠ '['
  let first := name.takeWhile isFirst
  let number ← count? first
  if number.isNone && !first.isEmpty then throw (.unknownName (String.ofList first))
  let (n, numbering) ← numbering.advance number
  match args[n]? with
  | none => throw .slotOutOfRange
  | some value => return (← follow 0 (name.dropWhile isFirst) (.text value), numbering)

/-- The form that a conversion asks for: the text, the text quoted, or quoted in ASCII. The null
character asks for nothing. -/
def convert (conversion : Option Char) (value : Referent) : Except Fault Referent :=
  match conversion with
  | none => .ok value
  | some c =>
    if c = '\x00' then .ok value
    else if c = 's' then .ok (.text value.chars)
    else if c = 'r' then .ok (.ofString (value.quotedText Text.quoted))
    else if c = 'a' then .ok (.ofString (value.quotedText Text.quotedAscii))
    else .error (.unknownConversion c)

/-- Sets what a name stands for. Without a specification everything has a text. -/
def setReferent (spec : List CodePoint) : Referent → Except Fault (List CodePoint)
  | .text s => setText spec s
  | .number n => setNumber Kind.number.name spec n
  | .truth b =>
    if spec.isEmpty then .ok (CodePoint.ofChars (Referent.truth b).chars)
    else setNumber Kind.truth.name spec b.toNat
  | value =>
    if spec.isEmpty then .ok (CodePoint.ofChars value.chars) else .error .specNotAllowed

/-- A specification with fields of its own is filled by `inner` before it is used. -/
def fillField (args : List (List Char))
    (inner : List Char → Numbering → Except Fault (List CodePoint × Numbering))
    (f : Field) (numbering : Numbering) : Except Fault (List CodePoint × Numbering) := do
  let (value, numbering) ← lookUp args f.name numbering
  let value ← convert f.conversion value
  let (spec, numbering) ←
    if f.spec.contains '{' then inner f.spec numbering
    else pure (CodePoint.ofChars f.spec, numbering)
  return (← setReferent spec value, numbering)

/-- Fills the pieces in their order, up to the first fault. -/
def fillPieces (fill : Field → Numbering → Except Fault (List CodePoint × Numbering)) :
    List Piece → Option Fault → Numbering → Except Fault (List CodePoint × Numbering)
  | [], none, numbering => .ok ([], numbering)
  | [], some fault, _ => .error fault
  | .char c :: rest, fault, numbering => do
    let (s, numbering) ← fillPieces fill rest fault numbering
    return (.char c :: s, numbering)
  | .field f :: rest, fault, numbering => do
    let (value, numbering) ← fill f numbering
    let (s, numbering) ← fillPieces fill rest fault numbering
    return (value ++ s, numbering)

/-- Fills a template in which specifications are nested up to a given depth. -/
def fillNested (args : List (List Char)) :
    Nat → List Char → Numbering → Except Fault (List CodePoint × Numbering)
  | 0, _, _ => .error .nestedTooDeep
  | depth + 1, template, numbering =>
    let parsed := parse template
    fillPieces (fillField args (fillNested args depth)) parsed.pieces parsed.fault numbering

/-- Fills a template. A specification may have fields, but not with specifications that have
fields. A surrogate that is put in becomes the replacement character. -/
def fill (template : String) (args : List String) : Except Fault String := do
  let (s, _) ← fillNested (args.map String.toList) 2 template.toList .undecided
  return String.ofList (CodePoint.toChars s)

example : (fill "\x7b0\x7d = \x7b1\x7d" ["a", "\x7b0\x7d"]).toOption = some "a = \x7b0\x7d" := by
  decide +kernel
example : (fill "\x7b0:*^\x7b1\x7d.2\x7d" ["abc", "5"]).toOption = some "*ab**" := by decide +kernel
example : (fill "\x7b\x7d\x7b!r\x7d" ["a", "b"]).toOption = some "a'b'" := by decide +kernel
example : (fill "\x7b0[1]\x7d" ["ab"]).toOption = some "b" := by decide +kernel
example : (fill "\x7b0.__class__.__name__[0]\x7d" ["ab"]).toOption = some "s" := by decide +kernel

end Criteria.Template
