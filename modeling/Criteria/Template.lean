import Criteria.Template.Fault

/-!
# Templates

Templates: texts with fields in braces. A brace that stands for itself is written twice. A field
has a name, perhaps a conversion after an exclamation mark, and perhaps a specification after a
colon, in which braces may be nested.
-/

namespace Criteria.Template

structure Field where
  name : List Char
  conversion : Option Char
  spec : List Char
deriving DecidableEq

inductive Piece where
  | char (c : Char)
  | field (f : Field)
deriving DecidableEq

/-- The pieces up to the end, or up to the first fault. -/
structure Pieces where
  pieces : List Piece
  fault : Option Fault
deriving DecidableEq

/-- Where reading stands in a template. What has been read of a name or a specification is kept
in reverse. -/
inductive Place where
  | text
  /-- After one opening brace. -/
  | opened
  /-- After one closing brace. -/
  | closed
  | name (name : List Char)
  /-- Inside a bracket of a name. -/
  | bracket (name : List Char)
  /-- After the exclamation mark. -/
  | conversion (name : List Char)
  | converted (name : List Char) (conversion : Char)
  /-- Inside a specification, where `depth` more braces are open. -/
  | spec (name : List Char) (conversion : Option Char) (depth : Nat) (spec : List Char)
deriving DecidableEq

namespace Place

def nameStep (read : List Char) (c : Char) : Except Fault (Place × Option Piece) :=
  if c = '{' then .error .openingInName
  else if c = '[' then .ok (.bracket (c :: read), none)
  else if c = '}' then .ok (.text, some (.field ⟨read.reverse, none, []⟩))
  else if c = '!' then .ok (.conversion read, none)
  else if c = ':' then .ok (.spec read none 0 [], none)
  else .ok (.name (c :: read), none)

def specStep (read : List Char) (letter : Option Char) (depth : Nat) (inner : List Char)
    (c : Char) : Place × Option Piece :=
  if c = '{' then (.spec read letter (depth + 1) (c :: inner), none)
  else if c = '}' then
    match depth with
    | 0 => (.text, some (.field ⟨read.reverse, letter, inner.reverse⟩))
    | depth + 1 => (.spec read letter depth (c :: inner), none)
  else (.spec read letter depth (c :: inner), none)

/-- What one more character leads to, with the piece that it completes. -/
def step : Place → Char → Except Fault (Place × Option Piece)
  | .text, c =>
    .ok (if c = '{' then (.opened, none) else if c = '}' then (.closed, none)
      else (.text, some (.char c)))
  | .opened, c => if c = '{' then .ok (.text, some (.char c)) else nameStep [] c
  | .closed, c => if c = '}' then .ok (.text, some (.char c)) else .error .loneClosing
  | .name read, c => nameStep read c
  | .bracket read, c =>
    .ok (if c = ']' then (.name (c :: read), none) else (.bracket (c :: read), none))
  | .conversion read, c => .ok (.converted read c, none)
  | .converted read letter, c =>
    if c = '}' then .ok (.text, some (.field ⟨read.reverse, some letter, []⟩))
    else if c = ':' then .ok (.spec read (some letter) 0 [], none)
    else .error .noSpecAfterConversion
  | .spec read letter depth inner, c => .ok (specStep read letter depth inner c)

/-- What is wrong when the template ends here. -/
def ending : Place → Option Fault
  | .text => none
  | .opened => some .loneOpening
  | .closed => some .loneClosing
  | .name _ => some .unclosedField
  | .bracket _ => some .unclosedField
  | .conversion _ => some .missingConversion
  | .converted _ _ => some .unclosedSpec
  | .spec _ _ _ _ => some .unclosedSpec

end Place

/-- Reads a template from a given place on. -/
def parseFrom : Place → List Char → Pieces
  | place, [] => ⟨[], place.ending⟩
  | place, c :: s =>
    match place.step c with
    | .error fault => ⟨[], some fault⟩
    | .ok (next, piece) =>
      let rest := parseFrom next s
      ⟨piece.toList ++ rest.pieces, rest.fault⟩

def parse (template : List Char) : Pieces := parseFrom .text template

def distinctNamesFrom (names : List String) : List Piece → List String
  | [] => names
  | .char _ :: rest => distinctNamesFrom names rest
  | .field f :: rest =>
    let name := String.ofList f.name
    distinctNamesFrom (if name ∈ names then names else names ++ [name]) rest

/-- The names of the fields, in order of first appearance. Names inside a specification do not
count. -/
def distinctNames (pieces : List Piece) : List String := distinctNamesFrom [] pieces

/-- The names of a template's fields, if it is well formed. -/
def slots (template : String) : Except Fault (List String) :=
  match parse template.toList with
  | ⟨pieces, none⟩ => .ok (distinctNames pieces)
  | ⟨_, some fault⟩ => .error fault

example : parse "\x7b0\x7d = \x7b1!r:>\x7bw\x7d\x7d".toList =
    ⟨[.field ⟨['0'], none, []⟩, .char ' ', .char '=', .char ' ',
      .field ⟨['1'], some 'r', ['>', '{', 'w', '}']⟩], none⟩ := by decide
example : parse "\x7b\x7ba\x7d".toList = ⟨[.char '{', .char 'a'], some .loneClosing⟩ := by decide
example : parse "\x7ba[\x7d".toList = ⟨[], some .unclosedField⟩ := by decide

end Criteria.Template
