import Criteria.Template.Member.Collection
import Criteria.Template.Member.Kind
import Criteria.Template.Member.Number
import Criteria.Template.Member.Operation
import Criteria.Template.Member.Text
import Criteria.Text.Quoted

/-!
# What names refer to

What the names in a template refer to. A name starts at a text, and a part of it behind a point
leads on to a member: a thing has the members of its kind, and of the kinds that take that in. A
kind shows its own members as well, without a thing that they belong to.
-/

namespace Criteria.Template

namespace Kind

/-- The members that a kind brings in. -/
def ownMembers : Kind → List Member
  | anything => Member.ofAnything
  | text => Member.ofText
  | number => Member.ofNumber
  | truth => Member.ofTruth
  | nothing => Member.ofNothing
  | kind => Member.ofKind
  | filled => Member.ofFilled
  | list => Member.ofList
  | table => Member.ofTable
  | members => Member.ofMembers
  | operation => Member.ofOperation
  | wrapper => Member.ofWrapper
  | looseOperation => Member.ofLooseOperation
  | looseWrapper => Member.ofLooseOperation
  | looseShared => Member.ofLooseShared
  | looseFree => Member.ofLooseFree
  | property => Member.ofProperty
  | field => Member.ofField

/-- A kind's own member of a name. -/
def ownMember? (name : String) (k : Kind) : Option Member := k.ownMembers.find? (·.name == name)

/-- The member that a name stands for at things of a kind, with the kind that it comes from. -/
def member? (name : String) (k : Kind) : Option (Kind × Member) :=
  k.lineage.findSome? fun home => (home.ownMember? name).map fun m => (home, m)

/-- Whether a kind can be told what it holds. -/
def isFillable (k : Kind) : Bool := k == kind || (k.member? "__class_getitem__").isSome

end Kind

inductive Referent where
  | text (s : List Char)
  | number (n : Nat)
  | truth (b : Bool)
  | nothing
  | kind (k : Kind)
  /-- A kind that is told what it holds, by a text or a number. -/
  | filled (k : Kind) (content : Referent)
  | kinds (ks : List Kind)
  /-- A list of one thing. -/
  | single (x : Referent)
  | emptyTable
  /-- The members of a kind by their names. -/
  | members (k : Kind)
  /-- A member of a kind as it belongs to one thing. -/
  | bound (home : Kind) (m : Member) (owner : Referent)
  /-- A member of a kind by itself. -/
  | loose (home : Kind) (m : Member)
deriving DecidableEq

namespace Referent

def ofString (s : String) : Referent := .text s.toList

def ofString? (s : Option String) : Referent := (s.map ofString).getD .nothing

def kindOf : Referent → Kind
  | text _ => .text
  | number _ => .number
  | truth _ => .truth
  | nothing => .nothing
  | kind _ => .kind
  | filled _ _ => .filled
  | kinds _ => .list
  | single _ => .list
  | emptyTable => .table
  | members _ => .members
  | bound _ m _ => if m.form = .wrapper then .wrapper else .operation
  | loose _ m =>
    match m.form with
    | .wrapper => .looseWrapper
    | .shared => .looseShared
    | .free => .looseFree
    | .property => .property
    | .field => .field
    | _ => .looseOperation

/-- A member as a kind shows it. -/
def shown (home : Kind) (m : Member) (k : Kind) : Referent :=
  match m.form with
  | .shared => .bound home m (.kind k)
  | .creation => .bound home m (.kind home)
  | .free => .bound home m (.kind home)
  | .constant => ofString? m.description
  | _ => .loose home m

/-- A part of a kind. Its description may be that of its things, if it has none of its own. -/
def kindPart? (name : String) (k : Kind) : Option Referent :=
  match name with
  | "__name__" => some (ofString k.name)
  | "__qualname__" => some (ofString k.name)
  | "__module__" => some (ofString k.moduleName)
  | "__doc__" =>
    match k.description? with
    | some description => some (ofString description)
    | none => (k.ownMember? "__doc__").map fun m => shown k m k
  | "__text_signature__" => some (ofString? k.signature?)
  | "__base__" => some ((k.base?.map kind).getD .nothing)
  | "__bases__" => some (.kinds k.base?.toList)
  | "__mro__" => some (.kinds k.lineage)
  | "__dict__" => some (.members k)
  | "__basicsize__" => some (.number k.layout.size)
  | "__itemsize__" => some (.number k.layout.itemSize)
  | "__flags__" => some (.number k.layout.flags)
  | "__dictoffset__" => some (.number k.layout.membersOffset)
  | "__weakrefoffset__" => some (.number k.layout.referencesOffset)
  | _ => none

/-- The name of a member with the name of a kind in front. -/
def qualifiedName (k : Kind) (m : Member) : Referent := ofString (k.name ++ "." ++ m.name)

/-- What a member tells of itself, bound or not. -/
def memberPart? (name : String) (home : Kind) (m : Member) : Option Referent :=
  match name with
  | "__name__" => some (ofString m.name)
  | "__qualname__" => some (qualifiedName home m)
  | "__doc__" => some (ofString? m.description)
  | "__text_signature__" => some (ofString? m.signature)
  | "__objclass__" => some (.kind home)
  | _ => none

/-- The kind that a thing speaks for: itself, if it is one. -/
def ownKind : Referent → Kind
  | kind k => k
  | x => x.kindOf

/-- A part of a bound member. An operation is named after the kind of its owner, in a wrapper after
the kind that it comes from. -/
def boundPart? (name : String) (home : Kind) (m : Member) (owner : Referent) : Option Referent :=
  match name with
  | "__self__" => some (if m.form = .free then .nothing else owner)
  | "__module__" => some .nothing
  | "__qualname__" => some (qualifiedName (if m.form = .wrapper then home else owner.ownKind) m)
  | _ => memberPart? name home m

/-- A part of a member by itself. A free one leads to the operation that it stands for. -/
def loosePart? (name : String) (home : Kind) (m : Member) : Option Referent :=
  match name with
  | "__func__" => some (.bound home m (.kind home))
  | "__wrapped__" => some (.bound home m (.kind home))
  | "__isabstractmethod__" => some (.truth false)
  | "__dict__" => some .emptyTable
  | _ => memberPart? name home m

/-- A part of a number. -/
def numberPart? (name : String) (n : Nat) : Option Referent :=
  match name with
  | "real" => some (.number n)
  | "imag" => some (.number 0)
  | "numerator" => some (.number n)
  | "denominator" => some (.number 1)
  | _ => none

/-- A part of a filled kind. -/
def filledPart? (name : String) (k : Kind) (content : Referent) : Option Referent :=
  match name with
  | "__origin__" => some (.kind k)
  | "__args__" => some (.single content)
  | "__parameters__" => some (.kinds [])
  | "__unpacked__" => some (.truth false)
  | "__typing_unpacked_tuple_args__" => some .nothing
  | _ => none

/-- The part of a thing that a field or a property of its kind stands for. -/
def part? (name : String) (x : Referent) : Option Referent :=
  if name = "__class__" then some (.kind x.kindOf)
  else
    match x with
    | number n => numberPart? name n
    | truth b => numberPart? name b.toNat
    | kind k => kindPart? name k
    | filled k content => filledPart? name k content
    | bound home m owner => boundPart? name home m owner
    | loose home m => loosePart? name home m
    | _ => none

/-- A member of a kind as a thing of the kind has it. -/
def has? (home : Kind) (m : Member) (x : Referent) : Option Referent :=
  if m.isPart then x.part? m.name
  else
    match m.form with
    | .operation => some (.bound home m x)
    | .wrapper => some (.bound home m x)
    | _ => some (shown home m x.kindOf)

/-- What a name leads to at a thing, by the kind of the thing. -/
def memberOf? (name : String) (x : Referent) : Option Referent :=
  (x.kindOf.member? name).bind fun (home, m) => has? home m x

/-- What a name leads to at a kind: its parts come first, then its members, and last what else kinds
have. -/
def kindMember? (name : String) (k : Kind) : Option Referent :=
  if (Kind.kind.member? name).any fun (_, m) => m.isPart then (kind k).memberOf? name
  else
    match k.member? name with
    | some (home, m) => some (shown home m k)
    | none => (kind k).memberOf? name

/-- The names that a filled kind has for itself. -/
def filledNames : List String :=
  ["__class__", "__origin__", "__args__", "__unpacked__", "__parameters__",
    "__typing_unpacked_tuple_args__", "__mro_entries__", "__reduce_ex__", "__reduce__", "__copy__",
    "__deepcopy__"]

/-- What a name behind a point leads to. A filled kind passes on what its kind has. -/
def attribute? (name : String) (x : Referent) : Option Referent :=
  match x with
  | kind k => kindMember? name k
  | filled k _ => if name ∈ filledNames then x.memberOf? name else kindMember? name k
  | _ => x.memberOf? name

/-- A member as it stands among the members of its kind. -/
def listed (home : Kind) (m : Member) : Referent :=
  match m.form with
  | .creation => .bound home m (.kind home)
  | .constant => ofString? m.description
  | _ => .loose home m

def kindsText (ks : List Kind) : String :=
  "(" ++ String.intercalate ", " (ks.map Kind.toText) ++ (if ks.length = 1 then ",)" else ")")

def boundText (m : Member) (owner : Kind) : String :=
  if m.form = .wrapper then "<method-wrapper '" ++ m.name ++ "' of " ++ owner.fullName ++ " object>"
  else "<built-in method " ++ m.name ++ " of " ++ owner.fullName ++ " object>"

def looseText (home : Kind) (m : Member) : String :=
  let text := fun (sort : String) =>
    "<" ++ sort ++ " '" ++ m.name ++ "' of '" ++ home.fullName ++ "' objects>"
  match m.form with
  | .wrapper => text "slot wrapper"
  | .property => text "attribute"
  | .field => text "member"
  | .free => "<staticmethod(" ++ boundText m .kind ++ ")>"
  | _ => text "method"

/-- A member as it is written among the members of its kind. -/
def listedText (home : Kind) (m : Member) : String :=
  match m.form with
  | .creation => boundText m .kind
  | .constant => (m.description.map Text.quoted).getD "None"
  | _ => looseText home m

def membersText (k : Kind) : String :=
  "\x7b" ++
    String.intercalate ", " (k.ownMembers.map fun m => "'" ++ m.name ++ "': " ++ listedText k m) ++
    "\x7d"

/-- What a name refers to, with texts in quotes and the members of a kind under their own kind. -/
def quotedText (quote : String → String) : Referent → String
  | text s => quote (String.ofList s)
  | number n => n.repr
  | truth b => if b then "True" else "False"
  | nothing => "None"
  | kind k => k.toText
  | filled k content => k.fullName ++ "[" ++ quotedText quote content ++ "]"
  | kinds ks => kindsText ks
  | single x => "(" ++ quotedText quote x ++ ",)"
  | emptyTable => "\x7b\x7d"
  | members k => Kind.members.name ++ "(" ++ membersText k ++ ")"
  | bound _ m owner => boundText m owner.kindOf
  | loose home m => looseText home m

/-- The text that is written for what a name refers to. -/
def chars : Referent → List Char
  | text s => s
  | members k => (membersText k).toList
  | x => (x.quotedText Text.quoted).toList

/-- Follows names from a text on. -/
def along (names : List String) (s : String) : Option Referent :=
  names.foldlM (fun x name => x.attribute? name) (ofString s)

example : along ["upper", "__qualname__"] "a" = some (ofString "str.upper") := by decide +kernel
example : (along ["__class__"] "a").map chars = some "<class 'str'>".toList := by decide +kernel
example : along ["size"] "a" = none := by decide +kernel
example : (along ["__class__", "upper"] "a").map chars =
    some "<method 'upper' of 'str' objects>".toList := by decide +kernel
example : along ["upper", "__module__"] "a" = some .nothing := by decide +kernel
example : along ["__class__", "__itemsize__"] "a" = some (.number 0) := by decide +kernel
example : kindsText [.text, .anything] = "(<class 'str'>, <class 'object'>)" := by decide +kernel

end Referent
end Criteria.Template
