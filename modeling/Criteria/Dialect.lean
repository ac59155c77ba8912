import Criteria.DatePart
import Criteria.Error

/-!
# Dialects

Dialects: how a backend writes placeholders, quoted names and scalar functions, and how it cuts
a page out of a result.
-/

namespace Criteria

/-- What stands before and behind the name of a parameter. -/
structure Marker where
  before : String
  after : String
deriving DecidableEq

namespace Marker

def around (m : Marker) (name : String) : String := m.before ++ name ++ m.after

end Marker

structure Quotes where
  opening : Char
  closing : Char
deriving DecidableEq

namespace Quotes

/-- A closing quote inside the name is written twice. -/
def quoteChars (q : Quotes) (name : List Char) : List Char :=
  q.opening :: name.flatMap (fun c => if c = q.closing then [c, c] else [c]) ++ [q.closing]

def quote (q : Quotes) (name : String) : String := String.ofList (q.quoteChars name.toList)

end Quotes

inductive SubstringForm where
  | call (name : String)
  /-- With words in place of the commas. -/
  | words (name : String)
deriving DecidableEq

/-- How a part of a date is taken from an expression, given the keyword of the part. -/
inductive DatePartForm where
  /-- The keyword is a function. -/
  | function
  /-- The keyword is a format, in which the expression is written as text. -/
  | text
  /-- The keyword is a quoted argument before an expression cast to a timestamp. -/
  | timestamp
  /-- The keyword is a bare argument before the expression. -/
  | argument
  /-- The keyword is a format whose result is cast to an integer. The quarter is computed from
  the month. -/
  | integer
deriving DecidableEq

/-- How the last generated identity is read. -/
inductive Identity where
  | expression (sql : String)
  | none (reason : Option String)
deriving DecidableEq

inductive Pager where
  | limitOffset
  | offsetFetch
  | rowNumber
  | rownum
deriving DecidableEq

structure Dialect where
  title : String
  name : String
  marker : Marker
  quotes : Quotes
  coalesce : String
  length : String
  substring : SubstringForm
  now : String
  dateParts : List String
  dateParts_length : dateParts.length = 10
  datePartForm : DatePartForm
  identity : Identity
  pager : Pager
deriving DecidableEq

namespace Dialect

/-- The name that the dialect has in a listing of objects. -/
def label (d : Dialect) : String := d.title ++ "()"

def placeholder (d : Dialect) (name : String) : String := d.marker.around name

def quote (d : Dialect) (name : String) : String := d.quotes.quote name

def coalesceText (d : Dialect) (expr fallback : String) : String :=
  d.coalesce ++ "(" ++ expr ++ ", " ++ fallback ++ ")"

def lengthText (d : Dialect) (expr : String) : String := d.length ++ "(" ++ expr ++ ")"

def substringText (d : Dialect) (expr start length : String) : String :=
  match d.substring with
  | .call name => name ++ "(" ++ expr ++ ", " ++ start ++ ", " ++ length ++ ")"
  | .words name => name ++ "(" ++ expr ++ " FROM " ++ start ++ " FOR " ++ length ++ ")"

def datePartKeyword (d : Dialect) (part : DatePart) : String :=
  d.dateParts.get (part.index.cast d.dateParts_length.symm)

def datePartText (d : Dialect) (expr : String) (part : DatePart) : String :=
  let keyword := d.datePartKeyword part
  match d.datePartForm with
  | .function => keyword ++ "(" ++ expr ++ ")"
  | .text => "TO_CHAR(" ++ expr ++ ", '" ++ keyword ++ "')"
  | .timestamp => "DATE_PART('" ++ keyword ++ "', " ++ expr ++ "::TIMESTAMP)"
  | .argument => "DATEPART(" ++ keyword ++ ", " ++ expr ++ ")"
  | .integer =>
    let extracted := "CAST(strftime('" ++ keyword ++ "', " ++ expr ++ ") AS INTEGER)"
    if part = .quarter then "((" ++ extracted ++ " + 2) / 3)" else extracted

def identityText (d : Dialect) : Except Error String :=
  match d.identity with
  | .expression sql => .ok sql
  | .none reason => .error (.noIdentity d.name reason)

end Dialect
end Criteria
