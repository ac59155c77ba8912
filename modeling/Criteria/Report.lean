import Criteria.NameMap
import Criteria.Text.Quoted

/-!
# Reports of failures

Reports of failures: a kind with a code, a message, and details for a diagnosis.
-/

namespace Criteria

/-- What a detail may hold. Numbers are given by a coefficient and a count of decimal places. -/
inductive Detail where
  | null
  | bool (b : Bool)
  | number (coefficient : Int) (places : Nat)
  | text (s : String)
  | list (items : List Detail)
  | fields (entries : List (String × Detail))
deriving Inhabited

namespace Detail

def int (n : Int) : Detail := .number n 0

def texts (items : List String) : Detail := .list (items.map .text)

end Detail

inductive ReportKind where
  | general
  | construction
  | arity
  | conversion
  | paging
  | operatorDefinition
  | unsupported
  | unknownDialect
  | configuration
deriving DecidableEq

namespace ReportKind

def code : ReportKind → String
  | .general => "SQLFRAG_ERROR"
  | .construction => "CONSTRUCTION_ERROR"
  | .arity => "ARITY_MISMATCH"
  | .conversion => "CONVERSION_ERROR"
  | .paging => "PAGING_ERROR"
  | .operatorDefinition => "OPERATOR_DEFINITION"
  | .unsupported => "UNSUPPORTED_OPERATION"
  | .unknownDialect => "UNKNOWN_DIALECT"
  | .configuration => "CONFIG_ERROR"

/-- A kind and the wider kinds that it belongs to, the widest last. -/
def lineage : ReportKind → List ReportKind
  | .general => [.general]
  | .construction => [.construction, .general]
  | .arity => [.arity, .construction, .general]
  | .conversion => [.conversion, .construction, .general]
  | .paging => [.paging, .construction, .general]
  | .operatorDefinition => [.operatorDefinition, .general]
  | .unsupported => [.unsupported, .general]
  | .unknownDialect => [.unknownDialect, .general]
  | .configuration => [.configuration, .general]

end ReportKind

structure Report where
  kind : ReportKind
  message : String
  details : NameMap Detail

namespace Report

/-- A name as it stands in a message, also when there is none. -/
def nameText (name : Option String) : String := name.getD "None"

/-- Adds a text, unless there is none or a detail of that name is already given. -/
def addText (details : NameMap Detail) (name : String) (text : Option String) : NameMap Detail :=
  match text with
  | some s => if (details.find? name).isSome then details else details.put name (.text s)
  | none => details

def withContext (kind : ReportKind) (message : String) (column operator : Option String)
    (details : NameMap Detail) : Report :=
  ⟨kind, message, addText (addText details "column" column) "operator" operator⟩

def general (message : String) (details : NameMap Detail) : Report :=
  ⟨.general, message, details⟩

def construction (message : String) (column operator : Option String)
    (details : NameMap Detail) : Report :=
  withContext .construction message column operator details

def paging (message : String) (column operator : Option String)
    (details : NameMap Detail) : Report :=
  withContext .paging message column operator details

def arity (column : Option String) (operator : String) (expected actual : Int) : Report :=
  withContext .arity
    ("Operator '" ++ operator ++ "' on column '" ++ nameText column ++ "' takes " ++
      expected.repr ++ " value(s), got " ++ actual.repr ++ ".")
    column (some operator) (.ofList [("expected", .int expected), ("actual", .int actual)])

def conversion (column : Option String) (token dataType : String) : Report :=
  let target := if column.getD "" = "" then "" else " for column '" ++ nameText column ++ "'"
  withContext .conversion
    ("Cannot convert '" ++ token ++ "' to " ++ dataType ++ target ++ ".")
    column none (.ofList [("token", .text token), ("data_type", .text dataType)])

def operatorDefinition (message : String) (details : NameMap Detail) : Report :=
  ⟨.operatorDefinition, message, details⟩

/-- A message that is given and not empty replaces the usual one. -/
def unsupported (dialect operation : String) (message : Option String) : Report :=
  let usual := "The '" ++ dialect ++ "' dialect does not support " ++ operation ++ "."
  ⟨.unsupported, if message.getD "" = "" then usual else message.getD "",
    .ofList [("dialect", .text dialect), ("operation", .text operation)]⟩

def unknownDialect (name : String) (known : List String) : Report :=
  ⟨.unknownDialect,
    "Unsupported dialect target: '" ++ name ++ "'. Registered targets: " ++
      Text.quotedList known ++ ".",
    .ofList [("name", .text name), ("registered", .texts known)]⟩

def configuration (message : String) (field : Option String) : Report :=
  let details := match field with
    | some f => if f = "" then .empty else .ofList [("field", .text f)]
    | none => .empty
  ⟨.configuration, message, details⟩

example : (conversion (some "") "x" "date").message = "Cannot convert 'x' to date." := by decide
example : (arity none "EQUAL" 1 0).message =
    "Operator 'EQUAL' on column 'None' takes 1 value(s), got 0." := by decide

end Report
end Criteria
