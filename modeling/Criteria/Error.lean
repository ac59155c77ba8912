import Criteria.Condition.Kind
import Criteria.DataType
import Criteria.Number.Numeral
import Criteria.Report
import Criteria.Template.Fault

/-!
# Causes of failure

The causes of failure. Most of them are reported with a kind and details; what lies in the use
of a template or of a name has a message only, and a few have none.
-/

namespace Criteria

/-- What is wrong with a field of the settings. -/
inductive SettingsProblem where
  | missing
  | notText
  /-- Bytes that are no text. -/
  | badBytes
  | unknownTarget (name : String) (known : List String)
  | notIdentifier (name : String)
  | unexpected
deriving DecidableEq

inductive Error where
  | missingDialect
  | blankColumn (column : Option String)
  | blankExpression (column : String)
  | missingOtherColumn (column : Option String)
  /-- A single text where a collection of values is expected. -/
  | textForValues (column : Option String)
  | emptySeparator (column : Option String)
  | missingParameters (column : Option String)
  | strayParameter (column : Option String) (other : String)
  | foreignCondition (kind : ConditionKind)
  | emptyGroup
  | missingCondition
  | missingSource
  | unknownOperator (name : String) (known : List String)
  | wrongCount (column : Option String) (operator : String) (expected actual : Int)
  | badLiteral (column : Option String) (token : String) (type : DataType)
  | negativePage (index : Int)
  | badPageSize (size : Int)
  | foreignDialect (builtFor dialect : String)
  | nothingToReverse (table : String)
  | unorderedPage (dialect : String) (offset : Int)
  | noColumnSlot (operator template : String)
  | wrongSlots (operator template : String) (arity : Int) (slots : List String)
  | noIdentity (dialect : String) (reason : Option String)
  | unknownDialect (name : String) (known : List String)
  | notSettings (kind : String)
  | badSettings (field : String) (problem : SettingsProblem)
  /-- The settings have a field that names the settings themselves. -/
  | reservedSetting
  | template (fault : Template.Fault)
  | unknownConnective (name : String)
  | unknownDatePart (number : Int)
  | unknownDataType (name : String)
  | datePartCount (title : String) (count : Nat)
  /-- More values than a comparison can hold. -/
  | tooManyValues
  /-- A single value where a collection of values is expected. -/
  | notCollection
  /-- The operator now takes two values, and the comparison has one. -/
  | missingSecond
  | malformedAddress
  /-- The port of an address is no number. -/
  | badPort (text : String)
  | longPort (digits : Nat)
  /-- A number to be written has too many digits. -/
  | longNumber
  /-- A class of dialects whose name has a null character. -/
  | nullInTitle
  /-- A signaling number that is none is compared with another number. -/
  | signalingNumber
deriving DecidableEq

namespace SettingsProblem

def message : SettingsProblem → String
  | missing => "Field required"
  | notText => "Input should be a valid string"
  | badBytes => "Input should be a valid string, unable to parse raw data as a unicode string"
  | unknownTarget name known =>
    "Value error, unknown dialect target '" ++ name ++ "'; registered: " ++ Text.quotedList known
  | notIdentifier name => "Value error, '" ++ name ++ "' is not a valid identifier"
  | unexpected => "Extra inputs are not permitted"

end SettingsProblem

namespace Error

def constructionReport (message : String) (column : Option String) : Option Report :=
  some (.construction message column none .empty)

def pagingReport (message : String) (details : List (String × Detail)) : Option Report :=
  some (.paging message none none (.ofList details))

/-- The report of a failure, for the causes that have one. -/
def report? : Error → Option Report
  | .missingDialect => constructionReport "A command needs a dialect." none
  | .blankColumn column =>
    constructionReport "Column name must be a non-empty string." (column.filter (· ≠ ""))
  | .blankExpression column =>
    constructionReport "Custom expression must be non-empty SQL text." column
  | .missingOtherColumn column => constructionReport "Second column name is required." column
  | .textForValues column =>
    constructionReport
      "IN values must be a collection; use from_delimited() for delimited text." column
  | .emptySeparator column => constructionReport "Separator must not be empty." column
  | .missingParameters column => constructionReport "IN parameters must not be None." column
  | .strayParameter column other =>
    constructionReport ("IN list for column '" ++ Report.nameText column ++
      "' contains a parameter for column '" ++ other ++ "'.") column
  | .foreignCondition kind => some (.construction
      "All grouped conditions must belong to the same command." none none
      (.ofList [("kind", .text kind.name)]))
  | .emptyGroup => constructionReport "An empty condition group needs an explicit command." none
  | .missingCondition => constructionReport "Cannot negate a missing condition." none
  | .missingSource => constructionReport "SELECT needs a FROM source." none
  | .unknownOperator name known => some (.construction
      ("Unknown operator '" ++ name ++ "'. Registered operators: " ++ Text.quotedList known ++ ".")
      none (some name) .empty)
  | .wrongCount column operator expected actual => some (.arity column operator expected actual)
  | .badLiteral column token type => some (.conversion column token type.name)
  | .negativePage index => pagingReport ("Page index must be >= 0, got " ++ index.repr ++ ".")
      [("page_index", .int index)]
  | .badPageSize size => pagingReport ("Page size must be > 0, got " ++ size.repr ++ ".")
      [("page_size", .int size)]
  | .foreignDialect builtFor dialect => pagingReport
      ("Query conditions were built for '" ++ builtFor ++ "' but are paged with '" ++ dialect ++
        "'.")
      [("built_for", .text builtFor), ("dialect", .text dialect)]
  | .nothingToReverse table => pagingReport "Cannot reverse the order of a query without ORDER BY."
      [("table", .text table)]
  | .unorderedPage dialect offset => pagingReport
      "OFFSET/FETCH paging beyond the first page requires ORDER BY."
      [("dialect", .text dialect), ("offset", .int offset)]
  | .noColumnSlot operator pattern => some (.operatorDefinition
      ("Operator '" ++ operator ++ "' template " ++ Text.quoted pattern ++
        " has no column slot \x7b0\x7d.")
      (.ofList [("operator", .text operator), ("template", .text pattern)]))
  | .wrongSlots operator pattern arity slots => some (.operatorDefinition
      ("Operator '" ++ operator ++ "' declares arity " ++ arity.repr ++ " but template " ++
        Text.quoted pattern ++ " has value slots " ++ Text.quotedList slots ++ ".")
      (.ofList [("operator", .text operator), ("template", .text pattern),
        ("arity", .int arity), ("slots", .texts slots)]))
  | .noIdentity dialect reason => some (.unsupported dialect "identity lookup" reason)
  | .unknownDialect name known => some (.unknownDialect name known)
  | .notSettings kind =>
    some (.configuration ("Configuration must be a mapping, got " ++ kind ++ ".") none)
  | .badSettings field problem =>
    some (.configuration ("Invalid sqlfrag configuration: " ++ problem.message) (some field))
  | _ => none

/-- The message on a text that is no number. The text is quoted, as far as there is room. -/
def badNumberMessage (text : String) : String :=
  "invalid literal for int() with base 10: " ++
    String.ofList ((Text.quoted text).toList.take 200)

/-- What is told of the limit on digits, with a remark on the number at hand. -/
def digitLimitMessage (remark : String) : String :=
  "Exceeds the limit (" ++ Numeral.maxDigits.repr ++ " digits) for integer string conversion" ++
    remark ++ "; use sys.set_int_max_str_digits() to increase the limit"

/-- The message of a failure, for the causes that have one. -/
def message? (e : Error) : Option String :=
  match e.report? with
  | some r => some r.message
  | none =>
    match e with
    | .template fault => some fault.message
    | .unknownConnective name => some (Text.quoted name ++ " is not a valid LogicalOp")
    | .unknownDatePart number => some (number.repr ++ " is not a valid DatePart")
    | .unknownDataType name => some (Text.quoted name ++ " is not a valid DataType")
    | .datePartCount title count =>
      some (title ++ ".DATE_PARTS must have 10 entries, got " ++ count.repr ++ ".")
    | .badPort text => some (badNumberMessage text)
    | .longPort digits => some (digitLimitMessage (": value has " ++ digits.repr ++ " digits"))
    | .longNumber => some (digitLimitMessage "")
    | .nullInTitle => some "type name must not contain null characters"
    | _ => none

/-- The failure with a number that its message shows, unless the number is too long for that. -/
def showing (n : Int) (e : Error) : Error := if Numeral.Short n.natAbs then e else .longNumber

example : (noColumnSlot "X" "a").message? =
    some "Operator 'X' template 'a' has no column slot \x7b0\x7d." := by decide +kernel
example : (unknownConnective "XOR").message? = some "'XOR' is not a valid LogicalOp" := by
  decide +kernel
example : (badPort "it's").message? =
    some "invalid literal for int() with base 10: \"it's\"" := by decide +kernel
example : (blankColumn (some "")).report?.map (·.details.entries.length) = some 0 := by decide

end Error

/-- An integer in decimal digits, if there are not too many of them. -/
def integerText (n : Int) : Except Error String :=
  if Numeral.Short n.natAbs then .ok n.repr else .error .longNumber

end Criteria
