import Criteria.Dialect

/-!
# The built-in dialects

The dialects that are known from the start.
-/

namespace Criteria.Dialect

def doubleQuotes : Quotes := ⟨'"', '"'⟩

def mysql : Dialect where
  title := "MySQLDialect"
  name := "mysql"
  marker := ⟨"%(", ")s"⟩
  quotes := ⟨'\x60', '\x60'⟩
  coalesce := "IFNULL"
  length := "CHAR_LENGTH"
  substring := .call "SUBSTRING"
  now := "NOW()"
  dateParts := ["YEAR", "QUARTER", "MONTH", "WEEK", "DAYOFYEAR", "DAY", "DAYOFWEEK", "HOUR",
    "MINUTE", "SECOND"]
  dateParts_length := rfl
  datePartForm := .function
  identity := .expression "LAST_INSERT_ID()"
  pager := .limitOffset

def oracle : Dialect where
  title := "OracleDialect"
  name := "oracle"
  marker := ⟨":", ""⟩
  quotes := doubleQuotes
  coalesce := "NVL"
  length := "LENGTH"
  substring := .call "SUBSTR"
  now := "SYSDATE"
  dateParts := ["yyyy", "q", "mm", "ww", "ddd", "dd", "d", "hh24", "mi", "ss"]
  dateParts_length := rfl
  datePartForm := .text
  identity := .none (some "Oracle database does not support identity.")
  pager := .rownum

def postgres : Dialect where
  title := "PostgresDialect"
  name := "postgres"
  marker := ⟨"%(", ")s"⟩
  quotes := doubleQuotes
  coalesce := "COALESCE"
  length := "CHAR_LENGTH"
  substring := .words "SUBSTRING"
  now := "NOW()"
  dateParts := ["year", "quarter", "month", "week", "doy", "day", "dow", "hour", "minute",
    "second"]
  dateParts_length := rfl
  datePartForm := .timestamp
  identity := .expression "LASTVAL()"
  pager := .limitOffset

def sqlite : Dialect where
  title := "SQLiteDialect"
  name := "sqlite"
  marker := ⟨":", ""⟩
  quotes := doubleQuotes
  coalesce := "IFNULL"
  length := "LENGTH"
  substring := .call "SUBSTR"
  now := "CURRENT_TIMESTAMP"
  dateParts := ["%Y", "%m", "%m", "%W", "%j", "%d", "%w", "%H", "%M", "%S"]
  dateParts_length := rfl
  datePartForm := .integer
  identity := .expression "last_insert_rowid()"
  pager := .limitOffset

def sqlserver : Dialect where
  title := "SqlServerDialect"
  name := "sqlserver"
  marker := ⟨"@", ""⟩
  quotes := ⟨'[', ']'⟩
  coalesce := "ISNULL"
  length := "LEN"
  substring := .call "SUBSTRING"
  now := "GETDATE()"
  dateParts := ["year", "quarter", "month", "week", "dayofyear", "day", "weekday", "hour",
    "minute", "second"]
  dateParts_length := rfl
  datePartForm := .argument
  identity := .expression "SCOPE_IDENTITY()"
  pager := .rowNumber

/-- The compact edition, with the names of its larger relative but other ways to page. -/
def sqlserverce : Dialect :=
  { sqlserver with
    title := "SqlServerCeDialect"
    name := "sqlserverce"
    coalesce := "COALESCE"
    identity := .expression "@@IDENTITY"
    pager := .offsetFetch }

def builtIn : List Dialect := [sqlserver, sqlserverce, oracle, mysql, sqlite, postgres]

/-- The built-in dialects have three ways to write a placeholder. -/
theorem marker_of_builtIn : ∀ d ∈ builtIn, d.marker ∈ [⟨"@", ""⟩, ⟨":", ""⟩, ⟨"%(", ")s"⟩] := by
  decide

/-- What a dialect of its own changes in the one it is made from. -/
structure Variation where
  title : String
  name : Option String
  dateParts : Option (List String)
  pager : Option Pager
  marker : Option Marker
  /-- Takes away the way to read an identity. -/
  dropsIdentity : Bool

/-- Makes a dialect from another one. There have to be ten keywords for the parts of a date, and no
null character in the name of its class. -/
def vary (base : Dialect) (v : Variation) : Except Error Dialect :=
  let parts := v.dateParts.getD base.dateParts
  if v.title.toList.contains '\x00' then .error .nullInTitle
  else if h : parts.length = 10 then
    .ok { base with
      title := v.title
      name := v.name.getD base.name
      dateParts := parts
      dateParts_length := h
      pager := v.pager.getD base.pager
      marker := v.marker.getD base.marker
      identity := if v.dropsIdentity then .none none else base.identity }
  else .error (.datePartCount v.title parts.length)

example : sqlserver.quote "a]b" = "[a]]b]" := by decide
example : mysql.placeholder "p0" = "%(p0)s" := by decide
example : sqlite.datePartText "d" .quarter =
    "((CAST(strftime('%m', d) AS INTEGER) + 2) / 3)" := by decide
example : postgres.substringText "s" "1" "2" = "SUBSTRING(s FROM 1 FOR 2)" := by decide

end Criteria.Dialect
