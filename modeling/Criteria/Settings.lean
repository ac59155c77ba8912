import Criteria.Catalog
import Criteria.Text.Identifier

/-!
# Settings

Settings: the dialect to be used, and what the names of parameters begin with.
-/

namespace Criteria

structure Settings where
  target : String
  stem : String
deriving DecidableEq

/-- Data that settings are loaded from: fields by name, or a value. -/
inductive SettingsData where
  | fields (entries : List (String × SettingsData))
  | value (v : Value)
deriving Inhabited

namespace SettingsData

/-- The word for a kind of value. -/
def kindName : Value → String
  | .null => "NoneType"
  | .bool _ => "bool"
  | .int _ => "int"
  | .decimal _ => "Decimal"
  | .float _ => "float"
  | .text _ => "str"
  | .datetime _ => "datetime"
  | .date _ => "date"
  | .time _ => "time"
  | .guid _ => "UUID"
  | .bytes _ => "bytes"
  | .buffer _ => "bytearray"
  | .list _ => "list"

def bytesText? (content : List UInt8) : Option String :=
  String.fromUTF8? ⟨content.toArray⟩

/-- The text of a field. Bytes are read as text. -/
def text : SettingsData → Except SettingsProblem String
  | .value (.text s) => .ok s
  | .value (.bytes content) =>
    match bytesText? content with
    | some s => .ok s
    | none => .error .badBytes
  | .value (.buffer content) =>
    match bytesText? content with
    | some s => .ok s
    | none => .error .badBytes
  | _ => .error .notText

end SettingsData

namespace Settings

/-- The fields that settings may have, in the order in which they are checked. -/
def fieldNames : List String := ["target", "parameter_prefix"]

/-- A field of this name would be taken for the settings themselves. -/
def reservedField : String := "self"

def readTarget (catalog : Catalog) (data : Option SettingsData) :
    Except SettingsProblem String := do
  match data with
  | none => throw .missing
  | some data =>
    let target ← data.text
    if target ∉ catalog.dialects.names then throw (.unknownTarget target catalog.targets)
    return target

def readStem (data : Option SettingsData) : Except SettingsProblem String := do
  match data with
  | none => return "p"
  | some data =>
    let stem ← data.text
    if !Text.isIdentifier stem then throw (.notIdentifier stem)
    return stem

/-- Names the field that has a problem. -/
def inField {α : Type} (field : String) (x : Except SettingsProblem α) : Except Error α :=
  match x with
  | .ok a => .ok a
  | .error problem => .error (.badSettings field problem)

/-- Reads settings from their fields, up to the first problem. -/
def ofFields (catalog : Catalog) (entries : List (String × SettingsData)) :
    Except Error Settings := do
  if (entries.lookup reservedField).isSome then throw .reservedSetting
  let target ← inField "target" (readTarget catalog (entries.lookup "target"))
  let stem ← inField "parameter_prefix" (readStem (entries.lookup "parameter_prefix"))
  match entries.find? fun e => e.1 ∉ fieldNames with
  | some e => throw (.badSettings e.1 .unexpected)
  | none => return ⟨target, stem⟩

def read (catalog : Catalog) : SettingsData → Except Error Settings
  | .fields entries => ofFields catalog entries
  | .value v => .error (.notSettings (SettingsData.kindName v))

def digest (s : Settings) : UInt64 := hash (s.target, s.stem)

end Settings
end Criteria
