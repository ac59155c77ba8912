import Criteria.Catalog
import Criteria.Number.Numeral
import Criteria.Text.Digit
import Criteria.Text.Space
import Criteria.Text.Word

/-!
# Addresses of databases

Addresses of databases: a scheme of word characters and plus signs, a colon and two slashes, and
then perhaps a user, a host and a port. Whatever follows is not looked at.
-/

namespace Criteria.Address

/-- The scheme, and what stands behind the two slashes. -/
def takeScheme? (address : String) : Option (String × List Char) :=
  let isScheme := fun (c : Char) => Text.isWordChar c || c == '+'
  let scheme := address.toList.takeWhile isScheme
  match address.toList.dropWhile isScheme with
  | ':' :: '/' :: '/' :: rest =>
    if scheme.isEmpty then none else some (String.ofList scheme, rest)
  | _ => none

/-- What stands behind the last occurrence of a character; everything if there is none. -/
def afterLast (c : Char) (s : List Char) : List Char := (s.reverse.takeWhile (· ≠ c)).reverse

/-- Drops a user up to an at sign. The user may have a password behind a colon, which ends with
the first at sign; without a password the last at sign counts. -/
def dropUser (s : List Char) : List Char :=
  let user := s.takeWhile fun c => c ≠ ':' ∧ c ≠ '/'
  let rest := s.dropWhile fun c => c ≠ ':' ∧ c ≠ '/'
  match rest with
  | ':' :: password =>
    if '@' ∈ password then (password.dropWhile (· ≠ '@')).drop 1
    else afterLast '@' user ++ rest
  | _ => afterLast '@' user ++ rest

/-- Drops a host in brackets, which may have colons in it. -/
def dropBracketed? : List Char → Option (List Char)
  | '[' :: s =>
    let host := s.takeWhile fun c => c ≠ '/' ∧ c ≠ '?'
    let rest := s.dropWhile fun c => c ≠ '/' ∧ c ≠ '?'
    if ']' ∈ host.drop 1 then some (afterLast ']' host ++ rest) else none
  | _ => none

def dropHost (s : List Char) : List Char :=
  (dropBracketed? s).getD (s.dropWhile fun c => c ≠ '/' ∧ c ≠ ':' ∧ c ≠ '?')

/-- The port of an address without its scheme. It is empty when nothing follows its colon. -/
def port? (s : List Char) : Option (List Char) :=
  match dropHost (dropUser s) with
  | ':' :: rest => some (rest.takeWhile fun c => c ≠ '/' ∧ c ≠ '?')
  | _ => none

/-- A port is an integer: digits of any script with single underscores between them, perhaps a
sign in front, and white space around it. -/
def checkPort (port : List Char) : Except Error Unit := do
  let (_, s) := Numeral.readSign (Text.stripChars Text.isWhiteSpace port)
  let isNumeric := fun (c : Char) => (Text.digitValue? c).isSome || c == '_'
  match Numeral.dropUnderscores? (s.takeWhile isNumeric) with
  | none => throw (.badPort (String.ofList port))
  | some digits =>
    if Numeral.maxDigits < digits.length then throw (.longPort digits.length)
    if digits.isEmpty || !s.all isNumeric then throw (.badPort (String.ofList port))

end Address

/-- The backend for the database at an address. -/
def Catalog.getForAddress (c : Catalog) (address : String) :
    Except Error (Backend × Catalog) := do
  match Address.takeScheme? address with
  | none => throw .malformedAddress
  | some (scheme, rest) =>
    if let some port := Address.port? rest then Address.checkPort port
    c.getForScheme scheme

namespace Address

example : takeScheme? "mysql+x://h/d" = some ("mysql+x", "h/d".toList) := by decide +kernel
example : takeScheme? "sqlite" = none ∧ takeScheme? "://h" = none := by decide +kernel
example : port? "u:p@h:33/d:1".toList = some "33".toList := by decide
example : port? "u@v@[::1]:5?x".toList = some "5".toList ∧ port? "h/d:1".toList = none := by decide
example : (checkPort " +3_306 ".toList).toOption = some () := by decide +kernel
example : (checkPort [] matches .error (.badPort "")) = true := by decide +kernel

end Address
end Criteria
