import Criteria.Dialect.BuiltIn
import Criteria.NameMap
import Criteria.Text.Order

/-!
# The catalog of dialects

The catalog of dialects. Under each name it keeps one backend that all share, made when it is
first asked for and forgotten when the name is registered again.
-/

namespace Criteria

/-- A dialect as the catalog hands it out. Backends are told apart by their numbers. -/
structure Backend where
  number : Nat
  dialect : Dialect
deriving DecidableEq

structure Catalog where
  dialects : NameMap Dialect
  shared : NameMap Backend
  /-- The number of the next backend. -/
  next : Nat

namespace Catalog

def builtIn : Catalog :=
  ⟨.ofList (Dialect.builtIn.map fun d => (d.name, d)), .empty, 0⟩

/-- The registered names in the order of their code points. -/
def targets (c : Catalog) : List String := Text.sorted c.dialects.names

def register (c : Catalog) (name : String) (d : Dialect) : Catalog :=
  { c with dialects := c.dialects.put name d, shared := c.shared.erase name }

/-- A new backend, which nobody else gets. -/
def create (c : Catalog) (name : String) : Except Error (Backend × Catalog) :=
  match c.dialects.find? name with
  | some d => .ok (⟨c.next, d⟩, { c with next := c.next + 1 })
  | none => .error (.unknownDialect name c.targets)

/-- The backend that is shared under a name. -/
def get (c : Catalog) (name : String) : Except Error (Backend × Catalog) :=
  match c.shared.find? name with
  | some b => .ok (b, c)
  | none => do
    let (b, c) ← c.create name
    return (b, { c with shared := c.shared.put name b })

theorem find?_dialects_register (c : Catalog) (name other : String) (d : Dialect) :
    (c.register name d).dialects.find? other =
      if other = name then some d else c.dialects.find? other :=
  NameMap.find?_put _ _ _ _

theorem find?_shared_register (c : Catalog) (name other : String) (d : Dialect) :
    (c.register name d).shared.find? other =
      if other = name then none else c.shared.find? other :=
  NameMap.find?_erase _ _ _

/-- The names under which databases are addressed, with the dialects that they speak. -/
def addressNames : List (String × String) :=
  [("mssql", "sqlserver"), ("oracle", "oracle"), ("mysql", "mysql"), ("mariadb", "mysql"),
    ("sqlite", "sqlite"), ("postgresql", "postgres")]

/-- The backend for the database at an address, by the first part of its scheme. -/
def getForScheme (c : Catalog) (scheme : String) : Except Error (Backend × Catalog) :=
  let first := String.ofList (scheme.toList.takeWhile (· ≠ '+'))
  match addressNames.lookup first with
  | some name => c.get name
  | none => .error (.unknownDialect first (Text.sorted (addressNames.map (·.1))))

example : builtIn.targets =
    ["mysql", "oracle", "postgres", "sqlite", "sqlserver", "sqlserverce"] := by decide +kernel

end Catalog
end Criteria
