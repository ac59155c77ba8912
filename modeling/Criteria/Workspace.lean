import Criteria.Address
import Criteria.Item
import Criteria.Page

/-!
# The workspace

A workspace: the operators and dialects that are registered, and how far each command has come
with its names.
-/

namespace Criteria

structure Workspace where
  operators : OperatorTable
  catalog : Catalog
  /-- For each command, by its number, how many names it has handed out. -/
  counters : List Nat
  /-- The origin of the next parameter. -/
  origin : Nat

namespace Workspace

def initial : Workspace := ⟨.builtIn, .builtIn, [], 0⟩

def handedOut (w : Workspace) (c : Command) : Nat := w.counters.getD c.id 0

/-- Runs a call of a command with the names that are left to it. -/
def run {α : Type} (w : Workspace) (c : Command) (call : Build α) : Except Error α × Workspace :=
  let (result, left) := call.run.run ⟨w.handedOut c, w.origin⟩
  (result, { w with counters := w.counters.set c.id left.next, origin := left.origin })

/-- Runs a call that takes no names. -/
def runUnnamed {α : Type} (w : Workspace) (call : Build α) : Except Error α × Workspace :=
  let (result, left) := call.run.run ⟨0, w.origin⟩
  (result, { w with origin := left.origin })

/-- A new command, whose names are counted from zero. -/
def openCommand (w : Workspace) (backend : Backend) (stem : String) : Command × Workspace :=
  (⟨w.counters.length, backend, stem⟩, { w with counters := w.counters ++ [0] })

def registerOperator (w : Workspace) (name template : String) (arity : Int) :
    Except Error (Operator × Workspace) := do
  let (op, operators) ← w.operators.register name template arity
  return (op, { w with operators })

def registerDialect (w : Workspace) (name : String) (d : Dialect) : Workspace :=
  { w with catalog := w.catalog.register name d }

/-- Changes the catalog by a look-up. A failed one changes nothing. -/
def lookUp (w : Workspace) (f : Catalog → Except Error (Backend × Catalog)) :
    Except Error Backend × Workspace :=
  match f w.catalog with
  | .ok (b, catalog) => (.ok b, { w with catalog })
  | .error e => (.error e, w)

def getBackend (w : Workspace) (name : String) : Except Error Backend × Workspace :=
  w.lookUp (·.get name)

def createBackend (w : Workspace) (name : String) : Except Error Backend × Workspace :=
  w.lookUp (·.create name)

def getForAddress (w : Workspace) (address : String) : Except Error Backend × Workspace :=
  w.lookUp (·.getForAddress address)

/-- The command that settings ask for. -/
def openConfigured (w : Workspace) (s : Settings) : Except Error Command × Workspace :=
  match w.getBackend s.target with
  | (.ok b, w) => let (c, w) := w.openCommand b s.stem; (.ok c, w)
  | (.error e, w) => (.error e, w)

end Workspace
end Criteria
