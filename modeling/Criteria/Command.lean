import Criteria.Catalog
import Criteria.Parameter
import Criteria.Text.Space

/-!
# Commands and the names of their parameters

Commands: each statement under construction names its parameters one after the other. What
builds on a command takes names from a supply; the names that a failed call has taken stay
taken.
-/

namespace Criteria

structure Command where
  id : Nat
  backend : Backend
  /-- What the names of its parameters begin with. -/
  stem : String
deriving DecidableEq

/-- What is left to be handed out: the numbers of names, and the origins of parameters. -/
structure Supply where
  next : Nat
  origin : Nat
deriving DecidableEq

/-- A call that draws on a supply and may fail. -/
abbrev Build (α : Type) := ExceptT Error (StateM Supply) α

namespace Command

def dialect (c : Command) : Dialect := c.backend.dialect

def parameterName (c : Command) (n : Nat) : String := c.stem ++ n.repr

/-- Takes the next name. -/
def nextName (c : Command) : Build String := do
  let supply ← get
  set { supply with next := supply.next + 1 }
  return c.parameterName supply.next

def nextOrigin : Build Nat := do
  let supply ← get
  set { supply with origin := supply.origin + 1 }
  return supply.origin

def requireColumn : Option String → Build String
  | some column => if Text.isBlank column then throw (.blankColumn (some column)) else pure column
  | none => throw (.blankColumn none)

/-- A value that is bound under the next name. -/
def parameter (c : Command) (column : Option String) (value : Value) (type : Option DataType) :
    Build Parameter := do
  let column ← requireColumn column
  let name ← c.nextName
  return {
    column, value, name
    dataType := type.getD (.infer value)
    bindable := true
    placeholder := c.dialect.placeholder name
    origin := ← nextOrigin }

/-- A value that is written into the statement. -/
def literal (column : Option String) (value : Value) (type : Option DataType) :
    Build Parameter := do
  let column ← requireColumn column
  return {
    column, value
    dataType := type.getD (.infer value)
    bindable := false
    name := ""
    placeholder := ""
    origin := ← nextOrigin }

/-- An expression of the statement's own language, written into it as it is. -/
def expression (column expr : Option String) : Build Parameter := do
  let column ← requireColumn column
  let text := expr.getD ""
  if Text.isBlank text then throw (.blankExpression column)
  literal (some column) (.text text) (some .string)

theorem run_nextName (c : Command) (s : Supply) :
    c.nextName.run.run s = (.ok (c.parameterName s.next), { s with next := s.next + 1 }) := rfl

/-- Each parameter takes one name. -/
theorem run_parameter {column : String} (h : Text.isBlank column = false) (c : Command)
    (value : Value) (type : Option DataType) (s : Supply) :
    (c.parameter (some column) value type).run.run s =
      (.ok ⟨column, type.getD (.infer value), value, true, c.parameterName s.next,
        c.dialect.placeholder (c.parameterName s.next), s.origin⟩, ⟨s.next + 1, s.origin + 1⟩) := by
  simp [parameter, requireColumn, h]
  rfl

/-- What is written takes none. -/
theorem run_literal {column : String} (h : Text.isBlank column = false) (value : Value)
    (type : Option DataType) (s : Supply) :
    (literal (some column) value type).run.run s =
      (.ok ⟨column, type.getD (.infer value), value, false, "", "", s.origin⟩,
        { s with origin := s.origin + 1 }) := by
  simp [literal, requireColumn, h]
  rfl

end Command
end Criteria
