import Criteria.Proofs.Bindings
import Criteria.Proofs.Condition.Constructed

/-!
# Names that parameters share

A command gives a name once, and two commands may give the same one. So a condition over parameters
of one command binds each of them to its own value, while in a condition over parameters of several
commands only the last value of a name is kept. Nothing refuses such a condition: a membership that
is given the first parameters of two commands is one.
-/

namespace Criteria

/-- Every parameter is found under its name with its own value just if no name has two values. -/
theorem Bindings.keeps_values_iff {parameters : List Parameter} :
    (∀ p ∈ parameters, p.bindable = true →
        (ofParameters parameters).find? p.name = some p.value) ↔
      ∀ p ∈ parameters, ∀ q ∈ parameters, p.bindable = true → q.bindable = true →
        p.name = q.name → p.value = q.value := by
  constructor
  · intro kept p hp q hq bindableP bindableQ same
    have first := kept p hp bindableP
    rw [same, kept q hq bindableQ] at first
    exact (Option.some.inj first).symm
  · intro agree p hp bindable
    exact Bindings.find?_ofParameters_of_agree hp bindable fun q hq bound same =>
      agree q hq p hp bound bindable same

namespace Session

variable {s : Session} {operators : OperatorTable} {d : Condition}

/-- Parameters of one name can differ in their values only if two commands have created them. -/
theorem eq_value_of_known (h : s.Consistent) {parameters : List Parameter}
    (known : ∀ p ∈ parameters, ∃ c, s.Issued c p)
    (agree : ∀ a b, a ≠ b → ∀ p ∈ parameters, ∀ q ∈ parameters, s.Issued a p → s.Issued b q →
      p.bindable = true → q.bindable = true → p.name = q.name → p.value = q.value) :
    ∀ p ∈ parameters, ∀ q ∈ parameters, p.bindable = true → q.bindable = true →
      p.name = q.name → p.value = q.value := by
  intro p hp q hq bindableP bindableQ same
  obtain ⟨a, issuedP⟩ := known p hp
  obtain ⟨b, issuedQ⟩ := known q hq
  by_cases one : a = b
  · subst one
    rw [issued_unique h issuedP issuedQ bindableP bindableQ same]
  · exact agree a b one p hp q hq issuedP issuedQ bindableP bindableQ same

/-- A condition that comes about binds each parameter to its own value exactly if parameters of two
commands that share a name in it share their value. -/
theorem own_values_iff {actions : List Action}
    (constructed : (after actions).Constructed (after actions).Known d) {c : Command}
    {out : Compiled} (compiled : c.compile operators d = .ok out) :
    ∃ given, d.parameters operators = .ok given ∧
      ((∀ p ∈ given.getD [], p.bindable = true → out.bindings.find? p.name = some p.value) ↔
        ∀ a b, a ≠ b → ∀ p ∈ given.getD [], ∀ q ∈ given.getD [],
          (after actions).Issued a p → (after actions).Issued b q →
          p.bindable = true → q.bindable = true → p.name = q.name → p.value = q.value) := by
  have consistent := consistent_after actions
  obtain ⟨given, -, parameters, bindings, -⟩ := Command.compile_ok compiled
  have held := Condition.mem_leaves_of_parameters parameters
  have known : ∀ p ∈ given.getD [], ∃ a, (after actions).Issued a p := fun p hp =>
    known_of_constructed consistent constructed p (held p hp)
  refine ⟨given, parameters, ?_⟩
  rw [bindings, Bindings.keeps_values_iff]
  constructor
  · intro agree _ _ _ p hp q hq _ _
    exact agree p hp q hq
  · exact eq_value_of_known consistent known

/-- Where calls were given parameters of their own command only, nothing is lost, whichever command
writes the condition. -/
theorem own_values_of_issued {actions : List Action}
    (constructed : (after actions).Constructed (after actions).Issued d) {c : Command}
    {out : Compiled} (compiled : c.compile operators d = .ok out) :
    ∃ given, d.parameters operators = .ok given ∧
      ∀ p ∈ given.getD [], p.bindable = true → out.bindings.find? p.name = some p.value := by
  have consistent := consistent_after actions
  obtain ⟨given, -, parameters, bindings, -⟩ := Command.compile_ok compiled
  refine ⟨given, parameters, ?_⟩
  rw [bindings, Bindings.keeps_values_iff]
  intro p hp q hq bindableP bindableQ same
  have issued := issued_of_constructed consistent constructed
  have held := Condition.mem_leaves_of_parameters parameters
  rw [issued_unique consistent (issued p (held p hp)) (issued q (held q hq)) bindableP bindableQ
    same]

end Session

namespace Sample

/-! Two commands that name their parameters alike, and a membership over a parameter of each. -/

def other : Command := { command with id := 1 }

def number (value : Int) : Call := .parameter (some "id") (.int value) none

def firsts : List Parameter :=
  [bound "id" (.int 7) 0, { bound "id" (.int 8) 0 with origin := 1 }]

def meeting : List Action :=
  [.openCommand command.backend command.stem, .openCommand other.backend other.stem,
    .call 0 (number 7), .call 1 (number 8), .call 0 (.inParameters none (some firsts) false)]

def mixed : Condition := .membership command (some "id") firsts false

theorem known_firsts : ∀ p ∈ firsts, (Session.after meeting).Known command p := by
  rw [firsts, List.forall_mem_cons, List.forall_mem_singleton]
  constructor
  · exact ⟨command, _, List.mem_cons_self, rfl, List.mem_cons_self⟩
  · exact ⟨other, _, .tail _ List.mem_cons_self, rfl, List.mem_cons_self⟩

theorem constructed_mixed :
    (Session.after meeting).Constructed (Session.after meeting).Known mixed :=
  .returned (.tail _ (.tail _ List.mem_cons_self)) known_firsts
    (fun _ part => absurd part List.not_mem_nil) rfl

end Sample

namespace Session

theorem own_values_iff_meeting :
    ∃ out given, Sample.other.compile .builtIn Sample.mixed = .ok out ∧
      Sample.mixed.parameters .builtIn = .ok given ∧
      ((∀ p ∈ given.getD [], p.bindable = true → out.bindings.find? p.name = some p.value) ↔
        ∀ a b, a ≠ b → ∀ p ∈ given.getD [], ∀ q ∈ given.getD [],
          (after Sample.meeting).Issued a p → (after Sample.meeting).Issued b q →
          p.bindable = true → q.bindable = true → p.name = q.name → p.value = q.value) := by
  obtain ⟨out, compiled⟩ : ∃ out, Sample.other.compile .builtIn Sample.mixed = .ok out := ⟨_, rfl⟩
  obtain ⟨given, parameters, kept⟩ := own_values_iff Sample.constructed_mixed compiled
  exact ⟨out, given, compiled, parameters, kept⟩

/-- The first of two values of a name is lost. -/
theorem not_own_values :
    ¬ ∀ (actions : List Action) (operators : OperatorTable) (d : Condition) (c : Command)
        (out : Compiled) (given : Option (List Parameter)),
      (after actions).Constructed (after actions).Known d → c.compile operators d = .ok out →
        d.parameters operators = .ok given →
          ∀ p ∈ given.getD [], p.bindable = true → out.bindings.find? p.name = some p.value := by
  intro kept
  have found := kept Sample.meeting .builtIn Sample.mixed Sample.command _ (some Sample.firsts)
    Sample.constructed_mixed rfl rfl (Sample.bound "id" (.int 7) 0) List.mem_cons_self rfl
  have last : (Bindings.ofParameters Sample.firsts).find? "p0" = some (.int 8) := rfl
  cases last.symm.trans found

end Session
end Criteria
