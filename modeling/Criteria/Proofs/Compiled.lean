import Criteria.Proofs.Condition.Placeholders
import Criteria.Proofs.Condition.Returned

/-!
# Placeholders and bindings of compiled conditions

The placeholders in a compiled condition are those of its parameters, and each of them is bound to
the value that its parameter was created with. A name never stands for two values, since the command
has numbered all its parameters.
-/

namespace Criteria

open Text
open Parameter (boundNames)

namespace Session

variable {c : Command} {operators : OperatorTable}

/-- Parameters of one command are found under their names, each with its own value. -/
theorem find?_ofParameters_of_issued {s : Session} (h : s.Consistent) {parameters : List Parameter}
    (issued : ∀ p ∈ parameters, s.Issued c p) {p : Parameter} (hp : p ∈ parameters)
    (bindable : p.bindable = true) :
    (Bindings.ofParameters parameters).find? p.name = some p.value := by
  apply Bindings.find?_ofParameters hp bindable
  intro q hq bound same
  exact issued_unique h (issued q hq) (issued p hp) bound bindable same

/-- Text and parameters agree for every condition that has been built on a command and that has a
text. -/
theorem agrees_of_built {s : Session} (h : s.Consistent) (dialect : c.dialect ∈ Dialect.builtIn)
    (stem : isIdentifier c.stem = true) {d : Condition} (built : s.Built operators c d)
    (clean : ∀ t ∈ d.written, Unmarked t) {text : String} (rendered : d.text operators = .ok text) :
    ∃ ps, d.Agrees operators c.dialect.marker (s.Issued c) text ps :=
  Condition.agrees_of_ofBuiltIns (Marker.legible_of_builtIn dialect) stem
    (fun _ issued bindable => issued_names h issued bindable) (ofBuiltIns_of_built h built).1 clean
    rendered

/-- The placeholders of a compiled condition are those of its parameters, each bound to its own
value. What cannot be compiled is a condition that was given a parameter to inline that cannot be
written, for it has a number in it with too many digits. -/
theorem placeholders_compile {actions : List Action} (dialect : c.dialect ∈ Dialect.builtIn)
    (stem : isIdentifier c.stem = true) {d : Condition}
    (built : (after actions).Built operators c d) (clean : ∀ t ∈ d.written, Unmarked t) :
    (∃ out given, c.compile operators d = .ok out ∧ d.parameters operators = .ok given ∧
      c.dialect.marker.scan out.sql = boundNames (given.getD []) ∧
      (∀ name, name ∈ out.bindings.names ↔ name ∈ boundNames (given.getD [])) ∧
      ∀ p ∈ given.getD [], p.bindable = true →
        (after actions).Issued c p ∧ out.bindings.find? p.name = some p.value) ∨
    (c.compile operators d = .error .longNumber ∧
      ∃ p ∈ d.leaves, ¬ p.IsWritable ∧ ∃ e ∈ (after actions).events, p ∈ e.call.given) := by
  have consistent := consistent_after actions
  cases rendered : d.text operators with
  | ok text =>
    obtain ⟨ps, agrees⟩ := agrees_of_built consistent dialect stem built clean rendered
    obtain ⟨given, parameters, rfl⟩ := agrees.parameters_eq
    have compiled : c.compile operators d =
        .ok ⟨text, .ofParameters (given.getD []), c.dialect.name⟩ := by
      simp only [Command.compile, Condition.bindings, rendered, parameters, ok_bind]
      rfl
    refine .inl ⟨_, given, compiled, parameters, Marker.scan_of_yields agrees.yields, ?_, ?_⟩
    · exact fun name => Bindings.mem_names_ofParameters
    · intro p hp bindable
      exact ⟨agrees.owned p hp, find?_ofParameters_of_issued consistent agrees.owned hp bindable⟩
  | error e =>
    have builtIns := (ofBuiltIns_of_built consistent built).1
    obtain ⟨rfl, p, hp, unwritable⟩ := Condition.text_error_of_ofBuiltIns builtIns rendered
    have given := (isWritable_or_given consistent built p hp).resolve_left unwritable
    refine .inr ⟨?_, p, hp, unwritable, given⟩
    rw [Command.compile, rendered]
    rfl

/-- All that is written into the sample condition can be written. -/
theorem placeholders_compile_sample :
    (∀ p ∈ Sample.condition.leaves, p.IsWritable) ∧
    ∃ out given, Sample.command.compile .builtIn Sample.condition = .ok out ∧
      Sample.condition.parameters .builtIn = .ok given ∧
      Sample.command.dialect.marker.scan out.sql = boundNames (given.getD []) ∧
      (∀ name, name ∈ out.bindings.names ↔ name ∈ boundNames (given.getD [])) ∧
      ∀ p ∈ given.getD [], p.bindable = true →
        (after Sample.actions).Issued Sample.command p ∧
          out.bindings.find? p.name = some p.value := by
  have writable : ∀ p ∈ Sample.condition.leaves, p.IsWritable := by decide +kernel
  refine ⟨writable, ?_⟩
  rcases placeholders_compile (c := Sample.command) (by decide) (by decide +kernel)
    Sample.built_condition (by decide +kernel) with compiled | ⟨-, p, hp, unwritable, -⟩
  · exact compiled
  · exact absurd (writable p hp) unwritable

end Session
end Criteria
