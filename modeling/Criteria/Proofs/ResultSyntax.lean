import Criteria.Proofs.Condition.Constructed
import Criteria.Proofs.Page.Text
import Criteria.Workspace

/-!
# The syntax of results

A placeholder is written when its parameter is created, in the syntax of the command that creates
it. A compiled condition and a page carry the name of the dialect that wrote them, and their
placeholders are in its syntax just if the dialects of the commands that created them write these
names alike. Paging compares dialects by their names; compiling compares nothing, and neither asks
where a parameter comes from.
-/

namespace Criteria

namespace Dialect

/-- The parameter has the placeholder that the dialect writes for its name. -/
def Wrote (d : Dialect) (p : Parameter) : Prop := p.placeholder = d.placeholder p.name

instance (d : Dialect) (p : Parameter) : Decidable (d.Wrote p) :=
  inferInstanceAs (Decidable (_ = _))

theorem requireDialect_ok {d : Dialect} {condition : Option Condition}
    (h : d.requireDialect condition = .ok ()) :
    ∀ e ∈ condition, e.command.dialect.name = d.name := by
  intro e he
  obtain rfl : condition = some e := he
  by_cases same : e.command.dialect.name = d.name
  · exact same
  · simp only [requireDialect, same, if_false] at h
    cases h

/-- Conditions that were built for a dialect of another name are refused. -/
theorem names_of_paginate {d : Dialect} {operators : OperatorTable} {q : Select}
    {index size : Int} {reverse : Bool} {page : Compiled}
    (h : d.paginate operators q index size reverse = .ok page) :
    ∀ e ∈ q.filter.toList ++ q.having.toList, e.command.dialect.name = d.name := by
  obtain ⟨-, -, filter, having, -⟩ := paginate_passed h
  intro e he
  rcases List.mem_append.mp he with he | he
  · exact requireDialect_ok filter e (Option.mem_toList.mp he)
  · exact requireDialect_ok having e (Option.mem_toList.mp he)

end Dialect

namespace Select

variable {operators : OperatorTable}

theorem mem_leaves_of_conditionParameters {condition : Option Condition}
    {given : List Parameter} (h : conditionParameters operators condition = .ok given)
    {p : Parameter} (hp : p ∈ given) : ∃ e ∈ condition, p ∈ e.leaves := by
  cases condition with
  | none =>
    cases h
    cases hp
  | some e =>
    simp only [conditionParameters, bind_eq_ok_iff] at h
    obtain ⟨text, -, h⟩ := h
    by_cases empty : text = ""
    · simp only [empty, if_true] at h
      cases h
      cases hp
    · simp only [empty, if_false, bind_eq_ok_iff] at h
      obtain ⟨own, found, h⟩ := h
      cases h
      exact ⟨e, rfl, Condition.mem_leaves_of_parameters found p hp⟩

/-- What a statement binds or writes is what its conditions hold. -/
theorem mem_leaves_of_parameters {q : Select} {given : List Parameter}
    (h : q.parameters operators = .ok given) {p : Parameter} (hp : p ∈ given) :
    ∃ e ∈ q.filter.toList ++ q.having.toList, p ∈ e.leaves := by
  simp only [parameters, bind_eq_ok_iff] at h
  obtain ⟨first, hfirst, second, hsecond, h⟩ := h
  cases h
  rcases List.mem_append.mp hp with hp | hp
  · obtain ⟨e, he, hp⟩ := mem_leaves_of_conditionParameters hfirst hp
    exact ⟨e, List.mem_append_left _ (Option.mem_toList.mpr he), hp⟩
  · obtain ⟨e, he, hp⟩ := mem_leaves_of_conditionParameters hsecond hp
    exact ⟨e, List.mem_append_right _ (Option.mem_toList.mpr he), hp⟩

end Select

namespace Session

variable {s : Session} {admits : Command → Parameter → Prop} {operators : OperatorTable}

/-- A result with the dialect that wrote it and the parameters behind its text: a condition that a
command compiled, or a page that a dialect cut. -/
inductive Result (s : Session) (admits : Command → Parameter → Prop) (operators : OperatorTable) :
    Dialect → List Parameter → Compiled → Prop
  | compiled {c : Command} {e : Condition} {given : Option (List Parameter)} {out : Compiled}
      (constructed : s.Constructed admits e) (parameters : e.parameters operators = .ok given)
      (written : c.compile operators e = .ok out) :
      Result s admits operators c.dialect (given.getD []) out
  | paged {d : Dialect} {q : Select} {index size : Int} {reverse : Bool} {given : List Parameter}
      {out : Compiled}
      (constructed : ∀ e ∈ q.filter.toList ++ q.having.toList, s.Constructed admits e)
      (parameters : q.parameters operators = .ok given)
      (written : d.paginate operators q index size reverse = .ok out) :
      Result s admits operators d given out

theorem dialect_of_result {d : Dialect} {given : List Parameter} {out : Compiled}
    (result : s.Result admits operators d given out) : out.dialect = d.name := by
  cases result with
  | compiled constructed parameters written =>
    obtain ⟨-, -, -, -, name⟩ := Command.compile_ok written
    exact name
  | paged constructed parameters written =>
    obtain ⟨-, -, -, -, -, name, -⟩ := Dialect.paginate_passed written
    exact name

theorem known_of_result (h : s.Consistent) {d : Dialect} {given : List Parameter} {out : Compiled}
    (result : s.Result s.Known operators d given out) : ∀ p ∈ given, ∃ c, s.Issued c p := by
  intro p hp
  cases result with
  | compiled constructed parameters written =>
    exact known_of_constructed h constructed p (Condition.mem_leaves_of_parameters parameters p hp)
  | paged constructed parameters written =>
    obtain ⟨e, he, hp⟩ := Select.mem_leaves_of_parameters parameters hp
    exact known_of_constructed h (constructed e he) p hp

/-- The command that creates a parameter writes its placeholder. -/
theorem wrote_of_issued (h : s.Consistent) {c : Command} {p : Parameter} (issued : s.Issued c p)
    (bindable : p.bindable = true) : c.dialect.Wrote p := by
  obtain ⟨n, -, -, placeholder⟩ := issued_names h issued bindable
  exact placeholder

/-- A result carries the name of the dialect that wrote it, and it is in the syntax of this dialect
exactly if the dialects of the commands that created its parameters write their names alike. -/
theorem in_syntax_iff {actions : List Action} {d : Dialect} {given : List Parameter}
    {out : Compiled} (result : (after actions).Result (after actions).Known operators d given out) :
    out.dialect = d.name ∧
      ((∀ p ∈ given, p.bindable = true → d.Wrote p) ↔
        ∀ p ∈ given, p.bindable = true → ∀ c, (after actions).Issued c p →
          c.dialect.placeholder p.name = d.placeholder p.name) := by
  have consistent := consistent_after actions
  refine ⟨dialect_of_result result, ?_, ?_⟩
  · intro wrote p hp bindable c issued
    have first : p.placeholder = c.dialect.placeholder p.name :=
      wrote_of_issued consistent issued bindable
    exact first.symm.trans (wrote p hp bindable)
  · intro alike p hp bindable
    obtain ⟨c, issued⟩ := known_of_result consistent result p hp
    have first : p.placeholder = c.dialect.placeholder p.name :=
      wrote_of_issued consistent issued bindable
    exact first.trans (alike p hp bindable c issued)

/-- Where calls were given parameters of their own command only, a command writes the conditions of
commands with its marker in its own syntax. -/
theorem in_syntax_of_compile (h : s.Consistent) {c : Command} {e : Condition}
    (constructed : s.Constructed s.Issued e) (alike : e.command.dialect.marker = c.dialect.marker)
    {given : Option (List Parameter)} (parameters : e.parameters operators = .ok given) :
    ∀ p ∈ given.getD [], p.bindable = true → c.dialect.Wrote p := by
  intro p hp bindable
  have issued := issued_of_constructed h constructed p
    (Condition.mem_leaves_of_parameters parameters p hp)
  have first : p.placeholder = e.command.dialect.placeholder p.name :=
    wrote_of_issued h issued bindable
  rwa [Dialect.placeholder, alike] at first

theorem mem_commands_of_issued (h : s.Consistent) {c : Command} {p : Parameter}
    (issued : s.Issued c p) : c ∈ s.commands := by
  obtain ⟨e, he, rfl, -⟩ := issued
  exact h.known e he

/-- Where calls were given parameters of their own command only, and the name of a dialect decides
its marker, every page is in the syntax of the dialect that cuts it. -/
theorem in_syntax_of_paginate (h : s.Consistent) {d : Dialect} {q : Select}
    (constructed : ∀ e ∈ q.filter.toList ++ q.having.toList, s.Constructed s.Issued e)
    (decided : ∀ c ∈ s.commands, c.dialect.name = d.name → c.dialect.marker = d.marker)
    {given : List Parameter} (parameters : q.parameters operators = .ok given)
    {index size : Int} {reverse : Bool} {out : Compiled}
    (written : d.paginate operators q index size reverse = .ok out) :
    ∀ p ∈ given, p.bindable = true → d.Wrote p := by
  intro p hp bindable
  obtain ⟨e, he, hp⟩ := Select.mem_leaves_of_parameters parameters hp
  have issued := issued_of_constructed h (constructed e he) p hp
  have alike := decided e.command (mem_commands_of_issued h issued)
    (Dialect.names_of_paginate written e he)
  have first : p.placeholder = e.command.dialect.placeholder p.name :=
    wrote_of_issued h issued bindable
  rwa [Dialect.placeholder, alike] at first

end Session

namespace Sample

/-! Two commands for two dialects, a membership built on the first of them, and a dialect with the
name of the first and a marker of its own. -/

def colon : Dialect := { Dialect.postgres with title := "ColonDialect", marker := ⟨":", ""⟩ }

def foreign : Command := ⟨1, ⟨1, .oracle⟩, "p"⟩

def crossing : List Action :=
  [.getBackend "postgres", .getBackend "oracle", .registerDialect "colon" colon,
    .openCommand command.backend command.stem, .openCommand foreign.backend foreign.stem,
    .call 0 among]

def single : Condition := .membership command (some "id") [bound "id" (.int 7) 0] false

theorem constructed_single {admits : Command → Parameter → Prop} :
    (Session.after crossing).Constructed admits single :=
  .returned List.mem_cons_self (fun _ given => absurd given List.not_mem_nil)
    (fun _ part => absurd part List.not_mem_nil) rfl

def page : Select where
  table := "people"
  columns := ["*"]
  filter := some single
  groupBy := []
  having := none
  orderBy := []
  distinct := false

end Sample

namespace Session

theorem in_syntax_iff_crossing :
    ∃ given out,
      (after Sample.crossing).Result (after Sample.crossing).Known .builtIn Sample.foreign.dialect
        given out ∧
      out.dialect = "oracle" ∧
      ((∀ p ∈ given, p.bindable = true → Sample.foreign.dialect.Wrote p) ↔
        ∀ p ∈ given, p.bindable = true → ∀ c, (after Sample.crossing).Issued c p →
          c.dialect.placeholder p.name = Sample.foreign.dialect.placeholder p.name) := by
  obtain ⟨out, written⟩ : ∃ out, Sample.foreign.compile .builtIn Sample.single = .ok out := ⟨_, rfl⟩
  have parameters : Sample.single.parameters .builtIn =
      .ok (some [Sample.bound "id" (.int 7) 0]) := rfl
  have result : (after Sample.crossing).Result (after Sample.crossing).Known .builtIn
      Sample.foreign.dialect [Sample.bound "id" (.int 7) 0] out :=
    .compiled Sample.constructed_single parameters written
  exact ⟨_, out, result, in_syntax_iff result⟩

/-- A command writes a condition of another dialect as it is, and a dialect pages one that was built
for another dialect of its name. -/
theorem not_in_syntax :
    (¬ ∀ (actions : List Action) (operators : OperatorTable) (c : Command) (e : Condition)
        (given : Option (List Parameter)) (out : Compiled), c ∈ (after actions).commands →
      (after actions).Constructed (after actions).Issued e → e.parameters operators = .ok given →
        c.compile operators e = .ok out →
          ∀ p ∈ given.getD [], p.bindable = true → c.dialect.Wrote p) ∧
      ¬ ∀ (actions : List Action) (operators : OperatorTable) (name : String) (d : Dialect)
          (q : Select) (given : List Parameter) (index size : Int) (reverse : Bool)
          (out : Compiled), (after actions).workspace.catalog.dialects.find? name = some d →
        (∀ e ∈ q.filter.toList ++ q.having.toList,
          (after actions).Constructed (after actions).Issued e) →
        q.parameters operators = .ok given →
          d.paginate operators q index size reverse = .ok out →
            ∀ p ∈ given, p.bindable = true → d.Wrote p := by
  constructor
  · intro wrote
    have same := wrote Sample.crossing .builtIn Sample.foreign Sample.single
      (some [Sample.bound "id" (.int 7) 0]) _ (.tail _ List.mem_cons_self)
      Sample.constructed_single rfl rfl _ List.mem_cons_self rfl
    exact absurd same (by decide)
  · intro wrote
    have same := wrote Sample.crossing .builtIn "colon" Sample.colon Sample.page
      [Sample.bound "id" (.int 7) 0] 0 10 false _ rfl
      (by simpa [Sample.page] using Sample.constructed_single) rfl rfl _ List.mem_cons_self rfl
    exact absurd same (by decide)

end Session
end Criteria
