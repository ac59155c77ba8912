import Criteria.Proofs.Condition.Matching
import Criteria.Proofs.Condition.Returned
import Criteria.Proofs.Operator.Entries
import Criteria.Proofs.Template.Flat

/-!
# Equal conditions

Equal conditions mean the same. Equality leaves out the commands, and with them the names of the
parameters, so that the texts of equal conditions may differ in their placeholders, but in nothing
else. That includes failures: both conditions can be written or none, for what is wrong with a
template is wrong whatever is put into it, unless it nests fields.
-/

namespace Criteria

/-- None of the two texts is empty, or both are. -/
def SameEmptiness (s t : String) : Prop := s = "" ↔ t = ""

namespace Operator

/-- No field of the template has fields in its specification. -/
def NestsNone (op : Operator) : Prop := ∀ f ∈ op.fields, f.NestsNone

/-- A defined operator is written with some texts just as with others, or fails alike. -/
theorem render_inStep {name template : String} {arity : Int} {op : Operator}
    (defined : define name template arity = .ok op) (flat : op.NestsNone) {column column' : String}
    {values values' : List String} (length : values.length = values'.length) :
    InStep (fun _ _ => True) (op.render column values) (op.render column' values') := by
  have numbered : ∀ f ∈ op.fields, f.IsNumbered := by
    intro f hf
    obtain ⟨k, -, name⟩ := (numbered_of_define defined).2 f hf
    exact ⟨k, name⟩
  have count : (column :: values).length = (column' :: values').length := by simp [length]
  have filled := Template.fill_inStep count numbered flat
  unfold render
  cases first : Template.fill op.template (column :: values) <;>
    cases second : Template.fill op.template (column' :: values') <;> rw [first, second] at filled
  · exact congrArg Error.template filled
  · exact filled
  · exact filled
  · trivial

end Operator

namespace OperatorTable

/-- No operator has a template that nests fields. -/
def NestsNone : OperatorTable → Prop := Entries fun _ op => op.NestsNone

theorem nestsNone_builtIn : builtIn.NestsNone := by
  have nothing : ∀ entry ∈ builtIn.entries, ∀ f ∈ entry.2.fields,
      Template.fields (Template.parse f.spec).pieces = [] := by decide +kernel
  exact entries_builtIn nothing

end OperatorTable

namespace Condition

variable {rel : Parameter → Parameter → Prop} {table : OperatorTable}

/-- Where related parameters are shown or fail to be shown alike, what is written is empty for both
or for none. -/
theorem congruent_emptiness (defined : table.IsDefined) (flat : table.NestsNone)
    {shown shown' : Parameter → Except Error String}
    (each : ∀ p q, rel p q → InStep (fun _ _ => True) (shown p) (shown' q)) :
    Congruent table rel shown shown' SameEmptiness where
  comparison := by
    intro operator first first' second second' firsts seconds
    refine InStep.bind_same fun op found => ?_
    have known := OperatorTable.get_eq_ok_iff.mp found
    refine (comparedTexts_inStep each firsts seconds op).bind fun texts texts' pairs => ?_
    refine (Operator.render_inStep (defined operator op known) (flat operator op known)
      pairs.length_eq).bind fun inner inner' _ => ?_
    simp [InStep, SameEmptiness, pure, Except.pure, ← String.toList_inj]
  membership := by
    intro column items items' negated pairs
    refine (InStep.mapM_of_forall₂ pairs each).bind fun texts texts' same => ?_
    change SameEmptiness _ _
    rw [SameEmptiness, listText_eq_empty_iff, listText_eq_empty_iff]
    cases same <;> simp
  joined := by
    intro connective texts texts' each
    rw [SameEmptiness, joined_eq_empty_iff, joined_eq_empty_iff]
    induction each with
    | nil => simp
    | cons first _ ih =>
      rw [List.forall_mem_cons, List.forall_mem_cons]
      exact and_congr first ih
  negated := by
    intro s t same
    rwa [SameEmptiness, negated_eq_empty_iff, negated_eq_empty_iff]

theorem parametersOfAll_inStep {conditions conditions' : List Condition}
    (congruent : Congruent table rel Parameter.text Parameter.text SameEmptiness)
    (each : List.Forall₂ (Matches rel) conditions conditions')
    (own : List.Forall₂ (fun d e =>
      InStep (Option.Rel (List.Forall₂ rel)) (d.parameters table) (e.parameters table))
      conditions conditions') :
    InStep (List.Forall₂ rel) (parametersOfAll table conditions)
      (parametersOfAll table conditions') := by
  induction each with
  | nil => exact .nil
  | @cons d e rest rest' first _ ih =>
    obtain ⟨own, others⟩ := List.forall₂_cons.mp own
    refine (textWith_inStep congruent first).bind fun s t same => ?_
    have joined : ∀ {x : Except Error (List Parameter)} {y : Except Error (List Parameter)},
        InStep (List.Forall₂ rel) x y →
          InStep (List.Forall₂ rel) (x >>= fun own => return own ++ (← parametersOfAll table rest))
            (y >>= fun own => return own ++ (← parametersOfAll table rest')) := by
      intro x y h
      refine h.bind fun as bs front => ?_
      exact (ih others).bind fun cs ds back => List.rel_append front back
    by_cases empty : s = ""
    · simp only [if_pos empty, if_pos (same.mp empty)]
      exact joined (.nil : List.Forall₂ rel [] [])
    · simp only [if_neg empty, if_neg fun empty' => empty (same.mpr empty')]
      refine joined (own.map fun given given' h => ?_)
      cases h with
      | none => exact .nil
      | some each => exact each

/-- The parameters of matching conditions match, if texts that are put together alike are empty for
both or for none. -/
theorem parameters_inStep {d e : Condition}
    (congruent : Congruent table rel Parameter.text Parameter.text SameEmptiness)
    (h : Matches rel d e) :
    InStep (Option.Rel (List.Forall₂ rel)) (d.parameters table) (e.parameters table) := by
  refine Matches.induct ?comparison ?membership ?group ?negation h
  case comparison =>
    intro c c' operator first first' second second' firsts seconds
    refine InStep.bind_same fun op _ => ?_
    by_cases bare : op.arity = 0
    · simp only [bare, if_true]
      exact .none
    · simp only [bare, if_false]
      exact (comparands_inStep firsts seconds op).bind fun values values' each => .some each
  case membership =>
    intro c c' column items items' negated each
    exact .some each
  case group =>
    intro c c' connective conditions conditions' each ih
    exact (parametersOfAll_inStep congruent each ih).bind fun all all' each => .some each
  case negation =>
    intro c c' condition condition' inner ih
    refine (textWith_inStep congruent inner).bind fun s t same => ?_
    by_cases empty : s = ""
    · rw [if_pos empty, if_pos (same.mp empty)]
      exact .some .nil
    · rw [if_neg empty, if_neg fun empty' => empty (same.mpr empty')]
      exact ih

end Condition

namespace Parameter

/-- The two are equal as objects. -/
def Equals (p q : Parameter) : Prop := Item.equal (.parameter p) (.parameter q) = .ok true

theorem equals_iff {p q : Parameter} : p.Equals q ↔ p.key = q.key := by
  rw [Equals, Item.equal_eq_true_iff]
  exact ItemKey.parameter.injEq _ _ ▸ Iff.rfl

/-- Equal values that are written into a statement are written alike, if they are null or texts.
Of numbers that does not hold. -/
theorem markedText_eq {p q : Parameter} (h : p.Equals q) (verbatimP : p.IsVerbatim)
    (verbatimQ : q.IsVerbatim) (marker : String) :
    p.column = q.column ∧ p.markedText marker = q.markedText marker := by
  have same := equals_iff.mp h
  simp only [key, ParameterKey.mk.injEq] at same
  obtain ⟨column, -, value, bindable⟩ := same
  refine ⟨column, ?_⟩
  unfold markedText
  rw [← bindable]
  by_cases bound : p.bindable = true
  · rw [if_pos bound, if_pos bound]
  · rw [if_neg bound, if_neg bound]
    have inlined : p.bindable = false := by simpa using bound
    rcases verbatimP inlined with null | ⟨s, text⟩ <;>
      rcases verbatimQ (bindable ▸ inlined) with null' | ⟨t, text'⟩
    · rw [null, null']
    · simp [null, text', Value.key] at value
    · simp [text, null', Value.key] at value
    · have same : s = t := by simpa [text, text', Value.key] using value
      rw [text, text', same]

end Parameter

namespace Condition

theorem matches_of_equal {d e : Condition}
    (equal : Item.equal (.condition d) (.condition e) = .ok true) :
    Matches Parameter.Equals d e := by
  have shapes : d.shape = e.shape := by simpa [Item.key] using Item.equal_eq_true_iff.mp equal
  exact (matches_of_shape d e shapes).imp_of_leaves fun p _ q _ same => Parameter.equals_iff.mpr same

end Condition

namespace Session

/-- Where calls were given no parameters, what a condition writes in full is null or a text. -/
theorem isVerbatim_of_constructed {s : Session} (h : s.Consistent) {d : Condition}
    (constructed : s.Constructed (fun _ _ => False) d) : ∀ p ∈ d.leaves, p.IsVerbatim := by
  induction constructed with
  | @returned e d called given parts made ih =>
    intro p hp
    have ran := h.ran e called
    rw [made] at ran
    rcases Call.leaves_of_run ran hp with ⟨-, ⟨creates, held⟩ | other⟩ | ⟨part, hpart, -, hp⟩
    · exact Call.isVerbatim_of_returns (Call.returns_of_run ran) creates p held
    · exact (given p other).elim
    · exact ih part hpart p hp

/-- Equal conditions, on whichever commands, match in form and in their parameters. Both have a text
or none, and then for the same cause; both texts are empty or none, and they are the same but for
the placeholders. -/
theorem same_sql_of_equal {actions : List Action} {d e : Condition}
    (constructedD : (after actions).Constructed (fun _ _ => False) d)
    (constructedE : (after actions).Constructed (fun _ _ => False) e)
    (equal : Item.equal (.condition d) (.condition e) = .ok true) {operators : OperatorTable}
    (defined : operators.IsDefined) (flat : operators.NestsNone) :
    Condition.Matches Parameter.Equals d e ∧
      InStep SameEmptiness (d.text operators) (e.text operators) ∧
      InStep (Option.Rel (List.Forall₂ Parameter.Equals)) (d.parameters operators)
        (e.parameters operators) ∧
      ∀ marker, d.textWith operators (Parameter.markedText marker) =
        e.textWith operators (Parameter.markedText marker) := by
  have same := Condition.matches_of_equal equal
  have verbatimD := isVerbatim_of_constructed (consistent_after actions) constructedD
  have verbatimE := isVerbatim_of_constructed (consistent_after actions) constructedE
  let equalTexts (p q : Parameter) : Prop := p.Equals q ∧ p.IsVerbatim ∧ q.IsVerbatim
  have verbatim : d.Matches equalTexts e :=
    same.imp_of_leaves fun p hp q hq h => ⟨h, verbatimD p hp, verbatimE q hq⟩
  have congruent : Condition.Congruent operators equalTexts Parameter.text Parameter.text
      SameEmptiness := Condition.congruent_emptiness defined flat fun p q h => by
    obtain ⟨_, first⟩ := Parameter.exists_text_iff.mpr (Parameter.isWritable_of_isVerbatim h.2.1)
    obtain ⟨_, second⟩ := Parameter.exists_text_iff.mpr (Parameter.isWritable_of_isVerbatim h.2.2)
    rw [first, second]
    trivial
  refine ⟨same, Condition.textWith_inStep congruent verbatim,
    (Condition.parameters_inStep congruent verbatim).imp fun x y pairs => ?_, fun marker => ?_⟩
  · cases pairs with
    | none => exact .none
    | some each => exact .some (each.imp fun p q h => h.1)
  · exact Condition.textWith_eq_of_matches verbatim fun p q h =>
      Parameter.markedText_eq h.1 h.2.1 h.2.2 marker

end Session

namespace Sample

/-! The same negation on commands of two dialects. One command gives its lower bound as a number,
the other one as a truth value, which is the same number. -/

def abroad : Command := ⟨1, ⟨1, .oracle⟩, "q"⟩

def range (lower : Value) : Call :=
  .compare (some "age") "BETWEEN" [lower, .int 65] (some .integer)

def limit (c : Command) (value : Value) (number origin : Nat) : Parameter :=
  ⟨"age", .integer, value, true, c.parameterName number,
    c.dialect.placeholder (c.parameterName number), origin⟩

def ranged (c : Command) (lower : Value) (origin : Nat) : Condition :=
  .comparison c "BETWEEN" (limit c lower 0 origin) (some (limit c (.int 65) 1 (origin + 1)))

def outside (c : Command) (lower : Value) (origin : Nat) : Condition :=
  .negation c (ranged c lower origin)

def twins : List Action :=
  [.openCommand command.backend command.stem, .openCommand abroad.backend abroad.stem,
    .call 0 (range (.int 1)), .call 1 (range (.bool true)),
    .call 0 (.negate (some (ranged command (.int 1) 0))),
    .call 1 (.negate (some (ranged abroad (.bool true) 2)))]

theorem constructed_twins :
    (Session.after twins).Constructed (fun _ _ => False) (outside command (.int 1) 0) ∧
      (Session.after twins).Constructed (fun _ _ => False) (outside abroad (.bool true) 2) := by
  have here : (Session.after twins).Constructed (fun _ _ => False) (ranged command (.int 1) 0) :=
    .returned List.mem_cons_self nofun nofun rfl
  have there : (Session.after twins).Constructed (fun _ _ => False)
      (ranged abroad (.bool true) 2) := .returned (.tail _ List.mem_cons_self) nofun nofun rfl
  constructor
  · exact .returned (.tail _ (.tail _ List.mem_cons_self)) nofun
      (List.forall_mem_singleton.mpr here) rfl
  · exact .returned (.tail _ (.tail _ (.tail _ List.mem_cons_self))) nofun
      (List.forall_mem_singleton.mpr there) rfl

end Sample

namespace Session

open Sample

theorem same_sql_of_equal_twins :
    (outside command (.int 1) 0).text .builtIn =
        .ok "(NOT (age BETWEEN %(p0)s AND %(p1)s))" ∧
      (outside abroad (.bool true) 2).text .builtIn = .ok "(NOT (age BETWEEN :q0 AND :q1))" ∧
      InStep (Option.Rel (List.Forall₂ Parameter.Equals))
        ((outside command (.int 1) 0).parameters .builtIn)
        ((outside abroad (.bool true) 2).parameters .builtIn) ∧
      ∀ marker, (outside command (.int 1) 0).textWith .builtIn (Parameter.markedText marker) =
        (outside abroad (.bool true) 2).textWith .builtIn (Parameter.markedText marker) := by
  have equal : Item.equal (.condition (outside command (.int 1) 0))
      (.condition (outside abroad (.bool true) 2)) = .ok true := by decide +kernel
  obtain ⟨here, there⟩ := constructed_twins
  obtain ⟨-, -, parameters, marked⟩ := same_sql_of_equal here there equal
    OperatorTable.isDefined_builtIn OperatorTable.nestsNone_builtIn
  exact ⟨by decide +kernel, by decide +kernel, parameters, marked⟩

end Session
end Criteria
