import Criteria.Proofs.Condition.Constructed
import Mathlib.Logic.Relation

/-!
# Empty conditions

A condition that has nothing to say is left out wherever it stands. So a condition is written like
what is left of it once everything empty has been taken out and no group has a single member, and
empty conditions may be put into its groups or taken out of them at will.
-/

namespace Criteria

namespace Condition

mutual

/-- The comparisons and the memberships in a condition, from left to right. -/
def tips : Condition → List Condition
  | comparison c operator first second => [comparison c operator first second]
  | membership c column items negated => [membership c column items negated]
  | group _ _ conditions => tipsOfAll conditions
  | negation _ condition => tips condition

def tipsOfAll : List Condition → List Condition
  | [] => []
  | d :: rest => tips d ++ tipsOfAll rest

end

/-- A membership in no values at all. -/
def IsVoid (d : Condition) : Prop := ∃ c column negated, d = membership c column [] negated

theorem isVoid_membership {c : Command} {column : Option String} {items : List Parameter}
    {negated : Bool} : (membership c column items negated).IsVoid ↔ items = [] := by
  constructor
  · rintro ⟨_, _, _, same⟩
    cases same
    rfl
  · rintro rfl
    exact ⟨c, column, negated, rfl⟩

/-- A group of some conditions, unless there are fewer than two of them. -/
def regrouped (c : Command) (connective : Connective) : List Condition → Option Condition
  | [] => none
  | [d] => some d
  | d :: e :: others => some (group c connective (d :: e :: others))

mutual

/-- What is left of a condition without its empty parts, when no group is left with one member. -/
def condensed : Condition → Option Condition
  | comparison c operator first second => some (comparison c operator first second)
  | membership c column items negated =>
    if items.isEmpty then none else some (membership c column items negated)
  | group c connective conditions => regrouped c connective (condensedAll conditions)
  | negation c condition => (condensed condition).map (negation c)

def condensedAll : List Condition → List Condition
  | [] => []
  | d :: rest => (condensed d).toList ++ condensedAll rest

end

/-- A condition in which nothing is empty and each group has two members or more. -/
inductive Condensed : Condition → Prop
  | comparison {c : Command} {operator : String} {first : Parameter} {second : Option Parameter} :
      Condensed (.comparison c operator first second)
  | membership {c : Command} {column : Option String} {items : List Parameter} {negated : Bool}
      (filled : items ≠ []) : Condensed (.membership c column items negated)
  | group {c : Command} {connective : Connective} {conditions : List Condition}
      (several : 2 ≤ conditions.length) (each : ∀ d ∈ conditions, Condensed d) :
      Condensed (.group c connective conditions)
  | negation {c : Command} {condition : Condition} (inner : Condensed condition) :
      Condensed (.negation c condition)

variable (operators : OperatorTable)

/-- A comparison without values, perhaps negated, once or several times. -/
inductive Bare : Condition → Prop
  | comparison {c : Command} {operator : String} {op : Operator} {first : Parameter}
      {second : Option Parameter} (found : operators.get operator = .ok op)
      (arity : op.arity = 0) : Bare (.comparison c operator first second)
  | negation {c : Command} {condition : Condition} (inner : Bare condition) :
      Bare (.negation c condition)

/-- An empty condition is put into a group, which may stand anywhere in the condition. -/
inductive Inserts : Condition → Condition → Prop
  | here {c : Command} {connective : Connective} {before after : List Condition} {e : Condition}
      (empty : e.text operators = .ok "") :
      Inserts (.group c connective (before ++ after)) (.group c connective (before ++ e :: after))
  | member {c : Command} {connective : Connective} {before after : List Condition}
      {d e : Condition} (inner : Inserts d e) :
      Inserts (.group c connective (before ++ d :: after))
        (.group c connective (before ++ e :: after))
  | negation {c : Command} {d e : Condition} (inner : Inserts d e) :
      Inserts (.negation c d) (.negation c e)

/-- The parameters of a condition as a list, which is empty if it has no parameters at all. -/
def listed (d : Condition) : Except Error (List Parameter) :=
  (·.getD []) <$> d.parameters operators

/-- The text of a condition and its parameters. -/
def rendering (d : Condition) : Except Error (String × List Parameter) := do
  let text ← d.text operators
  return (text, ← d.listed operators)

/-- The same for a condition that may be absent. -/
def renderingIfAny (d : Option Condition) : Except Error (String × List Parameter) :=
  match d with
  | none => .ok ("", [])
  | some d => d.rendering operators

variable {operators}

/-- A comparison that can be written has a text, and values unless its operator takes none. -/
theorem comparison_of_text {c : Command} {operator : String} {first : Parameter}
    {second : Option Parameter} {text : String}
    (rendered : (comparison c operator first second).text operators = .ok text) :
    text ≠ "" ∧ ∃ op values, operators.get operator = .ok op ∧
      (comparison c operator first second).parameters operators =
        .ok (if op.arity = 0 then none else some values) := by
  obtain ⟨op, values, texts, inner, found, taken, -, -, rfl⟩ := comparisonText_ok rendered
  refine ⟨by simp [← String.toList_inj], op, values, found, ?_⟩
  simp only [parameters, found, taken, ok_bind]
  by_cases bare : op.arity = 0
  · rw [if_pos bare, if_pos bare]
    rfl
  · rw [if_neg bare, if_neg bare]
    rfl

theorem text_negation_ok {c : Command} {d : Condition} {text : String}
    (rendered : (negation c d).text operators = .ok text) :
    ∃ inner, d.text operators = .ok inner ∧ text = negated inner := by
  simp only [Condition.text, textWith, bind_eq_ok_iff] at rendered
  obtain ⟨inner, own, rendered⟩ := rendered
  cases rendered
  exact ⟨inner, own, rfl⟩

theorem parameters_negation {c : Command} {d : Condition} {inner : String}
    {given : Option (List Parameter)} (rendered : d.text operators = .ok inner)
    (taken : d.parameters operators = .ok given) (empty : inner = "" → given = some []) :
    (negation c d).parameters operators = .ok given := by
  rw [parameters, rendered, ok_bind]
  by_cases blank : inner = ""
  · rw [if_pos blank, empty blank]
    rfl
  · rw [if_neg blank, taken]

theorem textsWith_cons {d : Condition} {rest : List Condition} {text : String}
    (rendered : d.text operators = .ok text) :
    textsWith operators Parameter.text (d :: rest) =
      (text :: ·) <$> textsWith operators Parameter.text rest := by
  rw [textsWith, ← Condition.text, rendered]
  cases textsWith operators Parameter.text rest <;> rfl

theorem parametersOfAll_cons {d : Condition} {rest : List Condition} {text : String}
    {given : Option (List Parameter)} (rendered : d.text operators = .ok text)
    (taken : d.parameters operators = .ok given) (empty : text = "" → given = some []) :
    parametersOfAll operators (d :: rest) =
      (given.getD [] ++ ·) <$> parametersOfAll operators rest := by
  rw [parametersOfAll, rendered, taken, ok_bind]
  by_cases blank : text = ""
  · rw [if_pos blank, empty blank]
    cases parametersOfAll operators rest <;> rfl
  · rw [if_neg blank]
    cases parametersOfAll operators rest <;> rfl

mutual

/-- What can be written has parameters, and an empty list of them if nothing is written. -/
theorem parameters_of_text : (d : Condition) → {text : String} → d.text operators = .ok text →
    ∃ given, d.parameters operators = .ok given ∧ (text = "" → given = some [])
  | comparison c operator first second, text, rendered => by
    obtain ⟨filled, op, values, -, taken⟩ := comparison_of_text rendered
    exact ⟨_, taken, fun empty => absurd empty filled⟩
  | membership _ column items negated, text, rendered => by
    refine ⟨some items, rfl, fun empty => ?_⟩
    rw [(membershipText_empty_iff rendered).mp empty]
  | group _ connective conditions, text, rendered => by
    simp only [Condition.text, textWith, bind_eq_ok_iff] at rendered
    obtain ⟨texts, each, rendered⟩ := rendered
    cases rendered
    obtain ⟨all, taken, empty⟩ := parametersOfAll_of_texts conditions each
    refine ⟨some all, ?_, fun blank => by rw [empty (joined_eq_empty_iff.mp blank)]⟩
    rw [parameters, taken]
    rfl
  | negation _ condition, text, rendered => by
    obtain ⟨inner, own, rfl⟩ := text_negation_ok rendered
    obtain ⟨given, taken, empty⟩ := parameters_of_text condition own
    exact ⟨given, parameters_negation own taken empty, empty ∘ negated_eq_empty_iff.mp⟩

theorem parametersOfAll_of_texts : (conditions : List Condition) → {texts : List String} →
    textsWith operators Parameter.text conditions = .ok texts →
    ∃ all, parametersOfAll operators conditions = .ok all ∧ ((∀ t ∈ texts, t = "") → all = [])
  | [], _, _ => ⟨[], rfl, fun _ => rfl⟩
  | d :: rest, texts, rendered => by
    simp only [textsWith, bind_eq_ok_iff] at rendered
    obtain ⟨text, own, others, behind, rendered⟩ := rendered
    cases rendered
    obtain ⟨given, taken, empty⟩ := parameters_of_text d own
    obtain ⟨all, takenAll, empties⟩ := parametersOfAll_of_texts rest behind
    refine ⟨given.getD [] ++ all, ?_, fun each => ?_⟩
    · rw [parametersOfAll_cons own taken empty, takenAll]
      rfl
    · obtain ⟨first, others⟩ := List.forall_mem_cons.mp each
      rw [empty first, empties others]
      rfl

end

/-- The renderings of the members of a group, put together. -/
def gathered (connective : Connective) (parts : List (String × List Parameter)) :
    String × List Parameter :=
  (joined connective (parts.map Prod.fst), parts.flatMap Prod.snd)

theorem gathered_skip (connective : Connective) (front parts : List (String × List Parameter)) :
    gathered connective (front ++ ("", []) :: parts) = gathered connective (front ++ parts) := by
  simp [gathered, joined]

theorem rendering_ok {d : Condition} {text : String} {given : Option (List Parameter)}
    (rendered : d.text operators = .ok text) (taken : d.parameters operators = .ok given) :
    d.rendering operators = .ok (text, given.getD []) := by
  rw [rendering, rendered, ok_bind, listed, taken]
  rfl

theorem rendering_of_text {d : Condition} {text : String}
    (rendered : d.text operators = .ok text) :
    ∃ given, d.parameters operators = .ok given ∧ (text = "" → given = some []) ∧
      d.rendering operators = .ok (text, given.getD []) := by
  obtain ⟨given, taken, empty⟩ := parameters_of_text d rendered
  exact ⟨given, taken, empty, rendering_ok rendered taken⟩

theorem rendering_of_error {d : Condition} {e : Error} (failed : d.text operators = .error e) :
    d.rendering operators = .error e := by
  rw [rendering, failed]
  rfl

/-- Members are written one after the other, texts and parameters alike. -/
theorem rendering_all (conditions : List Condition) :
    (do
      let texts ← textsWith operators Parameter.text conditions
      return (texts, ← parametersOfAll operators conditions)) =
    (fun parts => (parts.map Prod.fst, parts.flatMap Prod.snd)) <$>
      conditions.mapM (rendering operators) := by
  induction conditions with
  | nil => rfl
  | cons d rest ih =>
    cases rendered : d.text operators with
    | error e =>
      rw [List.mapM_cons, rendering_of_error rendered, textsWith, ← text, rendered]
      rfl
    | ok text =>
      obtain ⟨given, taken, empty, own⟩ := rendering_of_text rendered
      rw [List.mapM_cons, own, textsWith_cons rendered, parametersOfAll_cons rendered taken empty]
      cases texts : textsWith operators Parameter.text rest <;>
        cases all : parametersOfAll operators rest <;>
        cases parts : rest.mapM (rendering operators) <;>
        rw [texts, all, parts] at ih <;> cases ih <;> rfl

theorem rendering_group (c : Command) (connective : Connective) (conditions : List Condition) :
    (group c connective conditions).rendering operators =
      gathered connective <$> conditions.mapM (rendering operators) := by
  have members := @rendering_all operators conditions
  rw [rendering, listed, text, textWith, parameters]
  cases texts : textsWith operators Parameter.text conditions <;>
    cases all : parametersOfAll operators conditions <;>
    cases parts : conditions.mapM (rendering operators) <;>
    rw [texts, all, parts] at members <;> cases members <;> rfl

theorem rendering_negation (c : Command) (condition : Condition) :
    (negation c condition).rendering operators =
      (fun part => (negated part.1, part.2)) <$> condition.rendering operators := by
  cases rendered : condition.text operators with
  | error e =>
    have failed : (negation c condition).text operators = .error e := by
      rw [text, textWith, ← text, rendered]
      rfl
    rw [rendering_of_error rendered, rendering_of_error failed]
    rfl
  | ok inner =>
    obtain ⟨given, taken, empty, own⟩ := rendering_of_text rendered
    have whole : (negation c condition).text operators = .ok (negated inner) := by
      rw [text, textWith, ← text, rendered]
      rfl
    rw [own, rendering_ok whole (parameters_negation rendered taken empty)]
    rfl

/-- What a command writes for a condition is how the condition is rendered. -/
theorem compile_eq (c : Command) (d : Condition) :
    c.compile operators d =
      (fun part => ⟨part.1, .ofParameters part.2, c.dialect.name⟩) <$> d.rendering operators := by
  rw [Command.compile, bindings, rendering, listed]
  cases d.text operators <;> cases d.parameters operators <;> rfl

/-! What the leaves say. -/

mutual

/-- A condition is empty when its leaves are, and its parameters are those of its leaves. -/
theorem rendering_tips : (d : Condition) → {part : String × List Parameter} →
    d.rendering operators = .ok part →
    (part.1 = "" ↔ ∀ leaf ∈ d.tips, leaf.IsVoid) ∧
      ∃ lists, d.tips.mapM (listed operators) = .ok lists ∧ part.2 = lists.flatten
  | comparison c operator first second, part, h => by
    simp only [rendering, bind_eq_ok_iff] at h
    obtain ⟨text, rendered, given, own, h⟩ := h
    cases h
    obtain ⟨filled, -⟩ := comparison_of_text rendered
    refine ⟨⟨fun empty => absurd empty filled, fun void => ?_⟩, [given], ?_, by simp⟩
    · obtain ⟨_, _, _, other⟩ := void _ List.mem_cons_self
      cases other
    · rw [tips, List.mapM_cons, own]
      rfl
  | membership c column items negated, part, h => by
    simp only [rendering, bind_eq_ok_iff] at h
    obtain ⟨text, rendered, given, own, h⟩ := h
    cases own
    cases h
    refine ⟨?_, [items], rfl, by simp⟩
    rw [membershipText_empty_iff rendered, tips, List.forall_mem_singleton, isVoid_membership]
  | group c connective conditions, part, h => by
    rw [rendering_group, map_eq_ok_iff] at h
    obtain ⟨parts, members, rfl⟩ := h
    rw [gathered, joined_eq_empty_iff, List.forall_mem_map]
    exact rendering_tipsOfAll conditions members
  | negation c condition, part, h => by
    rw [rendering_negation, map_eq_ok_iff] at h
    obtain ⟨inner, own, rfl⟩ := h
    rw [negated_eq_empty_iff]
    exact rendering_tips condition own

theorem rendering_tipsOfAll : (conditions : List Condition) →
    {parts : List (String × List Parameter)} →
    conditions.mapM (rendering operators) = .ok parts →
    ((∀ part ∈ parts, part.1 = "") ↔ ∀ leaf ∈ tipsOfAll conditions, leaf.IsVoid) ∧
      ∃ lists, (tipsOfAll conditions).mapM (listed operators) = .ok lists ∧
        parts.flatMap Prod.snd = lists.flatten
  | [], parts, h => by
    cases h
    exact ⟨by simp [tipsOfAll], [], rfl, rfl⟩
  | d :: rest, parts, h => by
    simp only [List.mapM_cons, bind_eq_ok_iff] at h
    obtain ⟨part, own, others, behind, h⟩ := h
    cases h
    obtain ⟨empty, lists, taken, same⟩ := rendering_tips d own
    obtain ⟨empties, lists', taken', same'⟩ := rendering_tipsOfAll rest behind
    refine ⟨?_, lists ++ lists', ?_, ?_⟩
    · rw [List.forall_mem_cons, tipsOfAll, List.forall_mem_append, empty, empties]
    · rw [tipsOfAll, List.mapM_append, taken, ok_bind, taken']
      rfl
    · rw [List.flatMap_cons, List.flatten_append, same, same']

end

/-! What is left without the empty parts. -/

theorem gathered_singleton (connective : Connective) (part : String × List Parameter) :
    gathered connective [part] = part := by
  obtain ⟨text, given⟩ := part
  by_cases empty : text = ""
  · simp [gathered, joined, empty]
  · simp [gathered, joined, empty]

/-- Members are rendered from left to right. -/
theorem gathered_mapM_cons (connective : Connective) (front : List (String × List Parameter))
    (d : Condition) (rest : List Condition) :
    (fun parts => gathered connective (front ++ parts)) <$> (d :: rest).mapM (rendering operators) =
      d.rendering operators >>= fun part =>
        (fun parts => gathered connective (front ++ part :: parts)) <$>
          rest.mapM (rendering operators) := by
  rw [List.mapM_cons]
  cases d.rendering operators with
  | error e => rfl
  | ok part => cases rest.mapM (rendering operators) <;> rfl

theorem rendering_regrouped (c : Command) (connective : Connective) (conditions : List Condition) :
    gathered connective <$> conditions.mapM (rendering operators) =
      renderingIfAny operators (regrouped c connective conditions) := by
  match conditions with
  | [] => rfl
  | [d] =>
    rw [regrouped, renderingIfAny, List.mapM_cons]
    cases d.rendering operators with
    | error e => rfl
    | ok part => exact congrArg Except.ok (gathered_singleton connective part)
  | d :: e :: others => rw [regrouped, renderingIfAny, rendering_group]

mutual

/-- A condition is rendered like what is left of it. -/
theorem rendering_condensed : (d : Condition) →
    d.rendering operators = renderingIfAny operators d.condensed
  | comparison _ _ _ _ => rfl
  | membership c column items negated => by
    cases items <;> rfl
  | group c connective conditions => by
    rw [rendering_group, condensed, ← rendering_regrouped]
    exact gathered_condensedAll connective conditions []
  | negation c condition => by
    rw [rendering_negation, rendering_condensed condition, condensed]
    cases condition.condensed with
    | none => rfl
    | some inner => exact (rendering_negation c inner).symm

/-- Empty members are skipped behind whatever has been rendered before, the `front`: how a text is
joined depends on all members at once. -/
theorem gathered_condensedAll (connective : Connective) : (conditions : List Condition) →
    (front : List (String × List Parameter)) →
    (fun parts => gathered connective (front ++ parts)) <$>
        conditions.mapM (rendering operators) =
      (fun parts => gathered connective (front ++ parts)) <$>
        (condensedAll conditions).mapM (rendering operators)
  | [], _ => rfl
  | d :: rest, front => by
    have own := rendering_condensed d
    cases left : d.condensed with
    | none =>
      rw [left] at own
      rw [gathered_mapM_cons, own, condensedAll, left]
      simp only [renderingIfAny, ok_bind, gathered_skip]
      exact gathered_condensedAll connective rest front
    | some n =>
      rw [left] at own
      have shape : condensedAll (d :: rest) = n :: condensedAll rest := by
        rw [condensedAll, left]
        rfl
      rw [shape, gathered_mapM_cons, gathered_mapM_cons, own, renderingIfAny]
      congr 1
      funext part
      have behind := gathered_condensedAll connective rest (front ++ [part])
      simpa only [List.append_assoc, List.singleton_append] using behind

end

theorem condensed_regrouped {c : Command} {connective : Connective} {conditions : List Condition}
    (each : ∀ d ∈ conditions, d.Condensed) :
    ∀ n ∈ regrouped c connective conditions, n.Condensed := by
  match conditions with
  | [] => exact nofun
  | [d] => exact fun n same => Option.some.inj same ▸ each d List.mem_cons_self
  | d :: e :: others =>
    intro n same
    cases same
    exact .group (by simp) each

mutual

theorem condensed_condensed : (d : Condition) → ∀ n ∈ d.condensed, n.Condensed
  | comparison _ _ _ _, n, same => by
    cases same
    exact .comparison
  | membership _ _ items _, n, same => by
    cases items with
    | nil => cases same
    | cons p rest =>
      cases same
      exact .membership (by simp)
  | group c connective conditions, n, same =>
    condensed_regrouped (condensed_condensedAll conditions) n same
  | negation c condition, n, same => by
    obtain ⟨inner, found, rfl⟩ := Option.map_eq_some_iff.mp same
    exact .negation (condensed_condensed condition inner found)

theorem condensed_condensedAll : (conditions : List Condition) →
    ∀ n ∈ condensedAll conditions, n.Condensed
  | [], _, mem => nomatch mem
  | d :: rest, n, mem => by
    rcases List.mem_append.mp mem with mem | mem
    · exact condensed_condensed d n (Option.mem_toList.mp mem)
    · exact condensed_condensedAll rest n mem

end

mutual

/-- Nothing is left when all leaves are empty, and only then. -/
theorem condensed_eq_none_iff : (d : Condition) →
    (d.condensed = none ↔ ∀ leaf ∈ d.tips, leaf.IsVoid)
  | comparison _ _ _ _ => by simp [condensed, tips, IsVoid]
  | membership c column items negated => by
    rw [tips, List.forall_mem_singleton, isVoid_membership]
    simp [condensed]
  | group c connective conditions => by
    rw [tips, ← condensedAll_eq_nil_iff conditions, condensed]
    match condensedAll conditions with
    | [] => simp [regrouped]
    | [d] => simp [regrouped]
    | d :: e :: others => simp [regrouped]
  | negation c condition => by
    rw [condensed, Option.map_eq_none_iff]
    exact condensed_eq_none_iff condition

theorem condensedAll_eq_nil_iff : (conditions : List Condition) →
    (condensedAll conditions = [] ↔ ∀ leaf ∈ tipsOfAll conditions, leaf.IsVoid)
  | [] => by simp [condensedAll, tipsOfAll]
  | d :: rest => by
    rw [condensedAll, tipsOfAll, List.forall_mem_append, List.append_eq_nil_iff,
      Option.toList_eq_nil_iff, condensed_eq_none_iff d, condensedAll_eq_nil_iff rest]

end

/-- An empty condition that is put into a group changes nothing. -/
theorem rendering_inserts {d e : Condition} (inserts : Inserts operators d e) :
    e.rendering operators = d.rendering operators := by
  induction inserts with
  | @here c connective before after e empty =>
    obtain ⟨given, -, whenEmpty, own⟩ := rendering_of_text empty
    rw [whenEmpty rfl] at own
    rw [rendering_group, rendering_group, List.mapM_append, List.mapM_append, List.mapM_cons, own]
    cases before.mapM (rendering operators) with
    | error e => rfl
    | ok front =>
      cases after.mapM (rendering operators) with
      | error e => rfl
      | ok behind => exact congrArg Except.ok (gathered_skip connective front behind)
  | member inner ih =>
    rw [rendering_group, rendering_group, List.mapM_append, List.mapM_append, List.mapM_cons,
      List.mapM_cons, ih]
  | negation inner ih => rw [rendering_negation, rendering_negation, ih]

theorem rendering_eqvGen {d e : Condition} (changed : Relation.EqvGen (Inserts operators) d e) :
    e.rendering operators = d.rendering operators := by
  induction changed with
  | rel d e inserts => exact rendering_inserts inserts
  | refl d => rfl
  | symm d e _ ih => exact ih.symm
  | trans d e f _ _ first second => exact second.trans first

/-- A condition has no parameters at all when it is a comparison without values, perhaps negated. -/
theorem parameters_eq_none_iff : (d : Condition) → {text : String} →
    d.text operators = .ok text → {given : Option (List Parameter)} →
    d.parameters operators = .ok given → (given = none ↔ d.Bare operators)
  | comparison c operator first second, text, rendered, given, taken => by
    obtain ⟨-, op, values, found, own⟩ := comparison_of_text rendered
    obtain rfl := Except.ok.inj (taken.symm.trans own)
    constructor
    · intro missing
      by_cases bare : op.arity = 0
      · exact .comparison found bare
      · rw [if_neg bare] at missing
        cases missing
    · rintro (@⟨_, _, op', _, _, found', bare⟩)
      obtain rfl := Except.ok.inj (found.symm.trans found')
      rw [if_pos bare]
  | membership _ _ items _, _, _, given, taken => by
    cases taken
    exact ⟨nofun, nofun⟩
  | group _ _ conditions, _, _, given, taken => by
    simp only [parameters, bind_eq_ok_iff] at taken
    obtain ⟨all, -, taken⟩ := taken
    cases taken
    exact ⟨nofun, nofun⟩
  | negation c condition, text, rendered, given, taken => by
    obtain ⟨inner, own, -⟩ := text_negation_ok rendered
    obtain ⟨given', taken', empty⟩ := parameters_of_text condition own
    have through := parameters_negation (c := c) own taken' empty
    obtain rfl := Except.ok.inj (taken.symm.trans through)
    rw [parameters_eq_none_iff condition own taken']
    exact ⟨.negation, fun | .negation inner => inner⟩

/-- Empty conditions vanish. A condition is empty when no leaf of it has a text; it is compiled like
what is left without its empty parts, and like every condition that arises when empty ones are put
into its groups or taken out of them; and its parameters are those of its leaves. -/
theorem condensed_of_text {d : Condition} {text : String}
    (rendered : d.text operators = .ok text) :
    (text = "" ↔ ∀ leaf ∈ d.tips, leaf.IsVoid) ∧
    (match d.condensed with
      | none => text = "" ∧ ∀ c : Command, c.compile operators d = .ok ⟨"", .empty, c.dialect.name⟩
      | some n => text ≠ "" ∧ n.Condensed ∧
        ∀ c : Command, c.compile operators n = c.compile operators d) ∧
    (∀ e, Relation.EqvGen (Inserts operators) d e →
      ∀ c : Command, c.compile operators e = c.compile operators d) ∧
    ∃ given, d.parameters operators = .ok given ∧
      (∀ c : Command, c.compile operators d =
        .ok ⟨text, .ofParameters (given.getD []), c.dialect.name⟩) ∧
      (∃ lists, d.tips.mapM (listed operators) = .ok lists ∧ given.getD [] = lists.flatten) ∧
      (given = none ↔ d.Bare operators) ∧ (text = "" → given = some []) := by
  obtain ⟨given, taken, empty, own⟩ := rendering_of_text rendered
  obtain ⟨leaves, lists⟩ := rendering_tips d own
  have left := @rendering_condensed operators d
  have compiled (c : Command) : c.compile operators d =
      .ok ⟨text, .ofParameters (given.getD []), c.dialect.name⟩ := by
    rw [compile_eq, own]
    rfl
  refine ⟨leaves, ?_, ?_, given, taken, compiled, lists, parameters_eq_none_iff d rendered taken,
    empty⟩
  · cases condensed : d.condensed with
    | none =>
      have blank : text = "" := leaves.mpr ((condensed_eq_none_iff d).mp condensed)
      refine ⟨blank, fun c => ?_⟩
      rw [compiled, blank, empty blank]
      rfl
    | some n =>
      rw [condensed] at left
      refine ⟨fun blank => ?_, condensed_condensed d n condensed, fun c => ?_⟩
      · rw [(condensed_eq_none_iff d).mpr (leaves.mp blank)] at condensed
        cases condensed
      · rw [compile_eq, compile_eq, left, renderingIfAny]
  · intro e changed c
    rw [compile_eq, compile_eq, rendering_eqvGen changed]

end Condition

namespace Sample

/-! A negated comparison without values in a group whose other members are empty. -/

def null : Condition :=
  .negation command (.comparison command "IS_NULL" (bound "id" .null 0) none)

def thin : Condition :=
  .group command .and [.membership command none [] false,
    .negation command (.group command .or []), null]

end Sample

namespace Condition

theorem condensed_of_text_thin :
    Sample.thin.text .builtIn = .ok "(NOT (id IS NULL))" ∧
      (∀ c : Command, c.compile .builtIn Sample.null = c.compile .builtIn Sample.thin) ∧
      ∃ given, Sample.thin.parameters .builtIn = .ok given ∧
        (given = none ↔ Sample.thin.Bare .builtIn) := by
  have rendered : Sample.thin.text .builtIn = .ok "(NOT (id IS NULL))" := rfl
  obtain ⟨-, left, -, given, taken, -, -, bare, -⟩ := condensed_of_text rendered
  exact ⟨rendered, left.2.2, given, taken, bare⟩

end Condition
end Criteria
