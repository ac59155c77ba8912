import Criteria.Proofs.Characters
import Criteria.Proofs.Clause
import Criteria.Proofs.Condition.Returned

/-!
# Clauses of conditions

The text of a condition spells its logical structure: what is read from it is the normal form of
the condition, in which nothing is empty and no group has a single member. So conditions with one
text have one normal form, although a leaf may itself contain `AND`, `NOT` and parentheses.
-/

namespace Criteria

namespace Clause

open Text

/-- A text in which each parenthesis that is opened is closed, and the other way round. -/
def Balanced (s : String) : Prop :=
  ∀ depth rest, closing depth (s.toList ++ rest) =
    (closing depth rest).map fun cut => (s.toList ++ cut.1, cut.2)

theorem balanced_append {s t : String} (hs : Balanced s) (ht : Balanced t) :
    Balanced (s ++ t) := by
  intro depth rest
  rw [String.toList_append, List.append_assoc, hs, ht, Option.map_map]
  simp [Function.comp_def]

theorem balanced_of_plain {s : String} (plain : Lacks ['(', ')'] s) : Balanced s := by
  intro depth rest
  unfold Lacks at plain
  generalize s.toList = s at plain
  induction s with
  | nil => simp
  | cons c s ih =>
    rw [List.forall_mem_cons] at plain
    obtain ⟨opening, closed⟩ : c ≠ '(' ∧ c ≠ ')' := by simpa using plain.1
    have same : depthAfter depth c = some depth := by simp [depthAfter, opening, closed]
    rw [List.cons_append, closing, same]
    simp only [ih plain.2, Option.map_map]
    rfl

theorem balanced_of_solid {s : String} (solid : Solid s) : Balanced s :=
  balanced_of_plain fun c hc => List.not_mem_of_not_mem_cons (solid c hc)

theorem balanced_parenthesized {s : String} (inner : Balanced s) :
    Balanced ("(" ++ s ++ ")") := by
  intro depth rest
  have shape : ("(" ++ s ++ ")").toList ++ rest = '(' :: (s.toList ++ ')' :: rest) := by simp
  have opened : depthAfter depth '(' = some (depth + 1) := rfl
  have closed : depthAfter (depth + 1) ')' = some depth := rfl
  rw [shape, closing, opened]
  simp only [inner (depth + 1) (')' :: rest), closing, closed, Option.map_map]
  simp [Function.comp_def]

theorem opensGroup_of_solid {column : List Char} (solid : ∀ a ∈ column, a ∉ [' ', '(', ')'])
    (rest : List Char) : opensGroup ('(' :: (column ++ ' ' :: rest)) = false := by
  rw [Bool.eq_false_iff]
  intro opens
  obtain ⟨inner, front⟩ := Option.isSome_iff_exists.mp opens
  have same : column ++ ' ' :: rest = '(' :: inner :=
    (List.cons.inj (dropLead?_eq_some_iff.mp front)).2
  cases column with
  | nil => cases same
  | cons a more =>
    cases same
    exact solid '(' List.mem_cons_self (by simp)

/-- A blank ends the word `NOT` and no longer one, and then no parenthesis follows. -/
theorem opensNegation_of_solid {column : List Char} (solid : ∀ a ∈ column, a ∉ [' ', '(', ')'])
    {c : Char} (other : c ≠ '(') (rest : List Char) :
    opensNegation ('(' :: (column ++ ' ' :: c :: rest)) = false := by
  rw [Bool.eq_false_iff]
  intro opens
  obtain ⟨inner, front⟩ := Option.isSome_iff_exists.mp opens
  have same : column ++ ' ' :: c :: rest = ['N', 'O', 'T'] ++ ' ' :: '(' :: inner :=
    (List.cons.inj (dropLead?_eq_some_iff.mp front)).2
  have own : ∀ a ∈ column, decide (a ≠ ' ') = true := by
    intro a ha
    have blank : a ≠ ' ' := fun blank => solid a ha (by simp [blank])
    simpa using blank
  have words := congrArg (List.takeWhile fun a => decide (a ≠ ' ')) same
  rw [List.takeWhile_append_of_pos own, List.takeWhile_append_of_pos (by simp)] at words
  have word : column = ['N', 'O', 'T'] := by simpa using words
  rw [word] at same
  exact other (List.cons.inj (List.cons.inj (List.append_cancel_left same)).2).1

/-- A column with something behind it makes a leaf. -/
theorem isLeaf_of_column {column behind : String} (solid : Solid column) (spaced : Spaced behind)
    (balanced : Balanced behind) : IsLeaf ("(" ++ (column ++ behind) ++ ")") := by
  obtain ⟨c, rest, shape, other⟩ := spaced
  have text : ("(" ++ (column ++ behind) ++ ")").toList =
      '(' :: (column.toList ++ ' ' :: c :: (rest ++ [')'])) := by simp [shape]
  have whole : Balanced (column ++ behind) := balanced_append (balanced_of_solid solid) balanced
  refine ⟨?_, ?_, (column ++ behind).toList ++ [')'], by simp, ?_⟩
  · rw [text]
    exact opensGroup_of_solid solid _
  · rw [text]
    exact opensNegation_of_solid solid other _
  · rw [whole]
    simp [closing, depthAfter]

theorem balanced_around_of_plain {m : Marker} (before : Lacks ['(', ')'] m.before)
    (after : Lacks ['(', ')'] m.after) {name : String} (inner : Balanced name) :
    Balanced (m.around name) :=
  balanced_append (balanced_append (balanced_of_plain before) inner) (balanced_of_plain after)

theorem balanced_around {d : Dialect} (builtIn : d ∈ Dialect.builtIn) {name : String}
    (solid : Solid name) : Balanced (d.marker.around name) := by
  have inner : Balanced name := balanced_of_solid solid
  have known := Dialect.marker_of_builtIn d builtIn
  simp only [List.mem_cons, List.not_mem_nil, or_false] at known
  rcases known with marker | marker | marker
  · rw [marker]
    exact balanced_around_of_plain (by decide) (by decide) inner
  · rw [marker]
    exact balanced_around_of_plain (by decide) (by decide) inner
  · have shape : "%(" ++ name ++ ")s" = "%" ++ ("(" ++ name ++ ")") ++ "s" := by
      simp [← String.toList_inj]
    rw [marker, Marker.around, shape]
    exact balanced_append (balanced_append (balanced_of_plain (by decide))
      (balanced_parenthesized inner)) (balanced_of_plain (by decide))

theorem balanced_intercalate {separator : String} (apart : Balanced separator)
    {texts : List String} (each : ∀ t ∈ texts, Balanced t) :
    Balanced (separator.intercalate texts) := by
  induction texts with
  | nil => exact balanced_of_plain (by simp [Lacks])
  | cons t texts ih =>
    rw [List.forall_mem_cons] at each
    cases texts with
    | nil => simpa using each.1
    | cons u texts =>
      rw [String.intercalate_cons_cons]
      exact balanced_append (balanced_append each.1 apart) (ih each.2)

end Clause

open Clause Text

variable {c : Command} {operators : OperatorTable} {own : Parameter → Prop}

theorem balanced_text (dialect : c.dialect ∈ Dialect.builtIn) (stem : isIdentifier c.stem = true)
    {p : Parameter} (shown : c.Shows Solid p) {text : String} (written : p.text = .ok text) :
    Balanced text := by
  rcases shown with ⟨n, bindable, name, placeholder⟩ | ⟨inlined, solid⟩
  · have identifier : Solid p.name :=
      lacks_of_isIdentifier (name ▸ isIdentifier_parameterName stem n) (by decide)
    rw [Parameter.text, if_pos bindable, placeholder] at written
    obtain rfl := Except.ok.inj written
    exact balanced_around dialect identifier
  · rw [Parameter.text, inlined] at written
    exact balanced_of_solid (solid text written)

theorem balanced_texts (dialect : c.dialect ∈ Dialect.builtIn)
    (stem : isIdentifier c.stem = true) {parameters : List Parameter} {texts : List String}
    (shown : ∀ p ∈ parameters, c.Shows Solid p)
    (written : parameters.mapM Parameter.text = .ok texts) : ∀ t ∈ texts, Balanced t := by
  intro t ht
  obtain ⟨p, hp, own⟩ := exists_of_mapM_ok written ht
  exact balanced_text dialect stem (shown p hp) own

namespace OperatorTable

theorem words_spaced {arity : Int} : ∀ w ∈ words arity, Spaced w := by
  intro w hw
  unfold words at hw
  split at hw
  · simp only [List.mem_cons, List.not_mem_nil, or_false] at hw
    rcases hw with rfl | rfl <;> exact ⟨_, _, rfl, by decide⟩
  · split at hw
    · simp only [List.mem_cons, List.not_mem_nil, or_false] at hw
      rcases hw with rfl | rfl | rfl | rfl | rfl | rfl | rfl | rfl <;>
        exact ⟨_, _, rfl, by decide⟩
    · simp only [List.mem_cons, List.not_mem_nil, or_false] at hw
      rcases hw with rfl | rfl <;> exact ⟨_, _, rfl, by decide⟩

theorem words_balanced {arity : Int} : ∀ w ∈ words arity, Balanced w := by
  have plain : ∀ w ∈ words arity, Lacks ['(', ')'] w := by
    unfold words
    split
    · decide
    · split <;> decide
  exact fun w hw => balanced_of_plain (plain w hw)

theorem balanced_behindColumn {word : String} (known : Balanced word) {values : List String}
    (few : values.length ≤ 2) (each : ∀ v ∈ values, Balanced v) :
    Balanced (behindColumn word values) := by
  have between : Balanced joint := balanced_of_plain (by decide)
  match values, few with
  | [], _ => exact known
  | [v], _ => exact balanced_append known (each v (by simp))
  | [v, w], _ =>
    exact balanced_append (balanced_append (balanced_append known (each v (by simp))) between)
      (each w (by simp))
  | _ :: _ :: _ :: _, few => simp at few

theorem spaced_behindColumn {word : String} (known : Spaced word) (values : List String) :
    Spaced (behindColumn word values) := by
  match values with
  | [] => exact known
  | [v] => exact spaced_append known v
  | v :: w :: _ => exact spaced_append (spaced_append (spaced_append known v) joint) w

end OperatorTable

/-! The normal form: the conditions that have a text, with groups of two or more. -/

/-- The clause for some clauses that are joined: a single one stands alone. -/
def Clause.gather (k : Connective) : List Clause → Option Clause
  | [] => none
  | [c] => some c
  | c :: e :: others => some (group k c e others)

namespace Clause

theorem text_ne_empty {clause : Clause} (proper : clause.Proper) : clause.text ≠ "" := by
  obtain ⟨rest, shape⟩ := text_of_proper proper
  intro empty
  rw [empty] at shape
  cases shape

theorem intercalate_eq_behind (k : Connective) (clause : Clause) (others : List Clause) :
    (separator k).intercalate ((clause :: others).map text) = clause.text ++ behind k others := by
  induction others generalizing clause with
  | nil => simp [behind]
  | cons e others ih =>
    have next := ih e
    rw [List.map_cons] at next
    rw [List.map_cons, List.map_cons, String.intercalate_cons_cons, next, behind]
    simp only [String.append_assoc]

/-- Texts that are joined spell the clause that is put together from their clauses. -/
theorem joined_eq_gather {k : Connective} {texts : List String} {clauses : List Clause}
    (filled : texts.filter (· ≠ "") = clauses.map text) :
    Condition.joined k texts = ((gather k clauses).map text).getD "" := by
  rw [Condition.joined, filled]
  cases clauses with
  | nil => rfl
  | cons clause others =>
    cases others with
    | nil => rfl
    | cons e others =>
      have whole := intercalate_eq_behind k clause (e :: others)
      rw [behind, ← String.append_assoc, ← String.append_assoc] at whole
      calc
        _ = "(" ++ (separator k).intercalate ((clause :: e :: others).map text) ++ ")" := rfl
        _ = (group k clause e others).text := by
          rw [whole, text]
          simp only [String.append_assoc]

theorem proper_of_gather {k : Connective} {clauses : List Clause}
    (proper : ∀ clause ∈ clauses, clause.Proper) :
    ∀ clause ∈ gather k clauses, clause.Proper := by
  match clauses with
  | [] => exact nofun
  | [clause] => exact fun _ h => Option.some.inj h ▸ proper clause List.mem_cons_self
  | clause :: e :: others =>
    intro whole hwhole
    cases hwhole
    simp only [List.forall_mem_cons] at proper
    exact .group proper.1 proper.2.1 proper.2.2

end Clause

namespace Condition

mutual

/-- The logical structure of a condition, if it has a text. -/
def normalForm (operators : OperatorTable) : Condition → Except Error (Option Clause)
  | comparison _ operator first second => do
    return some (.leaf (← comparisonText operators Parameter.text operator first second))
  | membership _ column items negated => do
    let text ← membershipText Parameter.text column items negated
    return if items.isEmpty then none else some (.leaf text)
  | group _ k conditions => do return gather k (← normalForms operators conditions)
  | negation _ condition => do return (← normalForm operators condition).map .negation

/-- The structures of the conditions that have a text. -/
def normalForms (operators : OperatorTable) : List Condition → Except Error (List Clause)
  | [] => .ok []
  | d :: rest => do return (← normalForm operators d).toList ++ (← normalForms operators rest)

end

/-- What is known of a condition whose text spells its normal form. -/
structure Spells (operators : OperatorTable) (d : Condition) (text : String)
    (form : Option Clause) : Prop where
  text_eq : d.text operators = .ok text
  form_eq : d.normalForm operators = .ok form
  spelled : text = (form.map Clause.text).getD ""
  proper : ∀ clause ∈ form, clause.Proper

variable {text : String}

theorem spells_comparison (dialect : c.dialect ∈ Dialect.builtIn)
    (stem : isIdentifier c.stem = true) {b : Command} {operator : String} {op : Operator}
    {first : Parameter} {second : Option Parameter} {values : List Parameter}
    (known : OperatorTable.builtIn.find? operator = some op)
    (kept : operators.find? operator = some op) (taken : comparands op first second = .ok values)
    (count : (values.length : Int) = op.arity) (column : Solid first.column)
    (shown : ∀ p ∈ values, c.Shows Solid p)
    (rendered : (comparison b operator first second).text operators = .ok text) :
    ∃ form, Spells operators (.comparison b operator first second) text form := by
  obtain ⟨word, hword, written⟩ :=
    comparisonText_builtIn known kept taken count Parameter.text
  obtain ⟨texts, found, rfl⟩ := map_eq_ok_iff.mp (written.symm.trans rendered)
  have few : texts.length ≤ 2 := length_of_mapM_ok found ▸ length_le_two known count
  have balanced := OperatorTable.balanced_behindColumn (OperatorTable.words_balanced word hword)
    few (balanced_texts dialect stem shown found)
  have spaced := OperatorTable.spaced_behindColumn (OperatorTable.words_spaced word hword) texts
  refine ⟨some (.leaf _), rendered, ?_, rfl, ?_⟩
  · rw [normalForm, written, found]
    rfl
  · intro clause hclause
    cases hclause
    exact .leaf (isLeaf_of_column column spaced balanced)

theorem spells_membership (dialect : c.dialect ∈ Dialect.builtIn)
    (stem : isIdentifier c.stem = true) {b : Command} {column : Option String}
    {items : List Parameter} {negated : Bool} (solid : ∀ name ∈ column, Solid name)
    (shown : ∀ p ∈ items, c.Shows Solid p)
    (rendered : (membership b column items negated).text operators = .ok text) :
    ∃ form, Spells operators (.membership b column items negated) text form := by
  have form : (membership b column items negated).normalForm operators =
      .ok (if items.isEmpty then none else some (.leaf text)) := by
    rw [normalForm, show membershipText Parameter.text column items negated = .ok text from rendered]
    rfl
  obtain ⟨texts, found, listed⟩ := membershipText_eq_ok_iff.mp rendered
  have length := length_of_mapM_ok found
  cases items with
  | nil =>
    obtain rfl := List.eq_nil_of_length_eq_zero length
    exact ⟨none, rendered, form, listed, nofun⟩
  | cons p rest =>
    have name : Solid (Report.nameText column) := by
      cases column with
      | none => decide
      | some name => exact solid name rfl
    let behind := (if negated then " NOT IN " else " IN ") ++
      ("(" ++ String.intercalate "," texts ++ ")")
    have balanced : Balanced behind := by
      have comma : Balanced "," := balanced_of_plain (by decide)
      have keyword : Balanced (if negated then " NOT IN " else " IN ") := by
        cases negated <;> exact balanced_of_plain (by decide)
      exact balanced_append keyword (balanced_parenthesized
        (balanced_intercalate comma (balanced_texts dialect stem shown found)))
    have spaced : Spaced behind := by
      cases negated <;> exact spaced_append ⟨_, _, rfl, by decide⟩ _
    have filled : texts ≠ [] := List.ne_nil_of_length_pos (by simp [length])
    have shape : text = "(" ++ (Report.nameText column ++ behind) ++ ")" := by
      rw [listed]
      cases negated <;> simp [listText, filled, behind, ← String.toList_inj]
    refine ⟨some (.leaf text), rendered, form, rfl, ?_⟩
    intro clause hclause
    cases hclause
    rw [shape]
    exact .leaf (isLeaf_of_column name spaced balanced)

theorem spells_list {conditions : List Condition} {texts : List String}
    (each : ∀ d ∈ conditions, ∀ text, d.text operators = .ok text →
      ∃ form, Spells operators d text form)
    (rendered : textsWith operators Parameter.text conditions = .ok texts) :
    ∃ clauses, normalForms operators conditions = .ok clauses ∧
      texts.filter (· ≠ "") = clauses.map Clause.text ∧ ∀ clause ∈ clauses, clause.Proper := by
  induction conditions generalizing texts with
  | nil =>
    cases rendered
    exact ⟨[], rfl, rfl, nofun⟩
  | cons d conditions ih =>
    obtain ⟨first, others⟩ := List.forall_mem_cons.mp each
    simp only [textsWith, bind_eq_ok_iff] at rendered
    obtain ⟨text, own, texts, rest, rendered⟩ := rendered
    cases rendered
    obtain ⟨form, spells⟩ := first text own
    obtain ⟨clauses, hclauses, filled, proper⟩ := ih others rest
    have spelled := spells.spelled
    refine ⟨form.toList ++ clauses, ?_, ?_, ?_⟩
    · simp only [normalForms, spells.form_eq, hclauses, ok_bind]
      rfl
    · cases form with
      | none => simpa [spelled] using filled
      | some clause =>
        have own := text_ne_empty (spells.proper clause rfl)
        simpa [spelled, own] using filled
    · intro clause hclause
      rcases List.mem_append.mp hclause with hclause | hclause
      · exact spells.proper clause (Option.mem_toList.mp hclause)
      · exact proper clause hclause

theorem spells_group {b : Command} {k : Connective} {conditions : List Condition}
    (each : ∀ d ∈ conditions, ∀ text, d.text operators = .ok text →
      ∃ form, Spells operators d text form)
    (rendered : (group b k conditions).text operators = .ok text) :
    ∃ form, Spells operators (.group b k conditions) text form := by
  obtain ⟨texts, found, rfl⟩ := map_eq_ok_iff.mp rendered
  obtain ⟨clauses, hclauses, filled, proper⟩ := spells_list each found
  refine ⟨gather k clauses, rendered, ?_, joined_eq_gather filled, proper_of_gather proper⟩
  simp only [normalForm, hclauses, ok_bind]
  rfl

theorem spells_negation {b : Command} {inner : Condition}
    (each : ∀ text, inner.text operators = .ok text → ∃ form, Spells operators inner text form)
    (rendered : (negation b inner).text operators = .ok text) :
    ∃ form, Spells operators (.negation b inner) text form := by
  obtain ⟨text, found, rfl⟩ := map_eq_ok_iff.mp rendered
  obtain ⟨form, spells⟩ := each text found
  have spelled := spells.spelled
  refine ⟨form.map .negation, rendered, ?_, ?_, ?_⟩
  · simp only [normalForm, spells.form_eq, ok_bind]
    rfl
  · cases form with
    | none => simp [negated, spelled]
    | some clause =>
      have filled := text_ne_empty (spells.proper clause rfl)
      simp [negated, spelled, filled, Clause.text]
  · intro clause hclause
    obtain ⟨inner, hinner, rfl⟩ := Option.map_eq_some_iff.mp hclause
    exact .negation (spells.proper inner hinner)

theorem spells_of_ofBuiltIns (dialect : c.dialect ∈ Dialect.builtIn)
    (stem : isIdentifier c.stem = true)
    (names : ∀ p, own p → p.bindable = true → ∃ n, c.Names n p) {d : Condition}
    (builtIns : d.OfBuiltIns operators own) (solid : ∀ t ∈ d.written, Solid t)
    (rendered : d.text operators = .ok text) : ∃ form, Spells operators d text form := by
  induction builtIns generalizing text with
  | comparison known kept taken count owned =>
    rw [written, List.forall_mem_cons] at solid
    have shown := shows_of_owned names owned solid.2
    exact spells_comparison dialect stem known kept taken count solid.1
      (fun p hp => shown p (mem_of_comparands taken hp)) rendered
  | membership columns owned =>
    rw [written, List.forall_mem_append] at solid
    exact spells_membership dialect stem
      (fun name hname => solid.1 name (Option.mem_toList.mpr hname))
      (shows_of_owned names owned solid.2) rendered
  | group each ih =>
    refine spells_group (fun d hd text own => ?_) rendered
    exact ih d hd (fun t ht => solid t (mem_writtenOfAll.mpr ⟨d, hd, ht⟩)) own
  | negation inner ih => exact spells_negation (fun text own => ih solid own) rendered

end Condition

/-- The condition has been built by calls of a command of a built-in dialect, with operators that
are built in, out of columns and inlined texts without blanks and parentheses. What the calls were
given to inline has a text, as what they inline of their own accord always has. -/
def Condition.IsWorded (operators : OperatorTable) (d : Condition) : Prop :=
  ∃ actions c, c.dialect ∈ Dialect.builtIn ∧ isIdentifier c.stem = true ∧
    (Session.after actions).Built operators c d ∧
    (∀ e ∈ (Session.after actions).events, ∀ p ∈ e.call.given, p ∈ d.leaves → p.IsWritable) ∧
    ∀ t ∈ d.written, Solid t

namespace Condition

theorem spells_of_isWorded {d : Condition} (worded : d.IsWorded operators) :
    ∃ text form, Spells operators d text form := by
  obtain ⟨actions, c, dialect, stem, built, writable, solid⟩ := worded
  have consistent := Session.consistent_after actions
  have builtIns := (Session.ofBuiltIns_of_built consistent built).1
  cases rendered : d.text operators with
  | ok text =>
    exact ⟨text, spells_of_ofBuiltIns dialect stem
      (fun _ issued bindable => Session.issued_names consistent issued bindable) builtIns solid
      rendered⟩
  | error e =>
    obtain ⟨-, p, hp, unwritable⟩ := text_error_of_ofBuiltIns builtIns rendered
    rcases Session.isWritable_or_given consistent built p hp with written | ⟨e, called, given⟩
    · exact absurd written unwritable
    · exact absurd (writable e called p given hp) unwritable

theorem Spells.read {d : Condition} {text : String} {form : Option Clause}
    (spells : Spells operators d text form) :
    (text = "" ↔ form = none) ∧ (text ≠ "" → read? text = form) := by
  have spelled := spells.spelled
  cases form with
  | none => exact ⟨by simp [spelled], fun filled => absurd spelled filled⟩
  | some clause =>
    have proper := spells.proper clause rfl
    have text_eq : text = clause.text := spelled
    exact ⟨by simp [text_eq, text_ne_empty proper],
      fun _ => read?_eq_some_iff.mpr ⟨proper, text_eq.symm⟩⟩

theorem normalForm_of_text {d : Condition} (worded : d.IsWorded operators) :
    (∀ text clause, read? text = some clause ↔ clause.Proper ∧ clause.text = text) ∧
    ∃ text form, d.text operators = .ok text ∧ d.normalForm operators = .ok form ∧
      (text = "" ↔ form = none) ∧ (text ≠ "" → read? text = form) ∧
      ∀ (operators' : OperatorTable) (e : Condition), e.IsWorded operators' →
        e.text operators' = .ok text → e.normalForm operators' = .ok form := by
  obtain ⟨text, form, spells⟩ := spells_of_isWorded worded
  obtain ⟨empty, found⟩ := spells.read
  refine ⟨fun _ _ => read?_eq_some_iff, text, form, spells.text_eq, spells.form_eq, empty, found,
    ?_⟩
  intro operators' e worded' same
  obtain ⟨text', form', spells'⟩ := spells_of_isWorded worded'
  obtain ⟨empty', found'⟩ := spells'.read
  obtain rfl : text = text' := Except.ok.inj (same.symm.trans spells'.text_eq)
  rw [spells'.form_eq]
  by_cases filled : text = ""
  · rw [empty.mp filled, empty'.mp filled]
  · rw [← found filled, found' filled]

theorem normalForm_of_text_sample :
    Sample.condition.IsWorded .builtIn ∧
      (∀ text clause, read? text = some clause ↔ clause.Proper ∧ clause.text = text) ∧
      ∃ text form, Sample.condition.text .builtIn = .ok text ∧
        Sample.condition.normalForm .builtIn = .ok form ∧
        (text = "" ↔ form = none) ∧ (text ≠ "" → read? text = form) ∧
        ∀ (operators' : OperatorTable) (e : Condition), e.IsWorded operators' →
          e.text operators' = .ok text → e.normalForm operators' = .ok form := by
  have writable : ∀ p ∈ Sample.condition.leaves, p.IsWritable := by decide +kernel
  have worded : Sample.condition.IsWorded .builtIn :=
    ⟨Sample.actions, Sample.command, by decide, by decide +kernel, Sample.built_condition,
      fun _ _ p _ => writable p, by decide +kernel⟩
  exact ⟨worded, normalForm_of_text worded⟩

end Condition

end Criteria
