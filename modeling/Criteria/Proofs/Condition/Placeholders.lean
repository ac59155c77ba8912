import Criteria.Compiled
import Criteria.Proofs.Bindings
import Criteria.Proofs.Condition.Built
import Criteria.Proofs.Placeholder

/-!
# Placeholders of conditions

The placeholders in the text of a condition are those of its parameters, in their order. Text and
parameters are computed apart from each other; here both follow one induction over what has been
built.
-/

namespace Criteria

open Text Marker

namespace Parameter

theorem boundNames_append (first second : List Parameter) :
    boundNames (first ++ second) = boundNames first ++ boundNames second := by
  simp [boundNames]

theorem boundNames_flatMap {α : Type} (items : List α) (f : α → List Parameter) :
    boundNames (items.flatMap f) = items.flatMap fun a => boundNames (f a) := by
  simp [boundNames, List.filter_flatMap, List.map_flatMap]

end Parameter

open Parameter (boundNames)

variable {c : Command}

theorem yieldsBefore_text (legible : c.dialect.marker.Legible) (stem : isIdentifier c.stem = true)
    {p : Parameter} (shown : c.Shows Unmarked p) {text : String} (written : p.text = .ok text) :
    c.dialect.marker.YieldsBefore text (boundNames [p]) := by
  rcases shown with ⟨n, bindable, name, placeholder⟩ | ⟨inlined, clean⟩
  · have identifier : isIdentifier p.name = true := name ▸ isIdentifier_parameterName stem n
    rw [Parameter.text, if_pos bindable, placeholder] at written
    obtain rfl := Except.ok.inj written
    simpa [boundNames, bindable, Dialect.placeholder] using yieldsBefore_around legible identifier
  · rw [Parameter.text, inlined] at written
    simpa [boundNames, inlined] using (yields_of_unmarked legible (clean text written)).before

/-- The texts of parameters go with the names that they are bound under. -/
theorem exists_parts (legible : c.dialect.marker.Legible) (stem : isIdentifier c.stem = true)
    {parameters : List Parameter} {texts : List String}
    (shown : ∀ p ∈ parameters, c.Shows Unmarked p)
    (written : parameters.mapM Parameter.text = .ok texts) :
    ∃ parts : Parts, parts.map (·.1) = texts ∧ parts.flatMap (·.2) = boundNames parameters ∧
      ∀ part ∈ parts, c.dialect.marker.YieldsBefore part.1 part.2 := by
  induction mapM_eq_ok_iff.mp written with
  | nil => exact ⟨[], rfl, rfl, nofun⟩
  | @cons p text parameters texts first rest ih =>
    obtain ⟨own, others⟩ := List.forall_mem_cons.mp shown
    obtain ⟨parts, same, names, each⟩ := ih others (mapM_eq_ok_iff.mpr rest)
    refine ⟨(text, boundNames [p]) :: parts, congrArg (text :: ·) same, ?_, ?_⟩
    · rw [List.flatMap_cons, names, ← Parameter.boundNames_append, List.singleton_append]
    · exact List.forall_mem_cons.mpr ⟨yieldsBefore_text legible stem own first, each⟩

theorem yields_parenthesized {m : Marker} (legible : m.Legible) {s : String} {names : List String}
    (inner : m.YieldsBefore s names) : m.Yields ("(" ++ s ++ ")") names := by
  have opening : m.Yields "(" [] := yields_of_unmarked legible (by decide)
  have closing : m.Yields ")" [] := yields_of_unmarked legible (by decide)
  simpa using yields_append_of_delimits (yieldsBefore_append opening inner) closing
    ⟨')', [], rfl, by decide⟩

namespace OperatorTable

theorem words_unmarked {arity : Int} : ∀ w ∈ words arity, Unmarked w := by
  unfold words
  split
  · decide
  · split <;> decide

theorem yieldsBefore_behindColumn {m : Marker} (legible : m.Legible) {word : String}
    (clean : Unmarked word) {parts : Parts} (few : parts.length ≤ 2)
    (each : ∀ p ∈ parts, m.YieldsBefore p.1 p.2) :
    m.YieldsBefore (behindColumn word (parts.map (·.1))) (parts.flatMap (·.2)) := by
  have word : m.Yields word [] := yields_of_unmarked legible clean
  have between : m.Yields joint [] := yields_of_unmarked legible (by decide)
  match parts, few with
  | [], _ => exact word.before
  | [v], _ =>
    have first := each v (by simp)
    simpa [behindColumn] using yieldsBefore_append word first
  | [v, w], _ =>
    have first := yieldsBefore_append word (each v (by simp))
    have both := yields_append_of_delimits first between ⟨' ', _, rfl, by decide⟩
    simpa [behindColumn] using yieldsBefore_append both (each w (by simp))
  | _ :: _ :: _ :: _, few => simp at few

end OperatorTable

namespace Condition

theorem yields_joined {m : Marker} (legible : m.Legible) (connective : Connective) {parts : Parts}
    (each : ∀ p ∈ parts, m.Yields p.1 p.2) :
    m.Yields (joined connective (parts.map (·.1))) (parts.flatMap (·.2)) := by
  have separator : m.Yields (" " ++ connective.name ++ " ") [] :=
    yields_of_unmarked legible (by cases connective <;> decide)
  have filled : ∀ p ∈ parts.filter fun p => p.1 ≠ "", m.Yields p.1 p.2 :=
    fun p hp => each p (List.mem_filter.mp hp).1
  rw [joined, map_filled, ← flatMap_filled each]
  generalize (parts.filter fun p => p.1 ≠ "") = left at filled
  cases left with
  | nil => exact yields_empty
  | cons p rest =>
    cases rest with
    | nil => simpa using filled p List.mem_cons_self
    | cons q rest =>
      exact yields_parenthesized legible (yields_intercalate separator filled).before

theorem yields_negated {m : Marker} (legible : m.Legible) {text : String} {names : List String}
    (inner : m.Yields text names) : m.Yields (negated text) names := by
  by_cases empty : text = ""
  · simpa [negated, empty] using inner
  · have keyword : m.Yields "NOT " [] := yields_of_unmarked legible (by decide)
    have inner := yields_parenthesized legible (yields_append keyword inner).before
    simpa [negated, empty, ← String.append_assoc] using inner

/-- What is known of a condition whose text and parameters agree. -/
structure Agrees (operators : OperatorTable) (m : Marker) (own : Parameter → Prop) (d : Condition)
    (text : String) (parameters : List Parameter) : Prop where
  text_eq : d.text operators = .ok text
  parameters_eq : ∃ given, d.parameters operators = .ok given ∧ given.getD [] = parameters
  yields : m.Yields text (boundNames parameters)
  owned : ∀ p ∈ parameters, own p

variable {operators : OperatorTable} {own : Parameter → Prop} {text : String}

theorem agrees_comparison (legible : c.dialect.marker.Legible)
    (stem : isIdentifier c.stem = true) {b : Command} {operator : String} {op : Operator}
    {first : Parameter} {second : Option Parameter} {values : List Parameter}
    (known : OperatorTable.builtIn.find? operator = some op)
    (kept : operators.find? operator = some op) (taken : comparands op first second = .ok values)
    (count : (values.length : Int) = op.arity) (column : Unmarked first.column)
    (shown : ∀ p ∈ values, c.Shows Unmarked p) (owned : ∀ p ∈ values, own p)
    (rendered : (comparison b operator first second).text operators = .ok text) :
    Agrees operators c.dialect.marker own (.comparison b operator first second) text values := by
  obtain ⟨word, hword, written⟩ :=
    comparisonText_builtIn known kept taken count Parameter.text
  obtain ⟨texts, found, rfl⟩ := map_eq_ok_iff.mp (written.symm.trans rendered)
  have few : texts.length ≤ 2 := length_of_mapM_ok found ▸ length_le_two known count
  obtain ⟨parts, rfl, names, each⟩ := exists_parts legible stem shown found
  have behind := OperatorTable.yieldsBefore_behindColumn legible
    (OperatorTable.words_unmarked word hword) (by simpa using few) each
  have inner := yieldsBefore_append (yields_of_unmarked legible column) behind
  rw [List.nil_append, names] at inner
  refine ⟨rendered, ?_, yields_parenthesized legible inner, owned⟩
  have operator := OperatorTable.get_eq_ok_iff.mpr kept
  by_cases bare : op.arity = 0
  · have nothing : values = [] := List.eq_nil_of_length_eq_zero (by omega)
    refine ⟨none, ?_, nothing.symm⟩
    simp only [parameters, operator, ok_bind, bare, if_true]
    rfl
  · refine ⟨some values, ?_, rfl⟩
    simp only [parameters, operator, ok_bind, bare, if_false, taken]
    rfl

theorem agrees_membership (legible : c.dialect.marker.Legible)
    (stem : isIdentifier c.stem = true) {b : Command} {column : Option String}
    {items : List Parameter} {negated : Bool} (clean : ∀ name ∈ column, Unmarked name)
    (shown : ∀ p ∈ items, c.Shows Unmarked p) (owned : ∀ p ∈ items, own p)
    (rendered : (membership b column items negated).text operators = .ok text) :
    Agrees operators c.dialect.marker own (.membership b column items negated) text items := by
  obtain ⟨texts, found, rfl⟩ := membershipText_eq_ok_iff.mp rendered
  obtain ⟨parts, rfl, names, each⟩ := exists_parts legible stem shown found
  refine ⟨rendered, ⟨some items, rfl, rfl⟩, ?_, owned⟩
  rw [← names]
  by_cases nothing : parts = []
  · simpa [listText, nothing] using yields_empty
  · have name : Unmarked (Report.nameText column) := by
      cases column with
      | none => decide
      | some name => exact clean name rfl
    have keyword : Unmarked (if negated then " NOT IN (" else " IN (") := by
      cases negated <;> decide
    have comma : c.dialect.marker.Yields "," [] := yields_of_unmarked legible (by decide)
    have list := yieldsBefore_intercalate comma ⟨',', [], rfl, by decide⟩ each
    have front : c.dialect.marker.Yields
        ("(" ++ Report.nameText column ++ (if negated then " NOT IN (" else " IN (")) [] :=
      yields_of_unmarked legible
        (lacks_append (lacks_append (by decide) name) keyword)
    have closing : c.dialect.marker.Yields "))" [] := yields_of_unmarked legible (by decide)
    have whole := yields_append_of_delimits (yieldsBefore_append front list) closing
      ⟨')', _, rfl, by decide⟩
    simpa [listText, nothing] using whole

/-- The conditions of a group with their texts, and with the parameters of those that have one. -/
theorem agrees_list {m : Marker} {conditions : List Condition} {texts : List String}
    (each : ∀ d ∈ conditions, ∀ text, d.text operators = .ok text →
      ∃ ps, Agrees operators m own d text ps)
    (rendered : textsWith operators Parameter.text conditions = .ok texts) :
    ∃ parts : List (String × List Parameter), texts = parts.map (·.1) ∧
      parametersOfAll operators conditions =
        .ok ((parts.filter fun p => p.1 ≠ "").flatMap (·.2)) ∧
      ∀ p ∈ parts, m.Yields p.1 (boundNames p.2) ∧ ∀ q ∈ p.2, own q := by
  induction conditions generalizing texts with
  | nil =>
    cases rendered
    exact ⟨[], rfl, rfl, nofun⟩
  | cons d conditions ih =>
    obtain ⟨first, others⟩ := List.forall_mem_cons.mp each
    simp only [textsWith, bind_eq_ok_iff] at rendered
    obtain ⟨text, own, texts, rest, rendered⟩ := rendered
    cases rendered
    obtain ⟨ps, agrees⟩ := first text own
    obtain ⟨parts, rfl, parameters, known⟩ := ih others rest
    obtain ⟨given, taken, rfl⟩ := agrees.parameters_eq
    refine ⟨(text, given.getD []) :: parts, rfl, ?_, ?_⟩
    · by_cases empty : text = ""
      · rw [List.filter_cons_of_neg (by simp [empty])]
        simp only [parametersOfAll, agrees.text_eq, parameters, empty, ok_bind, if_true]
        rfl
      · rw [List.filter_cons_of_pos (by simp [empty]), List.flatMap_cons]
        simp only [parametersOfAll, agrees.text_eq, taken, parameters, empty, ok_bind, if_false]
        rfl
    · exact List.forall_mem_cons.mpr ⟨⟨agrees.yields, agrees.owned⟩, known⟩

theorem agrees_group {m : Marker} (legible : m.Legible) {b : Command} {connective : Connective}
    {conditions : List Condition}
    (each : ∀ d ∈ conditions, ∀ text, d.text operators = .ok text →
      ∃ ps, Agrees operators m own d text ps)
    (rendered : (group b connective conditions).text operators = .ok text) :
    ∃ ps, Agrees operators m own (.group b connective conditions) text ps := by
  obtain ⟨texts, found, rfl⟩ := map_eq_ok_iff.mp rendered
  obtain ⟨parts, rfl, parameters, known⟩ := agrees_list each found
  let named : Parts := parts.map fun p => (p.1, boundNames p.2)
  have yields : ∀ p ∈ named, m.Yields p.1 p.2 := by
    intro p hp
    obtain ⟨part, hpart, rfl⟩ := List.mem_map.mp hp
    exact (known part hpart).1
  have sameTexts : named.map (·.1) = parts.map (·.1) := by simp [named]
  have names : named.flatMap (·.2) =
      boundNames ((parts.filter fun p => p.1 ≠ "").flatMap (·.2)) := by
    rw [← flatMap_filled yields, Parameter.boundNames_flatMap, List.filter_map, List.flatMap_map]
    rfl
  have whole := yields_joined legible connective yields
  rw [sameTexts, names] at whole
  refine ⟨_, rendered, ⟨some _, ?_, rfl⟩, whole, ?_⟩
  · simp only [Condition.parameters, parameters, ok_bind]
    rfl
  · intro p hp
    obtain ⟨part, hpart, hp⟩ := List.mem_flatMap.mp hp
    exact (known part (List.mem_filter.mp hpart).1).2 p hp

theorem agrees_negation {m : Marker} (legible : m.Legible) {b : Command} {inner : Condition}
    (each : ∀ text, inner.text operators = .ok text → ∃ ps, Agrees operators m own inner text ps)
    (rendered : (negation b inner).text operators = .ok text) :
    ∃ ps, Agrees operators m own (.negation b inner) text ps := by
  obtain ⟨text, found, rfl⟩ := map_eq_ok_iff.mp rendered
  obtain ⟨ps, agrees⟩ := each text found
  obtain ⟨given, parameters, rfl⟩ := agrees.parameters_eq
  by_cases empty : text = ""
  · refine ⟨[], rendered, ⟨some [], ?_, rfl⟩, ?_, fun _ mem => absurd mem List.not_mem_nil⟩
    · simp only [Condition.parameters, agrees.text_eq, empty, ok_bind, if_true]
      rfl
    · exact yields_negated legible (empty ▸ yields_empty)
  · refine ⟨_, rendered, ⟨given, ?_, rfl⟩, yields_negated legible agrees.yields, agrees.owned⟩
    simp only [Condition.parameters, agrees.text_eq, ok_bind, empty, if_false, parameters]

/-- Text and parameters agree for every condition over built-in operators that has a text. -/
theorem agrees_of_ofBuiltIns (legible : c.dialect.marker.Legible)
    (stem : isIdentifier c.stem = true)
    (names : ∀ p, own p → p.bindable = true → ∃ n, c.Names n p) {d : Condition}
    (builtIns : d.OfBuiltIns operators own) (clean : ∀ t ∈ d.written, Unmarked t)
    (rendered : d.text operators = .ok text) :
    ∃ ps, Agrees operators c.dialect.marker own d text ps := by
  induction builtIns generalizing text with
  | comparison known kept taken count owned =>
    rw [written, List.forall_mem_cons] at clean
    have shown := shows_of_owned names owned clean.2
    have held := fun p hp => mem_of_comparands taken (p := p) hp
    exact ⟨_, agrees_comparison legible stem known kept taken count clean.1
      (fun p hp => shown p (held p hp)) (fun p hp => owned p (held p hp)) rendered⟩
  | membership columns owned =>
    rw [written, List.forall_mem_append] at clean
    exact ⟨_, agrees_membership legible stem
      (fun name hname => clean.1 name (Option.mem_toList.mpr hname))
      (shows_of_owned names owned clean.2) owned rendered⟩
  | group each ih =>
    refine agrees_group legible (fun d hd text own => ?_) rendered
    exact ih d hd (fun t ht => clean t (mem_writtenOfAll.mpr ⟨d, hd, ht⟩)) own
  | negation inner ih => exact agrees_negation legible (fun text own => ih clean own) rendered

end Condition

end Criteria
