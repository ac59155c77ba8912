import Criteria.Item
import Criteria.Proofs.Condition.Constructed
import Criteria.Proofs.InStep

/-!
# Conditions of one form

Two conditions of one form have the same operators, columns and connectives in the same places, and
parameters that are related one by one, whatever their commands. What is put together from the
texts of related parameters in the same way comes out alike. Equality of conditions is one such
relation: the one where the keys of the parameters are the same.
-/

namespace Criteria

theorem forall₂_imp_of_mem {α β : Type} {r t : α → β → Prop} {as : List α} {bs : List β}
    (h : List.Forall₂ r as bs) (weaker : ∀ a ∈ as, ∀ b ∈ bs, r a b → t a b) :
    List.Forall₂ t as bs := by
  induction h with
  | nil => exact .nil
  | cons first _ ih =>
    exact .cons (weaker _ List.mem_cons_self _ List.mem_cons_self first)
      (ih fun a ha b hb => weaker a (List.mem_cons_of_mem _ ha) b (List.mem_cons_of_mem _ hb))

theorem map_eq_map_iff_forall₂ {α β γ : Type} {f : α → γ} {g : β → γ} {as : List α}
    {bs : List β} : as.map f = bs.map g ↔ List.Forall₂ (fun a b => f a = g b) as bs := by
  have lists : as.map f = bs.map g ↔ List.Forall₂ Eq (as.map f) (bs.map g) := by
    rw [List.forall₂_eq_eq_eq]
  rw [lists, List.forall₂_map_left_iff, List.forall₂_map_right_iff]

theorem option_map_eq_of_rel {α β γ : Type} {r : α → β → Prop} {f : α → γ} {g : β → γ}
    {x : Option α} {y : Option β} (h : Option.Rel r x y) (same : ∀ a b, r a b → f a = g b) :
    x.map f = y.map g := by
  cases h with
  | none => rfl
  | some h => exact congrArg some (same _ _ h)

namespace Condition

inductive Matches (rel : Parameter → Parameter → Prop) : Condition → Condition → Prop
  | comparison {c c' : Command} {operator : String} {first first' : Parameter}
      {second second' : Option Parameter} (firsts : rel first first')
      (seconds : Option.Rel rel second second') :
      Matches rel (.comparison c operator first second) (.comparison c' operator first' second')
  | membership {c c' : Command} {column : Option String} {items items' : List Parameter}
      {negated : Bool} (each : List.Forall₂ rel items items') :
      Matches rel (.membership c column items negated) (.membership c' column items' negated)
  | group {c c' : Command} {connective : Connective} {conditions conditions' : List Condition}
      (each : List.Forall₂ (Matches rel) conditions conditions') :
      Matches rel (.group c connective conditions) (.group c' connective conditions')
  | negation {c c' : Command} {condition condition' : Condition}
      (inner : Matches rel condition condition') :
      Matches rel (.negation c condition) (.negation c' condition')

namespace Matches

variable {rel other : Parameter → Parameter → Prop} {d e : Condition}

/-- Induction on two conditions at once, with the hypothesis for all pairs in a group. -/
@[elab_as_elim]
theorem induct {motive : Condition → Condition → Prop}
    (comparison : ∀ {c c' : Command} {operator : String} {first first' : Parameter}
      {second second' : Option Parameter}, rel first first' → Option.Rel rel second second' →
      motive (.comparison c operator first second) (.comparison c' operator first' second'))
    (membership : ∀ {c c' : Command} {column : Option String} {items items' : List Parameter}
      {negated : Bool}, List.Forall₂ rel items items' →
      motive (.membership c column items negated) (.membership c' column items' negated))
    (group : ∀ {c c' : Command} {connective : Connective} {conditions conditions' : List Condition},
      List.Forall₂ (Matches rel) conditions conditions' →
      List.Forall₂ motive conditions conditions' →
      motive (.group c connective conditions) (.group c' connective conditions'))
    (negation : ∀ {c c' : Command} {condition condition' : Condition},
      Matches rel condition condition' → motive condition condition' →
      motive (.negation c condition) (.negation c' condition'))
    (h : Matches rel d e) : motive d e :=
  @Matches.rec rel (fun d e _ => motive d e) (fun ds es _ => List.Forall₂ motive ds es)
    comparison membership group negation .nil (fun _ _ => .cons) d e h

/-- Only parameters that the two conditions hold need to be related in the other way. -/
theorem imp_of_leaves (h : Matches rel d e) :
    (∀ p ∈ d.leaves, ∀ q ∈ e.leaves, rel p q → other p q) → Matches other d e := by
  refine induct ?comparison ?membership ?group ?negation h
  case comparison =>
    intro c c' operator first first' second second' firsts seconds weaker
    have within := fun p hp q hq => weaker p (List.mem_cons_of_mem first hp) q
      (List.mem_cons_of_mem first' hq)
    refine .comparison (weaker _ List.mem_cons_self _ List.mem_cons_self firsts) ?_
    cases seconds with
    | none => exact .none
    | some h => exact .some (within _ (by simp) _ (by simp) h)
  case membership =>
    intro c c' column items items' negated each weaker
    exact .membership (forall₂_imp_of_mem each weaker)
  case group =>
    intro c c' connective conditions conditions' each ih weaker
    exact .group (forall₂_imp_of_mem ih fun d hd e he child =>
      child fun p hp q hq => weaker p (mem_leavesOfAll.mpr ⟨d, hd, hp⟩) q
        (mem_leavesOfAll.mpr ⟨e, he, hq⟩))
  case negation =>
    intro c c' condition condition' inner ih weaker
    exact .negation (ih weaker)

theorem leaves (h : Matches rel d e) : List.Forall₂ rel d.leaves e.leaves := by
  refine induct ?comparison ?membership ?group ?negation h
  case comparison =>
    intro c c' operator first first' second second' firsts seconds
    cases seconds with
    | none => exact .cons firsts .nil
    | some h => exact .cons firsts (.cons h .nil)
  case membership => exact fun each => each
  case group =>
    rintro c c' connective conditions conditions' - ih
    simp only [Condition.leaves]
    induction ih with
    | nil => exact .nil
    | cons first _ ih => exact List.rel_append first ih
  case negation => exact fun _ ih => ih

end Matches

section Texts

variable {rel : Parameter → Parameter → Prop} {table : OperatorTable}
  {shown shown' : Parameter → Except Error String} {alike : String → String → Prop} {d e : Condition}

theorem forall₂_compared {first first' : Parameter} {second second' : Option Parameter}
    (firsts : rel first first') (seconds : Option.Rel rel second second') (op : Operator) :
    List.Forall₂ (Option.Rel rel) (compared op first second) (compared op first' second') := by
  unfold compared
  by_cases bare : op.arity = 0
  · rw [if_pos bare, if_pos bare]
    exact .nil
  · rw [if_neg bare, if_neg bare]
    by_cases single : op.arity = 1
    · rw [if_pos single, if_pos single]
      exact .cons (.some firsts) .nil
    · rw [if_neg single, if_neg single]
      exact .cons (.some firsts) (.cons seconds .nil)

theorem required_inStep {x y : Option Parameter} (h : Option.Rel rel x y) :
    InStep rel (required x) (required y) := by
  cases h with
  | none => rfl
  | some h => exact h

theorem comparands_inStep {first first' : Parameter} {second second' : Option Parameter}
    (firsts : rel first first') (seconds : Option.Rel rel second second') (op : Operator) :
    InStep (List.Forall₂ rel) (comparands op first second) (comparands op first' second') :=
  .mapM_of_forall₂ (forall₂_compared firsts seconds op) fun _ _ h => required_inStep h

theorem comparedTexts_inStep {similar : String → String → Prop}
    (each : ∀ p q, rel p q → InStep similar (shown p) (shown' q)) {first first' : Parameter}
    {second second' : Option Parameter} (firsts : rel first first')
    (seconds : Option.Rel rel second second') (op : Operator) :
    InStep (List.Forall₂ similar)
      ((compared op first second).mapM fun p => required p >>= shown)
      ((compared op first' second').mapM fun p => required p >>= shown') :=
  .mapM_of_forall₂ (forall₂_compared firsts seconds op) fun _ _ h =>
    (required_inStep h).bind each

/-- Writing keeps texts alike: at a leaf with related parameters, and where texts are joined or
negated. -/
structure Congruent (table : OperatorTable) (rel : Parameter → Parameter → Prop)
    (shown shown' : Parameter → Except Error String) (alike : String → String → Prop) : Prop where
  comparison : ∀ {operator : String} {first first' : Parameter}
    {second second' : Option Parameter}, rel first first' → Option.Rel rel second second' →
    InStep alike (comparisonText table shown operator first second)
      (comparisonText table shown' operator first' second')
  membership : ∀ {column : Option String} {items items' : List Parameter} {negated : Bool},
    List.Forall₂ rel items items' →
    InStep alike (membershipText shown column items negated)
      (membershipText shown' column items' negated)
  joined : ∀ {connective : Connective} {texts texts' : List String},
    List.Forall₂ alike texts texts' → alike (joined connective texts) (joined connective texts')
  negated : ∀ {s t : String}, alike s t → alike (negated s) (negated t)

theorem textsWith_inStep {conditions conditions' : List Condition}
    (each : List.Forall₂ (fun d e => InStep alike (textWith table shown d) (textWith table shown' e))
      conditions conditions') :
    InStep (List.Forall₂ alike) (textsWith table shown conditions)
      (textsWith table shown' conditions') := by
  induction each with
  | nil => exact .nil
  | cons first _ ih =>
    refine first.bind fun s t h => ?_
    exact ih.bind fun ss ts hs => .cons h hs

theorem textWith_inStep (congruent : Congruent table rel shown shown' alike)
    (h : Matches rel d e) : InStep alike (textWith table shown d) (textWith table shown' e) := by
  refine Matches.induct ?comparison ?membership ?group ?negation h
  case comparison =>
    intro c c' operator first first' second second' firsts seconds
    exact congruent.comparison firsts seconds
  case membership =>
    intro c c' column items items' negated each
    exact congruent.membership each
  case group =>
    intro c c' connective conditions conditions' _ ih
    exact (textsWith_inStep ih).bind fun ss ts hs => congruent.joined hs
  case negation =>
    intro c c' condition condition' _ ih
    exact ih.bind fun s t h => congruent.negated h

/-- Where related parameters have the same columns and are shown alike, nothing differs. -/
theorem congruent_eq (same : ∀ p q, rel p q → p.column = q.column ∧ shown p = shown' q) :
    Congruent table rel shown shown' Eq where
  comparison := by
    intro operator first first' second second' firsts seconds
    refine InStep.bind_same fun op _ => ?_
    have shownAlike : ∀ p q, rel p q → InStep Eq (shown p) (shown' q) :=
      fun p q h => .of_eq (same p q h).2 fun _ => rfl
    refine (comparedTexts_inStep shownAlike firsts seconds op).bind fun texts texts' each => ?_
    obtain rfl : texts = texts' := by simpa using each
    rw [(same _ _ firsts).1]
    exact .of_eq rfl fun _ => rfl
  membership := by
    intro column items items' negated each
    have texts : InStep (List.Forall₂ Eq) (items.mapM shown) (items'.mapM shown') :=
      .mapM_of_forall₂ each fun p q h => .of_eq (same p q h).2 fun _ => rfl
    refine texts.bind fun texts texts' same => ?_
    obtain rfl : texts = texts' := by simpa using same
    exact rfl
  joined := by
    intro connective texts texts' each
    obtain rfl : texts = texts' := by simpa using each
    rfl
  negated := by
    rintro s _ rfl
    rfl

theorem textWith_eq_of_matches (h : Matches rel d e)
    (same : ∀ p q, rel p q → p.column = q.column ∧ shown p = shown' q) :
    textWith table shown d = textWith table shown' e :=
  (textWith_inStep (congruent_eq same) h).eq_of_inStep

end Texts

/-- The keys of the parameters are the same. -/
def SameKey (p q : Parameter) : Prop := p.key = q.key

mutual

theorem matches_of_shape (d e : Condition) (h : d.shape = e.shape) : Matches SameKey d e :=
  match d with
  | comparison _ _ _ second => by
    cases e with
    | comparison _ _ _ second' =>
      simp only [shape, Tree.leaf.injEq, Leaf.comparison.injEq] at h
      obtain ⟨rfl, firsts, seconds⟩ := h
      refine .comparison firsts ?_
      cases second <;> cases second'
      · exact .none
      · cases seconds
      · cases seconds
      · exact .some (Option.some.inj seconds)
    | _ => simp [shape] at h
  | membership _ _ items _ => by
    cases e with
    | membership _ _ items' _ =>
      simp only [shape, Tree.leaf.injEq, Leaf.membership.injEq] at h
      obtain ⟨rfl, keys, rfl⟩ := h
      exact .membership (map_eq_map_iff_forall₂.mp keys)
    | _ => simp [shape] at h
  | group _ _ conditions => by
    cases e with
    | group _ _ conditions' =>
      simp only [shape, Tree.node.injEq, Label.group.injEq] at h
      obtain ⟨rfl, each⟩ := h
      exact .group (matches_of_shapes conditions conditions' each)
    | _ => simp [shape] at h
  | negation _ condition => by
    cases e with
    | negation _ condition' =>
      simp only [shape, Tree.node.injEq, List.cons.injEq] at h
      exact .negation (matches_of_shape condition condition' h.2.1)
    | _ => simp [shape] at h

theorem matches_of_shapes (conditions conditions' : List Condition)
    (h : shapes conditions = shapes conditions') :
    List.Forall₂ (Matches SameKey) conditions conditions' :=
  match conditions with
  | [] => by
    cases conditions' with
    | nil => exact .nil
    | cons e rest' => cases h
  | d :: rest => by
    cases conditions' with
    | nil => cases h
    | cons e rest' =>
      obtain ⟨first, others⟩ := List.cons.inj h
      exact .cons (matches_of_shape d e first) (matches_of_shapes rest rest' others)

end

theorem shape_of_matches {d e : Condition} (h : Matches SameKey d e) : d.shape = e.shape := by
  refine Matches.induct ?comparison ?membership ?group ?negation h
  case comparison =>
    intro c c' operator first first' second second' firsts seconds
    have keys : second.map (·.key) = second'.map (·.key) :=
      option_map_eq_of_rel seconds fun _ _ h => h
    simp only [shape, keys, show first.key = first'.key from firsts]
  case membership =>
    intro c c' column items items' negated each
    have keys : items.map (·.key) = items'.map (·.key) := map_eq_map_iff_forall₂.mpr each
    simp only [shape, keys]
  case group =>
    intro c c' connective conditions conditions' _ ih
    simp only [shape, shapes_eq_map, map_eq_map_iff_forall₂.mpr ih]
  case negation =>
    intro c c' condition condition' _ ih
    simp only [shape, ih]

end Condition
end Criteria
