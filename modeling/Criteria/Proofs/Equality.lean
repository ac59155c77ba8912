import Criteria.Proofs.Comparable
import Criteria.Proofs.Condition.Matching
import Mathlib.Data.Set.Card

/-!
# Equality of objects

Equality of parameters, conditions and statements: they have one form, and in it parameters for one
column, of one kind, bound or written alike, with values that are the same. Commands and the names
that they give play no part. Among objects without values that are not numbers this is an
equivalence, equal objects have one digest, and a set has as many members as there are classes.
-/

namespace Criteria

/-- The two stand for the same value of the same column. -/
structure Parameter.Same (p q : Parameter) : Prop where
  column : p.column = q.column
  dataType : p.dataType = q.dataType
  value : Value.Same p.value q.value
  bindable : p.bindable = q.bindable

/-- The two differ in their names and placeholders at most. -/
structure Parameter.Twin (p q : Parameter) : Prop where
  column : p.column = q.column
  dataType : p.dataType = q.dataType
  value : p.value = q.value
  bindable : p.bindable = q.bindable

/-- Statements of one form, with related parameters. -/
structure Select.Matches (rel : Parameter → Parameter → Prop) (q r : Select) : Prop where
  table : q.table = r.table
  columns : q.columns = r.columns
  filter : Option.Rel (Condition.Matches rel) q.filter r.filter
  groupBy : q.groupBy = r.groupBy
  having : Option.Rel (Condition.Matches rel) q.having r.having
  orderBy : q.orderBy = r.orderBy
  distinct : q.distinct = r.distinct

namespace Item

inductive Matches (rel : Parameter → Parameter → Prop) : Item → Item → Prop
  | parameter {p q : Parameter} (h : rel p q) : Matches rel (.parameter p) (.parameter q)
  | condition {d e : Condition} (h : d.Matches rel e) : Matches rel (.condition d) (.condition e)
  | select {q r : Select} (h : q.Matches rel r) : Matches rel (.select q) (.select r)
  | settings {s : Settings} : Matches rel (.settings s) (.settings s)
  | backend {b b' : Backend} (h : b.number = b'.number) : Matches rel (.backend b) (.backend b')
  | command {c c' : Command} (h : c.id = c'.id) : Matches rel (.command c) (.command c')

end Item

namespace Parameter

theorem key_eq_of_same {p q : Parameter} (h : p.Same q) : p.key = q.key := by
  rw [key, key, h.column, h.dataType, h.bindable, Value.key_eq_of_same h.value p.origin q.origin]

theorem same_of_key_eq {p q : Parameter} (free : p.NanFree) (h : p.key = q.key) : p.Same q := by
  simp only [key, ParameterKey.mk.injEq] at h
  obtain ⟨column, dataType, value, bindable⟩ := h
  exact ⟨column, dataType, Value.same_of_key_eq _ _ free value, bindable⟩

theorem same_of_twin {p q : Parameter} (free : p.NanFree) (h : p.Twin q) : p.Same q :=
  ⟨h.column, h.dataType, h.value ▸ Value.same_refl free, h.bindable⟩

theorem digest_eq_of_twin {p q : Parameter} (h : p.Twin q) : p.key.digest = q.key.digest := by
  simp only [key, ParameterKey.digest, h.column, h.dataType, h.bindable]

end Parameter

namespace Condition

theorem shape_eq_of_matches {d e : Condition} (h : d.Matches Parameter.Same e) :
    d.shape = e.shape :=
  shape_of_matches (h.imp_of_leaves fun _ _ _ _ same => Parameter.key_eq_of_same same)

theorem matches_of_shape_eq {d e : Condition} (free : d.NanFree) (h : d.shape = e.shape) :
    d.Matches Parameter.Same e :=
  (matches_of_shape d e h).imp_of_leaves fun p hp _ _ same =>
    Parameter.same_of_key_eq (free p hp) same

theorem shape_eq_of_twin {d e : Condition} (free : d.NanFree) (h : d.Matches Parameter.Twin e) :
    d.shape = e.shape :=
  shape_eq_of_matches (h.imp_of_leaves fun p hp _ _ twin => Parameter.same_of_twin (free p hp) twin)

theorem kind_eq_of_matches {rel : Parameter → Parameter → Prop} {d e : Condition}
    (h : d.Matches rel e) : d.kind = e.kind := by
  cases h <;> rfl

/-- Twins have one digest even if they are not equal: no value plays a part in it. -/
theorem digest_eq_of_twin {d e : Condition} (h : d.Matches Parameter.Twin e) :
    d.shape.digest = e.shape.digest := by
  refine Matches.induct ?comparison ?membership ?group ?negation h
  case comparison =>
    intro c c' operator first first' second second' firsts seconds
    have others : (second.map (·.key)).map (·.digest) = (second'.map (·.key)).map (·.digest) := by
      rw [Option.map_map, Option.map_map]
      exact option_map_eq_of_rel seconds fun _ _ => Parameter.digest_eq_of_twin
    simp only [shape, Shape.digest, Tree.digest, Leaf.digest, Parameter.digest_eq_of_twin firsts,
      others]
  case membership =>
    intro c c' column items items' negated each
    have digests : (items.map (·.key)).map (·.digest) = (items'.map (·.key)).map (·.digest) := by
      rw [List.map_map, List.map_map]
      exact map_eq_map_iff_forall₂.mpr (each.imp fun _ _ => Parameter.digest_eq_of_twin)
    simp only [shape, Shape.digest, Tree.digest, Leaf.digest, digests]
  case group =>
    rintro c c' connective conditions conditions' - ih
    have below : Tree.digestList Leaf.digest hash (shapes conditions) =
        Tree.digestList Leaf.digest hash (shapes conditions') := by
      induction ih with
      | nil => rfl
      | cons first _ ih => exact congrArg₂ mixHash first ih
    simp only [shape, Shape.digest, Tree.digest, below]
  case negation =>
    intro c c' condition condition' _ ih
    rw [Shape.digest, Shape.digest] at ih
    simp only [shape, Shape.digest, Tree.digest, Tree.digestList, ih]

end Condition

namespace Select

variable {q r : Select}

theorem mem_conditions {d : Condition} : d ∈ q.conditions ↔ d ∈ q.filter ∨ d ∈ q.having := by
  simp [conditions]

/-- Statements of one form have one key when their conditions have one shape. -/
theorem key_eq_of_shapes {rel : Parameter → Parameter → Prop} (h : q.Matches rel r)
    (shapes : ∀ d ∈ q.conditions, ∀ e, d.Matches rel e → d.shape = e.shape) : q.key = r.key := by
  have options : ∀ {x y : Option Condition}, (∀ d ∈ x, d ∈ q.conditions) →
      Option.Rel (Condition.Matches rel) x y → x.map (·.shape) = y.map (·.shape) := by
    rintro _ _ own (⟨h⟩ | _)
    · exact congrArg some (shapes _ (own _ rfl) _ h)
    · rfl
  rw [key, key, h.table, h.columns, options (fun d hd => mem_conditions.mpr (.inl hd)) h.filter,
    h.groupBy, options (fun d hd => mem_conditions.mpr (.inr hd)) h.having, h.orderBy, h.distinct]

theorem matches_of_key_eq (free : ∀ d ∈ q.conditions, d.NanFree) (h : q.key = r.key) :
    q.Matches Parameter.Same r := by
  have related : ∀ {x y : Option Condition}, (∀ d ∈ x, d.NanFree) →
      x.map (·.shape) = y.map (·.shape) → Option.Rel (Condition.Matches Parameter.Same) x y := by
    intro x y free h
    cases x with
    | none =>
      cases y with
      | none => exact .none
      | some e => cases h
    | some d =>
      cases y with
      | none => cases h
      | some e => exact .some (Condition.matches_of_shape_eq (free d rfl) (Option.some.inj h))
  simp only [key, SelectKey.mk.injEq] at h
  obtain ⟨table, columns, filter, groupBy, having, orderBy, distinct⟩ := h
  exact ⟨table, columns, related (fun d hd => free d (mem_conditions.mpr (.inl hd))) filter, groupBy,
    related (fun d hd => free d (mem_conditions.mpr (.inr hd))) having, orderBy, distinct⟩

end Select

namespace Item

/-- What kind of object it is, and for a condition also which kind of condition. -/
inductive Kind where
  | parameter
  | condition (kind : ConditionKind)
  | select
  | settings
  | backend
  | command

def kind : Item → Kind
  | .parameter _ => .parameter
  | .condition d => .condition d.kind
  | .select _ => .select
  | .settings _ => .settings
  | .backend _ => .backend
  | .command _ => .command

variable {a b : Item}

theorem key_eq_of_matches (h : a.Matches Parameter.Same b) : a.key = b.key := by
  cases h with
  | parameter h => exact congrArg ItemKey.parameter (Parameter.key_eq_of_same h)
  | condition h => exact congrArg ItemKey.condition (Condition.shape_eq_of_matches h)
  | select h =>
    exact congrArg ItemKey.select (Select.key_eq_of_shapes h fun _ _ _ => Condition.shape_eq_of_matches)
  | settings => rfl
  | backend h => exact congrArg ItemKey.backend h
  | command h => exact congrArg ItemKey.command h

/-- What differs in names and placeholders at most has one key. -/
theorem key_eq_of_twin (free : a.NanFree) (h : a.Matches Parameter.Twin b) : a.key = b.key := by
  cases h with
  | parameter h =>
    exact congrArg ItemKey.parameter (Parameter.key_eq_of_same (Parameter.same_of_twin free h))
  | condition h => exact congrArg ItemKey.condition (Condition.shape_eq_of_twin free h)
  | select h =>
    exact congrArg ItemKey.select (Select.key_eq_of_shapes h fun d hd _ =>
      Condition.shape_eq_of_twin (free d hd))
  | settings => rfl
  | backend h => exact congrArg ItemKey.backend h
  | command h => exact congrArg ItemKey.command h

theorem matches_of_key_eq (free : a.NanFree) (h : a.key = b.key) : a.Matches Parameter.Same b := by
  cases a <;> cases b <;> simp only [key, ItemKey.parameter.injEq, ItemKey.condition.injEq,
    ItemKey.select.injEq, ItemKey.settings.injEq, ItemKey.backend.injEq, ItemKey.command.injEq,
    reduceCtorEq] at h
  case parameter => exact .parameter (Parameter.same_of_key_eq free h)
  case condition => exact .condition (Condition.matches_of_shape_eq free h)
  case select => exact .select (Select.matches_of_key_eq free h)
  case settings => exact h ▸ .settings
  case backend => exact .backend h
  case command => exact .command h

theorem kind_eq_of_matches {rel : Parameter → Parameter → Prop} (h : a.Matches rel b) :
    a.kind = b.kind := by
  cases h with
  | condition h => exact congrArg Kind.condition (Condition.kind_eq_of_matches h)
  | _ => rfl

/-- Equality finds out whether two objects match in parameters that are the same. -/
theorem equal_ok (freeA : a.NanFree) (freeB : b.NanFree) :
    ∃ r, equal a b = .ok r ∧ (r = true ↔ a.Matches Parameter.Same b) := by
  refine ⟨_, equal_of_nanFree freeA freeB, ?_⟩
  rw [decide_eq_true_iff]
  exact ⟨matches_of_key_eq freeA, key_eq_of_matches⟩

section Sets

variable {set items : List Item}

theorem same_of_nanFree (freeA : a.NanFree) (freeB : b.NanFree) :
    same a b = .ok (decide (a.key = b.key)) := by
  unfold same
  by_cases digests : a.digest = b.digest
  · rw [if_pos digests, equal_of_nanFree freeA freeB]
  · have differ : a.key ≠ b.key := fun keys => digests (congrArg ItemKey.digest keys)
    rw [if_neg digests, decide_eq_false differ]

theorem anyM_same (free : ∀ x ∈ set, x.NanFree) (freeA : a.NanFree) :
    set.anyM (same · a) = .ok (decide (a.key ∈ set.map key)) := by
  induction set with
  | nil => rfl
  | cons x set ih =>
    obtain ⟨own, others⟩ := List.forall_mem_cons.mp free
    rw [List.anyM, same_of_nanFree own freeA, ok_bind]
    by_cases first : x.key = a.key
    · simp [first, pure, Except.pure]
    · simp [first, ih others, Ne.symm first]

/-- The members of a set of objects: each key once, that of every object put in. -/
structure Holds (set items : List Item) : Prop where
  free : ∀ a ∈ set, a.NanFree
  nodup : (set.map key).Nodup
  keys : ∀ k, k ∈ set.map key ↔ k ∈ items.map key

theorem holds_insertDistinct (h : Holds set items) (freeA : a.NanFree) :
    ∃ out, insertDistinct set a = .ok out ∧ Holds out (items ++ [a]) := by
  rw [insertDistinct, anyM_same h.free freeA, ok_bind]
  by_cases known : a.key ∈ set.map key
  · refine ⟨set, by simp [known, pure, Except.pure], h.free, h.nodup, fun k => ?_⟩
    have known : a.key ∈ items.map key := (h.keys _).mp known
    rw [h.keys, List.map_append, List.mem_append, List.map_singleton, List.mem_singleton]
    exact ⟨.inl, fun own => own.elim id fun same => same ▸ known⟩
  · refine ⟨set ++ [a], by simp [known, pure, Except.pure], ?_, ?_, fun k => ?_⟩
    · exact List.forall_mem_append.mpr ⟨h.free, List.forall_mem_singleton.mpr freeA⟩
    · rw [List.map_append, List.map_singleton, List.nodup_append]
      refine ⟨h.nodup, List.nodup_singleton _, fun k hk l hl same => known ?_⟩
      exact List.mem_singleton.mp hl ▸ same ▸ hk
    · simp only [List.map_append, List.mem_append, h.keys]

theorem holds_foldlM {more : List Item} (h : Holds set items) (free : ∀ a ∈ more, a.NanFree) :
    ∃ out, more.foldlM insertDistinct set = .ok out ∧ Holds out (items ++ more) := by
  induction more generalizing set items with
  | nil => exact ⟨set, rfl, by simpa using h⟩
  | cons a more ih =>
    obtain ⟨own, others⟩ := List.forall_mem_cons.mp free
    obtain ⟨next, inserted, held⟩ := holds_insertDistinct h own
    obtain ⟨out, rest, held⟩ := ih held others
    refine ⟨out, ?_, by simpa using held⟩
    rw [List.foldlM_cons, inserted, ok_bind, rest]

/-- A set has as many members as there are keys. -/
theorem distinctCount_of_nanFree (free : ∀ a ∈ items, a.NanFree) :
    distinctCount items = .ok (items.map key).toFinset.card := by
  have empty : Holds [] [] := ⟨List.forall_mem_nil _, List.nodup_nil, fun _ => Iff.rfl⟩
  obtain ⟨out, folded, held⟩ := holds_foldlM empty free
  have keys : (out.map key).toFinset = (items.map key).toFinset := by
    ext k
    rw [List.mem_toFinset, List.mem_toFinset, held.keys, List.nil_append]
  rw [distinctCount, folded, ok_bind, ← keys, List.toFinset_card_of_nodup held.nodup,
    List.length_map]
  rfl

/-- The classes of the objects in a list that match each other. -/
def classes (items : List Item) : Set (Set Item) :=
  {C | ∃ a ∈ items, C = {b | b ∈ items ∧ a.Matches Parameter.Same b}}

/-- The objects in a list that have a key. -/
def withKey (items : List Item) (k : ItemKey) : Set Item := {b | b ∈ items ∧ k = b.key}

theorem class_eq (free : a.NanFree) :
    {b | b ∈ items ∧ a.Matches Parameter.Same b} = withKey items a.key := by
  ext b
  exact and_congr_right fun _ => ⟨key_eq_of_matches, matches_of_key_eq free⟩

theorem injOn_withKey : Set.InjOn (withKey items) (items.map key).toFinset := by
  intro k hk l _ same
  obtain ⟨a, ha, rfl⟩ := List.mem_map.mp (List.mem_toFinset.mp (Finset.mem_coe.mp hk))
  have own : a ∈ withKey items a.key := ⟨ha, rfl⟩
  rw [same] at own
  exact own.2.symm

/-- There are as many classes as keys. -/
theorem ncard_classes (free : ∀ a ∈ items, a.NanFree) :
    (classes items).ncard = (items.map key).toFinset.card := by
  have image : classes items = withKey items '' (items.map key).toFinset := by
    ext C
    simp only [Set.mem_image, Finset.mem_coe, List.mem_toFinset, List.mem_map]
    constructor
    · rintro ⟨a, ha, rfl⟩
      exact ⟨a.key, ⟨a, ha, rfl⟩, (class_eq (free a ha)).symm⟩
    · rintro ⟨_, ⟨a, ha, rfl⟩, rfl⟩
      exact ⟨a, ha, (class_eq (free a ha)).symm⟩
  rw [image, injOn_withKey.ncard_image, Set.ncard_coe_finset]

end Sets

/-- Among objects without values that are not numbers equality is decided, an equivalence, and one
between objects of one kind; names, placeholders and commands play no part in it. Equal objects have
one digest, in which the value of a parameter plays no part. A set of the objects has a member for
each class, in whatever order they are put in. -/
theorem equality_of_nanFree {items : List Item} (free : ∀ a ∈ items, a.NanFree) :
    (∀ a ∈ items, ∀ b ∈ items,
      ∃ r, equal a b = .ok r ∧ (r = true ↔ a.Matches Parameter.Same b)) ∧
    (∀ a ∈ items, equal a a = .ok true) ∧
    (∀ a ∈ items, ∀ b ∈ items, equal a b = .ok true → equal b a = .ok true) ∧
    (∀ a ∈ items, ∀ b ∈ items, ∀ c ∈ items,
      equal a b = .ok true → equal b c = .ok true → equal a c = .ok true) ∧
    (∀ a ∈ items, ∀ b ∈ items, a.kind ≠ b.kind → equal a b = .ok false) ∧
    (∀ a ∈ items, ∀ a', a.Matches Parameter.Twin a' →
      ∀ b ∈ items, equal a' b = equal a b ∧ equal b a' = equal b a) ∧
    (∀ a ∈ items, ∀ b ∈ items, equal a b = .ok true → a.digest = b.digest) ∧
    (∀ p value, (Item.parameter { p with value := value }).digest = (Item.parameter p).digest) ∧
    ∃ n, distinctCount items = .ok n ∧ n = (classes items).ncard ∧
      ∀ others, items.Perm others → distinctCount others = .ok n := by
  refine ⟨fun a ha b hb => equal_ok (free a ha) (free b hb), ?_, ?_, ?_, ?_, ?_, ?_, ?_, ?_⟩
  · exact fun a _ => equal_eq_true_iff.mpr rfl
  · exact fun a _ b _ h => equal_eq_true_iff.mpr (equal_eq_true_iff.mp h).symm
  · exact fun a _ b _ c _ first next =>
      equal_eq_true_iff.mpr ((equal_eq_true_iff.mp first).trans (equal_eq_true_iff.mp next))
  · intro a ha b hb kinds
    obtain ⟨r, answer, same⟩ := equal_ok (free a ha) (free b hb)
    have differ : r ≠ true := fun h => kinds (kind_eq_of_matches (same.mp h))
    rw [answer, Bool.eq_false_of_not_eq_true differ]
  · intro a ha a' twin b _
    have keys := key_eq_of_twin (free a ha) twin
    exact ⟨by rw [equal, equal, keys], by rw [equal, equal, keys]⟩
  · exact fun a _ b _ h => congrArg ItemKey.digest (equal_eq_true_iff.mp h)
  · intro p value
    simp only [digest, key, ItemKey.digest, ParameterKey.digest, Parameter.key]
  · refine ⟨_, distinctCount_of_nanFree free, (ncard_classes free).symm, fun others perm => ?_⟩
    rw [distinctCount_of_nanFree fun a ha => free a (perm.mem_iff.mpr ha),
      List.toFinset_eq_of_perm _ _ (perm.map key)]

end Item

namespace Sample

/-! Objects of four classes: one and a half as two kinds of numbers, another number, two conditions
over the same bytes, and the negation of one of them. -/

def elsewhere : Command := ⟨1, ⟨1, .oracle⟩, "q"⟩

def valued (c : Command) (value : Value) : Parameter :=
  ⟨"x", .object, value, true, c.parameterName 0, c.dialect.placeholder (c.parameterName 0), c.id⟩

def held (c : Command) (value : Value) : Condition :=
  .membership c (some "x") [valued c value] false

def objects : List Item :=
  [.parameter (valued command (.float (.finite false 3 (-1)))),
    .parameter (valued elsewhere (.decimal (.finite false 150 (-2) (by decide)))),
    .parameter (valued command (.int 1)), .condition (held command (.bytes [1])),
    .condition (held elsewhere (.buffer [1])),
    .condition (.negation elsewhere (held elsewhere (.buffer [1])))]

theorem nanFree_objects : ∀ a ∈ objects, a.NanFree := by
  have held : ∀ (c : Command) (value : Value), value.hasNan = false → (held c value).NanFree :=
    fun _ _ free => List.forall_mem_singleton.mpr free
  simp only [objects, List.forall_mem_cons]
  exact ⟨rfl, rfl, rfl, held _ _ rfl, held _ _ rfl, held _ _ rfl, List.forall_mem_nil _⟩

end Sample

namespace Item

theorem equality_of_nanFree_objects :
    distinctCount Sample.objects = .ok 4 ∧ (classes Sample.objects).ncard = 4 ∧
      distinctCount Sample.objects.reverse = .ok 4 := by
  have keys : (Sample.objects.map key).toFinset.card = 4 := by decide +kernel
  have counted : distinctCount Sample.objects = .ok 4 := by
    rw [distinctCount_of_nanFree Sample.nanFree_objects, keys]
  obtain ⟨-, -, -, -, -, -, -, -, n, count, classes, permuted⟩ :=
    equality_of_nanFree Sample.nanFree_objects
  obtain rfl : 4 = n := Except.ok.inj (counted.symm.trans count)
  exact ⟨counted, classes.symm, permuted _ (List.reverse_perm _).symm⟩

end Item
end Criteria
