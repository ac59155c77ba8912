import Criteria.Proofs.Delimited
import Criteria.Proofs.Equality
import Criteria.Proofs.Naming

/-!
# Ways to a membership

Memberships of values, of parameters and of delimited texts. A delimited text is read to its end
before the first value is bound, so that either all of it is bound or nothing is, and all the ways
lead to the same membership.
-/

namespace Criteria

namespace DataType

/-- What was read has by itself the kind that it was read as. Objects are read as texts. -/
theorem infer_of_read? {type : DataType} (own : type ≠ .object) {token : String} {v : Value}
    (read : type.read? token = some v) : infer v = type := by
  cases type
  case string | binary => cases read; rfl
  case object => exact absurd rfl own
  all_goals
    obtain ⟨_, _, rfl⟩ := Option.map_eq_some_iff.mp read
    rfl

/-- The kind is that of the first value that is not null. -/
inductive IsFirst : DataType → List Value → Prop
  | none {values : List Value} (nulls : ∀ v ∈ values, v = .null) : IsFirst .object values
  | some {before behind : List Value} {v : Value} (nulls : ∀ u ∈ before, u = .null)
      (filled : v ≠ .null) : IsFirst (infer v) (before ++ v :: behind)

theorem isFirst_inferFirst (values : List Value) : IsFirst (inferFirst values) values := by
  induction values with
  | nil => exact .none nofun
  | cons v values ih =>
    by_cases null : v = .null
    · rw [null, inferFirst]
      generalize inferFirst values = type at ih ⊢
      cases ih with
      | none nulls => exact .none (List.forall_mem_cons.mpr ⟨rfl, nulls⟩)
      | some nulls filled => exact .some (List.forall_mem_cons.mpr ⟨rfl, nulls⟩) filled
    · rw [inferFirst.eq_3 _ _ null]
      exact @IsFirst.some [] values v nofun null

/-- The first text that is no literal of the kind. -/
def firstUnread (type : DataType) (tokens : List String) : Option String :=
  tokens.find? fun token => (type.read? token).isNone

theorem firstUnread_of_read? {type : DataType} {token : String} {v : Value}
    (read : type.read? token = some v) (tokens : List String) :
    type.firstUnread (token :: tokens) = type.firstUnread tokens := by
  simp [firstUnread, read]

end DataType

namespace Condition

open Text Build

variable {type : DataType} {tokens : List String}

theorem mapM_readToken_unread {token : String} (unread : type.firstUnread tokens = some token)
    (column : Option String) :
    tokens.mapM (readToken column type) = .error (.badLiteral column token type) := by
  induction tokens with
  | nil => cases unread
  | cons first tokens ih =>
    rw [List.mapM_cons, readToken]
    cases read : type.read? first with
    | none =>
      obtain rfl : first = token := by simpa [DataType.firstUnread, read] using unread
      rfl
    | some v =>
      rw [DataType.firstUnread_of_read? read] at unread
      rw [ok_bind, ih unread]
      rfl

theorem map_read?_of_firstUnread (all : type.firstUnread tokens = none) :
    tokens.map type.read? = (tokens.filterMap type.read?).map some := by
  induction tokens with
  | nil => rfl
  | cons first tokens ih =>
    cases read : type.read? first with
    | none => simp [DataType.firstUnread, read] at all
    | some v =>
      rw [DataType.firstUnread_of_read? read] at all
      rw [List.map_cons, List.filterMap_cons, read, ih all]
      rfl

end Condition

namespace Command

/-- What the values are bound to: parameters for the column, all of one kind, under the next
names. -/
structure Binds (c : Command) (column : String) (type : DataType) (next : Nat)
    (values : List Value) (items : List Parameter) : Prop where
  made : items.map (·.value) = values
  alike : ∀ p ∈ items, p.column = column ∧ p.dataType = type ∧ p.bindable = true
  names : items.map (·.name) = c.namesFrom next values.length
  distinct : (items.map (·.name)).Nodup
  fresh : ∀ n < next, c.parameterName n ∉ items.map (·.name)
  texts : items.mapM Parameter.text =
    .ok ((c.namesFrom next values.length).map c.dialect.placeholder)

theorem numbers_boundFrom (c : Command) (column : String) (type : DataType) (s : Supply)
    (values : List Value) : c.Numbers s.next (c.boundFrom column type s values) := by
  induction values generalizing s with
  | nil => trivial
  | cons v values ih => exact ⟨⟨rfl, rfl, rfl⟩, ih ⟨s.next + 1, s.origin + 1⟩⟩

theorem binds_boundFrom (c : Command) (column : String) (type : DataType) (s : Supply)
    (values : List Value) :
    c.Binds column type s.next values (c.boundFrom column type s values) := by
  have made := c.map_value_boundFrom column type s values
  have length : (c.boundFrom column type s values).length = values.length := by
    rw [← List.length_map, made]
  have numbers := c.numbers_boundFrom column type s values
  have names := names_of_numbers numbers
  rw [filter_bindable_of_numbers numbers, length] at names
  refine ⟨made, fun p hp => ?_, names, names ▸ nodup_namesFrom c _ _, fun n before => ?_, ?_⟩
  · obtain ⟨column, type⟩ := c.dataType_boundFrom column type s values p hp
    obtain ⟨_, -, -, named⟩ := numbers_get numbers hp
    exact ⟨column, type, named.1⟩
  · rw [names, namesFrom]
    intro mem
    obtain ⟨m, inside, same⟩ := List.mem_map.mp mem
    obtain rfl := parameterName_injective same
    exact absurd (List.mem_range'_1.mp inside).1 (Nat.not_le.mpr before)
  · rw [texts_of_numbers numbers, length]

/-- The same values are bound by twins, on whichever commands. -/
theorem twin_boundFrom (c c' : Command) (column : String) (type : DataType) (s s' : Supply)
    (values : List Value) : List.Forall₂ Parameter.Twin (c.boundFrom column type s values)
      (c'.boundFrom column type s' values) := by
  induction values generalizing s s' with
  | nil => exact .nil
  | cons v values ih => exact .cons ⟨rfl, rfl, rfl, rfl⟩ (ih _ _)

end Command

/-- The call fails with an error that is reported as being of a kind, and leaves the supply as it
is: no condition comes about, and the next name is the same. -/
structure Build.FailsAs {α : Type} (x : Build α) (s : Supply) (e : Error) (kind : ReportKind) :
    Prop where
  ran : x.run.run s = (.error e, s)
  reported : ∃ r, e.report? = some r ∧ r.kind = kind

/-- The report on a text that is no literal names the column, if there is one, the text and the
kind of data. -/
theorem details_badLiteral (column : Option String) (token : String) (type : DataType) :
    ∃ r, (Error.badLiteral column token type).report? = some r ∧
      r.details.find? "column" = column.map .text ∧ r.details.find? "token" = some (.text token) ∧
      r.details.find? "data_type" = some (.text type.name) := by
  refine ⟨_, rfl, ?_⟩
  cases column with
  | none => exact ⟨rfl, rfl, rfl⟩
  | some name => exact ⟨rfl, rfl, rfl⟩

namespace Condition

open Text Build

theorem run_inValues_list (c : Command) (column : Option String) (values : List Value)
    (type : Option DataType) (negated : Bool) (s : Supply) :
    (inValues c column (.list values) type negated).run.run s =
      (inList c column values type negated).run.run s := rfl

theorem run_inList_unnamed {column : Option String} (unnamed : ¬Command.IsNamed column)
    (c : Command) {values : List Value} (nonempty : values ≠ []) (type : Option DataType)
    (negated : Bool) (s : Supply) :
    (inList c column values type negated).run.run s = (.error (.blankColumn column), s) := by
  rw [inList, run_bind, Command.run_parameters_unnamed unnamed c nonempty]

section Outcomes

variable {c : Command} {column text : Option String} {type : DataType} {separator : String}
  {negated : Bool} {s : Supply}

theorem run_inDelimited_unread (filled : separator ≠ "") {token : String}
    (first : type.firstUnread (tokens separator (text.getD "")) = some token) :
    (inDelimited c column text type separator negated).run.run s =
      (.error (.badLiteral column token type), s) := by
  rw [run_inDelimited_bind filled, mapM_readToken_unread first]

/-- Once all tokens are read, the membership is that of the values. -/
theorem run_inDelimited_read (filled : separator ≠ "")
    (all : type.firstUnread (tokens separator (text.getD "")) = none) :
    (inDelimited c column text type separator negated).run.run s =
      (inValues c column (.list ((tokens separator (text.getD "")).filterMap type.read?))
        (some type) negated).run.run s := by
  rw [run_inDelimited_bind filled, mapM_readToken (map_read?_of_firstUnread all),
    run_inValues_list]

/-- Without a token there is nothing that needs a column. -/
theorem exists_run_inDelimited (filled : separator ≠ "")
    (all : type.firstUnread (tokens separator (text.getD "")) = none)
    (named : tokens separator (text.getD "") = [] ∨ Command.IsNamed column) :
    ∃ d t, (inDelimited c column text type separator negated).run.run s = (.ok d, t) := by
  rw [run_inDelimited_read filled all, run_inValues_list]
  rcases named with nothing | ⟨name, rfl, visible⟩
  · rw [nothing]
    exact ⟨_, _, rfl⟩
  · exact ⟨_, _, run_inList visible c type _ negated s⟩

theorem run_inDelimited_unnamed (filled : separator ≠ "")
    (all : type.firstUnread (tokens separator (text.getD "")) = none)
    (found : tokens separator (text.getD "") ≠ []) (unnamed : ¬Command.IsNamed column) :
    (inDelimited c column text type separator negated).run.run s =
      (.error (.blankColumn column), s) := by
  have nonempty : (tokens separator (text.getD "")).filterMap type.read? ≠ [] := by
    intro nothing
    have read := map_read?_of_firstUnread all
    rw [nothing, List.map_nil, List.map_eq_nil_iff] at read
    exact found read
  rw [run_inDelimited_read filled all, run_inValues_list]
  exact run_inList_unnamed unnamed c nonempty _ negated s

/-- Whatever the cause of a failure is, nothing has been taken. -/
theorem supply_of_inDelimited_error {e : Error} {t : Supply}
    (failed : (inDelimited c column text type separator negated).run.run s = (.error e, t)) :
    t = s := by
  by_cases filled : separator = ""
  · subst filled
    exact (Prod.mk.inj failed).2.symm
  cases first : type.firstUnread (tokens separator (text.getD "")) with
  | some token =>
    rw [run_inDelimited_unread filled first] at failed
    exact (Prod.mk.inj failed).2.symm
  | none =>
    by_cases named : tokens separator (text.getD "") = [] ∨ Command.IsNamed column
    · obtain ⟨d, u, made⟩ :
          ∃ d u, (inDelimited c column text type separator negated).run.run s = (.ok d, u) :=
        exists_run_inDelimited filled first named
      rw [made] at failed
      cases failed
    · obtain ⟨found, unnamed⟩ := not_or.mp named
      rw [run_inDelimited_unnamed filled first found unnamed] at failed
      exact (Prod.mk.inj failed).2.symm

end Outcomes

/-- A delimited text is refused for an empty separator, else for the first token that is no literal,
else for a blank column if there is a token at all. In each case nothing is taken. If it is not
refused, it gives what the values of its tokens give. -/
theorem outcome_of_delimited (c : Command) (column text : Option String) (type : DataType)
    (separator : String) (negated : Bool) (s : Supply) :
    (separator = "" → FailsAs (inDelimited c column text type separator negated) s
      (.emptySeparator column) .construction) ∧
    (separator ≠ "" → ∀ token, type.firstUnread (tokens separator (text.getD "")) = some token →
      FailsAs (inDelimited c column text type separator negated) s
        (.badLiteral column token type) .conversion ∧
      ∃ r, (Error.badLiteral column token type).report? = some r ∧
        r.details.find? "column" = column.map .text ∧
        r.details.find? "token" = some (.text token) ∧
        r.details.find? "data_type" = some (.text type.name)) ∧
    (separator ≠ "" → type.firstUnread (tokens separator (text.getD "")) = none →
      (tokens separator (text.getD "") ≠ [] → ¬Command.IsNamed column →
        FailsAs (inDelimited c column text type separator negated) s (.blankColumn column)
          .construction) ∧
      (tokens separator (text.getD "") = [] ∨ Command.IsNamed column →
        ∃ d t, (inDelimited c column text type separator negated).run.run s = (.ok d, t) ∧
          (inValues c column (.list ((tokens separator (text.getD "")).filterMap type.read?))
            (some type) negated).run.run s = (.ok d, t))) ∧
    ∀ e t, (inDelimited c column text type separator negated).run.run s = (.error e, t) →
      t = s := by
  refine ⟨?empty, fun filled token first => ⟨?unread, details_badLiteral column token type⟩,
    fun filled all => ⟨fun found unnamed => ?unnamed, fun named => ?made⟩,
    fun _ _ => supply_of_inDelimited_error⟩
  case empty =>
    rintro rfl
    exact ⟨rfl, _, rfl, rfl⟩
  case unread => exact ⟨run_inDelimited_unread filled first, _, rfl, rfl⟩
  case unnamed => exact ⟨run_inDelimited_unnamed filled all found unnamed, _, rfl, rfl⟩
  case made =>
    obtain ⟨d, t, made⟩ := exists_run_inDelimited filled all named
    exact ⟨d, t, made, (run_inDelimited_read filled all).symm.trans made⟩

/-- The first of two tokens that are no numbers, ahead of a column that is blank. -/
theorem outcome_of_delimited_blank :
    FailsAs (inDelimited ⟨0, ⟨0, .sqlite⟩, "p"⟩ (some " ") (some "1, x,y") .integer "," false)
      ⟨0, 0⟩ (.badLiteral (some " ") "x" .integer) .conversion ∧
    FailsAs (inDelimited ⟨0, ⟨0, .sqlite⟩, "p"⟩ (some " ") (some "1, ") .integer "," false)
      ⟨0, 0⟩ (.blankColumn (some " ")) .construction ∧
    ∃ d t, (inDelimited ⟨0, ⟨0, .sqlite⟩, "p"⟩ (some "id") (some "1, ") .integer "," false).run.run
        ⟨0, 0⟩ = (.ok d, t) ∧
      (inValues ⟨0, ⟨0, .sqlite⟩, "p"⟩ (some "id") (.list [.int 1]) (some .integer) false).run.run
        ⟨0, 0⟩ = (.ok d, t) := by
  have unnamed : ¬Command.IsNamed (some " ") := by
    rintro ⟨name, ⟨⟩, visible⟩
    exact absurd visible (by decide)
  obtain ⟨-, unread, -⟩ := outcome_of_delimited ⟨0, ⟨0, .sqlite⟩, "p"⟩ (some " ") (some "1, x,y")
    .integer "," false ⟨0, 0⟩
  obtain ⟨-, -, blank, -⟩ := outcome_of_delimited ⟨0, ⟨0, .sqlite⟩, "p"⟩ (some " ") (some "1, ")
    .integer "," false ⟨0, 0⟩
  obtain ⟨-, -, named, -⟩ := outcome_of_delimited ⟨0, ⟨0, .sqlite⟩, "p"⟩ (some "id") (some "1, ")
    .integer "," false ⟨0, 0⟩
  exact ⟨(unread (by decide) "x" (by decide)).1,
    (blank (by decide) (by decide)).1 (by decide) unnamed,
    (named (by decide) (by decide)).2 (.inr ⟨"id", rfl, by decide⟩)⟩

theorem inferFirst_of_read {type : DataType} (own : type ≠ .object) {tokens : List String}
    (nonempty : tokens ≠ []) {values : List Value}
    (read : tokens.map type.read? = values.map some) :
    DataType.inferFirst values = type ∧ ∀ v ∈ values, DataType.infer v = type := by
  have inferred : ∀ v ∈ values, DataType.infer v = type := by
    intro v hv
    have mem : some v ∈ tokens.map type.read? := read ▸ List.mem_map_of_mem hv
    obtain ⟨token, -, read⟩ := List.mem_map.mp mem
    exact DataType.infer_of_read? own read
  refine ⟨?_, inferred⟩
  cases values with
  | nil => exact absurd (List.map_eq_nil_iff.mp read) nonempty
  | cons v values =>
    have kind := inferred v List.mem_cons_self
    have filled : v ≠ .null := by
      rintro rfl
      exact own kind.symm
    rw [DataType.inferFirst.eq_3 _ _ filled, kind]

section Bound

variable {c : Command} {column : String} {type : DataType} {n : Nat} {values : List Value}
  {items : List Parameter}

theorem text_of_binds (binds : c.Binds column type n values items) (negated : Bool)
    (table : OperatorTable) :
    text table (.membership c (some column) items negated) = .ok (
      if values.isEmpty then "" else
        "(" ++ column ++ (if negated then " NOT IN (" else " IN (") ++
          ",".intercalate ((c.namesFrom n values.length).map c.dialect.placeholder) ++ "))") := by
  have empty : ((c.namesFrom n values.length).map c.dialect.placeholder).isEmpty =
      values.isEmpty := by cases values <;> rfl
  rw [text, textWith, membershipText, binds.texts, ← empty]
  rfl

theorem ofItems_of_binds (binds : c.Binds column type n values items) (negated : Bool) :
    ofItems c (some column) items negated = .ok (.membership c (some column) items negated) :=
  ofItems_eq_ok_iff.mpr ⟨fun p hp => congrArg some (binds.alike p hp).1, rfl⟩

/-- The column may be left out where there is a parameter that has it. -/
theorem inParameters_of_binds (binds : c.Binds column type n values items)
    (nonempty : values ≠ []) (negated : Bool) : ∀ own ∈ [none, some column],
      inParameters c own (some items) negated = .ok (.membership c (some column) items negated) := by
  have made := ofItems_of_binds binds negated
  intro own mem
  cases items with
  | nil => exact absurd binds.made.symm nonempty
  | cons p items =>
    have same : own.getD p.column = column := by
      rcases List.mem_pair.mp mem with rfl | rfl
      · exact (binds.alike p List.mem_cons_self).1
      · rfl
    rw [inParameters, same, made]

end Bound

/-- All ways to a membership of values lead to the same one. The kind of the values may be left out:
it is that of the first value that is not null, and of values that have been read the kind that they
were read as. -/
theorem ways_to_membership {column : String} (visible : isBlank column = false) (c : Command)
    (negated : Bool) (s : Supply) :
    (∀ values given, ∃ type items,
      (given = some type ∨ given = none ∧ type.IsFirst values) ∧
      c.Binds column type s.next values items ∧
      (inValues c (some column) (.list values) given negated).run.run s =
        (.ok (.membership c (some column) items negated),
          ⟨s.next + values.length, s.origin + values.length⟩) ∧
      (∀ table, text table (.membership c (some column) items negated) = .ok (
        if values.isEmpty then "" else
          "(" ++ column ++ (if negated then " NOT IN (" else " IN (") ++
            ",".intercalate ((c.namesFrom s.next values.length).map c.dialect.placeholder) ++
              "))")) ∧
      (values ≠ [] →
        (values.mapM fun v => c.parameter (some column) v (some type)).run.run s =
          (.ok items, ⟨s.next + values.length, s.origin + values.length⟩) ∧
        (∀ own ∈ [none, some column], inParameters c own (some items) negated =
          .ok (.membership c (some column) items negated)) ∧
        ofItems c (some column) items negated =
          .ok (.membership c (some column) items negated))) ∧
    (∀ type separator text values, type ≠ .object → separator ≠ "" →
      tokens separator text ≠ [] → (tokens separator text).map type.read? = values.map some →
      (∀ v ∈ values, DataType.infer v = type) ∧
      (inValues c (some column) (.list values) none negated).run.run s =
        (inDelimited c (some column) (some text) type separator negated).run.run s ∧
      ∀ c' s', ∃ d t d' t',
        (inValues c (some column) (.list values) none negated).run.run s = (.ok d, t) ∧
        (inDelimited c' (some column) (some text) type separator negated).run.run s' =
          (.ok d', t') ∧ d.Matches Parameter.Twin d') := by
  constructor
  · intro values given
    have kind : given = some (given.getD (.inferFirst values)) ∨
        given = none ∧ (given.getD (.inferFirst values)).IsFirst values := by
      cases given with
      | none => exact .inr ⟨rfl, DataType.isFirst_inferFirst values⟩
      | some type => exact .inl rfl
    -- From here on it makes no difference whether the kind was given.
    generalize defined : given.getD (.inferFirst values) = type at kind
    have binds := c.binds_boundFrom column type s values
    have made := run_inList visible c type values negated s
    refine ⟨type, _, kind, binds, ?_, text_of_binds binds negated, fun nonempty => ?_⟩
    · rw [run_inValues_list, inList, defined]
      exact made
    · exact ⟨Command.run_parameters visible c type values s,
        inParameters_of_binds binds nonempty negated, ofItems_of_binds binds negated⟩
  · intro type separator text values own filled nonempty read
    obtain ⟨first, inferred⟩ := inferFirst_of_read own nonempty read
    have listed : (inValues c (some column) (.list values) none negated).run.run s =
        (.ok (.membership c (some column) (c.boundFrom column type s values) negated),
          ⟨s.next + values.length, s.origin + values.length⟩) := by
      rw [run_inValues_list, inList, Option.getD_none, first]
      exact run_inList visible c type values negated s
    refine ⟨inferred, listed.trans (run_inDelimited visible filled read c negated s).symm,
      fun c' s' => ?_⟩
    exact ⟨_, _, _, _, listed, run_inDelimited visible filled read c' negated s',
      .membership (c.twin_boundFrom c' column type s s' values)⟩

theorem ways_to_membership_words :
    (∃ items, (Command.mk 0 ⟨0, .sqlite⟩ "p").Binds "id" .integer 4 [.null, .int 7, .int 7] items ∧
      ([.null, .int 7, .int 7].mapM fun v =>
        (Command.mk 0 ⟨0, .sqlite⟩ "p").parameter (some "id") v (some .integer)).run.run ⟨4, 0⟩ =
          (.ok items, ⟨7, 3⟩) ∧
      inParameters ⟨0, ⟨0, .sqlite⟩, "p"⟩ none (some items) true =
        .ok (.membership ⟨0, ⟨0, .sqlite⟩, "p"⟩ (some "id") items true)) ∧
    (inValues ⟨0, ⟨0, .sqlite⟩, "p"⟩ (some "id") (.list [.bool true, .bool false]) none true).run.run
        ⟨4, 0⟩ =
      (inDelimited ⟨0, ⟨0, .sqlite⟩, "p"⟩ (some "id") (some "yes; ;0") .boolean ";" true).run.run
        ⟨4, 0⟩ := by
  have named : isBlank "id" = false := by decide
  obtain ⟨given, read⟩ := ways_to_membership named ⟨0, ⟨0, .sqlite⟩, "p"⟩
    true ⟨4, 0⟩
  obtain ⟨type, items, kind, binds, -, -, others⟩ :=
    given [.null, .int 7, .int 7] (some .integer)
  obtain rfl : type = .integer := by
    rcases kind with same | ⟨missing, -⟩
    · exact (Option.some.inj same).symm
    · cases missing
  obtain ⟨created, passed, -⟩ := others (List.cons_ne_nil _ _)
  refine ⟨⟨items, binds, created, passed none List.mem_cons_self⟩, ?_⟩
  exact (read .boolean ";" "yes; ;0" [.bool true, .bool false] nofun (by decide) (by decide)
    rfl).2.1

end Condition

end Criteria
