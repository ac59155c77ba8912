import Criteria.Proofs.Bindings
import Criteria.Proofs.Condition.Condensed
import Mathlib.Data.List.Forall2

/-!
# Merging bindings

To merge two maps is to put the entries of the second into the first: a name keeps the place where it
came first and takes the value that came last. It does not matter whether entries are put in one by
one or gathered in a map before, so that merging is associative with the empty map as its unit, and
what the parameters of a whole bind is merged from what the parameters of its parts bind. A part
without a text has no parameters and adds nothing.
-/

namespace Criteria

namespace NameMap

variable {α : Type} {m n : NameMap α} {name other : String} {value replaced : α}
  {entries : List (String × α)}

theorem putEntry_putEntry :
    putEntry name value (putEntry name replaced entries) = putEntry name value entries := by
  induction entries with
  | nil => exact if_pos rfl
  | cons e rest ih =>
    obtain ⟨n, v⟩ := e
    by_cases here : n = name
    · simp [putEntry, here]
    · simp [putEntry, here, ih]

/-- A known name has its place already, so that other names may be put in before it or behind. -/
theorem putEntry_comm (known : name ∈ entries.map Prod.fst) (apart : other ≠ name) :
    putEntry name value (putEntry other replaced entries) =
      putEntry other replaced (putEntry name value entries) := by
  induction entries with
  | nil => cases known
  | cons e rest ih =>
    obtain ⟨n, v⟩ := e
    by_cases here : n = name
    · subst here
      simp [putEntry, apart.symm]
    · have behind : name ∈ rest.map Prod.fst := by simpa [Ne.symm here] using known
      by_cases there : n = other
      · simp [putEntry, there, apart]
      · simp [putEntry, here, there, ih behind]

theorem putEntry_of_fresh (fresh : name ∉ entries.map Prod.fst) :
    putEntry name value entries = entries ++ [(name, value)] := by
  induction entries with
  | nil => rfl
  | cons e rest ih =>
    obtain ⟨n, v⟩ := e
    rw [List.map_cons, List.mem_cons, not_or] at fresh
    rw [putEntry, if_neg (Ne.symm fresh.1), ih fresh.2, List.cons_append]

theorem put_put : (m.put name replaced).put name value = m.put name value :=
  ext putEntry_putEntry

theorem put_comm (known : name ∈ m.names) (apart : other ≠ name) :
    (m.put other replaced).put name value = (m.put name value).put other replaced :=
  ext (putEntry_comm known apart)

theorem putAll_cons (m : NameMap α) (name : String) (value : α) (entries : List (String × α)) :
    m.putAll ((name, value) :: entries) = (m.put name value).putAll entries := rfl

/-- The value of a known name may be put in before the entries of other names. -/
theorem putAll_put (known : name ∈ m.names) (apart : name ∉ entries.map Prod.fst) :
    (m.putAll entries).put name value = (m.put name value).putAll entries := by
  induction entries generalizing m with
  | nil => rfl
  | cons e rest ih =>
    obtain ⟨n, v⟩ := e
    rw [List.map_cons, List.mem_cons, not_or] at apart
    rw [putAll_cons, putAll_cons, ih (mem_names_put.mpr (.inl known)) apart.2,
      put_comm known (Ne.symm apart.1)]

/-- An entry may be put among the others before these are put in. -/
theorem putAll_putEntry (m : NameMap α) (nodup : (entries.map Prod.fst).Nodup) :
    m.putAll (putEntry name value entries) = (m.putAll entries).put name value := by
  induction entries generalizing m with
  | nil => rfl
  | cons e rest ih =>
    obtain ⟨n, v⟩ := e
    obtain ⟨fresh, nodup⟩ := List.nodup_cons.mp nodup
    by_cases here : n = name
    · subst here
      have known : n ∈ (m.put n v).names := mem_names_put.mpr (.inr rfl)
      rw [putEntry, if_pos rfl, putAll_cons, putAll_cons, putAll_put known fresh, put_put]
    · rw [putEntry, if_neg here, putAll_cons, putAll_cons, ih _ nodup]

theorem merge_put (m n : NameMap α) (name : String) (value : α) :
    m.merge (n.put name value) = (m.merge n).put name value :=
  putAll_putEntry m n.nodup

theorem merge_putAll (m n : NameMap α) (entries : List (String × α)) :
    m.merge (n.putAll entries) = (m.merge n).putAll entries := by
  induction entries generalizing n with
  | nil => rfl
  | cons e rest ih => rw [putAll_cons, putAll_cons, ih, merge_put]

theorem merge_assoc (m n : NameMap α) (more : NameMap α) :
    (m.merge n).merge more = m.merge (n.merge more) :=
  (merge_putAll m n more.entries).symm

theorem merge_empty (m : NameMap α) : m.merge .empty = m := rfl

/-- Entries of new names are added behind those that are there. -/
theorem entries_putAll_of_fresh (nodup : ((m.entries ++ entries).map Prod.fst).Nodup) :
    (m.putAll entries).entries = m.entries ++ entries := by
  induction entries generalizing m with
  | nil => exact (List.append_nil _).symm
  | cons e rest ih =>
    obtain ⟨n, v⟩ := e
    have fresh : n ∉ m.entries.map Prod.fst := by
      rw [List.map_append, List.nodup_append] at nodup
      exact fun known => nodup.2.2 n known n List.mem_cons_self rfl
    have put : (m.put n v).entries = m.entries ++ [(n, v)] := putEntry_of_fresh fresh
    have joined : (m.put n v).entries ++ rest = m.entries ++ (n, v) :: rest := by
      rw [put, List.append_assoc, List.singleton_append]
    rw [putAll_cons, ih (joined ▸ nodup), joined]

theorem empty_merge (m : NameMap α) : empty.merge m = m :=
  ext (entries_putAll_of_fresh m.nodup)

theorem ofList_append_eq_merge (entries more : List (String × α)) :
    ofList (entries ++ more) = (ofList entries).merge (ofList more) := by
  rw [ofList_append, ofList, ofList, merge_putAll, merge_empty]

end NameMap

namespace Bindings

theorem ofParameters_append (parameters more : List Parameter) :
    ofParameters (parameters ++ more) = (ofParameters parameters).merge (ofParameters more) := by
  rw [ofParameters, List.filter_append, List.map_append, NameMap.ofList_append_eq_merge]
  rfl

/-- Bindings merged from left to right. -/
def mergeAll (parts : List Bindings) : Bindings := parts.foldl NameMap.merge .empty

theorem foldl_merge (m : Bindings) (parts : List Bindings) :
    parts.foldl NameMap.merge m = m.merge (mergeAll parts) := by
  induction parts generalizing m with
  | nil => rfl
  | cons n rest ih =>
    rw [mergeAll, List.foldl_cons, List.foldl_cons, ih, ih, NameMap.empty_merge,
      NameMap.merge_assoc]

theorem mergeAll_cons (m : Bindings) (parts : List Bindings) :
    mergeAll (m :: parts) = m.merge (mergeAll parts) := by
  rw [mergeAll, List.foldl_cons, NameMap.empty_merge, foldl_merge]

/-- What lists of parameters bind together is merged from what each of them binds. -/
theorem ofParameters_flatMap {ι : Type} (items : List ι) (given : ι → List Parameter) :
    ofParameters (items.flatMap given) = mergeAll (items.map fun i => ofParameters (given i)) := by
  induction items with
  | nil => rfl
  | cons i rest ih => rw [List.flatMap_cons, ofParameters_append, ih, List.map_cons, mergeAll_cons]

end Bindings

namespace Condition

variable {operators : OperatorTable} {d : Condition}

/-- Whichever command writes the condition, these are the values that it binds. -/
def CompilesTo (operators : OperatorTable) (d : Condition) (bindings : Bindings) : Prop :=
  ∀ c : Command, ∃ out, c.compile operators d = .ok out ∧ out.bindings = bindings

theorem compilesTo_of_rendering {part : String × List Parameter}
    (rendered : d.rendering operators = .ok part) :
    d.CompilesTo operators (.ofParameters part.2) := by
  intro c
  rw [compile_eq, rendered]
  exact ⟨_, rfl, rfl⟩

theorem compilesTo_of_mapM {conditions : List Condition} {parts : List (String × List Parameter)}
    (rendered : conditions.mapM (rendering operators) = .ok parts) :
    List.Forall₂ (CompilesTo operators) conditions
      (parts.map fun part => .ofParameters part.2) := by
  induction conditions generalizing parts with
  | nil =>
    cases rendered
    exact .nil
  | cons d rest ih =>
    rw [List.mapM_cons, bind_eq_ok_iff] at rendered
    obtain ⟨part, first, rendered⟩ := rendered
    rw [bind_eq_ok_iff] at rendered
    obtain ⟨others, behind, rendered⟩ := rendered
    cases rendered
    exact .cons (compilesTo_of_rendering first) (ih behind)

/-- The members of a group are merged from left to right. -/
theorem compilesTo_group {c : Command} {connective : Connective} {conditions : List Condition}
    {text : String} (rendered : (group c connective conditions).text operators = .ok text) :
    ∃ parts, List.Forall₂ (CompilesTo operators) conditions parts ∧
      (group c connective conditions).CompilesTo operators (.mergeAll parts) := by
  obtain ⟨given, -, -, whole⟩ := rendering_of_text rendered
  have members := whole
  rw [rendering_group, map_eq_ok_iff] at members
  obtain ⟨parts, each, gathered⟩ := members
  have all : given.getD [] = parts.flatMap Prod.snd := (congrArg Prod.snd gathered).symm
  refine ⟨_, compilesTo_of_mapM each, ?_⟩
  rw [← Bindings.ofParameters_flatMap, ← all]
  exact compilesTo_of_rendering whole

end Condition

namespace Select

variable {operators : OperatorTable}

/-- A condition of a statement adds the parameters of its rendering, and none if it is empty. -/
theorem conditionParameters_of_text {d : Condition} {text : String}
    (rendered : d.text operators = .ok text) :
    ∃ given, conditionParameters operators (some d) = .ok given ∧
      d.CompilesTo operators (.ofParameters given) := by
  obtain ⟨given, taken, empty, whole⟩ := Condition.rendering_of_text rendered
  refine ⟨given.getD [], ?_, Condition.compilesTo_of_rendering whole⟩
  simp only [conditionParameters, rendered, taken, ok_bind]
  by_cases blank : text = ""
  · rw [if_pos blank, empty blank]
    rfl
  · rw [if_neg blank]
    rfl

theorem bindings_of_texts {q : Select} {filter having : Condition} {first second : String}
    (filtered : q.filter = some filter) (grouped : q.having = some having)
    (front : filter.text operators = .ok first) (behind : having.text operators = .ok second) :
    ∃ m n, filter.CompilesTo operators m ∧ having.CompilesTo operators n ∧
      q.bindings operators = .ok (m.merge n) := by
  obtain ⟨own, taken, compiled⟩ := conditionParameters_of_text front
  obtain ⟨others, takenBehind, compiledBehind⟩ := conditionParameters_of_text behind
  refine ⟨_, _, compiled, compiledBehind, ?_⟩
  simp only [bindings, parameters, filtered, grouped, taken, takenBehind, ok_bind]
  rw [← Bindings.ofParameters_append]
  rfl

end Select

namespace Bindings

/-- What lists of parameters bind together is the bindings of the first merged with those of the
second. No parameters at all are the unit of merging, and merging is associative. So a group that can
be written binds what its members bind, merged from left to right, and a statement binds what
its two conditions bind, merged. -/
theorem merged_of_parts (operators : OperatorTable) :
    (∀ (xs ys : List Parameter) (sql dialect : String),
      ofParameters (xs ++ ys) = (Compiled.mk sql (ofParameters xs) dialect).withRuntime
        (ofParameters ys)) ∧
    (∀ (s : Compiled) (m : Bindings),
      s.withRuntime (ofParameters (Option.getD none [])) = s.bindings ∧
        { s with bindings := ofParameters (Option.getD none []) }.withRuntime m = m) ∧
    (∀ (s t : Compiled) (m : Bindings),
      { s with bindings := s.withRuntime t.bindings }.withRuntime m =
        s.withRuntime (t.withRuntime m)) ∧
    (∀ (c : Command) (connective : Connective) (conditions : List Condition) (text : String),
      (Condition.group c connective conditions).text operators = .ok text →
        ∃ parts, List.Forall₂ (Condition.CompilesTo operators) conditions parts ∧
          (Condition.group c connective conditions).CompilesTo operators (mergeAll parts)) ∧
    ∀ (q : Select) (filter having : Condition) (first second : String),
      q.filter = some filter → q.having = some having → filter.text operators = .ok first →
        having.text operators = .ok second →
          ∃ m n, filter.CompilesTo operators m ∧ having.CompilesTo operators n ∧
            q.bindings operators = .ok (m.merge n) := by
  refine ⟨?append, ?unit, ?associative, ?group, ?statement⟩
  case append => exact fun xs ys _ _ => ofParameters_append xs ys
  case unit => exact fun s m => ⟨NameMap.merge_empty s.bindings, NameMap.empty_merge m⟩
  case associative => exact fun s t m => NameMap.merge_assoc s.bindings t.bindings m
  case group => exact fun _ _ _ _ rendered => Condition.compilesTo_group rendered
  case statement =>
    intro q filter having first second filtered grouped front behind
    exact Select.bindings_of_texts filtered grouped front behind

end Bindings

namespace Sample

/-! Conditions that bind one name twice, with an empty one between them. -/

def again (n : Int) : Condition := .membership command (some "id") [bound "id" (.int n) 0] false

def nothing : Condition := .membership command (some "id") [] true

def twice : Select where
  table := "people"
  columns := ["*"]
  filter := some (.group command .or [again 7, nothing, again 8])
  groupBy := []
  having := some (again 9)
  orderBy := []
  distinct := false

end Sample

theorem Bindings.merged_of_parts_again :
    (∃ parts, List.Forall₂ (Condition.CompilesTo .builtIn)
        [Sample.again 7, Sample.nothing, Sample.again 8] parts ∧
      (Condition.group Sample.command .or
        [Sample.again 7, Sample.nothing, Sample.again 8]).CompilesTo .builtIn (mergeAll parts)) ∧
    ∃ m n, (Condition.group Sample.command .or
        [Sample.again 7, Sample.nothing, Sample.again 8]).CompilesTo .builtIn m ∧
      (Sample.again 9).CompilesTo .builtIn n ∧
      Sample.twice.bindings .builtIn = .ok (m.merge n) := by
  obtain ⟨-, -, -, group, statement⟩ := merged_of_parts .builtIn
  exact ⟨group _ _ _ _ rfl, statement Sample.twice _ _ _ _ rfl rfl rfl rfl⟩

end Criteria
