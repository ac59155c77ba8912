import Criteria.Parameter

/-!
# What is bound to a name

The names in a map that has been put together entry by entry, and what is found under them.
Parameters of one name that have one value leave this value under the name.
-/

namespace Criteria

namespace NameMap

variable {α : Type}

theorem mem_names_put {m : NameMap α} {name other : String} {value : α} :
    other ∈ (m.put name value).names ↔ other ∈ m.names ∨ other = name := by
  have entries : (m.put name value).names = (putEntry name value m.entries).map Prod.fst := rfl
  rw [entries, map_fst_putEntry]
  by_cases known : name ∈ m.entries.map Prod.fst
  · rw [if_pos known]
    constructor
    · exact .inl
    · rintro (h | rfl)
      · exact h
      · exact known
  · rw [if_neg known, List.mem_append, List.mem_singleton]
    rfl

theorem mem_names_putAll {m : NameMap α} {entries : List (String × α)} {name : String} :
    name ∈ (m.putAll entries).names ↔ name ∈ m.names ∨ name ∈ entries.map Prod.fst := by
  induction entries generalizing m with
  | nil => simp [putAll]
  | cons e entries ih =>
    change name ∈ ((m.put e.1 e.2).putAll entries).names ↔ _
    rw [ih, mem_names_put, List.map_cons, List.mem_cons, or_assoc]

/-- The entry of a name that has been put in last stands under it. -/
theorem find?_putAll (m : NameMap α) (entries : List (String × α)) (name : String) :
    (m.putAll entries).find? name = (entries.reverse.lookup name).or (m.find? name) := by
  induction entries generalizing m with
  | nil => rfl
  | cons e entries ih =>
    obtain ⟨n, v⟩ := e
    change ((m.put n v).putAll entries).find? name = _
    rw [ih, find?_put, List.reverse_cons, List.lookup_append, Option.or_assoc, lookup_cons_eq_ite]
    by_cases here : name = n
    · simp [here]
    · simp [here]

theorem find?_ofList (entries : List (String × α)) (name : String) :
    (ofList entries).find? name = entries.reverse.lookup name := by
  rw [ofList, find?_putAll]
  exact Option.or_none

/-- There is no last entry of a name when there is none at all. -/
theorem lookup_reverse_eq_none_iff {entries : List (String × α)} {name : String} :
    entries.reverse.lookup name = none ↔ ∀ e ∈ entries, e.1 ≠ name := by
  rw [List.lookup_eq_none_iff]
  refine forall_congr' fun e => ?_
  rw [List.mem_reverse, bne_iff_ne, ne_comm]

theorem ofList_append (entries more : List (String × α)) :
    ofList (entries ++ more) = (ofList entries).putAll more := List.foldl_append

/-- Entries that agree on a name leave their value under it. -/
theorem find?_putAll_of_agree {m : NameMap α} {entries : List (String × α)} {name : String}
    {value : α} (agree : ∀ e ∈ entries, e.1 = name → e.2 = value)
    (known : name ∈ entries.map Prod.fst ∨ m.find? name = some value) :
    (m.putAll entries).find? name = some value := by
  induction entries generalizing m with
  | nil => simpa [putAll] using known
  | cons e entries ih =>
    rw [List.forall_mem_cons] at agree
    change ((m.put e.1 e.2).putAll entries).find? name = some value
    apply ih agree.2
    rw [find?_put]
    by_cases here : name = e.1
    · right
      rw [if_pos here, agree.1 here.symm]
    · rw [if_neg here]
      simpa [here] using known

end NameMap

/-- The names of the parameters that are bound. -/
def Parameter.boundNames (parameters : List Parameter) : List String :=
  (parameters.filter (·.bindable)).map (·.name)

namespace Bindings

theorem mem_names_ofParameters {parameters : List Parameter} {name : String} :
    name ∈ (ofParameters parameters).names ↔ name ∈ Parameter.boundNames parameters := by
  rw [ofParameters, NameMap.ofList, NameMap.mem_names_putAll, List.map_map]
  constructor
  · rintro (h | h)
    · cases h
    · exact h
  · exact .inr

/-- A parameter that agrees in its value with all of its name is found under it. -/
theorem find?_ofParameters_of_agree {parameters : List Parameter} {p : Parameter}
    (hp : p ∈ parameters) (bindable : p.bindable = true)
    (agree : ∀ q ∈ parameters, q.bindable = true → q.name = p.name → q.value = p.value) :
    (ofParameters parameters).find? p.name = some p.value := by
  have mem : p ∈ parameters.filter (·.bindable) := List.mem_filter.mpr ⟨hp, bindable⟩
  apply NameMap.find?_putAll_of_agree
  · intro e he same
    obtain ⟨q, hq, rfl⟩ := List.mem_map.mp he
    obtain ⟨hq, bound⟩ := List.mem_filter.mp hq
    exact agree q hq bound same
  · left
    rw [List.map_map]
    exact List.mem_map.mpr ⟨p, mem, rfl⟩

/-- A parameter that shares its name only with itself is found under it. -/
theorem find?_ofParameters {parameters : List Parameter} {p : Parameter} (hp : p ∈ parameters)
    (bindable : p.bindable = true)
    (own : ∀ q ∈ parameters, q.bindable = true → q.name = p.name → q = p) :
    (ofParameters parameters).find? p.name = some p.value :=
  find?_ofParameters_of_agree hp bindable fun q hq bound same => by rw [own q hq bound same]

end Bindings
end Criteria
