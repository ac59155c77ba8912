/-!
# Ordered maps from names

Maps from names, in the order in which the names were first put in. Putting in a name again
replaces its value and keeps its place.
-/

namespace Criteria

structure NameMap (α : Type) where
  entries : List (String × α)
  nodup : (entries.map Prod.fst).Nodup

namespace NameMap

variable {α : Type}

def putEntry (name : String) (value : α) : List (String × α) → List (String × α)
  | [] => [(name, value)]
  | (n, v) :: rest => if n = name then (n, value) :: rest else (n, v) :: putEntry name value rest

theorem map_fst_putEntry (name : String) (value : α) (entries : List (String × α)) :
    (putEntry name value entries).map Prod.fst =
      if name ∈ entries.map Prod.fst then entries.map Prod.fst
      else entries.map Prod.fst ++ [name] := by
  induction entries with
  | nil => simp [putEntry]
  | cons e rest ih =>
    obtain ⟨n, v⟩ := e
    by_cases h : n = name
    · simp [putEntry, h]
    · by_cases hm : name ∈ rest.map Prod.fst <;>
        simp_all [putEntry, Ne.symm h]

theorem nodup_putEntry {name : String} {value : α} {entries : List (String × α)}
    (h : (entries.map Prod.fst).Nodup) : ((putEntry name value entries).map Prod.fst).Nodup := by
  rw [map_fst_putEntry]
  split
  · exact h
  · rename_i fresh
    rw [List.nodup_append]
    refine ⟨h, by simp, fun a ha b hb e => fresh ?_⟩
    rw [List.mem_singleton.mp hb] at e
    exact e ▸ ha

@[ext] theorem ext {m n : NameMap α} (h : m.entries = n.entries) : m = n := by
  cases m; cases n; cases h; rfl

def empty : NameMap α := ⟨[], .nil⟩

def put (m : NameMap α) (name : String) (value : α) : NameMap α :=
  ⟨putEntry name value m.entries, nodup_putEntry m.nodup⟩

def find? (m : NameMap α) (name : String) : Option α := m.entries.lookup name

def names (m : NameMap α) : List String := m.entries.map Prod.fst

def erase (m : NameMap α) (name : String) : NameMap α :=
  ⟨m.entries.filter (·.1 ≠ name), (List.Sublist.map _ List.filter_sublist).nodup m.nodup⟩

def putAll (m : NameMap α) (entries : List (String × α)) : NameMap α :=
  entries.foldl (fun m e => m.put e.1 e.2) m

def ofList (entries : List (String × α)) : NameMap α := empty.putAll entries

/-- The entries of both, those of the second being put in last. -/
def merge (m n : NameMap α) : NameMap α := m.putAll n.entries

theorem lookup_cons_eq_ite (name n : String) (v : α) (rest : List (String × α)) :
    List.lookup name ((n, v) :: rest) = if name = n then some v else rest.lookup name := by
  by_cases h : name = n
  · simp [h]
  · simp [List.lookup_cons, h, beq_eq_false_iff_ne.mpr h]

theorem find?_put (m : NameMap α) (name : String) (value : α) (other : String) :
    (m.put name value).find? other = if other = name then some value else m.find? other := by
  obtain ⟨entries, nodup⟩ := m
  simp only [find?, put]
  clear nodup
  induction entries with
  | nil => simp [putEntry, lookup_cons_eq_ite]
  | cons e rest ih =>
    obtain ⟨n, v⟩ := e
    by_cases h : n = name
    · subst h
      by_cases ho : other = n <;> simp [putEntry, lookup_cons_eq_ite, ho]
    · by_cases ho : other = n
      · subst ho; simp [putEntry, h]
      · simp [putEntry, lookup_cons_eq_ite, h, ho, ih]

theorem find?_erase (m : NameMap α) (name other : String) :
    (m.erase name).find? other = if other = name then none else m.find? other := by
  obtain ⟨entries, nodup⟩ := m
  simp only [find?, erase]
  clear nodup
  induction entries with
  | nil => simp
  | cons e rest ih =>
    obtain ⟨n, v⟩ := e
    by_cases h : n = name
    · subst h
      by_cases ho : other = n
      · simpa [lookup_cons_eq_ite, ho] using ih
      · simpa [lookup_cons_eq_ite, ho] using ih
    · by_cases ho : other = n
      · subst ho; simp [h]
      · simpa [lookup_cons_eq_ite, h, ho] using ih

theorem mem_names_iff_find?_isSome {m : NameMap α} {name : String} :
    name ∈ m.names ↔ (m.find? name).isSome = true := by
  obtain ⟨entries, nodup⟩ := m
  simp only [find?, names]
  clear nodup
  induction entries with
  | nil => simp
  | cons e rest ih =>
    obtain ⟨n, v⟩ := e
    by_cases h : name = n <;> simp_all [lookup_cons_eq_ite]

example : (ofList [("a", 1), ("b", 2), ("a", 3)]).entries = [("a", 3), ("b", 2)] := by decide
example : ((ofList [("a", 1), ("b", 2)]).merge (ofList [("c", 4), ("a", 5)])).entries =
    [("a", 5), ("b", 2), ("c", 4)] := by decide

end NameMap
end Criteria
