import Criteria.Address
import Criteria.Proofs.Bindings
import Criteria.Proofs.Outcome

/-!
# The catalog and its shared backends

How the two maps of a catalog keep in step: the backend that is shared under a name is one of the
dialect registered under it, and no two names share one. All that can be asked of a catalog is one
of a few moves, and each of them keeps this, whether it finds a shared backend or makes one.
-/

namespace Criteria

/-- The name of the dialect for the database at an address. The catalog takes no part in it. -/
def Address.target (address : String) : Except Error String := do
  match takeScheme? address with
  | none => throw .malformedAddress
  | some (scheme, rest) =>
    if let some port := port? rest then checkPort port
    let first := String.ofList (scheme.toList.takeWhile (· ≠ '+'))
    match Catalog.addressNames.lookup first with
    | some name => return name
    | none => throw (.unknownDialect first (Text.sorted (Catalog.addressNames.map (·.1))))

namespace Catalog

/-- The backend for an address is the one under the name that the address stands for. -/
theorem getForAddress_eq (c : Catalog) (address : String) :
    c.getForAddress address = Address.target address >>= c.get := by
  have scheme : ∀ scheme : String, c.getForScheme scheme =
      (match addressNames.lookup (String.ofList (scheme.toList.takeWhile (· ≠ '+'))) with
        | some name => .ok name
        | none => .error (.unknownDialect (String.ofList (scheme.toList.takeWhile (· ≠ '+')))
            (Text.sorted (addressNames.map (·.1))))) >>= c.get := by
    intro scheme
    unfold getForScheme
    dsimp only
    cases addressNames.lookup (String.ofList (scheme.toList.takeWhile (· ≠ '+'))) <;> rfl
  unfold getForAddress Address.target
  rcases Address.takeScheme? address with _ | ⟨found, rest⟩
  · rfl
  · dsimp only
    rw [scheme]
    cases Address.port? rest with
    | none => cases addressNames.lookup (String.ofList (found.toList.takeWhile (· ≠ '+'))) <;> rfl
    | some port =>
      dsimp only
      cases Address.checkPort port with
      | error e => rfl
      | ok =>
        cases addressNames.lookup (String.ofList (found.toList.takeWhile (· ≠ '+'))) <;> rfl

/-- What a catalog can do: what is registered, the backend that is handed out, and the catalog
afterwards. -/
inductive Serves (c : Catalog) : Option (String × Dialect) → Option Backend → Catalog → Prop
  | rests : Serves c none none c
  | registers (name : String) (d : Dialect) : Serves c (some (name, d)) none (c.register name d)
  | finds {name : String} {b : Backend} (shared : c.shared.find? name = some b) :
      Serves c none (some b) c
  | shares {name : String} {d : Dialect} (known : c.dialects.find? name = some d)
      (unshared : c.shared.find? name = none) :
      Serves c none (some ⟨c.next, d⟩)
        { c with shared := c.shared.put name ⟨c.next, d⟩, next := c.next + 1 }
  | creates {name : String} {d : Dialect} (known : c.dialects.find? name = some d) :
      Serves c none (some ⟨c.next, d⟩) { c with next := c.next + 1 }

/-- How the two maps are in step. -/
structure Sound (c : Catalog) : Prop where
  current : ∀ name b, c.shared.find? name = some b → c.dialects.find? name = some b.dialect
  numbered : ∀ name b, c.shared.find? name = some b → b.number < c.next
  apart : ∀ name other b e, c.shared.find? name = some b → c.shared.find? other = some e →
    b.number = e.number → name = other

/-- The number has been given away, and not to a backend that is shared. -/
def Retired (number : Nat) (c : Catalog) : Prop :=
  number < c.next ∧ ∀ name b, c.shared.find? name = some b → b.number ≠ number

/-- At first nothing is shared. -/
theorem shared_builtIn (name : String) : builtIn.shared.find? name = none := rfl

theorem sound_builtIn : builtIn.Sound where
  current name b shared := by simp [shared_builtIn] at shared
  numbered name b shared := by simp [shared_builtIn] at shared
  apart name other b e shared := by simp [shared_builtIn] at shared

variable {c t : Catalog} {name : String} {d : Dialect} {b : Backend}
  {registered : Option (String × Dialect)} {given : Option Backend}

theorem create_eq (known : c.dialects.find? name = some d) :
    c.create name = .ok (⟨c.next, d⟩, { c with next := c.next + 1 }) := by
  rw [create, known]

theorem get_of_shared (shared : c.shared.find? name = some b) : c.get name = .ok (b, c) := by
  rw [get, shared]

theorem get_of_unshared (known : c.dialects.find? name = some d)
    (unshared : c.shared.find? name = none) :
    c.get name = .ok (⟨c.next, d⟩,
      { c with shared := c.shared.put name ⟨c.next, d⟩, next := c.next + 1 }) := by
  rw [get, unshared]
  dsimp only
  rw [create_eq known]
  rfl

theorem create_of_unknown (unknown : c.dialects.find? name = none) :
    c.create name = .error (.unknownDialect name c.targets) := by
  rw [create, unknown]

theorem get_of_unknown (h : c.Sound) (unknown : c.dialects.find? name = none) :
    c.get name = .error (.unknownDialect name c.targets) := by
  cases shared : c.shared.find? name with
  | some b => cases unknown.symm.trans (h.current name b shared)
  | none =>
    rw [get, shared]
    dsimp only
    rw [create_of_unknown unknown]
    rfl

/-- A registered name has a backend of its dialect, which stays shared. -/
theorem get_of_known (h : c.Sound) (known : c.dialects.find? name = some d) :
    ∃ b t, c.get name = .ok (b, t) ∧ b.dialect = d ∧ t.shared.find? name = some b := by
  cases shared : c.shared.find? name with
  | some b =>
    have same : some d = some b.dialect := known.symm.trans (h.current name b shared)
    exact ⟨b, c, get_of_shared shared, (Option.some.inj same).symm, shared⟩
  | none => exact ⟨_, _, get_of_unshared known shared, rfl, by simp [NameMap.find?_put]⟩

theorem serves_create (h : c.create name = .ok (b, t)) : c.Serves none (some b) t := by
  cases known : c.dialects.find? name with
  | none =>
    rw [create_of_unknown known] at h
    cases h
  | some d =>
    rw [create_eq known] at h
    cases h
    exact .creates known

theorem serves_get (h : c.get name = .ok (b, t)) : c.Serves none (some b) t := by
  cases shared : c.shared.find? name with
  | some e =>
    rw [get_of_shared shared] at h
    cases h
    exact .finds shared
  | none =>
    cases known : c.dialects.find? name with
    | some d =>
      rw [get_of_unshared known shared] at h
      cases h
      exact .shares known shared
    | none =>
      rw [get, shared] at h
      dsimp only at h
      rw [create_of_unknown known] at h
      cases h

/-- Registering a name does not change what is found under another one. -/
theorem get_register (c : Catalog) (name : String) (d : Dialect) {other : String}
    (differ : other ≠ name) :
    ((c.register name d).get other).toOption.map (·.1) = (c.get other).toOption.map (·.1) := by
  have dialects : (c.register name d).dialects.find? other = c.dialects.find? other := by
    rw [find?_dialects_register, if_neg differ]
  have shared : (c.register name d).shared.find? other = c.shared.find? other := by
    rw [find?_shared_register, if_neg differ]
  unfold get create
  rw [dialects, shared]
  cases c.shared.find? other with
  | some e => rfl
  | none => cases c.dialects.find? other <;> rfl

/-- What registers a dialect does nothing else. -/
theorem eq_register_of_serves (serves : c.Serves (some (name, d)) given t) :
    t = c.register name d := by
  cases serves
  rfl

theorem next_le_of_serves (serves : c.Serves registered given t) : c.next ≤ t.next := by
  cases serves with
  | rests => exact Nat.le_refl _
  | registers => exact Nat.le_refl _
  | finds => exact Nat.le_refl _
  | shares => exact Nat.le_succ _
  | creates => exact Nat.le_succ _

theorem number_lt_of_serves (h : c.Sound) (serves : c.Serves registered given t) :
    ∀ b ∈ given, b.number < t.next := by
  intro b hb
  cases serves with
  | rests => cases hb
  | registers => cases hb
  | finds shared =>
    cases hb
    exact h.numbered _ _ shared
  | shares =>
    cases hb
    exact Nat.lt_succ_self _
  | creates =>
    cases hb
    exact Nat.lt_succ_self _

/-- The dialects change only by what is registered. -/
theorem dialects_of_serves (serves : c.Serves registered given t) :
    t.dialects = c.dialects.putAll registered.toList := by
  cases serves <;> rfl

/-- What is shared after a registration has been shared before, under another name. -/
theorem shared_register_iff {other : String} :
    (c.register name d).shared.find? other = some b ↔
      other ≠ name ∧ c.shared.find? other = some b := by
  rw [find?_shared_register]
  by_cases same : other = name
  · simp [same]
  · simp [same]

/-- What is shared after a backend has been put in is this one, or has been shared before. -/
theorem shared_put_iff {m : NameMap Backend} {e : Backend} {other : String}
    (unshared : m.find? name = none) :
    (m.put name e).find? other = some b ↔ (other = name ∧ b = e) ∨ m.find? other = some b := by
  rw [NameMap.find?_put]
  by_cases same : other = name
  · simp [same, unshared, eq_comm]
  · simp [same]

theorem sound_of_serves (h : c.Sound) (serves : c.Serves registered given t) : t.Sound := by
  cases serves with
  | rests => exact h
  | finds => exact h
  | creates =>
    exact ⟨h.current, fun name b shared => Nat.lt_succ_of_lt (h.numbered name b shared), h.apart⟩
  | registers name d =>
    constructor
    case current =>
      intro other b shared
      obtain ⟨differ, shared⟩ := shared_register_iff.mp shared
      rw [find?_dialects_register, if_neg differ]
      exact h.current other b shared
    case numbered =>
      exact fun other b shared => h.numbered other b (shared_register_iff.mp shared).2
    case apart =>
      exact fun other third b e sharedB sharedE => h.apart other third b e
        (shared_register_iff.mp sharedB).2 (shared_register_iff.mp sharedE).2
  | shares known unshared =>
    -- The new entry has the next number, and the others have smaller ones.
    constructor
    case current =>
      intro other b shared
      rcases (shared_put_iff unshared).mp shared with ⟨rfl, rfl⟩ | old
      · exact known
      · exact h.current other b old
    case numbered =>
      intro other b shared
      rcases (shared_put_iff unshared).mp shared with ⟨rfl, rfl⟩ | old
      · exact Nat.lt_succ_self _
      · exact Nat.lt_succ_of_lt (h.numbered other b old)
    case apart =>
      intro other third b e sharedB sharedE same
      rcases (shared_put_iff unshared).mp sharedB with ⟨rfl, rfl⟩ | oldB <;>
        rcases (shared_put_iff unshared).mp sharedE with ⟨rfl, rfl⟩ | oldE
      · rfl
      · exact absurd same (Nat.ne_of_gt (h.numbered third e oldE))
      · exact absurd same (Nat.ne_of_lt (h.numbered other b oldB))
      · exact h.apart other third b e oldB oldE same

/-- A retired number stays so, and no backend that is handed out has it. -/
theorem retired_of_serves {number : Nat} (h : c.Retired number)
    (serves : c.Serves registered given t) :
    t.Retired number ∧ ∀ b ∈ given, b.number ≠ number := by
  obtain ⟨past, unused⟩ := h
  have next : c.next ≠ number := Nat.ne_of_gt past
  cases serves with
  | rests => exact ⟨⟨past, unused⟩, fun _ handed => nomatch handed⟩
  | registers name d =>
    exact ⟨⟨past, fun other b shared => unused other b (shared_register_iff.mp shared).2⟩,
      fun _ handed => nomatch handed⟩
  | finds shared =>
    refine ⟨⟨past, unused⟩, fun b handed => ?_⟩
    cases handed
    exact unused _ _ shared
  | shares known unshared =>
    refine ⟨⟨Nat.lt_succ_of_lt past, fun other b shared => ?_⟩, fun b handed => ?_⟩
    · rcases (shared_put_iff unshared).mp shared with ⟨-, rfl⟩ | old
      · exact next
      · exact unused other b old
    · cases handed
      exact next
  | creates known =>
    refine ⟨⟨Nat.lt_succ_of_lt past, unused⟩, fun b handed => ?_⟩
    cases handed
    exact next

/-- What is shared under a name stays shared until the name is registered again. -/
theorem shared_of_serves (shared : c.shared.find? name = some b)
    (serves : c.Serves registered given t) (kept : ∀ d, registered ≠ some (name, d)) :
    t.shared.find? name = some b := by
  cases serves with
  | registers other d =>
    refine shared_register_iff.mpr ⟨fun same => kept d (by rw [same]), shared⟩
  | shares known unshared => exact (shared_put_iff unshared).mpr (.inr shared)
  | _ => exact shared

/-- A backend is retired when its name is registered again. -/
theorem retired_register (h : c.Sound) (shared : c.shared.find? name = some b) (d : Dialect) :
    (c.register name d).Retired b.number := by
  refine ⟨h.numbered name b shared, fun other e found same => ?_⟩
  obtain ⟨differ, found⟩ := shared_register_iff.mp found
  exact differ (h.apart other name e b found shared same)

/-- A backend of one's own has a new number, and it is retired from the start. -/
theorem retired_create (h : c.Sound) (made : c.create name = .ok (b, t)) :
    c.next ≤ b.number ∧ t.Retired b.number := by
  cases known : c.dialects.find? name with
  | none =>
    rw [create_of_unknown known] at made
    cases made
  | some d =>
    rw [create_eq known] at made
    cases made
    exact ⟨Nat.le_refl _, Nat.lt_succ_self _, fun other e shared =>
      Nat.ne_of_lt (h.numbered other e shared)⟩

end Catalog
end Criteria
