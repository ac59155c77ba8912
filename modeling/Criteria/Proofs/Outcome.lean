import Criteria.Command
import Mathlib.Data.List.Forall2

/-!
# Outcomes of calls

How calls made of several steps come out: when the whole succeeds and what each step then gave,
and that a call, whether it succeeds or not, hands no name back.
-/

namespace Criteria

variable {ε α β : Type}

theorem ok_bind (a : α) (f : α → Except ε β) : (Except.ok a >>= f) = f a := rfl

theorem error_bind (e : ε) (f : α → Except ε β) : (Except.error e >>= f) = .error e := rfl

theorem bind_eq_ok_iff {x : Except ε α} {f : α → Except ε β} {b : β} :
    (x >>= f) = .ok b ↔ ∃ a, x = .ok a ∧ f a = .ok b := by
  cases x with
  | ok a => simp [ok_bind]
  | error e => simp [error_bind]

theorem map_eq_ok_iff {x : Except ε α} {f : α → β} {b : β} :
    f <$> x = .ok b ↔ ∃ a, x = .ok a ∧ f a = b := by
  cases x with
  | ok a => simp [Functor.map, Except.map]
  | error e => simp [Functor.map, Except.map]

/-- What is only turned into something else fails as it stands. -/
theorem map_error {x : Except ε α} {f : α → β} {e : ε} (h : f <$> x = .error e) :
    x = .error e := by
  cases x with
  | ok a => cases h
  | error cause =>
    cases h
    rfl

/-- Steps over a list succeed when each of them does, and give the list of what each of them gives. -/
theorem mapM_eq_ok_iff {f : α → Except ε β} {items : List α} {made : List β} :
    items.mapM f = .ok made ↔ List.Forall₂ (fun a b => f a = .ok b) items made := by
  induction items generalizing made with
  | nil =>
    rw [List.mapM_nil, List.forall₂_nil_left_iff]
    exact ⟨fun h => (Except.ok.inj h).symm, fun h => by rw [h]; rfl⟩
  | cons a items ih =>
    simp only [List.mapM_cons, bind_eq_ok_iff, List.forall₂_cons_left_iff]
    constructor
    · rintro ⟨b, first, rest, others, h⟩
      exact ⟨b, rest, first, ih.mp others, (Except.ok.inj h).symm⟩
    · rintro ⟨b, rest, first, others, rfl⟩
      exact ⟨b, first, rest, ih.mpr others, rfl⟩

theorem length_of_mapM_ok {f : α → Except ε β} {items : List α} {made : List β}
    (h : items.mapM f = .ok made) : made.length = items.length :=
  (mapM_eq_ok_iff.mp h).length_eq.symm

/-- What steps over a list give has been given by one of them. -/
theorem exists_of_mapM_ok {f : α → Except ε β} {items : List α} {made : List β}
    (h : items.mapM f = .ok made) {b : β} (hb : b ∈ made) : ∃ a ∈ items, f a = .ok b := by
  have each := mapM_eq_ok_iff.mp h
  clear h
  induction each with
  | nil => cases hb
  | @cons a b' items made first _ ih =>
    rcases List.mem_cons.mp hb with rfl | hb
    · exact ⟨a, List.mem_cons_self, first⟩
    · obtain ⟨a', ha, found⟩ := ih hb
      exact ⟨a', List.mem_cons_of_mem a ha, found⟩

/-- Steps over a list fail with the cause of one of them. -/
theorem mapM_error {f : α → Except ε β} {items : List α} {e : ε}
    (h : items.mapM f = .error e) : ∃ a ∈ items, f a = .error e := by
  induction items with
  | nil => cases h
  | cons a items ih =>
    rw [List.mapM_cons] at h
    cases first : f a with
    | error cause =>
      rw [first] at h
      cases h
      exact ⟨a, List.mem_cons_self, first⟩
    | ok b =>
      rw [first, ok_bind] at h
      cases rest : items.mapM f with
      | ok made =>
        rw [rest] at h
        cases h
      | error cause =>
        rw [rest] at h
        cases h
        obtain ⟨found, inside, failed⟩ := ih rest
        exact ⟨found, List.mem_cons_of_mem a inside, failed⟩

namespace Build

theorem run_bind (x : Build α) (f : α → Build β) (s : Supply) :
    (x >>= f).run.run s =
      match x.run.run s with
      | (.ok a, t) => (f a).run.run t
      | (.error e, t) => (.error e, t) := by
  rw [ExceptT.run_bind, StateT.run_bind]
  rcases x.run.run s with ⟨e | a, t⟩ <;> rfl

theorem run_pure (a : α) (s : Supply) : (pure a : Build α).run.run s = (.ok a, s) := rfl

/-- A step that takes no names. -/
theorem run_lift (x : Except Error α) (s : Supply) : (liftM x : Build α).run.run s = (x, s) := by
  cases x <;> rfl

/-- Steps of which none takes a name take none together. -/
theorem run_mapM_lift (f : α → Except Error β) (items : List α) (s : Supply) :
    (items.mapM fun a => (liftM (f a) : Build β)).run.run s = (items.mapM f, s) := by
  induction items with
  | nil => rfl
  | cons a items ih =>
    rw [List.mapM_cons, List.mapM_cons, run_bind, run_lift]
    cases f a with
    | error e => rfl
    | ok b =>
      change (_ >>= _ : Build (List β)).run.run s = _
      rw [run_bind, ih, ok_bind]
      cases items.mapM f <;> rfl

theorem mapM_lift (g : α → Except Error β) (items : List α) :
    (items.mapM fun a => (liftM (g a) : Build β)) = liftM (items.mapM g) := by
  refine ExceptT.ext (StateT.ext fun s => ?_)
  rw [run_mapM_lift, run_lift]

/-- A call that succeeds has succeeded at each of its steps. -/
theorem bind_ok_iff {x : Build α} {f : α → Build β} {s t : Supply} {b : β} :
    (x >>= f).run.run s = (.ok b, t) ↔
      ∃ a u, x.run.run s = (.ok a, u) ∧ (f a).run.run u = (.ok b, t) := by
  rw [run_bind]
  constructor
  · intro h
    rcases hx : x.run.run s with ⟨e | a, u⟩
    · rw [hx] at h
      cases h
    · rw [hx] at h
      exact ⟨a, u, rfl, h⟩
  · rintro ⟨a, u, hx, hf⟩
    rw [hx]
    exact hf

theorem map_ok_iff {x : Build α} {f : α → β} {s t : Supply} {b : β} :
    (f <$> x).run.run s = (.ok b, t) ↔ ∃ a, x.run.run s = (.ok a, t) ∧ f a = b := by
  rw [map_eq_pure_bind, bind_ok_iff]
  constructor
  · rintro ⟨a, u, hx, hf⟩
    rw [run_pure] at hf
    obtain ⟨hb, rfl⟩ := Prod.mk.inj hf
    exact ⟨a, hx, Except.ok.inj hb⟩
  · rintro ⟨a, hx, rfl⟩
    exact ⟨a, t, hx, rfl⟩

theorem lift_ok_iff {x : Except Error α} {s t : Supply} {a : α} :
    (liftM x : Build α).run.run s = (.ok a, t) ↔ x = .ok a ∧ t = s := by
  rw [run_lift, Prod.mk.injEq, @eq_comm _ s t]

/-- Names that are taken stay taken, also when the call fails. -/
def StaysTaken (x : Build α) : Prop := ∀ s, s.next ≤ (x.run.run s).2.next

theorem staysTaken_pure (a : α) : StaysTaken (pure a : Build α) := fun _ => Nat.le_refl _

theorem staysTaken_throw (e : Error) : StaysTaken (throw e : Build α) := fun _ => Nat.le_refl _

theorem staysTaken_lift (x : Except Error α) : StaysTaken (liftM x : Build α) := by
  intro s
  simp only [run_lift, Nat.le_refl]

theorem staysTaken_bind {x : Build α} {f : α → Build β} (first : StaysTaken x)
    (next : ∀ a, StaysTaken (f a)) : StaysTaken (x >>= f) := by
  intro s
  have taken := first s
  rw [run_bind]
  rcases h : x.run.run s with ⟨e | a, t⟩
  · simpa [h] using taken
  · rw [h] at taken
    exact Nat.le_trans taken (next a t)

theorem staysTaken_map {x : Build α} (f : α → β) (first : StaysTaken x) :
    StaysTaken (f <$> x) := by
  rw [map_eq_pure_bind]
  exact staysTaken_bind first fun a => staysTaken_pure (f a)

theorem staysTaken_mapM {f : α → Build β} (each : ∀ a, StaysTaken (f a)) (items : List α) :
    StaysTaken (items.mapM f) := by
  induction items with
  | nil => exact staysTaken_pure []
  | cons a items ih =>
    rw [List.mapM_cons]
    exact staysTaken_bind (each a) fun b => staysTaken_bind ih fun rest =>
      staysTaken_pure (b :: rest)

theorem staysTaken_requireColumn (column : Option String) :
    StaysTaken (Command.requireColumn column) := by
  cases column with
  | none => exact staysTaken_throw _
  | some column =>
    by_cases h : Text.isBlank column = true
    · simpa [Command.requireColumn, h] using staysTaken_throw _
    · simpa [Command.requireColumn, h] using staysTaken_pure column

theorem staysTaken_nextName (c : Command) : StaysTaken c.nextName := by
  intro s
  rw [Command.run_nextName]
  exact Nat.le_succ _

theorem staysTaken_nextOrigin : StaysTaken Command.nextOrigin := fun _ => Nat.le_refl _

theorem staysTaken_parameter (c : Command) (column : Option String) (value : Value)
    (type : Option DataType) : StaysTaken (c.parameter column value type) :=
  staysTaken_bind (staysTaken_requireColumn column) fun _ =>
    staysTaken_bind (staysTaken_nextName c) fun _ =>
      staysTaken_bind staysTaken_nextOrigin fun _ => staysTaken_pure _

theorem staysTaken_literal (column : Option String) (value : Value) (type : Option DataType) :
    StaysTaken (Command.literal column value type) :=
  staysTaken_bind (staysTaken_requireColumn column) fun _ =>
    staysTaken_bind staysTaken_nextOrigin fun _ => staysTaken_pure _

theorem staysTaken_expression (column expr : Option String) :
    StaysTaken (Command.expression column expr) := by
  refine staysTaken_bind (staysTaken_requireColumn column) fun name => ?_
  by_cases blank : Text.isBlank (expr.getD "") = true
  · simp only [blank, if_true]
    exact staysTaken_throw _
  · simp only [blank]
    exact staysTaken_literal _ _ _

end Build
end Criteria
