import Criteria.Proofs.Outcome
import Mathlib.Data.List.Forall2

/-!
# Two runs side by side

Two runs of one course of steps, on different things. They are in step when both succeed, with
results that are related, or both fail for the same cause. For calls that is said of any two
supplies of names, so that what is in step does not depend on how far a command has come.
-/

namespace Criteria

variable {ε α β γ δ : Type} {rel : α → β → Prop} {also : γ → δ → Prop}

/-- Both outcomes are failures for one cause, or both are results that are related. -/
def InStep (rel : α → β → Prop) : Except ε α → Except ε β → Prop
  | .ok a, .ok b => rel a b
  | .error e, .error f => e = f
  | .ok _, .error _ => False
  | .error _, .ok _ => False

namespace InStep

theorem imp {x : Except ε α} {y : Except ε β} {other : α → β → Prop} (h : InStep rel x y)
    (weaker : ∀ a b, rel a b → other a b) : InStep other x y := by
  match x, y, h with
  | .ok a, .ok b, h => exact weaker a b h
  | .error _, .error _, h => exact h

theorem bind {x : Except ε α} {y : Except ε β} {f : α → Except ε γ} {g : β → Except ε δ}
    (first : InStep rel x y) (next : ∀ a b, rel a b → InStep also (f a) (g b)) :
    InStep also (x >>= f) (y >>= g) := by
  match x, y, first with
  | .ok a, .ok b, first => exact next a b first
  | .error _, .error _, first => exact first

/-- What is the same comes out the same. -/
theorem of_eq {x y : Except ε α} {same : α → α → Prop} (h : x = y) (refl : ∀ a, same a a) :
    InStep same x y := by
  subst h
  cases x with
  | ok a => exact refl a
  | error e => rfl

theorem map {x : Except ε α} {y : Except ε β} {f : α → γ} {g : β → δ} (h : InStep rel x y)
    (next : ∀ a b, rel a b → also (f a) (g b)) : InStep also (f <$> x) (g <$> y) := by
  match x, y, h with
  | .ok a, .ok b, h => exact next a b h
  | .error _, .error _, h => exact h

/-- What both runs do in the same way leads on to what they do next. -/
theorem bind_same {x : Except ε α} {f : α → Except ε γ} {g : α → Except ε δ}
    (next : ∀ a, x = .ok a → InStep also (f a) (g a)) : InStep also (x >>= f) (x >>= g) := by
  cases x with
  | ok a => exact next a rfl
  | error e => rfl

/-- The same steps over two lists whose entries are related. -/
theorem mapM_of_forall₂ {ι κ : Type} {like : ι → κ → Prop} {items : List ι} {others : List κ}
    {f : ι → Except ε α} {g : κ → Except ε β} (entries : List.Forall₂ like items others)
    (each : ∀ i j, like i j → InStep rel (f i) (g j)) :
    InStep (List.Forall₂ rel) (items.mapM f) (others.mapM g) := by
  induction entries with
  | nil => exact .nil
  | @cons i j items others entry _ ih =>
    rw [List.mapM_cons, List.mapM_cons]
    exact (each i j entry).bind fun a b first => ih.bind fun as bs rest => .cons first rest

theorem mapM {ι : Type} {items : List ι} {f : ι → Except ε α} {g : ι → Except ε β}
    (each : ∀ i, InStep rel (f i) (g i)) :
    InStep (List.Forall₂ rel) (items.mapM f) (items.mapM g) :=
  mapM_of_forall₂ (List.forall₂_same.mpr fun i _ => (rfl : i = i)) fun i _ same => same ▸ each i

/-- Causes may be told in other words, the same for both. -/
theorem mapError {ε' : Type} {x : Except ε α} {y : Except ε β} (told : ε → ε')
    (h : InStep rel x y) : InStep rel (x.mapError told) (y.mapError told) := by
  match x, y, h with
  | .ok _, .ok _, h => exact h
  | .error _, .error _, h => exact congrArg told h

theorem eq_of_inStep {x y : Except ε α} (h : InStep Eq x y) : x = y := by
  match x, y, h with
  | .ok _, .ok _, h => exact congrArg Except.ok h
  | .error _, .error _, h => exact congrArg Except.error h

end InStep

namespace Build

/-- Whichever names are left to the two calls, they come out in step. -/
def Lockstep (rel : α → β → Prop) (x : Build α) (y : Build β) : Prop :=
  ∀ s t, InStep rel (x.run.run s).1 (y.run.run t).1

theorem lockstep_pure {a : α} {b : β} (h : rel a b) :
    Lockstep rel (pure a : Build α) (pure b : Build β) := fun _ _ => h

theorem lockstep_throw (e : Error) : Lockstep rel (throw e : Build α) (throw e : Build β) :=
  fun _ _ => rfl

theorem lockstep_lift {x : Except Error α} {y : Except Error β} (h : InStep rel x y) :
    Lockstep rel (liftM x) (liftM y) := by
  intro s t
  rw [run_lift, run_lift]
  exact h

theorem lockstep_bind {x : Build α} {y : Build β} {f : α → Build γ} {g : β → Build δ}
    (first : Lockstep rel x y) (next : ∀ a b, rel a b → Lockstep also (f a) (g b)) :
    Lockstep also (x >>= f) (y >>= g) := by
  intro s t
  have outcome := first s t
  rw [run_bind, run_bind]
  rcases hx : x.run.run s with ⟨e | a, u⟩ <;> rcases hy : y.run.run t with ⟨e' | b, v⟩ <;>
    rw [hx, hy] at outcome
  · exact outcome
  · exact outcome.elim
  · exact outcome.elim
  · exact next a b outcome u v

theorem lockstep_map {x : Build α} {y : Build β} {f : α → γ} {g : β → δ}
    (first : Lockstep rel x y) (next : ∀ a b, rel a b → also (f a) (g b)) :
    Lockstep also (f <$> x) (g <$> y) := by
  rw [map_eq_pure_bind, map_eq_pure_bind]
  exact lockstep_bind first fun a b h => lockstep_pure (next a b h)

/-- A check that both calls make, of the same thing. -/
theorem lockstep_lift_bind {y : Except Error α} {f : α → Build γ} {g : α → Build δ}
    (next : ∀ a, y = .ok a → Lockstep also (f a) (g a)) :
    Lockstep also ((liftM y : Build α) >>= f) ((liftM y : Build α) >>= g) := by
  have same : InStep (fun a b => y = .ok a ∧ a = b) y y := by
    cases y with
    | ok a => exact ⟨rfl, rfl⟩
    | error e => rfl
  refine lockstep_bind (lockstep_lift same) ?_
  rintro a _ ⟨found, rfl⟩
  exact next a found

theorem lockstep_mapM {ι : Type} {items : List ι} {f : ι → Build α} {g : ι → Build β}
    (each : ∀ i ∈ items, Lockstep rel (f i) (g i)) :
    Lockstep (List.Forall₂ rel) (items.mapM f) (items.mapM g) := by
  induction items with
  | nil => exact lockstep_pure .nil
  | cons i items ih =>
    rw [List.mapM_cons, List.mapM_cons]
    refine lockstep_bind (each i List.mem_cons_self) fun a b first => ?_
    refine lockstep_bind (ih fun j hj => each j (List.mem_cons_of_mem i hj)) fun as bs rest => ?_
    exact lockstep_pure (.cons first rest)

end Build
end Criteria
