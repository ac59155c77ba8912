/-!
# Numbers of fixed width

Numbers of a fixed width, as dates and times hold them.
-/

namespace Criteria.Text

/-- The last `width` digits of a number. -/
def padded : Nat → Nat → List Char
  | 0, _ => []
  | width + 1, n => padded width (n / 10) ++ [(n % 10).digitChar]

/-- Reads exactly `width` digits onto the number read so far. -/
def takeNumberFrom? : Nat → Nat → List Char → Option (Nat × List Char)
  | 0, n, s => some (n, s)
  | width + 1, n, c :: s =>
    if c.isDigit then takeNumberFrom? width (10 * n + (c.toNat - 48)) s else none
  | _ + 1, _, [] => none

def takeNumber? (width : Nat) (s : List Char) : Option (Nat × List Char) :=
  takeNumberFrom? width 0 s

/-- Reads one given character. -/
def takeChar? (d : Char) : List Char → Option (List Char)
  | c :: s => if c = d then some s else none
  | [] => none

@[simp] theorem length_padded (width n : Nat) : (padded width n).length = width := by
  induction width generalizing n with
  | zero => rfl
  | succ width ih => simp [padded, ih]

theorem takeNumberFrom?_append {width extra m : Nat} {s rest : List Char} {n : Nat}
    (h : takeNumberFrom? width m s = some (n, rest)) :
    takeNumberFrom? (width + extra) m s = takeNumberFrom? extra n rest := by
  induction width generalizing m s with
  | zero =>
    simp only [takeNumberFrom?, Option.some.injEq, Prod.mk.injEq] at h
    simp [h]
  | succ width ih =>
    cases s with
    | nil => simp [takeNumberFrom?] at h
    | cons c s =>
      rw [Nat.succ_add]
      simp only [takeNumberFrom?] at h ⊢
      split at h
      · rename_i hc
        rw [if_pos hc]
        exact ih h
      · cases h

theorem isDigit_digitChar {n : Nat} (h : n < 10) :
    n.digitChar.isDigit = true ∧ n.digitChar.toNat - 48 = n := by
  have all : ∀ d : Fin 10, d.val.digitChar.isDigit = true ∧ d.val.digitChar.toNat - 48 = d.val := by
    decide
  exact all ⟨n, h⟩

/-- A number that fits its width reads back, whatever follows. -/
theorem takeNumber?_padded {width n : Nat} (h : n < Nat.pow 10 width) (rest : List Char) :
    takeNumber? width (padded width n ++ rest) = some (n, rest) := by
  unfold takeNumber?
  induction width generalizing n rest with
  | zero => simp at h; subst h; rfl
  | succ width ih =>
    have small : n / 10 < Nat.pow 10 width :=
      Nat.div_lt_of_lt_mul (Nat.mul_comm _ _ ▸ h)
    rw [padded, List.append_assoc, takeNumberFrom?_append (ih small _)]
    obtain ⟨digit, value⟩ := isDigit_digitChar (Nat.mod_lt n (by decide : 0 < 10))
    simp [takeNumberFrom?, digit, value, Nat.div_add_mod]

example : padded 4 24 = ['0', '0', '2', '4'] := by decide
example : takeNumber? 2 "123".toList = some (12, ['3']) := by decide
example : takeNumber? 2 "1".toList = none := by decide

end Criteria.Text
