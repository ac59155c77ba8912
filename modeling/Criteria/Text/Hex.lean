/-!
# Hexadecimal digits

Hexadecimal digits, in lower case when written and in either case when read.
-/

namespace Criteria.Text

def hexValue? (c : Char) : Option Nat :=
  let n := c.toNat
  if 0x30 ≤ n ∧ n ≤ 0x39 then some (n - 0x30)
  else if 0x61 ≤ n ∧ n ≤ 0x66 then some (n - 0x61 + 10)
  else if 0x41 ≤ n ∧ n ≤ 0x46 then some (n - 0x41 + 10)
  else none

/-- The last `width` hexadecimal digits of a number. -/
def hexDigits : Nat → Nat → List Char
  | 0, _ => []
  | width + 1, n => hexDigits width (n / 16) ++ [(n % 16).digitChar]

/-- The number written by hexadecimal digits. -/
def hexNumber? (s : List Char) : Option Nat :=
  s.foldl (fun n c => n.bind fun n => (hexValue? c).map (16 * n + ·)) (some 0)

theorem hexValue?_digitChar {n : Nat} (h : n < 16) : hexValue? n.digitChar = some n := by
  have all : ∀ d : Fin 16, hexValue? d.val.digitChar = some d.val := by decide
  exact all ⟨n, h⟩

@[simp] theorem length_hexDigits (width n : Nat) : (hexDigits width n).length = width := by
  induction width generalizing n with
  | zero => rfl
  | succ width ih => simp [hexDigits, ih]

theorem hexNumber?_hexDigits {width n : Nat} (h : n < Nat.pow 16 width) :
    hexNumber? (hexDigits width n) = some n := by
  induction width generalizing n with
  | zero => simp at h; subst h; rfl
  | succ width ih =>
    have small : n / 16 < Nat.pow 16 width :=
      Nat.div_lt_of_lt_mul (Nat.mul_comm _ _ ▸ h)
    have front := ih small
    unfold hexNumber? at front ⊢
    rw [hexDigits, List.foldl_append, front]
    simp [hexValue?_digitChar (Nat.mod_lt n (by decide : 0 < 16)), Nat.div_add_mod]

example : hexDigits 4 255 = ['0', '0', 'f', 'f'] := by decide
example : hexNumber? ['F', 'f'] = some 255 ∧ hexNumber? ['g'] = none := by decide

end Criteria.Text
