import Criteria.Calendar.DateTime
import Criteria.Proofs.Number.Decimal

/-!
# Days and times read back

Days and times are written with numbers of a fixed width and marks between them. Only two parts may be
left out, a fraction of a second that is zero and an offset that is not known, and the reader takes
them so. A text is read as what it was written for, with the same offset, and not only as an equal
moment.
-/

namespace Criteria

namespace Text

theorem isDigit_of_mem_padded {width n : Nat} : ∀ c ∈ padded width n, c.isDigit = true := by
  induction width generalizing n with
  | zero => exact nofun
  | succ width ih =>
    intro c hc
    rcases List.mem_append.mp hc with front | last
    · exact ih c front
    · rw [List.mem_singleton.mp last]
      exact (isDigit_digitChar (Nat.mod_lt n (by decide))).1

/-- A number that fits its width is the one that its digits write. -/
theorem ofDigitChars_padded {width n : Nat} (h : n < Nat.pow 10 width) :
    Nat.ofDigitChars 10 (padded width n) 0 = n := by
  induction width generalizing n with
  | zero =>
    simp at h
    subst h
    rfl
  | succ width ih =>
    have small : n / 10 < Nat.pow 10 width := Nat.div_lt_of_lt_mul (Nat.mul_comm _ _ ▸ h)
    obtain ⟨-, value⟩ := isDigit_digitChar (Nat.mod_lt n (by decide : 0 < 10))
    rw [padded, Nat.ofDigitChars_append, ih small, Nat.ofDigitChars_cons, Nat.ofDigitChars_nil]
    change 10 * (n / 10) + ((n % 10).digitChar.toNat - 48) = n
    rw [value, Nat.div_add_mod]

end Text

open Text

namespace Offset

theorem ofParts?_self (o : Offset) :
    ofParts? (decide (o.minutes < 0)) (o.minutes.natAbs / 60) (o.minutes.natAbs % 60) = some o := by
  obtain ⟨minutes, low, high⟩ := o
  have fits : minutes.natAbs / 60 < 24 ∧ minutes.natAbs % 60 < 60 := by omega
  have whole : minutes.natAbs / 60 * 60 + minutes.natAbs % 60 = minutes.natAbs :=
    Nat.div_add_mod' _ _
  simp only [ofParts?, dif_pos fits, whole, decide_eq_true_eq, Option.some.injEq, Offset.mk.injEq]
  omega

theorem readEnd?_signed {sign : Char} (signed : sign = '+' ∨ sign = '-') {hour minute : Nat}
    (hours : hour < Nat.pow 10 2) (minutes : minute < Nat.pow 10 2) :
    readEnd? (sign :: padded 2 hour ++ ':' :: padded 2 minute) =
      (ofParts? (sign != '+') hour minute).map some := by
  have letters : sign ≠ 'Z' ∧ sign ≠ 'z' := by rcases signed with rfl | rfl <;> decide
  have hourRead := takeNumber?_padded hours (':' :: padded 2 minute)
  have minuteRead := takeNumber?_padded minutes []
  rw [List.append_nil] at minuteRead
  rw [List.cons_append, readEnd?.eq_4 _ _ (fun h _ => letters.1 h) (fun h _ => letters.2 h),
    if_pos (signed.imp_right .inl), hourRead]
  simp only [Option.bind_eq_bind, Option.bind_some, minuteRead, List.isEmpty_nil, if_true]

theorem readEnd?_chars (o : Offset) : readEnd? o.chars = some (some o) := by
  have bounds := o.valid
  have hours : o.minutes.natAbs / 60 < Nat.pow 10 2 := by
    simp only [Nat.pow_eq]
    omega
  have minutes : o.minutes.natAbs % 60 < Nat.pow 10 2 := by
    simp only [Nat.pow_eq]
    omega
  have self := o.ofParts?_self
  by_cases west : o.minutes < 0
  · rw [decide_eq_true west] at self
    rw [chars, if_pos west, readEnd?_signed (.inr rfl) hours minutes]
    exact congrArg (Option.map some) self
  · rw [decide_eq_false west] at self
    rw [chars, if_neg west, readEnd?_signed (.inl rfl) hours minutes]
    exact congrArg (Option.map some) self

end Offset

theorem readEnd?_offsetChars (o : Option Offset) : Offset.readEnd? (offsetChars o) = some o := by
  cases o with
  | none => rfl
  | some o => exact o.readEnd?_chars

/-- An offset begins with its sign. -/
theorem offsetChars_head (o : Option Offset) :
    ∀ d ∈ (offsetChars o).head?, d = '+' ∨ d = '-' := by
  cases o with
  | none => exact nofun
  | some o =>
    rintro d ⟨⟩
    by_cases west : o.minutes < 0
    · exact .inr (if_pos west)
    · exact .inl (if_neg west)

namespace Clock

/-! A time of day is read from the front of a text that goes on with a sign, or not at all. -/

variable {rest : List Char}

theorem millionths_padded {n : Nat} (h : n < 1000000) : millionths (padded 6 n) = n := by
  have whole : (padded 6 n).take 6 = padded 6 n :=
    List.take_of_length_le (Nat.le_of_eq (length_padded 6 n))
  have value : Nat.ofDigitChars 10 (padded 6 n) 0 = n := ofDigitChars_padded h
  simp only [millionths, whole, length_padded, value]
  exact Nat.mul_one n

/-- Without a fraction there are no microseconds, and the six places of a fraction are all of them. -/
theorem takeSeconds?_chars {second microsecond : Nat} (seconds : second < Nat.pow 10 2)
    (microseconds : microsecond < 1000000) (ends : ∀ d ∈ rest.head?, d = '+' ∨ d = '-') :
    takeSeconds? (':' :: (padded 2 second ++
        ((if microsecond = 0 then [] else '.' :: padded 6 microsecond) ++ rest))) =
      some (second, microsecond, rest) := by
  rw [takeSeconds?, takeNumber?_padded seconds]
  by_cases whole : microsecond = 0
  · rw [if_pos whole, whole]
    cases rest with
    | nil => rfl
    | cons d rest => rcases ends d rfl with rfl | rfl <;> rfl
  · have stop : ∀ d ∈ rest.head?, d.isDigit = false := by
      intro d hd
      rcases ends d hd with rfl | rfl <;> rfl
    have digits : ∀ c ∈ padded 6 microsecond, c.isDigit = true := isDigit_of_mem_padded
    have filled : (padded 6 microsecond).isEmpty = false := rfl
    obtain ⟨taken, left⟩ := Numeral.takeWhile_isDigit digits rest stop
    simp only [if_neg whole, List.cons_append, Option.bind_eq_bind, Option.bind_some, true_or,
      if_true, taken, left, filled, Bool.false_eq_true, if_false, millionths_padded microseconds]

theorem take?_chars (c : Clock) (ends : ∀ d ∈ rest.head?, d = '+' ∨ d = '-') :
    take? (c.chars ++ rest) = some (c, rest) := by
  obtain ⟨hour, minute, second, microsecond⟩ := c.valid
  have hours : c.hour < Nat.pow 10 2 := Nat.lt_trans hour (by decide)
  have minutes : c.minute < Nat.pow 10 2 := Nat.lt_trans minute (by decide)
  have seconds : c.second < Nat.pow 10 2 := Nat.lt_trans second (by decide)
  simp only [take?, chars, List.append_assoc, List.cons_append, takeNumber?_padded hours,
    takeNumber?_padded minutes, takeChar?, if_true, takeSeconds?_chars seconds microsecond ends,
    ofParts?_self, Option.bind_eq_bind, Option.bind_some]
  rfl

end Clock

theorem Time.readChars?_chars (t : Time) : Time.readChars? t.chars = some t := by
  rw [Time.readChars?, Time.chars, Clock.take?_chars t.clock (offsetChars_head t.offset)]
  simp only [Option.bind_eq_bind, Option.bind_some, readEnd?_offsetChars]
  rfl

/-- A moment is read whichever mark stands between the day and the time. -/
theorem DateTime.readChars?_chars {separator : Char}
    (known : separator = 'T' ∨ separator = 't' ∨ separator = ' ' ∨ separator = '_') (t : DateTime) :
    DateTime.readChars? (t.chars separator) = some t := by
  have clock : t.clock.chars ++ offsetChars t.offset = (Time.mk t.clock t.offset).chars := rfl
  rw [DateTime.readChars?, readCalendar?, DateTime.chars, List.append_assoc, Date.take?_chars,
    List.cons_append, clock]
  simp only [Option.bind_eq_bind, Option.bind_some, if_pos known, Time.readChars?_chars]
  rfl

theorem Date.readChars?_chars (d : Date) : Date.readChars? d.chars = some d := by
  have day := Date.take?_chars d []
  rw [List.append_nil] at day
  rw [Date.readChars?, DateTime.readChars?, DateTime.readCalendar?, day]
  rfl

end Criteria
