import Criteria.Proofs.Template.Plain

/-!
# Templates of numbered fields

Templates of which the fields give numbers, with conversions and specifications. Such a template is
filled when each of its fields can be set, and a field without fields of its own can be set for
any text if it can be set for one.
-/

namespace Criteria.Template

open Text (CodePoint)

/-- The fields among pieces. -/
def fields : List Piece → List Field
  | [] => []
  | .char _ :: rest => fields rest
  | .field f :: rest => f :: fields rest

theorem mem_distinctNamesFrom {pieces : List Piece} {names : List String} {name : String} :
    name ∈ distinctNamesFrom names pieces ↔
      name ∈ names ∨ ∃ f ∈ fields pieces, String.ofList f.name = name := by
  induction pieces generalizing names with
  | nil => simp [distinctNamesFrom, fields]
  | cons piece pieces ih =>
    cases piece with
    | char c => exact ih
    | field f =>
      have added : name ∈ (if String.ofList f.name ∈ names then names
          else names ++ [String.ofList f.name]) ↔ name ∈ names ∨ String.ofList f.name = name := by
        by_cases known : String.ofList f.name ∈ names
        · simp only [known, if_true, iff_self_or]
          rintro rfl
          exact known
        · simp [known, eq_comm]
      simp [distinctNamesFrom, ih, added, fields, or_assoc]

theorem nodup_distinctNamesFrom {pieces : List Piece} {names : List String}
    (distinct : names.Nodup) : (distinctNamesFrom names pieces).Nodup := by
  induction pieces generalizing names with
  | nil => exact distinct
  | cons piece pieces ih =>
    cases piece with
    | char c => exact ih distinct
    | field f =>
      refine ih ?_
      by_cases known : String.ofList f.name ∈ names
      · rwa [if_pos known]
      · rw [if_neg known]
        exact List.nodup_append.mpr ⟨distinct, by simp, fun a ha b hb same =>
          known (List.mem_singleton.mp hb ▸ same ▸ ha)⟩

/-- A template has slots when it can be read to its end, those that its fields name. -/
theorem slots_ok {template : String} {names : List String} (h : slots template = .ok names) :
    (parse template.toList).fault = none ∧ ∀ name, name ∈ names ↔
      ∃ f ∈ fields (parse template.toList).pieces, String.ofList f.name = name := by
  unfold slots at h
  split at h
  · rename_i pieces parsed
    cases h
    rw [parsed]
    exact ⟨rfl, fun name => by simp [distinctNames, mem_distinctNamesFrom]⟩
  · cases h

/-- Whether a specification can be used for texts. -/
def isTextSpec (spec : List CodePoint) : Bool := (setText spec []).isOk

theorem isOk_iff {ε α : Type} {x : Except ε α} : x.isOk = true ↔ ∃ a, x = .ok a := by
  cases x <;> simp [Except.isOk, Except.toBool]

/-- What a specification says is checked without the text that it is for. -/
theorem setText_ok_iff_read {spec : List CodePoint} {s : List Char} :
    (∃ out, setText spec s = .ok out) ↔
      spec = [] ∨ ∃ parsed, Spec.read Spec.textSetting spec = .ok parsed ∧
        parsed.check = .ok () ∧ Spec.checkRoom parsed.width = .ok () := by
  unfold setText
  cases spec with
  | nil => simp
  | cons c spec =>
    simp only [List.isEmpty_cons, Bool.false_eq_true, if_false, bind_eq_ok_iff, reduceCtorEq,
      false_or]
    constructor
    · rintro ⟨out, parsed, read, ⟨⟩, checked, ⟨⟩, room, -⟩
      exact ⟨parsed, read, checked, room⟩
    · rintro ⟨parsed, read, checked, room⟩
      exact ⟨_, parsed, read, (), checked, (), room, rfl⟩

theorem setText_ok_iff {spec : List CodePoint} {s : List Char} :
    (∃ out, setText spec s = .ok out) ↔ isTextSpec spec = true := by
  rw [isTextSpec, isOk_iff, setText_ok_iff_read, setText_ok_iff_read]

/-- The conversions that there are; the null character stands for none. -/
def conversions : List Char := ['\x00', 's', 'r', 'a']

theorem convert_known {conversion : Option Char} (known : ∀ c ∈ conversion, c ∈ conversions)
    (s : List Char) : ∃ t, convert conversion (.text s) = .ok (.text t) := by
  cases conversion with
  | none => exact ⟨s, rfl⟩
  | some c =>
    have known : c = '\x00' ∨ c = 's' ∨ c = 'r' ∨ c = 'a' := by
      simpa [conversions] using known c rfl
    rcases known with rfl | rfl | rfl | rfl
    · exact ⟨s, rfl⟩
    · exact ⟨_, rfl⟩
    · exact ⟨_, rfl⟩
    · exact ⟨_, rfl⟩

theorem convert_unknown {c : Char} (unknown : c ∉ conversions) (value : Referent) :
    convert (some c) value = .error (.unknownConversion c) := by
  have unknown : c ≠ '\x00' ∧ c ≠ 's' ∧ c ≠ 'r' ∧ c ≠ 'a' := by simpa [conversions] using unknown
  obtain ⟨zero, plain, quoted, ascii⟩ := unknown
  simp only [convert, zero, plain, quoted, ascii, if_false]

namespace Field

/-- Whether the field has no fields in its specification. -/
def isFlat (f : Field) : Bool := !f.spec.contains '{'

/-- Whether a text can be set as the field says. -/
def isSettable (f : Field) : Bool :=
  f.conversion.all (· ∈ conversions) && isTextSpec (CodePoint.ofChars f.spec)

end Field

section Filling

variable {args : List (List Char)}
  {inner : List Char → Numbering → Except Fault (List CodePoint × Numbering)} {f : Field} {k : Nat}
  {numbering : Numbering}

/-- Where fields are numbered, one is filled in the same way whether it is the first or not. -/
theorem fillField_numbered (name : f.name = k.repr.toList) (inside : k < args.length)
    (small : k ≤ countLimit) (manual : numbering.IsManual) :
    fillField args inner f numbering = fillField args inner f .manual := by
  rw [fillField, fillField, name, lookUp_repr inside small manual,
    lookUp_repr inside small (Or.inr rfl)]

theorem fillField_flat_iff (name : f.name = k.repr.toList) (inside : k < args.length)
    (small : k ≤ countLimit) (flat : f.isFlat = true) :
    (∃ out, fillField args inner f .manual = .ok out) ↔ f.isSettable = true := by
  have plain : f.spec.contains '{' = false := by simpa [Field.isFlat] using flat
  rw [fillField, name, lookUp_repr inside small (Or.inr rfl), ok_bind]
  simp only [plain, Bool.false_eq_true, if_false]
  by_cases known : ∀ c ∈ f.conversion, c ∈ conversions
  · obtain ⟨t, converted⟩ := convert_known known (args.getD k [])
    have all : f.conversion.all (· ∈ conversions) = true := by
      simpa [Option.all_eq_true] using known
    rw [Field.isSettable, all, Bool.true_and, ← @setText_ok_iff _ t, converted]
    change (∃ out, (setText _ t >>= fun set => pure (set, Numbering.manual)) = .ok out) ↔ _
    constructor
    · rintro ⟨out, h⟩
      obtain ⟨set, h, -⟩ := bind_eq_ok_iff.mp h
      exact ⟨set, h⟩
    · rintro ⟨set, h⟩
      exact ⟨(set, .manual), bind_eq_ok_iff.mpr ⟨set, h, rfl⟩⟩
  · obtain ⟨c, conversion, unknown⟩ : ∃ c, f.conversion = some c ∧ c ∉ conversions := by
      simpa using known
    rw [conversion, convert_unknown unknown]
    simp [Field.isSettable, conversion, unknown, error_bind]

/-- The fields of a template are filled one by one, in whatever place they stand. -/
theorem fillPieces_ok_iff {fill : Field → Numbering → Except Fault (List CodePoint × Numbering)}
    {pieces : List Piece}
    (numbered : ∀ f ∈ fields pieces, ∀ numbering : Numbering, numbering.IsManual →
      fill f numbering = fill f .manual)
    (keeps : ∀ f ∈ fields pieces, ∀ out left, fill f .manual = .ok (out, left) → left = .manual)
    (manual : numbering.IsManual) :
    (∃ out, fillPieces fill pieces none numbering = .ok out) ↔
      ∀ f ∈ fields pieces, ∃ out, fill f .manual = .ok out := by
  induction pieces generalizing numbering with
  | nil => simp [fillPieces, fields]
  | cons piece pieces ih =>
    cases piece with
    | char c =>
      rw [fields, ← ih numbered keeps manual, fillPieces]
      constructor
      · rintro ⟨out, h⟩
        obtain ⟨others, h, -⟩ := bind_eq_ok_iff.mp h
        exact ⟨others, h⟩
      · rintro ⟨others, h⟩
        exact ⟨_, bind_eq_ok_iff.mpr ⟨others, h, rfl⟩⟩
    | field f =>
      have rest := ih (fun g hg => numbered g (List.mem_cons_of_mem f hg))
        (fun g hg => keeps g (List.mem_cons_of_mem f hg)) (Or.inr rfl)
      rw [fields, List.forall_mem_cons, ← rest, fillPieces,
        numbered f List.mem_cons_self numbering manual]
      constructor
      · rintro ⟨out, h⟩
        obtain ⟨⟨value, left⟩, filled, h⟩ := bind_eq_ok_iff.mp h
        obtain rfl := keeps f List.mem_cons_self value left filled
        obtain ⟨others, h, -⟩ := bind_eq_ok_iff.mp h
        exact ⟨⟨_, filled⟩, ⟨others, h⟩⟩
      · rintro ⟨⟨⟨value, left⟩, filled⟩, ⟨others, h⟩⟩
        obtain rfl := keeps f List.mem_cons_self value left filled
        exact ⟨_, bind_eq_ok_iff.mpr ⟨_, filled, bind_eq_ok_iff.mpr ⟨others, h, rfl⟩⟩⟩

theorem manual_of_lookUp {name : List Char} {value : Referent} {left : Numbering}
    (h : lookUp args name .manual = .ok (value, left)) : left = .manual := by
  unfold lookUp at h
  obtain ⟨number, -, h⟩ := bind_eq_ok_iff.mp h
  by_cases unknown : (number.isNone && !(name.takeWhile fun c => c ≠ '.' ∧ c ≠ '[').isEmpty) = true
  · simp only [unknown, if_true] at h
    cases h
  · simp only [unknown] at h
    obtain ⟨⟨n, numbering⟩, advanced, h⟩ := bind_eq_ok_iff.mp h
    have kept : numbering = .manual := by
      cases number with
      | none => cases advanced
      | some n => cases advanced; rfl
    cases found : args[n]? with
    | none =>
      simp only [found] at h
      cases h
    | some arg =>
      simp only [found] at h
      obtain ⟨_, -, h⟩ := bind_eq_ok_iff.mp h
      cases h
      exact kept

theorem manual_of_fillField
    (keeps : ∀ s out left, inner s .manual = .ok (out, left) → left = .manual)
    {out : List CodePoint} {left : Numbering}
    (h : fillField args inner f .manual = .ok (out, left)) : left = .manual := by
  unfold fillField at h
  obtain ⟨⟨value, numbering⟩, found, h⟩ := bind_eq_ok_iff.mp h
  obtain rfl := manual_of_lookUp found
  obtain ⟨converted, -, h⟩ := bind_eq_ok_iff.mp h
  by_cases nested : f.spec.contains '{' = true
  · simp only [nested, if_true] at h
    obtain ⟨⟨spec, numbering⟩, read, h⟩ := bind_eq_ok_iff.mp h
    obtain ⟨set, -, h⟩ := bind_eq_ok_iff.mp h
    cases h
    exact keeps f.spec spec _ read
  · simp only [nested] at h
    obtain ⟨⟨spec, numbering⟩, read, h⟩ := bind_eq_ok_iff.mp h
    cases read
    obtain ⟨set, -, h⟩ := bind_eq_ok_iff.mp h
    cases h
    rfl

theorem manual_of_fillPieces {fill : Field → Numbering → Except Fault (List CodePoint × Numbering)}
    (keeps : ∀ f out left, fill f .manual = .ok (out, left) → left = .manual)
    {pieces : List Piece} {fault : Option Fault} {out : List CodePoint} {left : Numbering}
    (h : fillPieces fill pieces fault .manual = .ok (out, left)) : left = .manual := by
  induction pieces generalizing out with
  | nil =>
    cases fault with
    | none => cases h; rfl
    | some fault => cases h
  | cons piece pieces ih =>
    cases piece with
    | char c =>
      obtain ⟨⟨others, numbering⟩, rest, h⟩ := bind_eq_ok_iff.mp h
      cases h
      exact ih rest
    | field f =>
      obtain ⟨⟨value, numbering⟩, filled, h⟩ := bind_eq_ok_iff.mp h
      obtain rfl := keeps f value numbering filled
      obtain ⟨⟨others, numbering⟩, rest, h⟩ := bind_eq_ok_iff.mp h
      cases h
      exact ih rest

/-- Fields that are numbered by hand leave it at that, also those inside specifications. -/
theorem manual_of_fillNested {depth : Nat} {template : List Char} {out : List CodePoint}
    {left : Numbering} (h : fillNested args depth template .manual = .ok (out, left)) :
    left = .manual := by
  induction depth generalizing template out left with
  | zero => cases h
  | succ depth ih =>
    refine manual_of_fillPieces (fun f out left filled => ?_) h
    exact manual_of_fillField (fun _ _ _ => ih) filled

end Filling

/-- The field can be filled with the arguments where fields are numbered. -/
def Field.IsFilledBy (args : List String) (f : Field) : Prop :=
  ∃ out, fillField (args.map String.toList) (fillNested (args.map String.toList) 1) f .manual =
    .ok out

theorem isFilledBy_iff_of_isFlat {args : List String} {f : Field} {k : Nat}
    (name : f.name = k.repr.toList) (inside : k < args.length) (small : k ≤ countLimit)
    (flat : f.isFlat = true) : f.IsFilledBy args ↔ f.isSettable = true :=
  fillField_flat_iff name (by simpa using inside) small flat

/-- A template of numbered fields is filled if each of its fields can be. -/
theorem fill_ok_iff {template : String} {args : List String}
    (sound : (parse template.toList).fault = none)
    (numbered : ∀ f ∈ fields (parse template.toList).pieces, ∃ k, f.name = k.repr.toList ∧
      k < args.length ∧ k ≤ countLimit) :
    (∃ out, fill template args = .ok out) ↔
      ∀ f ∈ fields (parse template.toList).pieces, f.IsFilledBy args := by
  have same : ∀ f ∈ fields (parse template.toList).pieces, ∀ numbering : Numbering,
      numbering.IsManual →
        fillField (args.map String.toList) (fillNested (args.map String.toList) 1) f numbering =
          fillField (args.map String.toList) (fillNested (args.map String.toList) 1) f .manual := by
    intro f hf numbering manual
    obtain ⟨k, name, inside, small⟩ := numbered f hf
    exact fillField_numbered name (by simpa using inside) small manual
  have filled := fillPieces_ok_iff same
    (fun f _ _ _ => manual_of_fillField fun _ _ _ => manual_of_fillNested) (Or.inl rfl)
  refine Iff.trans ?_ filled
  rw [fill, fillNested, sound]
  constructor
  · rintro ⟨out, h⟩
    obtain ⟨filled, h, -⟩ := bind_eq_ok_iff.mp h
    exact ⟨filled, h⟩
  · rintro ⟨filled, h⟩
    exact ⟨_, bind_eq_ok_iff.mpr ⟨filled, h, rfl⟩⟩

end Criteria.Template
