import Criteria.Proofs.Characters
import Criteria.Proofs.Condition.Making

/-!
# Delimited texts

A delimited text decodes to the tokens that it was put together from. They may stand between white
space and between blank entries, as long as none of this shares a character with the separator. The
separator may overlap itself, or be white space.
-/

namespace Criteria

namespace Text

theorem dropLead?_eq_none {separator : List Char} (filled : separator ≠ []) {c : Char}
    (apart : c ∉ separator) (s : List Char) : dropLead? separator (c :: s) = none := by
  cases separator with
  | nil => exact absurd rfl filled
  | cons h separator =>
    have other : h ≠ c := fun same => apart (same ▸ List.mem_cons_self)
    rw [dropLead?, if_neg other]

/-- The rest of a separator that has been found is passed over. -/
theorem cutFrom_skip (separator entry skipped s : List Char) :
    cutFrom separator skipped.length entry (skipped ++ s) = cutFrom separator 0 entry s := by
  induction skipped with
  | nil => rfl
  | cons c skipped ih => exact ih

/-- A character of an entry, where the separator cannot begin. -/
theorem cutFrom_char {separator : List Char} (filled : separator ≠ []) {c : Char}
    (apart : c ∉ separator) (entry s : List Char) :
    cutFrom separator 0 entry (c :: s) = cutFrom separator 0 (c :: entry) s := by
  rw [cutFrom, dropLead?_eq_none filled apart]
  rfl

theorem cutFrom_separator {separator : List Char} (filled : separator ≠ [])
    (entry s : List Char) :
    cutFrom separator 0 entry (separator ++ s) = entry.reverse :: cutFrom separator 0 [] s := by
  obtain ⟨h, rest, rfl⟩ := List.exists_cons_of_ne_nil filled
  have found : dropLead? (h :: rest) (h :: (rest ++ s)) = some s :=
    dropLead?_eq_some_iff.mpr rfl
  rw [List.cons_append, cutFrom, found, Option.isSome_some, if_pos rfl, List.length_cons,
    Nat.add_sub_cancel, cutFrom_skip]

/-- An entry is collected up to its end. -/
theorem cutFrom_entry {separator : List Char} (filled : separator ≠ []) {entry : List Char}
    (apart : ∀ c ∈ entry, c ∉ separator) (before s : List Char) :
    cutFrom separator 0 before (entry ++ s) =
      cutFrom separator 0 (entry.reverse ++ before) s := by
  induction entry generalizing before with
  | nil => rfl
  | cons c entry ih =>
    rw [List.forall_mem_cons] at apart
    rw [List.cons_append, cutFrom_char filled apart.1, ih apart.2]
    simp

/-- Entries that are joined come apart at the places where they were joined. -/
theorem cut_intercalate {separator : String} (filled : separator ≠ "") {entries : List String}
    (nonempty : entries ≠ []) (apart : ∀ e ∈ entries, Lacks separator.toList e) :
    cut separator (separator.intercalate entries) = entries := by
  have filled : separator.toList ≠ [] := fun empty => filled (String.toList_eq_nil_iff.mp empty)
  induction entries with
  | nil => exact absurd rfl nonempty
  | cons e entries ih =>
    rw [List.forall_mem_cons] at apart
    have own := cutFrom_entry filled apart.1 []
    rw [List.append_nil] at own
    cases entries with
    | nil =>
      have whole := own []
      rw [List.append_nil] at whole
      rw [String.intercalate_singleton, cut, whole, cutFrom, List.reverse_reverse,
        List.map_singleton, String.ofList_toList]
    | cons f entries =>
      have others := ih (List.cons_ne_nil f entries) apart.2
      rw [cut] at others
      rw [String.intercalate_cons_cons, cut, String.toList_append, String.toList_append,
        List.append_assoc, own, cutFrom_separator filled, List.reverse_reverse, List.map_cons,
        String.ofList_toList, others]

/-- What surrounds a text is trimmed off together with its own spaces. -/
theorem trim_surrounded {before behind : String} (front : isBlank before = true)
    (back : isBlank behind = true) (s : String) : trim (before ++ s ++ behind) = trim s := by
  have front : ∀ c ∈ before.toList, isSpace c = true := List.all_eq_true.mp front
  have back : ∀ c ∈ behind.toList, isSpace c = true := List.all_eq_true.mp back
  have opened : (before.toList ++ (s.toList ++ behind.toList)).dropWhile isSpace =
      (s.toList ++ behind.toList).dropWhile isSpace := List.dropWhile_append_of_pos front
  simp only [trim, stripChars, String.toList_append, List.append_assoc, opened]
  congr 2
  rw [List.dropWhile_append]
  cases kept : s.toList.dropWhile isSpace with
  | nil => simp [dropWhile_eq_nil_iff_forall.mpr back]
  | cons c rest =>
    rw [List.isEmpty_cons, if_neg (by decide), List.reverse_append,
      List.dropWhile_append_of_pos fun a ha => back a (List.mem_reverse.mp ha)]

end Text

namespace Condition

open Text Build

/-- The entries hold the tokens in their order, each of them surrounded by white space, and blank
entries in any number between them. -/
inductive Encodes (separator : String) : List String → List String → Prop
  | nil : Encodes separator [] []
  | blank {entry : String} {entries tokens : List String} (blank : isBlank entry = true)
      (apart : Lacks separator.toList entry) (others : Encodes separator entries tokens) :
      Encodes separator (entry :: entries) tokens
  | token {before token behind : String} {entries tokens : List String}
      (front : isBlank before = true) (back : isBlank behind = true) (filled : token ≠ "")
      (trimmed : trim token = token) (apart : Lacks separator.toList (before ++ token ++ behind))
      (others : Encodes separator entries tokens) :
      Encodes separator ((before ++ token ++ behind) :: entries) (token :: tokens)

theorem apart_of_encodes {separator : String} {entries tokens : List String}
    (encodes : Encodes separator entries tokens) : ∀ e ∈ entries, Lacks separator.toList e := by
  induction encodes with
  | nil => exact nofun
  | blank _ apart _ ih => exact List.forall_mem_cons.mpr ⟨apart, ih⟩
  | token _ _ _ _ apart _ ih => exact List.forall_mem_cons.mpr ⟨apart, ih⟩

theorem trimmed_of_encodes {separator : String} {entries tokens : List String}
    (encodes : Encodes separator entries tokens) :
    (entries.map trim).filter (· ≠ "") = tokens := by
  induction encodes with
  | nil => rfl
  | blank blank _ _ ih => simpa [isBlank_iff_trim_eq.mp blank] using ih
  | token front back filled trimmed _ _ ih =>
    simpa [trim_surrounded front back, trimmed, filled] using ih

/-- The tokens of entries that are joined are those that the entries hold. -/
theorem tokens_of_encodes {separator : String} (filled : separator ≠ "")
    {entries tokens : List String} (encodes : Encodes separator entries tokens) :
    Condition.tokens separator (separator.intercalate entries) = tokens := by
  by_cases nothing : entries = []
  · subst nothing
    cases encodes
    rfl
  · rw [Condition.tokens, cut_intercalate filled nothing (apart_of_encodes encodes),
      trimmed_of_encodes encodes]

theorem mapM_readToken {type : DataType} {tokens : List String} {values : List Value}
    (read : tokens.map type.read? = values.map some) (column : Option String) :
    tokens.mapM (readToken column type) = .ok values := by
  induction tokens generalizing values with
  | nil =>
    rw [List.map_nil, eq_comm, List.map_eq_nil_iff] at read
    rw [read]
    rfl
  | cons token tokens ih =>
    cases values with
    | nil => cases read
    | cons v values =>
      obtain ⟨first, others⟩ := List.cons.inj read
      have own : readToken column type token = .ok v := by rw [readToken, first]
      rw [List.mapM_cons, own, ok_bind, ih others]
      rfl

end Condition

namespace Command

open Build

/-- What is created for some values of a kind, one after the other. -/
def boundFrom (c : Command) (column : String) (type : DataType) :
    Supply → List Value → List Parameter
  | _, [] => []
  | s, v :: values =>
    ⟨column, type, v, true, c.parameterName s.next, c.dialect.placeholder (c.parameterName s.next),
      s.origin⟩ :: c.boundFrom column type ⟨s.next + 1, s.origin + 1⟩ values

theorem map_value_boundFrom (c : Command) (column : String) (type : DataType) (s : Supply)
    (values : List Value) : (c.boundFrom column type s values).map (·.value) = values := by
  induction values generalizing s with
  | nil => rfl
  | cons v values ih => rw [boundFrom, List.map_cons, ih]

theorem dataType_boundFrom (c : Command) (column : String) (type : DataType) (s : Supply)
    (values : List Value) : ∀ p ∈ c.boundFrom column type s values,
      p.column = column ∧ p.dataType = type := by
  induction values generalizing s with
  | nil => exact nofun
  | cons v values ih => exact List.forall_mem_cons.mpr ⟨⟨rfl, rfl⟩, ih _⟩

theorem run_parameters {column : String} (visible : Text.isBlank column = false) (c : Command)
    (type : DataType) (values : List Value) (s : Supply) :
    (values.mapM fun v => c.parameter (some column) v (some type)).run.run s =
      (.ok (c.boundFrom column type s values),
        ⟨s.next + values.length, s.origin + values.length⟩) := by
  induction values generalizing s with
  | nil => rfl
  | cons v values ih =>
    rw [List.mapM_cons, run_bind, run_parameter visible]
    simp only [run_bind, ih, run_pure, boundFrom, List.length_cons]
    simp only [Option.getD_some, Nat.add_assoc, Nat.add_comm 1]

end Command

namespace Condition

open Text Build

theorem run_inList {column : String} (visible : isBlank column = false) (c : Command)
    (type : DataType) (values : List Value) (negated : Bool) (s : Supply) :
    (inList c (some column) values (some type) negated).run.run s =
      (.ok (.membership c (some column) (c.boundFrom column type s values) negated),
        ⟨s.next + values.length, s.origin + values.length⟩) := by
  have made : ofItems c (some column) (c.boundFrom column type s values) negated =
      .ok (.membership c (some column) (c.boundFrom column type s values) negated) :=
    ofItems_eq_ok_iff.mpr
      ⟨fun p hp => congrArg some (c.dataType_boundFrom column type s values p hp).1, rfl⟩
  rw [inList, Option.getD_some, run_bind, Command.run_parameters visible]
  simp only [run_lift, made]

/-- All tokens are read before the first value is bound. -/
theorem run_inDelimited_bind {separator : String} (filled : separator ≠ "") (c : Command)
    (column text : Option String) (type : DataType) (negated : Bool) (s : Supply) :
    (inDelimited c column text type separator negated).run.run s =
      match (tokens separator (text.getD "")).mapM (readToken column type) with
      | .ok values => (inList c column values (some type) negated).run.run s
      | .error e => (.error e, s) := by
  simp only [inDelimited, filled, if_false]
  rw [run_bind, run_mapM_lift]
  cases (tokens separator (text.getD "")).mapM (readToken column type) <;> rfl

theorem run_inDelimited {column separator : String} (visible : isBlank column = false)
    (filled : separator ≠ "") {text : String} {type : DataType} {values : List Value}
    (read : (Condition.tokens separator text).map type.read? = values.map some) (c : Command)
    (negated : Bool) (s : Supply) :
    (inDelimited c (some column) (some text) type separator negated).run.run s =
      (.ok (.membership c (some column) (c.boundFrom column type s values) negated),
        ⟨s.next + values.length, s.origin + values.length⟩) := by
  rw [run_inDelimited_bind filled, Option.getD_some, mapM_readToken read]
  exact run_inList visible c type values negated s

/-- A delimited text gives back what was encoded in it, token after token. -/
theorem decodes_encoded {separator column : String} {entries tokens : List String}
    (filled : separator ≠ "") (encodes : Encodes separator entries tokens)
    (visible : isBlank column = false) (c : Command) (negated : Bool) (s : Supply) :
    (∃ items t, (inDelimited c (some column) (some (separator.intercalate entries)) .string
          separator negated).run.run s = (.ok (.membership c (some column) items negated), t) ∧
        items.map (·.value) = tokens.map .text ∧ ∀ p ∈ items, p.dataType = .string) ∧
      ∀ type values, tokens.map (DataType.read? type) = values.map some →
        ∃ items t, (inDelimited c (some column) (some (separator.intercalate entries)) type
            separator negated).run.run s = (.ok (.membership c (some column) items negated), t) ∧
          items.map (·.value) = values ∧ ∀ p ∈ items, p.dataType = type := by
  have decoded : ∀ type values, tokens.map (DataType.read? type) = values.map some →
      ∃ items t, (inDelimited c (some column) (some (separator.intercalate entries)) type
          separator negated).run.run s = (.ok (.membership c (some column) items negated), t) ∧
        items.map (·.value) = values ∧ ∀ p ∈ items, p.dataType = type := by
    intro type values read
    rw [← tokens_of_encodes filled encodes] at read
    exact ⟨_, _, run_inDelimited visible filled read c negated s,
      c.map_value_boundFrom column type s values,
      fun p hp => (c.dataType_boundFrom column type s values p hp).2⟩
  refine ⟨decoded .string (tokens.map .text) ?_, decoded⟩
  rw [List.map_map]
  rfl

/-- A separator that overlaps itself, with blank entries around and between the tokens. -/
theorem encodes_overlapping :
    Encodes "aa" ["", " " ++ "07" ++ "\u2003", "\t", "" ++ "7" ++ "", "", ""] ["07", "7"] := by
  have last : Encodes "aa" ["", ""] [] := .blank rfl (by decide) (.blank rfl (by decide) .nil)
  have second : Encodes "aa" ["\t", "" ++ "7" ++ "", "", ""] ["7"] :=
    .blank (by decide) (by decide)
      (.token rfl rfl (by decide) (by decide) (by decide) last)
  exact .blank rfl (by decide)
    (.token (by decide) (by decide) (by decide) (by decide) (by decide) second)

theorem decodes_encoded_overlapping :
    ∃ items t, (inDelimited ⟨0, ⟨0, .sqlite⟩, "p"⟩ (some "id")
          (some "aa 07\u2003aa\taa7aaaa") .integer "aa" false).run.run ⟨0, 0⟩ =
        (.ok (.membership ⟨0, ⟨0, .sqlite⟩, "p"⟩ (some "id") items false), t) ∧
      items.map (·.value) = [.int 7, .int 7] ∧ ∀ p ∈ items, p.dataType = .integer :=
  (decodes_encoded (by decide) encodes_overlapping (by decide) ⟨0, ⟨0, .sqlite⟩, "p"⟩ false
    ⟨0, 0⟩).2 .integer [.int 7, .int 7] rfl

end Condition
end Criteria
