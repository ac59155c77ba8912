import Criteria.Proofs.Outcome
import Criteria.Settings

/-!
# Reading settings

When settings are read and which field is to blame if they are not. The fields are looked at in a
fixed order: the target, what the names of parameters begin with, and then whatever else there is,
as it comes. Two names are special: the settings themselves stand in the way of a field that is
called as they are, and a field without a name is not told in the report.
-/

namespace Criteria

namespace SettingsData

/-- The datum is the text, or the bytes of it. -/
inductive Spells : SettingsData → String → Prop
  | text (s : String) : Spells (.value (.text s)) s
  | bytes (s : String) : Spells (.value (.bytes s.toUTF8.data.toList)) s
  | buffer (s : String) : Spells (.value (.buffer s.toUTF8.data.toList)) s

theorem bytesText?_eq_some_iff {content : List UInt8} {s : String} :
    bytesText? content = some s ↔ content = s.toUTF8.data.toList := by
  rw [bytesText?, String.fromUTF8?]
  constructor
  · intro decoded
    split at decoded
    · cases decoded
      rfl
    · cases decoded
  · rintro rfl
    exact dif_pos s.isValidUTF8

theorem text_eq_ok_iff {data : SettingsData} {s : String} : data.text = .ok s ↔ data.Spells s := by
  constructor
  · intro read
    unfold text at read
    split at read
    · cases read
      exact .text _
    · split at read
      · rename_i decoded
        cases read
        rw [bytesText?_eq_some_iff.mp decoded]
        exact .bytes _
      · cases read
    · split at read
      · rename_i decoded
        cases read
        rw [bytesText?_eq_some_iff.mp decoded]
        exact .buffer _
      · cases read
    · cases read
  · intro spelled
    cases spelled with
    | text => rfl
    | bytes => simp only [text, bytesText?_eq_some_iff.mpr rfl]
    | buffer => simp only [text, bytesText?_eq_some_iff.mpr rfl]

end SettingsData

namespace Settings

variable {catalog : Catalog} {entries : List (String × SettingsData)}

theorem inField_eq_ok_iff {α : Type} {field : String} {x : Except SettingsProblem α} {a : α} :
    inField field x = .ok a ↔ x = .ok a := by
  cases x <;> simp [inField]

theorem readTarget_eq_ok_iff {data : Option SettingsData} {target : String} :
    readTarget catalog data = .ok target ↔
      (∃ given ∈ data, given.Spells target) ∧ target ∈ catalog.dialects.names := by
  cases data with
  | none => simp [readTarget]
  | some given =>
    simp only [readTarget, bind_eq_ok_iff, Option.mem_some_iff, exists_eq_left',
      ← SettingsData.text_eq_ok_iff]
    constructor
    · rintro ⟨name, read, found⟩
      by_cases known : name ∈ catalog.dialects.names
      · simp only [known, not_true_eq_false, if_false] at found
        cases found
        exact ⟨read, known⟩
      · simp only [known, not_false_eq_true, if_true] at found
        cases found
    · rintro ⟨read, known⟩
      refine ⟨target, read, ?_⟩
      simp only [known, not_true_eq_false, if_false]
      rfl

/-- Names begin with `p` unless something else is given for it. -/
theorem readStem_eq_ok_iff {data : Option SettingsData} {stem : String} :
    readStem data = .ok stem ↔ (data = none ∧ stem = "p") ∨
      (∃ given ∈ data, given.Spells stem) ∧ Text.isIdentifier stem = true := by
  cases data with
  | none =>
    simp only [readStem, Option.not_mem_none, false_and, exists_false, or_false, true_and]
    exact ⟨fun read => (Except.ok.inj read).symm, fun same => same ▸ rfl⟩
  | some given =>
    simp only [readStem, bind_eq_ok_iff, Option.mem_some_iff, exists_eq_left', reduceCtorEq,
      false_and, false_or, ← SettingsData.text_eq_ok_iff]
    constructor
    · rintro ⟨name, read, found⟩
      cases identifier : Text.isIdentifier name with
      | true =>
        simp only [identifier] at found
        cases found
        exact ⟨read, identifier⟩
      | false =>
        simp only [identifier] at found
        cases found
    · rintro ⟨read, identifier⟩
      refine ⟨stem, read, ?_⟩
      simp only [identifier]
      rfl

/-- The fields say what the settings are: all that is needed, and nothing else. -/
structure Fits (catalog : Catalog) (entries : List (String × SettingsData)) (settings : Settings) :
    Prop where
  target : ∃ given ∈ entries.lookup "target", given.Spells settings.target
  known : settings.target ∈ catalog.dialects.names
  stem : (entries.lookup "parameter_prefix" = none ∧ settings.stem = "p") ∨
    (∃ given ∈ entries.lookup "parameter_prefix", given.Spells settings.stem) ∧
      Text.isIdentifier settings.stem = true
  only : ∀ field ∈ entries.map (·.1), field ∈ fieldNames

/-- There is something wrong with a field. Only the target is missed if it is not there, and what is
called in no other way should not be there. -/
def Offends (catalog : Catalog) (entries : List (String × SettingsData)) (field : String) : Prop :=
  if field = "target" then
    ∀ given ∈ entries.lookup field, ∀ name, given.Spells name → name ∉ catalog.dialects.names
  else if field = "parameter_prefix" then
    ∃ given ∈ entries.lookup field, ∀ stem, given.Spells stem → ¬ Text.isIdentifier stem = true
  else field ∈ entries.map (·.1)

/-- The fields in the order in which they are looked at. -/
def order (entries : List (String × SettingsData)) : List String :=
  fieldNames ++ (entries.map (·.1)).filter (· ∉ fieldNames)

/-- The field is the first one with which there is something wrong. -/
def IsFirstOffending (catalog : Catalog) (entries : List (String × SettingsData)) (field : String) :
    Prop :=
  Offends catalog entries field ∧ ∃ before after, order entries = before ++ field :: after ∧
    ∀ other ∈ before, ¬ Offends catalog entries other

theorem offends_target_iff : Offends catalog entries "target" ↔
    ∀ name, readTarget catalog (entries.lookup "target") ≠ .ok name := by
  rw [Offends, if_pos rfl]
  simp only [ne_eq, readTarget_eq_ok_iff, not_and]
  constructor
  · rintro unfit name ⟨given, present, spelled⟩
    exact unfit given present name spelled
  · exact fun refused given present name spelled => refused name ⟨given, present, spelled⟩

theorem offends_stem_iff : Offends catalog entries "parameter_prefix" ↔
    ∀ stem, readStem (entries.lookup "parameter_prefix") ≠ .ok stem := by
  rw [Offends, if_neg (by decide), if_pos rfl]
  simp only [ne_eq, readStem_eq_ok_iff, not_or, not_and]
  constructor
  · rintro ⟨given, present, unfit⟩ stem
    refine ⟨fun absent => absurd (absent ▸ present) (Option.not_mem_none given), ?_⟩
    rintro ⟨same, present', spelled⟩
    exact unfit stem (Option.mem_unique present present' ▸ spelled)
  · intro refused
    cases present : entries.lookup "parameter_prefix" with
    | none => exact absurd rfl ((refused "p").1 present)
    | some given =>
      exact ⟨given, rfl, fun stem spelled => (refused stem).2 ⟨given, present, spelled⟩⟩

theorem offends_other {field : String} (unknown : field ∉ fieldNames) :
    Offends catalog entries field ↔ field ∈ entries.map (·.1) := by
  have other : field ≠ "target" ∧ field ≠ "parameter_prefix" := by simpa [fieldNames] using unknown
  rw [Offends, if_neg other.1, if_neg other.2]

theorem ofFields_of_reserved (reserved : reservedField ∈ entries.map (·.1)) :
    ofFields catalog entries = .error .reservedSetting := by
  have found : (entries.lookup reservedField).isSome = true := by
    obtain ⟨e, mem, same⟩ := List.mem_map.mp reserved
    exact List.lookup_isSome_iff.mpr ⟨e, mem, beq_iff_eq.mpr same.symm⟩
  simp only [ofFields, found, if_true]
  rfl

theorem ofFields_of_free (free : reservedField ∉ entries.map (·.1)) :
    ofFields catalog entries =
      inField "target" (readTarget catalog (entries.lookup "target")) >>= fun target =>
      inField "parameter_prefix" (readStem (entries.lookup "parameter_prefix")) >>= fun stem =>
      match entries.find? fun e => e.1 ∉ fieldNames with
      | some e => .error (.badSettings e.1 .unexpected)
      | none => .ok ⟨target, stem⟩ := by
  have absent : entries.lookup reservedField = none := by
    refine List.lookup_eq_none_iff.mpr fun e mem => bne_iff_ne.mpr ?_
    rintro same
    exact free (List.mem_map.mpr ⟨e, mem, same.symm⟩)
  simp only [ofFields, absent, Option.isSome_none, Bool.false_eq_true, if_false]
  rfl

theorem read_eq_ok_iff {settings : Settings} :
    read catalog (.fields entries) = .ok settings ↔ Fits catalog entries settings := by
  rw [read]
  constructor
  · intro accepted
    by_cases reserved : reservedField ∈ entries.map (·.1)
    · rw [ofFields_of_reserved reserved] at accepted
      cases accepted
    · rw [ofFields_of_free reserved] at accepted
      obtain ⟨target, readTarget, accepted⟩ := bind_eq_ok_iff.mp accepted
      obtain ⟨stem, readStem, accepted⟩ := bind_eq_ok_iff.mp accepted
      cases extra : entries.find? fun e => e.1 ∉ fieldNames with
      | some e =>
        simp only [extra] at accepted
        cases accepted
      | none =>
        simp only [extra] at accepted
        cases accepted
        obtain ⟨spelled, known⟩ := readTarget_eq_ok_iff.mp (inField_eq_ok_iff.mp readTarget)
        refine ⟨spelled, known, readStem_eq_ok_iff.mp (inField_eq_ok_iff.mp readStem), ?_⟩
        simpa using extra
  · rintro ⟨spelled, known, stem, only⟩
    have free : reservedField ∉ entries.map (·.1) := fun present =>
      absurd (only _ present) (by decide)
    have allKnown : (entries.find? fun e => e.1 ∉ fieldNames) = none := by
      simpa using only
    rw [ofFields_of_free free,
      inField_eq_ok_iff.mpr (readTarget_eq_ok_iff.mpr ⟨spelled, known⟩), ok_bind,
      inField_eq_ok_iff.mpr (readStem_eq_ok_iff.mpr stem), ok_bind, allKnown]

/-- Fields that do not fit are refused for the first one that offends, unless one of them is called
as the settings themselves. -/
theorem exists_problem (free : reservedField ∉ entries.map (·.1))
    (unfit : ∀ settings, ¬ Fits catalog entries settings) :
    ∃ field problem, IsFirstOffending catalog entries field ∧
      read catalog (.fields entries) = .error (.badSettings field problem) := by
  rw [read, ofFields_of_free free]
  cases target : readTarget catalog (entries.lookup "target") with
  | error problem =>
    have offends : Offends catalog entries "target" :=
      offends_target_iff.mpr fun name read => nomatch target.symm.trans read
    exact ⟨"target", problem, ⟨offends, [], _, rfl, nofun⟩, rfl⟩
  | ok name =>
    have fine : ¬ Offends catalog entries "target" := fun offends =>
      offends_target_iff.mp offends name target
    cases stem : readStem (entries.lookup "parameter_prefix") with
    | error problem =>
      have offends : Offends catalog entries "parameter_prefix" :=
        offends_stem_iff.mpr fun name read => nomatch stem.symm.trans read
      exact ⟨"parameter_prefix", problem,
        ⟨offends, ["target"], _, rfl, List.forall_mem_singleton.mpr fine⟩, rfl⟩
    | ok start =>
      have fine' : ¬ Offends catalog entries "parameter_prefix" := fun offends =>
        offends_stem_iff.mp offends start stem
      cases extra : entries.find? fun e => e.1 ∉ fieldNames with
      | none =>
        obtain ⟨spelled, known⟩ := readTarget_eq_ok_iff.mp target
        exact absurd ⟨spelled, known, readStem_eq_ok_iff.mp stem, by simpa using extra⟩
          (unfit ⟨name, start⟩)
      | some e =>
        obtain ⟨unknown, before, after, split, others⟩ := List.find?_eq_some_iff_append.mp extra
        have unknown : e.1 ∉ fieldNames := by simpa using unknown
        have known : (before.map (·.1)).filter (· ∉ fieldNames) = [] := by simpa using others
        have present : e.1 ∈ entries.map (·.1) :=
          List.mem_map_of_mem (split ▸ List.mem_append_right _ List.mem_cons_self)
        refine ⟨e.1, .unexpected, ⟨(offends_other unknown).mpr present, fieldNames,
          (after.map (·.1)).filter (· ∉ fieldNames), ?_, ?_⟩, rfl⟩
        · rw [order, split, List.map_append, List.map_cons, List.filter_append, known,
            List.nil_append, List.filter_cons_of_pos (by simpa using unknown)]
        · exact List.forall_mem_cons.mpr ⟨fine, List.forall_mem_singleton.mpr fine'⟩

/-- The failure is one of the configuration, and its report names the field, if there is one and it
has a name. -/
def IsReportedFor (field : Option String) (e : Error) : Prop :=
  ∃ r, e.report? = some r ∧ r.kind = .configuration ∧
    r.details.find? "field" = (field.filter (· ≠ "")).map .text

theorem isReportedFor_badSettings (field : String) (problem : SettingsProblem) :
    IsReportedFor (some field) (.badSettings field problem) := by
  refine ⟨_, rfl, rfl, ?_⟩
  by_cases empty : field = ""
  · subst empty
    rfl
  · simp only [Report.configuration, empty, if_false, Option.filter_some, ne_eq, decide_not,
      decide_false, Bool.not_false, if_true, Option.map_some]
    rfl

/-- What comes of reading settings. Data without fields are refused without a field. Fields are read
just if they fit; else the first of them that offends is reported, unless there is one that is
called as the settings themselves: then there is no report at all. -/
theorem outcome_of_read (catalog : Catalog) :
    (∀ v, ∃ e, read catalog (.value v) = .error e ∧ IsReportedFor none e) ∧
    ∀ entries : List (String × SettingsData),
      (∀ settings, read catalog (.fields entries) = .ok settings ↔
        Fits catalog entries settings) ∧
      ((∀ settings, ¬ Fits catalog entries settings) → "self" ∉ entries.map (·.1) →
        ∃ field e, IsFirstOffending catalog entries field ∧
          read catalog (.fields entries) = .error e ∧ IsReportedFor (some field) e) ∧
      ("self" ∈ entries.map (·.1) → ∃ e, read catalog (.fields entries) = .error e ∧
        e.report? = none ∧ e.message? = none) := by
  refine ⟨fun v => ⟨_, rfl, _, rfl, rfl, rfl⟩, fun entries =>
    ⟨fun _ => read_eq_ok_iff, fun unfit free => ?refused, fun reserved => ?reserved⟩⟩
  case refused =>
    obtain ⟨field, problem, first, failed⟩ := exists_problem free unfit
    exact ⟨field, _, first, failed, isReportedFor_badSettings field problem⟩
  case reserved => exact ⟨_, ofFields_of_reserved reserved, rfl, rfl⟩

/-- What names begin with comes before other fields, wherever it stands. -/
theorem outcome_of_read_pooled :
    read .builtIn (.fields [("parameter_prefix", .value (.text "é")),
        ("target", .value (.bytes [0x6D, 0x79, 0x73, 0x71, 0x6C]))]) = .ok ⟨"mysql", "é"⟩ ∧
      (∃ field e, IsFirstOffending .builtIn [("pool", .value (.int 5)),
          ("parameter_prefix", .value (.text "1p")), ("target", .value (.text "mysql"))] field ∧
        read .builtIn (.fields [("pool", .value (.int 5)),
          ("parameter_prefix", .value (.text "1p")), ("target", .value (.text "mysql"))]) =
            .error e ∧ IsReportedFor (some field) e) ∧
      ∃ e, read .builtIn (.fields [("self", .value (.int 5))]) = .error e ∧ e.report? = none ∧
        e.message? = none := by
  obtain ⟨-, outcomes⟩ := outcome_of_read .builtIn
  have mysql : "mysql" ∈ Catalog.builtIn.dialects.names := by decide +kernel
  have target : ∃ given ∈ some (SettingsData.value (.bytes [0x6D, 0x79, 0x73, 0x71, 0x6C])),
      given.Spells "mysql" := ⟨_, rfl, .bytes "mysql"⟩
  have stem : ∃ given ∈ some (SettingsData.value (.text "é")), given.Spells "é" :=
    ⟨_, rfl, .text "é"⟩
  refine ⟨((outcomes _).1 _).mpr ⟨target, mysql, .inr ⟨stem, by decide +kernel⟩, by decide⟩,
    (outcomes _).2.1 ?_ (by decide), (outcomes _).2.2 (by decide)⟩
  rintro settings ⟨-, -, -, only⟩
  exact absurd (only "pool" (by decide)) (by decide)

/-- Not every failure is reported as one of the configuration, and not every field that offends is
named. -/
theorem not_reported_of_read :
    (¬ ∀ (catalog : Catalog) (entries : List (String × SettingsData)) (e : Error),
      (entries.map (·.1)).Nodup → read catalog (.fields entries) = .error e →
        ∃ r, e.report? = some r ∧ r.kind = .configuration) ∧
      ¬ ∀ (catalog : Catalog) (entries : List (String × SettingsData)) (field : String) (e : Error),
        (entries.map (·.1)).Nodup → IsFirstOffending catalog entries field →
          read catalog (.fields entries) = .error e →
            ∃ r, e.report? = some r ∧ r.details.find? "field" = some (.text field) := by
  constructor
  · intro reported
    obtain ⟨r, failed, -⟩ := reported .builtIn
      [("target", .value (.text "oracle")), ("self", .value (.int 1))] .reservedSetting
      (by decide) rfl
    cases failed
  · intro named
    have fine : ¬ Offends .builtIn [("target", .value (.text "oracle")), ("", .value (.int 1))]
        "target" := by
      rw [Offends, if_pos rfl]
      intro unfit
      exact unfit _ rfl "oracle" (.text _) (by decide +kernel)
    have fine' : ¬ Offends .builtIn [("target", .value (.text "oracle")), ("", .value (.int 1))]
        "parameter_prefix" := by
      rw [Offends, if_neg (by decide), if_pos rfl]
      rintro ⟨given, ⟨⟩, -⟩
    have first : IsFirstOffending .builtIn
        [("target", .value (.text "oracle")), ("", .value (.int 1))] "" :=
      ⟨(offends_other (by decide)).mpr (by decide), fieldNames, [], by decide,
        List.forall_mem_cons.mpr ⟨fine, List.forall_mem_singleton.mpr fine'⟩⟩
    obtain ⟨r, report, found⟩ := named .builtIn _ "" (.badSettings "" .unexpected) (by decide) first
      rfl
    cases report
    cases found

end Settings
end Criteria
