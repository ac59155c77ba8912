import Criteria.Proofs.Naming
import Criteria.Proofs.Placeholder
import Criteria.Proofs.Settings
import Criteria.Proofs.Sharing
import Mathlib.Data.List.Nodup

/-!
# Settings that have been read

Settings are checked when they are read, and used at any time later. Names of dialects are never
given up, so that a command can be opened by them whatever has been registered since. What its
names begin with is an identifier, and so all its names are; no placeholder for one of them is
broken by white space or a comma.
-/

namespace Criteria

namespace Text

/-- All characters that `isSpace` accepts. -/
def spaces : List Char :=
  (List.range' 9 5 ++ List.range' 0x1C 5 ++ [0x85, 0xA0, 0x1680] ++ List.range' 0x2000 11 ++
    [0x2028, 0x2029, 0x202F, 0x205F, 0x3000]).map Char.ofNat

theorem mem_spaces {c : Char} (h : isSpace c = true) : c ∈ spaces := by
  refine List.mem_map.mpr ⟨c.toNat, ?_, Char.ofNat_toNat c⟩
  simp only [isSpace, isWhiteSpace, Bool.or_eq_true, Bool.and_eq_true, decide_eq_true_eq,
    beq_iff_eq] at h
  simp only [List.mem_append, List.mem_range'_1, List.mem_cons, List.not_mem_nil]
  omega

/-- The text has neither white space nor a comma in it. -/
def Unbroken (s : String) : Prop := ∀ c ∈ s.toList, isSpace c = false ∧ c ≠ ','

theorem unbroken_of_lacks {s : String} (lacks : Lacks (',' :: spaces) s) : Unbroken s := by
  intro c hc
  have outside := lacks c hc
  refine ⟨?_, fun comma => outside (comma ▸ List.mem_cons_self)⟩
  exact Bool.eq_false_iff.mpr fun space => outside (.tail _ (mem_spaces space))

end Text

namespace Dialect

theorem placeholder_injective (d : Dialect) : Function.Injective d.placeholder :=
  fun _ _ same => (String.append_right_inj _).mp ((String.append_left_inj _).mp same)

/-- No built-in dialect breaks the placeholder for an identifier. -/
theorem unbroken_placeholder {d : Dialect} (builtIn : d ∈ Dialect.builtIn) {name : String}
    (identifier : Text.isIdentifier name = true) : Text.Unbroken (d.placeholder name) := by
  have inner : Text.Lacks (',' :: Text.spaces) name :=
    Text.lacks_of_isIdentifier identifier (by decide +kernel)
  have known := marker_of_builtIn d builtIn
  have sides : Text.Lacks (',' :: Text.spaces) d.marker.before ∧
      Text.Lacks (',' :: Text.spaces) d.marker.after := by
    simp only [List.mem_cons, List.not_mem_nil, or_false] at known
    rcases known with marker | marker | marker <;> rw [marker] <;> decide +kernel
  exact Text.unbroken_of_lacks (Text.lacks_append (Text.lacks_append sides.1 inner) sides.2)

end Dialect

namespace Settings

/-- Settings that have been read name a dialect that is registered, and their parameters have names
that begin with an identifier. -/
theorem read_ok {catalog : Catalog} {data : SettingsData} {settings : Settings}
    (accepted : read catalog data = .ok settings) :
    settings.target ∈ catalog.dialects.names ∧ Text.isIdentifier settings.stem = true := by
  cases data with
  | value v => cases accepted
  | fields entries =>
    obtain ⟨-, known, stem, -⟩ := read_eq_ok_iff.mp accepted
    refine ⟨known, ?_⟩
    rcases stem with ⟨-, usual⟩ | ⟨-, identifier⟩
    · rw [usual]
      decide +kernel
    · exact identifier

end Settings

namespace Session

variable {s : Session}

theorem commands_perform (s : Session) (action : Action) :
    s.commands ⊆ (s.perform action).commands := by
  cases action with
  | openCommand backend stem => exact List.subset_append_left _ _
  | call id call =>
    rcases perform_call s id call with same | ⟨c, -, same⟩
    · rw [same]
      exact List.Subset.refl _
    · rw [same]
      exact List.Subset.refl _
  | _ =>
    rw [(keeps_perform rfl s).commands]
    exact List.Subset.refl _

/-- Commands that have been opened stay so. -/
theorem commands_onward (s : Session) (later : List Request) :
    s.commands ⊆ (s.onward later).commands := by
  induction later generalizing s with
  | nil => exact List.Subset.refl _
  | cons r later ih =>
    refine List.Subset.trans ?_ (ih (s.ask r).2)
    rw [ask_eq_perform]
    exact List.foldlRecOn (motive := fun t : Session => s.commands ⊆ t.commands) (s.actions r)
      perform (List.Subset.refl _) fun t kept action _ =>
        List.Subset.trans kept (commands_perform t action)

/-- How a command names its parameters. -/
structure NamesWell (s : Session) (c : Command) : Prop where
  /-- The names are numbered from zero on, whether the calls that took them succeeded or not. -/
  numbered : s.taken c =
    (List.range (s.workspace.handedOut c)).map fun n => c.stem ++ n.repr
  /-- What is handed out has been taken. -/
  handed : (s.names c).Sublist (s.taken c)
  distinct : (s.taken c).Nodup
  identifiers : ∀ name ∈ s.taken c, Text.isIdentifier name = true
  /-- Names are as distinct in any built-in dialect, and nothing breaks a placeholder. -/
  placeholders : ∀ d ∈ Dialect.builtIn, ((s.taken c).map d.placeholder).Nodup ∧
    ∀ name ∈ s.taken c, Text.Unbroken (d.placeholder name)

theorem namesWell_asked {requests : List Request} {c : Command}
    (opened : c ∈ (asked requests).commands) (stem : Text.isIdentifier c.stem = true) :
    (asked requests).NamesWell c := by
  obtain ⟨actions, same⟩ := exists_after requests
  rw [same] at opened ⊢
  have taken := inOrder_after actions c opened
  have identifiers : ∀ name ∈ (after actions).taken c, Text.isIdentifier name = true := by
    intro name mem
    rw [taken] at mem
    obtain ⟨n, -, rfl⟩ := List.mem_map.mp mem
    exact isIdentifier_parameterName stem n
  have distinct : ((after actions).taken c).Nodup := taken ▸ c.nodup_namesFrom _ _
  exact {
    numbered := by
      rw [taken, Command.namesFrom, ← List.range_eq_range']
      rfl
    handed := names_sublist_taken (consistent_after actions) c
    distinct
    identifiers
    placeholders := fun d builtIn =>
      ⟨List.Nodup.map d.placeholder_injective distinct,
        fun name mem => Dialect.unbroken_placeholder builtIn (identifiers name mem)⟩ }

/-- A name that has been registered stays so. -/
theorem latest?_of_mem_names {first : List Request} {name : String}
    (known : name ∈ (asked first).workspace.catalog.dialects.names) (later : List Request) :
    ∃ d, latest? (first ++ later) name = some d := by
  rw [NameMap.mem_names_iff_find?_isSome, find?_dialects_asked] at known
  rw [← Option.isSome_iff_exists, latest?_append, Option.isSome_or, known, Bool.or_true]

theorem read_of_ask {data : SettingsData} {settings : Settings}
    (accepted : (s.ask (.readSettings data)).1 = .ok (.settings settings)) :
    Settings.read s.workspace.catalog data = .ok settings := by
  simp only [ask] at accepted
  cases read : Settings.read s.workspace.catalog data with
  | error e =>
    rw [read] at accepted
    cases accepted
  | ok settings =>
    rw [read] at accepted
    cases accepted
    rfl

/-- Settings for a registered name open a command on the backend that is shared under it, before
and after. The command has handed out no names. -/
theorem opens_of_latest {requests : List Request} {settings : Settings} {d : Dialect}
    (known : latest? requests settings.target = some d) :
    ∃ c, ((asked requests).ask (.configuredCommand settings)).1 = .ok (.configured c) ∧
      c.stem = settings.stem ∧
      (asked requests).given (.get settings.target) = some c.backend ∧
      (asked (requests ++ [.configuredCommand settings])).given (.get settings.target) =
        some c.backend ∧
      c ∈ (asked (requests ++ [.configuredCommand settings])).commands ∧
      (asked (requests ++ [.configuredCommand settings])).workspace.handedOut c = 0 := by
  obtain ⟨b, found, -, shared⟩ := ask_get_of_latest known
  have opening := ask_configuredCommand_of_ok found
  generalize asked (requests ++ [.get settings.target]) = t at found shared opening
  refine ⟨⟨t.workspace.counters.length, b, settings.stem⟩, ?_, rfl, ?_, ?_, ?_, ?_⟩
  · rw [opening]
    rfl
  · rw [given, found]
    rfl
  · have shared : (t.perform (.openCommand b settings.stem)).workspace.catalog.shared.find?
        settings.target = some b := shared
    rw [asked_concat, opening, given, ask_get_of_ok (Catalog.get_of_shared shared)]
    rfl
  · rw [asked_concat, opening]
    exact List.mem_append_right _ List.mem_cons_self
  · rw [asked_concat, opening]
    simp [perform, Workspace.openCommand, Workspace.handedOut]

/-- Settings that have once been read can be used at any time: a command can be opened by them on
the backend that is shared under their name, and names its parameters well ever after. -/
theorem usable_of_read {first : List Request} {data : SettingsData} {settings : Settings}
    (read : ((asked first).ask (.readSettings data)).1 = .ok (.settings settings))
    (later : List Request) :
    ∃ c, ((asked (first ++ later)).ask (.configuredCommand settings)).1 = .ok (.configured c) ∧
      (asked (first ++ later)).given (.get settings.target) = some c.backend ∧
      (asked (first ++ later ++ [.configuredCommand settings])).given (.get settings.target) =
        some c.backend ∧
      c.stem = settings.stem ∧
      (asked (first ++ later ++ [.configuredCommand settings])).taken c = [] ∧
      ∀ rest, (asked (first ++ later ++ .configuredCommand settings :: rest)).NamesWell c := by
  obtain ⟨target, stem⟩ := Settings.read_ok (read_of_ask read)
  obtain ⟨d, latest⟩ := latest?_of_mem_names target later
  obtain ⟨c, opened, own, before, behind, mem, unused⟩ := opens_of_latest latest
  rw [← own] at stem
  refine ⟨c, opened, before, behind, own, ?_, fun rest => ?_⟩
  · rw [(namesWell_asked mem stem).numbered, unused]
    rfl
  · have still := commands_onward _ rest mem
    rw [← asked_append, ← List.append_cons] at still
    exact namesWell_asked still stem

end Session

namespace Sample

def tuned : List Request := [.registerDialect "db2" .oracle]

def tuning : SettingsData :=
  .fields [("parameter_prefix", .value (.text "été")), ("target", .value (.text "db2"))]

/-- The dialect is registered again, and other commands take names. -/
def retuned : List Request :=
  [.openCommand command.backend command.stem, .call 0 between, .get "db2",
    .registerDialect "db2" .mysql, .call 0 between]

/-- The command that is opened then. -/
def fitted : Command := ⟨1, ⟨1, .mysql⟩, "été"⟩

/-- Calls on it, one of which fails, and on the other one. -/
def queries : List Request :=
  [.call 1 between, .call 0 among, .call 1 (.compare (some " ") "EQUAL" [.int 1] none),
    .call 1 among]

end Sample

namespace Session

theorem usable_of_read_tuned :
    ((asked (Sample.tuned ++ Sample.retuned)).ask (.configuredCommand ⟨"db2", "été"⟩)).1 =
        .ok (.configured Sample.fitted) ∧
      (asked (Sample.tuned ++ Sample.retuned ++ .configuredCommand ⟨"db2", "été"⟩ ::
        Sample.queries)).NamesWell Sample.fitted ∧
      (asked (Sample.tuned ++ Sample.retuned ++ .configuredCommand ⟨"db2", "été"⟩ ::
        Sample.queries)).taken Sample.fitted = ["été0", "été1", "été2"] := by
  have read : ((asked Sample.tuned).ask (.readSettings Sample.tuning)).1 =
      .ok (.settings ⟨"db2", "été"⟩) := rfl
  obtain ⟨c, opened, -, -, -, -, ever⟩ := usable_of_read read Sample.retuned
  have fitted : ((asked (Sample.tuned ++ Sample.retuned)).ask
      (.configuredCommand ⟨"db2", "été"⟩)).1 = .ok (.configured Sample.fitted) := rfl
  cases fitted.symm.trans opened
  exact ⟨opened, ever Sample.queries, by decide +kernel⟩

end Session
end Criteria
