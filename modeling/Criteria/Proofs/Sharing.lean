import Criteria.Proofs.Catalog
import Criteria.Proofs.Request

/-!
# Shared backends in the course of time

What the catalog hands out as requests of all kinds are made. Under a name there is always one
backend of the dialect that has been registered last, the same until the name is registered again,
and a backend of one's own is nobody else's. Behind this stands the lemma that a request does to
the catalog what the catalog can do, and nothing else.
-/

namespace Criteria

theorem Dialect.vary_of_count (base : Dialect) {v : Dialect.Variation}
    (count : (v.dateParts.getD base.dateParts).length ≠ 10) :
    ∃ e, base.vary v = .error e := by
  unfold vary
  by_cases null : v.title.toList.contains '\x00' = true
  · exact ⟨.nullInTitle, if_pos null⟩
  · exact ⟨_, (if_neg null).trans (dif_neg count)⟩

def Reply.backend? : Reply → Option Backend
  | .backend b => some b
  | .configured c => some c.backend
  | _ => none

namespace Session

variable {s : Session} {name : String} {b : Backend}

/-- The backend that the catalog hands out for a request. -/
def given (s : Session) (r : Request) : Option Backend := (s.ask r).1.toOption.bind Reply.backend?

/-- All backends that the catalog hands out for some requests. -/
def givenAll (s : Session) : List Request → List Backend
  | [] => []
  | r :: later => (s.given r).toList ++ (s.ask r).2.givenAll later

/-- A look-up that can only do what the catalog can. -/
theorem serves_lookUp {w : Workspace} {f : Catalog → Except Error (Backend × Catalog)}
    (serves : ∀ b t, f w.catalog = .ok (b, t) → w.catalog.Serves none (some b) t) :
    w.catalog.Serves none (w.lookUp f).1.toOption (w.lookUp f).2.catalog := by
  unfold Workspace.lookUp
  cases found : f w.catalog with
  | error e => exact .rests
  | ok pair => exact serves pair.1 pair.2 found

theorem backend?_map {α : Type} (f : α → Reply) (x : Except Error α) :
    (f <$> x).toOption.bind Reply.backend? = x.toOption.bind fun a => (f a).backend? := by
  cases x <;> rfl

theorem given_call (s : Session) (id : Nat) (call : Call) : s.given (.call id call) = none := by
  simp only [given, ask, replyToAction]
  cases s.commands[id]? with
  | none => rfl
  | some c =>
    dsimp only
    rw [backend?_map]
    exact Option.bind_fun_none _

theorem given_get (s : Session) (name : String) :
    s.given (.get name) = (s.workspace.getBackend name).1.toOption :=
  (backend?_map _ _).trans (Option.bind_fun_some _)

theorem given_create (s : Session) (name : String) :
    s.given (.create name) = (s.workspace.createBackend name).1.toOption :=
  (backend?_map _ _).trans (Option.bind_fun_some _)

theorem given_getForAddress (s : Session) (address : String) :
    s.given (.getForAddress address) = (s.workspace.getForAddress address).1.toOption :=
  (backend?_map _ _).trans (Option.bind_fun_some _)

theorem toOption_lookUp (w : Workspace) (f : Catalog → Except Error (Backend × Catalog)) :
    (w.lookUp f).1.toOption = (f w.catalog).toOption.map (·.1) := by
  unfold Workspace.lookUp
  cases f w.catalog <;> rfl

theorem given_get_eq (s : Session) (name : String) :
    s.given (.get name) = (s.workspace.catalog.get name).toOption.map (·.1) :=
  (given_get s name).trans (toOption_lookUp _ _)

theorem given_create_eq (s : Session) (name : String) :
    s.given (.create name) = (s.workspace.catalog.create name).toOption.map (·.1) :=
  (given_create s name).trans (toOption_lookUp _ _)

/-- Settings get the backend that is shared under their name. -/
theorem ask_configuredBackend (s : Session) (settings : Settings) :
    s.ask (.configuredBackend settings) = s.ask (.get settings.target) := rfl

/-- A command by settings is opened on the backend that is shared under their name. -/
theorem ask_configuredCommand_of_ok {settings : Settings} {t : Session}
    (found : s.ask (.get settings.target) = (.ok (.backend b), t)) :
    s.ask (.configuredCommand settings) =
      (.ok (.configured (t.workspace.openCommand b settings.stem).1),
        t.perform (.openCommand b settings.stem)) := by
  rcases looked : s.workspace.getBackend settings.target with ⟨e | b, w⟩ <;>
    simp only [ask, replyToAction, perform, Workspace.openConfigured, looked] at found ⊢ <;>
    cases found
  rfl

theorem ask_configuredCommand_of_error {settings : Settings} {t : Session} {e : Error}
    (unknown : s.ask (.get settings.target) = (.error e, t)) :
    s.ask (.configuredCommand settings) = (.error e, t) := by
  rcases looked : s.workspace.getBackend settings.target with ⟨e | b, w⟩ <;>
    simp only [ask, replyToAction, perform, Workspace.openConfigured, looked] at unknown ⊢ <;>
    cases unknown
  rfl

theorem ask_get_of_ok {c : Catalog} (found : s.workspace.catalog.get name = .ok (b, c)) :
    s.ask (.get name) =
      (.ok (.backend b), { s with workspace := { s.workspace with catalog := c } }) := by
  simp only [ask, replyToAction, perform, Workspace.getBackend, Workspace.lookUp, found]
  rfl

theorem ask_get_of_error {e : Error} (unknown : s.workspace.catalog.get name = .error e) :
    s.ask (.get name) = (.error e, s) := by
  simp only [ask, replyToAction, perform, Workspace.getBackend, Workspace.lookUp, unknown]
  rfl

theorem ask_create_of_ok {c : Catalog} (made : s.workspace.catalog.create name = .ok (b, c)) :
    s.ask (.create name) =
      (.ok (.backend b), { s with workspace := { s.workspace with catalog := c } }) := by
  simp only [ask, replyToAction, perform, Workspace.createBackend, Workspace.lookUp, made]
  rfl

theorem ask_get (s : Session) (name : String) :
    (∃ b t, s.ask (.get name) = (.ok (.backend b), t)) ∨
      ∃ e, s.ask (.get name) = (.error e, s) := by
  cases found : s.workspace.catalog.get name with
  | error e => exact .inr ⟨e, ask_get_of_error found⟩
  | ok pair => exact .inl ⟨_, _, ask_get_of_ok found⟩

theorem catalog_perform_call (s : Session) (id : Nat) (call : Call) :
    (s.perform (.call id call)).workspace.catalog = s.workspace.catalog := by
  rcases perform_call s id call with same | ⟨c, -, same⟩
  · rw [same]
  · rw [same]
    rfl

theorem catalog_perform_registerOperator (s : Session) (name template : String) (arity : Int) :
    (s.perform (.registerOperator name template arity)).workspace.catalog =
      s.workspace.catalog := by
  cases registered : s.workspace.registerOperator name template arity with
  | error e => simp only [perform, registered]
  | ok pair =>
    obtain ⟨_, -, made⟩ := bind_eq_ok_iff.mp registered
    cases made
    simp only [perform, registered]

theorem serves_get (s : Session) (name : String) :
    s.workspace.catalog.Serves none (s.given (.get name))
      (s.ask (.get name)).2.workspace.catalog := by
  rw [given_get]
  exact serves_lookUp fun b t found => Catalog.serves_get found

/-- A request does to the catalog what the catalog can do. -/
theorem serves_ask (s : Session) (r : Request) :
    s.workspace.catalog.Serves r.registered? (s.given r) (s.ask r).2.workspace.catalog := by
  have unserved {α : Type} {f : α → Reply} (x : Except Error α)
      (silent : ∀ a, (f a).backend? = none) :
      s.workspace.catalog.Serves .none ((f <$> x).toOption.bind Reply.backend?)
        s.workspace.catalog := by
    rw [backend?_map, funext silent, Option.bind_fun_none]
    exact .rests
  cases r with
  | act action =>
    cases action with
    | openCommand backend stem => exact .rests
    | call id call =>
      rw [given_call]
      exact (catalog_perform_call s id call).symm ▸ .rests
    | registerOperator name template arity =>
      exact (catalog_perform_registerOperator s name template arity).symm ▸ unserved _ fun _ => rfl
    | registerDialect name d => exact .registers name d
    | getBackend name => exact serves_get s name
    | createBackend name =>
      rw [given_create]
      exact serves_lookUp fun b t found => Catalog.serves_create found
    | getForAddress address =>
      rw [given_getForAddress]
      refine serves_lookUp fun b t found => ?_
      rw [Catalog.getForAddress_eq] at found
      obtain ⟨name, -, found⟩ := bind_eq_ok_iff.mp found
      exact Catalog.serves_get found
  | registerVariation name base v =>
    simp only [given, ask, Request.registered?]
    cases base.vary v with
    | error e => exact .rests
    | ok d => exact .registers name d
  | readSettings data => exact unserved _ fun _ => rfl
  | configuredBackend settings => exact serves_get s settings.target
  | configuredCommand settings =>
    have served := serves_get s settings.target
    simp only [given] at served ⊢
    rcases ask_get s settings.target with ⟨b, t, found⟩ | ⟨e, unknown⟩
    · rw [found] at served
      rw [ask_configuredCommand_of_ok found]
      exact served
    · rw [unknown] at served
      rw [ask_configuredCommand_of_error unknown]
      exact served
  | compile c d => exact unserved _ fun _ => rfl
  | paginate b q index size reverse => exact unserved _ fun _ => rfl

theorem ask_getForAddress (s : Session) (address : String) :
    s.ask (.getForAddress address) =
      match Address.target address with
      | .ok name => s.ask (.get name)
      | .error e => (.error e, s) := by
  simp only [ask, replyToAction, perform, Workspace.getForAddress, Workspace.getBackend,
    Workspace.lookUp, Catalog.getForAddress_eq]
  cases Address.target address <;> rfl

/-- What is registered as a dialect, in this order. The built-in dialects come first. -/
def registrations (requests : List Request) : List (String × Dialect) :=
  (Dialect.builtIn.map fun d => (d.name, d)) ++ requests.filterMap Request.registered?

/-- The dialect that has been registered last under a name. -/
def latest? (requests : List Request) (name : String) : Option Dialect :=
  (registrations requests).reverse.lookup name

theorem registrations_append (first later : List Request) :
    registrations (first ++ later) =
      registrations first ++ later.filterMap Request.registered? := by
  rw [registrations, List.filterMap_append, ← List.append_assoc, registrations]

theorem latest?_append (first later : List Request) (name : String) :
    latest? (first ++ later) name =
      ((later.filterMap Request.registered?).reverse.lookup name).or (latest? first name) := by
  rw [latest?, registrations_append, List.reverse_append, List.lookup_append, latest?]

theorem latest?_eq_none_iff {requests : List Request} {name : String} :
    latest? requests name = none ↔ name ∉ (registrations requests).map (·.1) := by
  rw [latest?, NameMap.lookup_reverse_eq_none_iff, List.mem_map]
  exact ⟨fun apart ⟨e, mem, same⟩ => apart e mem same,
    fun absent e mem same => absent ⟨e, mem, same⟩⟩

theorem lookup_registered_eq_none_iff {later : List Request} {name : String} :
    (later.filterMap Request.registered?).reverse.lookup name = none ↔
      ∀ r ∈ later, ∀ d, r.registered? ≠ some (name, d) := by
  rw [NameMap.lookup_reverse_eq_none_iff]
  constructor
  · intro apart r mem d registered
    exact apart (name, d) (List.mem_filterMap.mpr ⟨r, mem, registered⟩) rfl
  · rintro kept ⟨other, d⟩ mem rfl
    obtain ⟨r, mem, registered⟩ := List.mem_filterMap.mp mem
    exact kept r mem d registered

theorem dialects_asked (requests : List Request) :
    (asked requests).workspace.catalog.dialects = .ofList (registrations requests) := by
  induction requests using List.reverseRecOn with
  | nil =>
    rw [registrations, List.filterMap_nil, List.append_nil]
    rfl
  | append_singleton first r ih =>
    rw [asked_concat, Catalog.dialects_of_serves (serves_ask (asked first) r), ih,
      registrations_append, Request.filterMap_singleton, NameMap.ofList_append]

theorem find?_dialects_asked (requests : List Request) (name : String) :
    (asked requests).workspace.catalog.dialects.find? name = latest? requests name := by
  rw [dialects_asked, NameMap.find?_ofList]
  rfl

theorem sound_asked (requests : List Request) : (asked requests).workspace.catalog.Sound := by
  induction requests using List.reverseRecOn with
  | nil => exact Catalog.sound_builtIn
  | append_singleton first r ih =>
    rw [asked_concat]
    exact Catalog.sound_of_serves ih (serves_ask (asked first) r)

/-- What is shared under a name stays shared while the name is not registered again. -/
theorem shared_onward {later : List Request}
    (shared : s.workspace.catalog.shared.find? name = some b)
    (kept : ∀ r ∈ later, ∀ d, r.registered? ≠ some (name, d)) :
    (s.onward later).workspace.catalog.shared.find? name = some b := by
  induction later generalizing s with
  | nil => exact shared
  | cons r later ih =>
    rw [List.forall_mem_cons] at kept
    exact ih (Catalog.shared_of_serves shared (serves_ask s r) kept.1) kept.2

theorem retired_onward {number : Nat} (retired : s.workspace.catalog.Retired number)
    (later : List Request) : (s.onward later).workspace.catalog.Retired number ∧
      ∀ b ∈ s.givenAll later, b.number ≠ number := by
  induction later generalizing s with
  | nil => exact ⟨retired, List.forall_mem_nil _⟩
  | cons r later ih =>
    obtain ⟨next, now⟩ := Catalog.retired_of_serves retired (serves_ask s r)
    obtain ⟨last, each⟩ := ih next
    refine ⟨last, fun b handed => ?_⟩
    rcases List.mem_append.mp handed with handed | handed
    · exact now b (Option.mem_toList.mp handed)
    · exact each b handed

/-- What was shared under a name is retired once the name has been registered again. -/
theorem retired_of_registered (sound : s.workspace.catalog.Sound)
    (shared : s.workspace.catalog.shared.find? name = some b) {later : List Request}
    (again : ∃ r ∈ later, ∃ d, r.registered? = some (name, d)) :
    (s.onward later).workspace.catalog.Retired b.number := by
  induction later generalizing s with
  | nil => simp at again
  | cons r later ih =>
    have served := serves_ask s r
    by_cases now : ∃ d, r.registered? = some (name, d)
    · obtain ⟨d, now⟩ := now
      rw [now] at served
      have retired := Catalog.retired_register sound shared d
      rw [← Catalog.eq_register_of_serves served] at retired
      exact (retired_onward retired later).1
    · have kept : ∀ d, r.registered? ≠ some (name, d) := fun d h => now ⟨d, h⟩
      obtain ⟨r', mem, d, registered⟩ := again
      rcases List.mem_cons.mp mem with rfl | mem
      · exact absurd registered (kept d)
      · exact ih (Catalog.sound_of_serves sound served)
          (Catalog.shared_of_serves shared served kept) ⟨r', mem, d, registered⟩

theorem number_lt_of_givenAll (sound : s.workspace.catalog.Sound) (later : List Request) :
    s.workspace.catalog.next ≤ (s.onward later).workspace.catalog.next ∧
      ∀ b ∈ s.givenAll later, b.number < (s.onward later).workspace.catalog.next := by
  induction later generalizing s with
  | nil => exact ⟨Nat.le_refl _, List.forall_mem_nil _⟩
  | cons r later ih =>
    have served := serves_ask s r
    obtain ⟨grows, each⟩ := ih (Catalog.sound_of_serves sound served)
    refine ⟨Nat.le_trans (Catalog.next_le_of_serves served) grows, fun b handed => ?_⟩
    rcases List.mem_append.mp handed with handed | handed
    · have now := Catalog.number_lt_of_serves sound served b (Option.mem_toList.mp handed)
      exact Nat.lt_of_lt_of_le now grows
    · exact each b handed

/-- A registered name has a backend of the dialect that has been registered last. -/
theorem ask_get_of_latest {requests : List Request} {d : Dialect}
    (known : latest? requests name = some d) :
    ∃ b, (asked requests).ask (.get name) =
        (.ok (.backend b), (asked (requests ++ [.get name]))) ∧ b.dialect = d ∧
      (asked (requests ++ [.get name])).workspace.catalog.shared.find? name = some b := by
  rw [← find?_dialects_asked] at known
  obtain ⟨b, c, found, dialect, shared⟩ := Catalog.get_of_known (sound_asked requests) known
  have asking := ask_get_of_ok found
  rw [asked_concat, asking]
  exact ⟨b, rfl, dialect, shared⟩

theorem ask_get_of_unregistered {requests : List Request}
    (unknown : latest? requests name = none) :
    (asked requests).ask (.get name) =
      (.error (.unknownDialect name (asked requests).workspace.catalog.targets),
        asked requests) := by
  rw [← find?_dialects_asked] at unknown
  exact ask_get_of_error (Catalog.get_of_unknown (sound_asked requests) unknown)

/-- How backends are shared after some requests. -/
structure Shares (requests : List Request) : Prop where
  /-- A name is refused if it has never been registered, and this changes nothing. -/
  refused : ∀ name, name ∉ (registrations requests).map (·.1) ↔
    (asked requests).ask (.get name) =
      (.error (.unknownDialect name (asked requests).workspace.catalog.targets), asked requests)
  /-- Else there is a backend of the dialect that has been registered last. -/
  current : ∀ name, ((asked requests).given (.get name)).map (·.dialect) = latest? requests name
  /-- It is the same as before unless the name has been registered in between. -/
  same : ∀ name later,
    ((asked (requests ++ .get name :: later)).given (.get name)).map (·.number) =
        ((asked requests).given (.get name)).map (·.number) ↔
      ∀ r ∈ later, ∀ d, r.registered? ≠ some (name, d)
  /-- A registration changes nothing under other names. -/
  apart : ∀ name r other d, r.registered? = some (other, d) → name ≠ other →
    (asked (requests ++ [r])).given (.get name) = (asked requests).given (.get name)
  /-- A backend of one's own is of this dialect too. -/
  created : ∀ name,
    ((asked requests).given (.create name)).map (·.dialect) = latest? requests name
  /-- It has not been handed out before, and it will not be handed out again. -/
  own : ∀ name, ∀ b ∈ (asked requests).given (.create name),
    (∀ e ∈ start.givenAll requests, e.number ≠ b.number) ∧
      ∀ later, ∀ e ∈ (asked (requests ++ [.create name])).givenAll later, e.number ≠ b.number
  /-- Settings lead to the shared backend. -/
  configured : ∀ settings,
    (asked requests).ask (.configuredBackend settings) =
      (asked requests).ask (.get settings.target)
  /-- A command by settings is opened on the shared backend. -/
  opened : ∀ settings,
    (∀ b t, (asked requests).ask (.get settings.target) = (.ok (.backend b), t) →
      (asked requests).ask (.configuredCommand settings) =
        (.ok (.configured (t.workspace.openCommand b settings.stem).1),
          (t.ask (.openCommand b settings.stem)).2)) ∧
    ∀ e t, (asked requests).ask (.get settings.target) = (.error e, t) →
      (asked requests).ask (.configuredCommand settings) = (.error e, t)
  /-- An address leads to the shared backend. -/
  addressed : ∀ address,
    (asked requests).ask (.getForAddress address) =
      match Address.target address with
      | .ok name => (asked requests).ask (.get name)
      | .error e => (.error e, asked requests)
  /-- A dialect without ten keywords for the parts of a date is refused, and nothing changes. -/
  rejected : ∀ name base (v : Dialect.Variation), (v.dateParts.getD base.dateParts).length ≠ 10 →
    ∃ e, (asked requests).ask (.registerVariation name base v) = (.error e, asked requests)

theorem dialect_given_get (requests : List Request) (name : String) :
    ((asked requests).given (.get name)).map (·.dialect) = latest? requests name := by
  cases known : latest? requests name with
  | none =>
    rw [given, ask_get_of_unregistered known]
    rfl
  | some d =>
    obtain ⟨b, found, rfl, -⟩ := ask_get_of_latest known
    rw [given, found]
    rfl

/-- The backend under a name stays the same while the name is not registered again. -/
theorem number_given_get_iff (requests : List Request) (name : String) (later : List Request) :
    ((asked (requests ++ .get name :: later)).given (.get name)).map (·.number) =
        ((asked requests).given (.get name)).map (·.number) ↔
      ∀ r ∈ later, ∀ d, r.registered? ≠ some (name, d) := by
  rw [List.append_cons]
  cases known : latest? requests name with
  | none =>
    have last : latest? (requests ++ [.get name] ++ later) name =
        (later.filterMap Request.registered?).reverse.lookup name := by
      rw [latest?_append, latest?_append, known]
      exact Option.or_none
    have first : (asked requests).given (.get name) = none := by
      rw [given, ask_get_of_unregistered known]
      rfl
    rw [first, ← lookup_registered_eq_none_iff, ← last, ← dialect_given_get, Option.map_none,
      Option.map_eq_none_iff, Option.map_eq_none_iff]
  | some d =>
    obtain ⟨b, found, -, shared⟩ := ask_get_of_latest known
    have first : (asked requests).given (.get name) = some b := by
      rw [given, found]
      rfl
    rw [first, asked_append]
    constructor
    · intro same r mem d registered
      have retired := retired_of_registered (sound_asked _) shared ⟨r, mem, d, registered⟩
      obtain ⟨e, handed, number⟩ := Option.map_eq_some_iff.mp same
      exact (Catalog.retired_of_serves retired (serves_get _ name)).2 e handed number
    · intro kept
      have shared := shared_onward shared kept
      rw [given, ask_get_of_ok (Catalog.get_of_shared shared)]
      rfl

/-- Backends are shared in this way at any time. -/
theorem shares_asked (requests : List Request) : Shares requests where
  refused name := by
    rw [← latest?_eq_none_iff]
    constructor
    · exact ask_get_of_unregistered
    · intro refused
      cases known : latest? requests name with
      | none => rfl
      | some d =>
        obtain ⟨b, found, -⟩ := ask_get_of_latest known
        cases found.symm.trans refused
  current := dialect_given_get requests
  same := number_given_get_iff requests
  apart name r other d registered differ := by
    have served := serves_ask (asked requests) r
    rw [registered] at served
    rw [asked_concat, given_get_eq, Catalog.eq_register_of_serves served,
      Catalog.get_register _ _ _ differ, given_get_eq]
  created name := by
    cases known : latest? requests name with
    | none =>
      rw [← find?_dialects_asked] at known
      rw [given_create_eq, Catalog.create_of_unknown known]
      rfl
    | some d =>
      rw [← find?_dialects_asked] at known
      rw [given_create_eq, Catalog.create_eq known]
      rfl
  own name b handed := by
    rw [given_create_eq] at handed
    cases made : (asked requests).workspace.catalog.create name with
    | error e =>
      rw [made] at handed
      cases handed
    | ok pair =>
      rw [made] at handed
      cases handed
      obtain ⟨new, retired⟩ := Catalog.retired_create (sound_asked requests) made
      constructor
      · intro e before
        have old := (number_lt_of_givenAll Catalog.sound_builtIn requests).2 e before
        exact Nat.ne_of_lt (Nat.lt_of_lt_of_le old new)
      · intro later
        rw [asked_concat, ask_create_of_ok made]
        exact (retired_onward retired later).2
  configured := ask_configuredBackend (asked requests)
  opened settings := ⟨fun b t => ask_configuredCommand_of_ok, fun e t =>
    ask_configuredCommand_of_error⟩
  addressed := ask_getForAddress (asked requests)
  rejected name base v count := by
    obtain ⟨e, refused⟩ := Dialect.vary_of_count base count
    exact ⟨e, by simp only [ask, refused]⟩

end Session
end Criteria
