import Criteria.Proofs.Session
import Mathlib.Data.List.Induction

/-!
# Requests

Whatever callers can ask for: the actions of a session, what is asked for by settings, dialects that
are made from others, and what changes nothing, such as compiling a condition or cutting a page.
Every request has a reply, and comes down to a few actions. So what holds after all actions holds
after all requests.
-/

namespace Criteria

inductive Request where
  | act (action : Action)
  /-- Makes a dialect from another one and registers it. -/
  | registerVariation (name : String) (base : Dialect) (v : Dialect.Variation)
  | readSettings (data : SettingsData)
  /-- The backend that settings ask for. -/
  | configuredBackend (settings : Settings)
  /-- A new command on that backend. -/
  | configuredCommand (settings : Settings)
  | compile (c : Command) (d : Condition)
  | paginate (b : Backend) (q : Select) (index size : Int) (reverse : Bool)

inductive Reply where
  /-- There is nothing to hand out. -/
  | done
  | backend (b : Backend)
  /-- A command on a backend that the caller has chosen. -/
  | opened (c : Command)
  /-- A command on a backend that settings have chosen. -/
  | configured (c : Command)
  | answer (a : Answer)
  | operator (op : Operator)
  | settings (s : Settings)
  | compiled (s : Compiled)

namespace Request

abbrev openCommand (backend : Backend) (stem : String) : Request := .act (.openCommand backend stem)

abbrev call (id : Nat) (call : Call) : Request := .act (.call id call)

abbrev registerOperator (name template : String) (arity : Int) : Request :=
  .act (.registerOperator name template arity)

abbrev registerDialect (name : String) (d : Dialect) : Request := .act (.registerDialect name d)

abbrev get (name : String) : Request := .act (.getBackend name)

abbrev create (name : String) : Request := .act (.createBackend name)

abbrev getForAddress (address : String) : Request := .act (.getForAddress address)

/-- What is registered as a dialect, and under which name. Nothing is if the dialect cannot be
made. -/
def registered? : Request → Option (String × Dialect)
  | act (.registerDialect name d) => some (name, d)
  | registerVariation name base v => (base.vary v).toOption.map fun d => (name, d)
  | _ => none

/-- The operator that is registered, unless the registration is refused. -/
def accepted? : Request → Option Operator
  | act (.registerOperator name template arity) => (Operator.define name template arity).toOption
  | _ => none

/-- What a single request yields, if anything. -/
theorem filterMap_singleton {α : Type} (f : Request → Option α) (r : Request) :
    [r].filterMap f = (f r).toList := by
  cases found : f r <;> simp [found]

end Request

namespace Session

def replyToAction (s : Session) : Action → Except Error Reply
  | .openCommand backend stem => .ok (.opened (s.workspace.openCommand backend stem).1)
  | .call id call =>
    match s.commands[id]? with
    | some c => .answer <$> (s.event c call).outcome
    | none => .ok .done
  | .registerOperator name template arity =>
    (fun registered => .operator registered.1) <$> s.workspace.registerOperator name template arity
  | .registerDialect _ _ => .ok .done
  | .getBackend name => .backend <$> (s.workspace.getBackend name).1
  | .createBackend name => .backend <$> (s.workspace.createBackend name).1
  | .getForAddress address => .backend <$> (s.workspace.getForAddress address).1

/-- The reply to a request, and the session behind it. -/
def ask (s : Session) : Request → Except Error Reply × Session
  | .act action => (s.replyToAction action, s.perform action)
  | .registerVariation name base v =>
    match base.vary v with
    | .ok d => (.ok .done, s.perform (.registerDialect name d))
    | .error e => (.error e, s)
  | .readSettings data => (.settings <$> Settings.read s.workspace.catalog data, s)
  | .configuredBackend settings =>
    let (found, w) := s.workspace.getBackend settings.target
    (.backend <$> found, { s with workspace := w })
  | .configuredCommand settings =>
    match s.workspace.openConfigured settings with
    | (.ok c, w) => (.ok (.configured c), { s with workspace := w, commands := s.commands ++ [c] })
    | (.error e, w) => (.error e, { s with workspace := w })
  | .compile c d => (.compiled <$> c.compile s.workspace.operators d, s)
  | .paginate b q index size reverse =>
    (.compiled <$> b.dialect.paginate s.workspace.operators q index size reverse, s)

/-- The session behind some requests. -/
def onward (s : Session) (requests : List Request) : Session :=
  requests.foldl (fun s r => (s.ask r).2) s

def asked (requests : List Request) : Session := start.onward requests

theorem onward_append (s : Session) (first later : List Request) :
    s.onward (first ++ later) = (s.onward first).onward later := List.foldl_append

theorem asked_append (first later : List Request) :
    asked (first ++ later) = (asked first).onward later := onward_append start first later

theorem asked_concat (first : List Request) (r : Request) :
    asked (first ++ [r]) = ((asked first).ask r).2 := asked_append first [r]

theorem asked_act (actions : List Action) : asked (actions.map .act) = after actions := by
  rw [asked, onward, List.foldl_map]
  rfl

/-- The actions that a request comes down to. -/
def actions (s : Session) : Request → List Action
  | .act action => [action]
  | .registerVariation name base v =>
    match base.vary v with
    | .ok d => [.registerDialect name d]
    | .error _ => []
  | .configuredBackend settings => [.getBackend settings.target]
  | .configuredCommand settings =>
    match (s.workspace.getBackend settings.target).1 with
    | .ok b => [.getBackend settings.target, .openCommand b settings.stem]
    | .error _ => [.getBackend settings.target]
  | _ => []

theorem ask_eq_perform (s : Session) (r : Request) :
    (s.ask r).2 = (s.actions r).foldl perform s := by
  cases r with
  | registerVariation name base v =>
    simp only [ask, actions]
    cases base.vary v <;> rfl
  | configuredCommand settings =>
    simp only [ask, actions, Workspace.openConfigured]
    rcases found : s.workspace.getBackend settings.target with ⟨e | b, w⟩ <;>
      simp [perform, found]
  | _ => rfl

/-- What is asked for comes down to actions. -/
theorem exists_after (requests : List Request) : ∃ actions, asked requests = after actions := by
  induction requests using List.reverseRecOn with
  | nil => exact ⟨[], rfl⟩
  | append_singleton first r ih =>
    obtain ⟨actions, same⟩ := ih
    refine ⟨actions ++ (asked first).actions r, ?_⟩
    rw [asked_concat, ask_eq_perform, after, List.foldl_append, ← after, ← same]

end Session
end Criteria
