import Criteria.Proofs.Call
import Criteria.Workspace

/-!
# Sessions

What callers do with a workspace in the course of time: they open commands, call them in any order,
and register operators and dialects in between. A session keeps each call with what it led to,
whether it succeeded or not. The main statement is that a command never gives one name to two
parameters.
-/

namespace Criteria

/-- A call on a command, with what it met and what it led to. -/
structure Event where
  command : Command
  call : Call
  operators : OperatorTable
  before : Supply
  outcome : Except Error Answer
  after : Supply

namespace Event

/-- The parameters that the call has created. -/
def made (e : Event) : List Parameter :=
  match e.outcome with
  | .ok answer => if e.call.creates then answer.held else []
  | .error _ => []

end Event

structure Session where
  workspace : Workspace
  commands : List Command
  events : List Event

inductive Action where
  | openCommand (backend : Backend) (stem : String)
  /-- A call on the command with the given number. -/
  | call (id : Nat) (call : Call)
  | registerOperator (name template : String) (arity : Int)
  | registerDialect (name : String) (d : Dialect)
  | getBackend (name : String)
  | createBackend (name : String)
  | getForAddress (address : String)

/-- The action neither opens a command nor calls one. -/
def Action.isSetting : Action → Bool
  | openCommand .. => false
  | call .. => false
  | _ => true

namespace Session

def start : Session := ⟨.initial, [], []⟩

/-- What a call on a command leads to. -/
def event (s : Session) (c : Command) (call : Call) : Event :=
  let before : Supply := ⟨s.workspace.handedOut c, s.workspace.origin⟩
  let (outcome, after) := (call.run s.workspace.operators c).run.run before
  ⟨c, call, s.workspace.operators, before, outcome, after⟩

/-- Runs a call and keeps it. -/
def record (s : Session) (c : Command) (call : Call) : Session :=
  { s with
    workspace := (s.workspace.run c (call.run s.workspace.operators c)).2
    events := s.events ++ [s.event c call] }

def perform (s : Session) : Action → Session
  | .openCommand backend stem =>
    let (c, w) := s.workspace.openCommand backend stem
    { s with workspace := w, commands := s.commands ++ [c] }
  | .call id call =>
    match s.commands[id]? with
    | some c => s.record c call
    | none => s
  | .registerOperator name template arity =>
    match s.workspace.registerOperator name template arity with
    | .ok (_, w) => { s with workspace := w }
    | .error _ => s
  | .registerDialect name d => { s with workspace := s.workspace.registerDialect name d }
  | .getBackend name => { s with workspace := (s.workspace.getBackend name).2 }
  | .createBackend name => { s with workspace := (s.workspace.createBackend name).2 }
  | .getForAddress address => { s with workspace := (s.workspace.getForAddress address).2 }

def after (actions : List Action) : Session := actions.foldl perform start

/-- The parameter has been created by the command. -/
def Issued (s : Session) (c : Command) (p : Parameter) : Prop :=
  ∃ e ∈ s.events, e.command = c ∧ p ∈ e.made

/-- What every session keeps to. A call has taken its names before the next call on the same
command began. -/
structure Consistent (s : Session) : Prop where
  numbered : ∀ (i : Nat) (c : Command), s.commands[i]? = some c → c.id = i
  counted : s.workspace.counters.length = s.commands.length
  known : ∀ e ∈ s.events, e.command ∈ s.commands
  ran : ∀ e ∈ s.events, (e.call.run e.operators e.command).run.run e.before = (e.outcome, e.after)
  taken : ∀ e ∈ s.events, e.after.next ≤ s.workspace.handedOut e.command
  ordered : s.events.Pairwise fun a b => a.command = b.command → a.after.next ≤ b.before.next

theorem consistent_start : start.Consistent where
  numbered := by simp [start]
  counted := by simp [start, Workspace.initial]
  known := by simp [start]
  ran := by simp [start]
  taken := by simp [start]
  ordered := by simp [start]

/-- The second session has the commands of the first, with the same calls and names. -/
structure Keeps (s t : Session) : Prop where
  commands : t.commands = s.commands
  events : t.events = s.events
  counters : t.workspace.counters = s.workspace.counters

theorem consistent_of_keeps {s t : Session} (h : s.Consistent) (keeps : Keeps s t) :
    t.Consistent := by
  obtain ⟨w, commands, events⟩ := t
  obtain ⟨rfl, rfl, same⟩ := keeps
  refine ⟨h.numbered, same ▸ h.counted, h.known, h.ran, ?_, h.ordered⟩
  intro e he
  have taken := h.taken e he
  rwa [Workspace.handedOut, ← same] at taken

theorem id_lt_of_mem {s : Session} (h : s.Consistent) {c : Command} (mem : c ∈ s.commands) :
    c.id < s.workspace.counters.length := by
  obtain ⟨i, found⟩ := List.mem_iff_getElem?.mp mem
  obtain ⟨bound, -⟩ := List.getElem?_eq_some_iff.mp found
  have number : c.id = i := h.numbered i c found
  have counted := h.counted
  omega

/-- The number of a command tells it from the others. -/
theorem eq_of_id_eq {s : Session} (h : s.Consistent) {c d : Command} (hc : c ∈ s.commands)
    (hd : d ∈ s.commands) (same : c.id = d.id) : c = d := by
  obtain ⟨i, foundC⟩ := List.mem_iff_getElem?.mp hc
  obtain ⟨j, foundD⟩ := List.mem_iff_getElem?.mp hd
  have index : i = j := by rw [← h.numbered i c foundC, ← h.numbered j d foundD, same]
  subst index
  exact Option.some.inj (foundC.symm.trans foundD)

theorem consistent_openCommand {s : Session} (h : s.Consistent) (backend : Backend)
    (stem : String) : (s.perform (.openCommand backend stem)).Consistent where
  numbered := by
    intro i c found
    rcases Nat.lt_or_ge i s.commands.length with old | new
    · have found : s.commands[i]? = some c := by
        simpa [perform, Workspace.openCommand, List.getElem?_append_left old] using found
      exact h.numbered i c found
    · have found : [⟨s.workspace.counters.length, backend, stem⟩][i - s.commands.length]? =
          some c := by
        simpa [perform, Workspace.openCommand, List.getElem?_append_right new] using found
      rw [List.getElem?_singleton] at found
      split at found
      · cases found
        have counted := h.counted
        change s.workspace.counters.length = i
        omega
      · cases found
  counted := by simp [perform, Workspace.openCommand, h.counted]
  known := fun e he => List.mem_append_left _ (h.known e he)
  ran := h.ran
  taken := by
    intro e he
    have bound := id_lt_of_mem h (h.known e he)
    have taken := h.taken e he
    simpa [perform, Workspace.openCommand, Workspace.handedOut, List.getElem?_append_left bound]
      using taken
  ordered := h.ordered

theorem event_ran (s : Session) (c : Command) (call : Call) :
    (call.run s.workspace.operators c).run.run (s.event c call).before =
      ((s.event c call).outcome, (s.event c call).after) := rfl

theorem counters_record (s : Session) (c : Command) (call : Call) :
    (s.record c call).workspace.counters =
      s.workspace.counters.set c.id (s.event c call).after.next := rfl

theorem handedOut_record (s : Session) (c d : Command) (call : Call)
    (bound : c.id < s.workspace.counters.length) :
    (s.record c call).workspace.handedOut d =
      if c.id = d.id then (s.event c call).after.next else s.workspace.handedOut d := by
  by_cases same : c.id = d.id
  · rw [if_pos same, Workspace.handedOut, counters_record, ← same, List.getD_eq_getElem?_getD,
      List.getElem?_set_self bound]
    rfl
  · rw [if_neg same, Workspace.handedOut, counters_record, List.getD_eq_getElem?_getD,
      List.getElem?_set_ne same, ← List.getD_eq_getElem?_getD]
    rfl

theorem consistent_record {s : Session} (h : s.Consistent) {c : Command} (mem : c ∈ s.commands)
    (call : Call) : (s.record c call).Consistent := by
  have bound := id_lt_of_mem h mem
  have begun : (s.event c call).before.next = s.workspace.handedOut c := rfl
  have taken : s.workspace.handedOut c ≤ (s.event c call).after.next :=
    staysTaken_call s.workspace.operators c call (s.event c call).before
  have kept : ∀ e ∈ (s.record c call).events, e ∈ s.events ∨ e = s.event c call := by
    intro e he
    simpa using List.mem_append.mp he
  constructor
  case numbered => exact h.numbered
  case counted =>
    rw [counters_record, List.length_set]
    exact h.counted
  case known =>
    intro e he
    rcases kept e he with he | rfl
    · exact h.known e he
    · exact mem
  case ran =>
    intro e he
    rcases kept e he with he | rfl
    · exact h.ran e he
    · exact event_ran s c call
  case taken =>
    intro e he
    rw [handedOut_record s c e.command call bound]
    rcases kept e he with he | rfl
    · have before := h.taken e he
      by_cases same : c.id = e.command.id
      · rw [← eq_of_id_eq h mem (h.known e he) same] at before
        rw [if_pos same]
        exact Nat.le_trans before taken
      · rwa [if_neg same]
    · exact Nat.le_of_eq (if_pos rfl).symm
  case ordered =>
    refine List.pairwise_append.mpr ⟨h.ordered, List.pairwise_singleton _ _, ?_⟩
    intro a ha b hb same
    obtain rfl : b = s.event c call := List.mem_singleton.mp hb
    have before := h.taken a ha
    rwa [same] at before

theorem counters_lookUp (w : Workspace) (f : Catalog → Except Error (Backend × Catalog)) :
    (w.lookUp f).2.counters = w.counters := by
  unfold Workspace.lookUp
  cases f w.catalog <;> rfl

theorem counters_registerOperator {w v : Workspace} {name template : String} {arity : Int}
    {op : Operator} (h : w.registerOperator name template arity = .ok (op, v)) :
    v.counters = w.counters := by
  unfold Workspace.registerOperator at h
  rw [bind_eq_ok_iff] at h
  obtain ⟨registered, -, h⟩ := h
  cases h
  rfl

/-- What is neither a new command nor a call leaves the commands as they are. -/
theorem keeps_perform {action : Action} (setting : action.isSetting = true) (s : Session) :
    Keeps s (s.perform action) := by
  cases action with
  | openCommand backend stem => cases setting
  | call id call => cases setting
  | registerOperator name template arity =>
    cases registered : s.workspace.registerOperator name template arity with
    | error e => simpa [perform, registered] using (⟨rfl, rfl, rfl⟩ : Keeps s s)
    | ok pair =>
      have kept : Keeps s { s with workspace := pair.2 } :=
        ⟨rfl, rfl, counters_registerOperator registered⟩
      simpa [perform, registered] using kept
  | registerDialect name d => exact ⟨rfl, rfl, rfl⟩
  | getBackend name => exact ⟨rfl, rfl, counters_lookUp _ _⟩
  | createBackend name => exact ⟨rfl, rfl, counters_lookUp _ _⟩
  | getForAddress address => exact ⟨rfl, rfl, counters_lookUp _ _⟩

theorem perform_call (s : Session) (id : Nat) (call : Call) :
    s.perform (.call id call) = s ∨
      ∃ c, s.commands[id]? = some c ∧ s.perform (.call id call) = s.record c call := by
  cases found : s.commands[id]? with
  | none => exact .inl (by simp [perform, found])
  | some c => exact .inr ⟨c, rfl, by simp [perform, found]⟩

theorem consistent_perform {s : Session} (h : s.Consistent) (action : Action) :
    (s.perform action).Consistent := by
  cases action with
  | openCommand backend stem => exact consistent_openCommand h backend stem
  | call id call =>
    rcases perform_call s id call with same | ⟨c, found, same⟩
    · rwa [same]
    · rw [same]
      exact consistent_record h (List.mem_of_getElem? found) call
  | _ => exact consistent_of_keeps h (keeps_perform rfl s)

theorem consistent_after (actions : List Action) : (after actions).Consistent :=
  List.foldlRecOn actions perform consistent_start fun _ h action _ => consistent_perform h action

/-- The parameters that a call has created are bound under the names it has taken. -/
theorem takes_made {s : Session} (h : s.Consistent) {e : Event} (he : e ∈ s.events) :
    e.command.Takes e.before e.after e.made := by
  have ran := h.ran e he
  have taken : e.before.next ≤ e.after.next := by
    simpa [ran] using staysTaken_call e.operators e.command e.call e.before
  cases outcome : e.outcome with
  | error _ => simpa [Event.made, outcome] using Command.takes_nil taken
  | ok answer =>
    rw [outcome] at ran
    by_cases creates : e.call.creates = true
    · simpa [Event.made, outcome, creates] using call_takes ran creates
    · simpa [Event.made, outcome, creates] using Command.takes_nil taken

theorem names_of_mem_made {s : Session} (h : s.Consistent) {e : Event} (he : e ∈ s.events)
    {p : Parameter} (hp : p ∈ e.made) (bindable : p.bindable = true) :
    ∃ n, e.before.next ≤ n ∧ n < e.after.next ∧ e.command.Names n p := by
  obtain ⟨numbers, left⟩ := takes_made h he
  have hp : p ∈ e.made.filter (·.bindable) := List.mem_filter.mpr ⟨hp, bindable⟩
  obtain ⟨i, bound, -, name⟩ := Command.numbers_get numbers hp
  exact ⟨e.before.next + i, by omega, by omega, name⟩

theorem issued_names {s : Session} (h : s.Consistent) {c : Command} {p : Parameter}
    (issued : s.Issued c p) (bindable : p.bindable = true) : ∃ n, c.Names n p := by
  obtain ⟨e, he, rfl, hp⟩ := issued
  obtain ⟨n, -, -, name⟩ := names_of_mem_made h he hp bindable
  exact ⟨n, name⟩

/-- Of two calls on one command one has come first. -/
theorem before_or_after {s : Session} (h : s.Consistent) {e f : Event} (he : e ∈ s.events)
    (hf : f ∈ s.events) (same : e.command = f.command) :
    e = f ∨ e.after.next ≤ f.before.next ∨ f.after.next ≤ e.before.next := by
  obtain ⟨i, boundE, rfl⟩ := List.getElem_of_mem he
  obtain ⟨j, boundF, rfl⟩ := List.getElem_of_mem hf
  have order := List.pairwise_iff_getElem.mp h.ordered
  rcases Nat.lt_trichotomy i j with before | rfl | behind
  · exact .inr (.inl (order i j boundE boundF before same))
  · exact .inl rfl
  · exact .inr (.inr (order j i boundF boundE behind same.symm))

/-- A command never gives one name to two parameters. -/
theorem issued_unique {s : Session} (h : s.Consistent) {c : Command} {p q : Parameter}
    (hp : s.Issued c p) (hq : s.Issued c q) (bindableP : p.bindable = true)
    (bindableQ : q.bindable = true) (same : p.name = q.name) : p = q := by
  obtain ⟨e, he, commandE, hp⟩ := hp
  obtain ⟨f, hf, commandF, hq⟩ := hq
  rcases before_or_after h he hf (commandE.trans commandF.symm) with rfl | order
  · obtain ⟨numbers, -⟩ := takes_made h he
    exact Command.numbers_unique numbers (List.mem_filter.mpr ⟨hp, bindableP⟩)
      (List.mem_filter.mpr ⟨hq, bindableQ⟩) same
  · obtain ⟨m, lowM, highM, nameM⟩ := names_of_mem_made h he hp bindableP
    obtain ⟨n, lowN, highN, nameN⟩ := names_of_mem_made h hf hq bindableQ
    rw [commandE] at nameM
    rw [commandF] at nameN
    have index : m = n :=
      Command.parameterName_injective (nameM.2.1.symm.trans (same.trans nameN.2.1))
    rcases order with order | order <;> omega

end Session
end Criteria
