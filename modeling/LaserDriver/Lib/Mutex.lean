import Mathlib.Logic.Function.Basic
import Mathlib.Logic.Relation
import LaserDriver.Lib.Program

/-! One mutex and the programs that use it. Being balanced is a property of a
program's text: it quantifies over every reply to every request, so it holds in
every state and for every outcome of the drivers. -/

namespace Effects

universe u

/-- `create` replaces the mutex by a new one that is free. -/
inductive Role where
  | create | take | give | other
  deriving Repr, DecidableEq

/-- Only taking and giving leave a trace. -/
def Role.touch : Role → List Role → List Role
  | .create, events | .other, events => events
  | role, events => role :: events

/-- What a handle of a mutex stands for: nothing yet, or a mutex that is free or taken. -/
inductive Mutex where
  | absent | free | held
  deriving Repr, DecidableEq

/-- Where a call stands with respect to the mutex. -/
inductive Phase where
  | before | holding | after
  deriving Repr, DecidableEq

namespace Phase

def move : Phase → Role → Option Phase
  | .before, .create => some .before
  | .before, .take => some .holding
  | .holding, .give => some .after
  | phase, .other => some phase
  | _, _ => none

def remaining : Phase → List Role
  | .before => [.take, .give]
  | .holding => [.give]
  | .after => []

/-- Whether a call may end here; `skips` allows it not to take the mutex at all. -/
def Final (skips : Prop) : Phase → Prop
  | .before => skips
  | .holding => False
  | .after => True

variable {phase later : Phase} {role : Role}

theorem move_other (phase : Phase) : phase.move .other = some phase := by cases phase <;> rfl

theorem remaining_of_move (moves : phase.move role = some later) :
    phase.remaining = role.touch later.remaining := by
  cases phase <;> cases role <;> cases moves <;> rfl

theorem before_of_move (moves : phase.move role = some .before) : phase = .before ∧ role.touch [] = [] := by
  cases phase <;> cases role <;> cases moves
  all_goals exact ⟨rfl, rfl⟩

theorem holding_of_take (moves : phase.move .take = some later) : later = .holding := by
  cases phase <;> cases moves
  rfl

end Phase

variable {Op : Type → Type u} {α β : Type}

namespace Program
variable (role : (β : Type) → Op β → Role)

/-- What a call does to the mutex on a way to its result, for any replies. -/
inductive Path : Program Op α → List Role → α → Prop where
  | pure (value : α) : Path (.pure value) [] value
  | request {γ : Type} {operation : Op γ} {next : γ → Program Op α} {events : List Role} {value : α} (reply : γ)
      (rest : Path (next reply) events value) : Path (.request operation next) ((role _ operation).touch events) value

def Balanced (skips : Prop) : Program Op α → Phase → Prop
  | .pure _, phase => phase.Final skips
  | .request operation next, phase =>
    ∃ later, phase.move (role _ operation) = some later ∧ ∀ reply, Balanced skips (next reply) later

abbrev Neutral (program : Program Op α) : Prop := Only (fun β (operation : Op β) => role β operation = .other) program

variable {role} {skips : Prop} {phase : Phase}

theorem Balanced.of_request {operation : Op β} {next : β → Program Op α} {kind : Role} (known : role _ operation = kind)
    (balanced : Balanced role skips (.request operation next) phase) :
    ∃ later, phase.move kind = some later ∧ ∀ reply, Balanced role skips (next reply) later := by
  subst known
  exact balanced

section Request
variable {operation : Op β} {next : β → Program Op α}

theorem Balanced.operate (kind : role _ operation = .other) (rest : ∀ reply, Balanced role skips (next reply) phase) :
    Balanced role skips (Program.send operation >>= next) phase :=
  ⟨phase, kind ▸ phase.move_other, rest⟩

theorem Balanced.create (kind : role _ operation = .create) (rest : ∀ reply, Balanced role skips (next reply) .before) :
    Balanced role skips (Program.send operation >>= next) .before :=
  ⟨.before, by rw [kind]; rfl, rest⟩

theorem Balanced.take (kind : role _ operation = .take) (rest : ∀ reply, Balanced role skips (next reply) .holding) :
    Balanced role skips (Program.send operation >>= next) .before :=
  ⟨.holding, by rw [kind]; rfl, rest⟩

theorem Balanced.give (kind : role _ operation = .give) (rest : ∀ reply, Balanced role skips (next reply) .after) :
    Balanced role skips (Program.send operation >>= next) .holding :=
  ⟨.after, by rw [kind]; rfl, rest⟩

end Request

theorem Balanced.bind_neutral {program : Program Op α} {next : α → Program Op β} (neutral : Neutral role program)
    (rest : ∀ value, Balanced role skips (next value) phase) : Balanced role skips (program >>= next) phase := by
  induction program with
  | pure value => exact rest value
  | request operation later ih =>
    refine ⟨phase, neutral.1 ▸ phase.move_other, ?_⟩
    intro reply
    exact ih reply (neutral.2 reply)

theorem Balanced.map {program : Program Op α} (balanced : Balanced role skips program phase) (f : α → β) :
    Balanced role skips (program >>= fun value => Pure.pure (f value)) phase := by
  induction program generalizing phase with
  | pure value => exact balanced
  | request operation next ih =>
    obtain ⟨later, moves, rest⟩ := balanced
    refine ⟨later, moves, ?_⟩
    intro reply
    exact ih reply (rest reply)

theorem Neutral.balanced {program : Program Op α} (neutral : Neutral role program) (final : phase.Final skips) :
    Balanced role skips program phase := by
  induction program with
  | pure value => exact final
  | request operation later ih =>
    refine ⟨phase, neutral.1 ▸ phase.move_other, ?_⟩
    intro reply
    exact ih reply (neutral.2 reply)

theorem Balanced.weaken {program : Program Op α} (balanced : Balanced role skips program phase) :
    Balanced role True program phase := by
  induction program generalizing phase with
  | pure value => cases phase <;> trivial
  | request operation next ih =>
    obtain ⟨later, moves, rest⟩ := balanced
    refine ⟨later, moves, ?_⟩
    intro reply
    exact ih reply (rest reply)

section Path
variable {events : List Role} {value : α}

theorem Path.of_request {operation : Op β} {next : β → Program Op α}
    (path : Path role (.request operation next) events value) :
    ∃ reply rest, Path role (next reply) rest value ∧ events = (role _ operation).touch rest := by
  cases path with
  | request reply rest => exact ⟨reply, _, rest, rfl⟩

theorem Path.of_pure {result : α} (path : Path role (Pure.pure result) events value) : events = [] ∧ value = result := by
  cases path with
  | pure => exact ⟨rfl, rfl⟩

theorem Path.of_bind {program : Program Op β} {next : β → Program Op α}
    (path : Path role (program >>= next) events value) :
    ∃ result first second, Path role program first result ∧ Path role (next result) second value ∧
      events = first ++ second := by
  induction program generalizing events with
  | pure result => exact ⟨result, [], events, .pure result, path, rfl⟩
  | request operation later ih =>
    obtain ⟨reply, rest, onwards, rfl⟩ := path.of_request
    obtain ⟨result, first, second, before, after, rfl⟩ := ih reply onwards
    refine ⟨result, _, second, .request reply before, after, ?_⟩
    cases role _ operation <;> rfl

theorem Path.of_map {program : Program Op β} {f : β → α}
    (path : Path role (program >>= fun result => Pure.pure (f result)) events value) :
    ∃ result, Path role program events result ∧ value = f result := by
  obtain ⟨result, first, second, before, after, rfl⟩ := path.of_bind
  obtain ⟨rfl, same⟩ := after.of_pure
  exact ⟨result, by simpa using before, same⟩

end Path

/-- From `phase` on, a call does exactly what remains to be done, or it skips all. -/
theorem Balanced.path {program : Program Op α} {events : List Role} {value : α}
    (balanced : Balanced role skips program phase) (path : Path role program events value) :
    events = phase.remaining ∨ (skips ∧ phase = .before ∧ events = []) := by
  induction path generalizing phase with
  | pure value =>
    cases phase with
    | before => exact .inr ⟨balanced, rfl, rfl⟩
    | holding => exact balanced.elim
    | after => exact .inl rfl
  | @request _ operation next events value reply rest ih =>
    obtain ⟨later, moves, rest⟩ := balanced
    obtain done | ⟨allowed, rfl, rfl⟩ := ih (rest reply)
    · rw [Phase.remaining_of_move moves, done]
      exact .inl rfl
    · obtain ⟨rfl, untouched⟩ := Phase.before_of_move moves
      exact .inr ⟨allowed, rfl, untouched⟩

theorem Neutral.path {program : Program Op α} {events : List Role} {value : α} (neutral : Neutral role program)
    (path : Path role program events value) : events = [] := by
  have balanced : Balanced role False program .after := neutral.balanced trivial
  obtain done | ⟨refused, -⟩ := balanced.path path
  · exact done
  · exact refused.elim

end Program

structure Tasks (Op : Type → Type u) (α : Type) where
  owner : Option Nat
  running : Nat → Option (Program Op α)

namespace Tasks

def idle : Tasks Op α := ⟨none, fun _ => none⟩

def resume (tasks : Tasks Op α) (task : Nat) (program : Program Op α) : Nat → Option (Program Op α) :=
  Function.update tasks.running task (some program)

/-- Any task may start a call when it has none, and any call may make its next step.
A take waits until nobody holds the mutex. Giving a mutex that is free does nothing,
and giving one that another task holds stops the caller in an assertion: both need a
mutex that was created anew in the meantime. Every request gets any reply. -/
inductive Step (role : (β : Type) → Op β → Role) (callable : Program Op α → Prop) : Tasks Op α → Tasks Op α → Prop where
  | start {tasks task program} (idle : tasks.running task = none) (called : callable program) :
      Step role callable tasks { tasks with running := tasks.resume task program }
  | create {tasks task γ} {operation : Op γ} {next : γ → Program Op α}
      (busy : tasks.running task = some (.request operation next)) (kind : role _ operation = .create) (reply : γ) :
      Step role callable tasks ⟨none, tasks.resume task (next reply)⟩
  | take {tasks task γ} {operation : Op γ} {next : γ → Program Op α}
      (busy : tasks.running task = some (.request operation next)) (kind : role _ operation = .take)
      (free : tasks.owner = none) (reply : γ) :
      Step role callable tasks ⟨some task, tasks.resume task (next reply)⟩
  | give {tasks task γ} {operation : Op γ} {next : γ → Program Op α}
      (busy : tasks.running task = some (.request operation next)) (kind : role _ operation = .give)
      (held : tasks.owner = none ∨ tasks.owner = some task) (reply : γ) :
      Step role callable tasks ⟨none, tasks.resume task (next reply)⟩
  | operate {tasks task γ} {operation : Op γ} {next : γ → Program Op α}
      (busy : tasks.running task = some (.request operation next)) (kind : role _ operation = .other) (reply : γ) :
      Step role callable tasks { tasks with running := tasks.resume task (next reply) }
  | finish {tasks task value} (busy : tasks.running task = some (.pure value)) :
      Step role callable tasks { tasks with running := Function.update tasks.running task none }

variable {role : (β : Type) → Op β → Role} {callable : Program Op α → Prop} {tasks after : Tasks Op α}

/-- The call of a task is balanced from its phase on, and a task that owns the mutex is holding it. -/
def Fits (role : (β : Type) → Op β → Role) (owner : Option Nat) (task : Nat) (program : Program Op α) : Prop :=
  ∃ phase, Program.Balanced role True program phase ∧ (owner = some task → phase = .holding)

structure Ordered (role : (β : Type) → Op β → Role) (tasks : Tasks Op α) : Prop where
  phases : ∀ task program, tasks.running task = some program → Fits role tasks.owner task program
  busy : ∀ task, tasks.owner = some task → tasks.running task ≠ none

theorem Ordered.resume {owner : Option Nat} {task : Nat} {program : Program Op α} (ordered : Ordered role tasks)
    (fits : Fits role owner task program) (held : ∀ other, owner = some other → other ≠ task → tasks.owner = some other) :
    Ordered role ⟨owner, tasks.resume task program⟩ := by
  constructor
  · intro other found running
    by_cases same : other = task
    · subst same
      obtain rfl : program = found := by simpa [Tasks.resume] using running
      exact fits
    · obtain ⟨phase, balanced, owns⟩ := ordered.phases other found (by simpa [Tasks.resume, same] using running)
      exact ⟨phase, balanced, fun owned => owns (held other owned same)⟩
  · intro other owned
    by_cases same : other = task
    · subst same
      simp [Tasks.resume]
    · simpa [Tasks.resume, same] using ordered.busy other (held other owned same)

theorem Ordered.step (ordered : Ordered role tasks) (step : Step role callable tasks after)
    (balanced : ∀ program, callable program → Program.Balanced role True program .before) : Ordered role after := by
  cases step with
  | @start task program idle called =>
    refine ordered.resume ⟨.before, balanced program called, ?_⟩ (fun _ owned _ => owned)
    intro owned
    exact absurd idle (ordered.busy task owned)
  | @create task _ operation next busy kind reply =>
    obtain ⟨phase, balanced, -⟩ := ordered.phases task _ busy
    obtain ⟨later, -, rest⟩ := balanced.of_request kind
    exact ordered.resume ⟨later, rest reply, nofun⟩ nofun
  | @take task _ operation next busy kind free reply =>
    obtain ⟨phase, balanced, -⟩ := ordered.phases task _ busy
    obtain ⟨later, moves, rest⟩ := balanced.of_request kind
    obtain rfl := Phase.holding_of_take moves
    apply ordered.resume ⟨.holding, rest reply, fun _ => rfl⟩
    intro other owned different
    exact absurd (Option.some.inj owned).symm different
  | @give task _ operation next busy kind held reply =>
    obtain ⟨phase, balanced, -⟩ := ordered.phases task _ busy
    obtain ⟨later, -, rest⟩ := balanced.of_request kind
    exact ordered.resume ⟨later, rest reply, nofun⟩ nofun
  | @operate task _ operation next busy kind reply =>
    obtain ⟨phase, balanced, owns⟩ := ordered.phases task _ busy
    obtain ⟨later, moves, rest⟩ := balanced.of_request kind
    obtain rfl := Option.some.inj (phase.move_other.symm.trans moves)
    exact ordered.resume ⟨phase, rest reply, owns⟩ (fun _ owned _ => owned)
  | @finish task value busy =>
    obtain ⟨phase, final, owns⟩ := ordered.phases task _ busy
    have free : tasks.owner ≠ some task := by
      intro owned
      rw [owns owned] at final
      exact final
    constructor
    · intro other program running
      by_cases same : other = task
      · subst same
        simp at running
      · exact ordered.phases other program (by simpa [same] using running)
    · intro other owned
      have different : other ≠ task := by
        intro equal
        subst equal
        exact free owned
      simpa [different] using ordered.busy other owned

theorem Ordered.reachable (balanced : ∀ program, callable program → Program.Balanced role True program .before)
    (reached : Relation.ReflTransGen (Step role callable) idle tasks) : Ordered role tasks := by
  induction reached with
  | refl => exact ⟨nofun, nofun⟩
  | tail _ step ih => exact ih.step step balanced

theorem Ordered.free (ordered : Ordered role tasks) (quiet : ∀ task, tasks.running task = none) : tasks.owner = none := by
  cases owned : tasks.owner with
  | none => rfl
  | some task => exact absurd (quiet task) (ordered.busy task owned)

/-- No call takes the mutex while its own task holds it. -/
theorem Ordered.takes_once {task : Nat} {operation : Op β} {next : β → Program Op α} (ordered : Ordered role tasks)
    (busy : tasks.running task = some (.request operation next)) (kind : role _ operation = .take) :
    tasks.owner ≠ some task := by
  obtain ⟨phase, balanced, owns⟩ := ordered.phases task _ busy
  obtain ⟨later, moves, -⟩ := balanced.of_request kind
  intro owned
  rw [owns owned] at moves
  cases moves

/-- Whatever the tasks do, the mutex is free when no call is in progress, and nobody
waits for a mutex that it holds itself. -/
def Exclusive (role : (β : Type) → Op β → Role) (callable : Program Op α → Prop) : Prop :=
  ∀ tasks : Tasks Op α, Relation.ReflTransGen (Step role callable) idle tasks →
    ((∀ task, tasks.running task = none) → tasks.owner = none) ∧
    ∀ (task : Nat) (γ : Type) (operation : Op γ) (next : γ → Program Op α),
      tasks.running task = some (.request operation next) → role _ operation = .take → tasks.owner ≠ some task

theorem exclusive (balanced : ∀ program, callable program → Program.Balanced role True program .before) :
    Exclusive role callable := by
  intro tasks reached
  have ordered := Ordered.reachable balanced reached
  refine ⟨ordered.free, ?_⟩
  intro task _ operation next busy kind
  exact ordered.takes_once busy kind

end Tasks
end Effects
