import LaserDriver.Lib.Mutex

/-! Calls of many tasks on one shared state. What a program does between a take and
the give that follows is one step; every other request is a step of its own. -/

namespace Effects

universe u

variable {Op : Type → Type u} {α β σ ι ρ : Type}

namespace Program
section Turn
variable (role : (β : Type) → Op β → Role) (serve : {β : Type} → Op β → σ → Option β × σ)

/-- Run on until the mutex has been given. -/
def toGive : Program Op α → σ → Option (Program Op α) × σ
  | .pure value, state => (some (.pure value), state)
  | .request operation next, state =>
    proceed (serve operation state) fun reply after =>
      if role _ operation = .give then (some (next reply), after) else (next reply).toGive after

/-- What is left of a program after its next step. -/
def turn : Program Op α → σ → Option (Program Op α) × σ
  | .pure value, state => (some (.pure value), state)
  | .request operation next, state =>
    proceed (serve operation state) fun reply after =>
      if role _ operation = .take then (next reply).toGive role serve after else (some (next reply), after)

end Turn

section Lemmas
variable {role : (β : Type) → Op β → Role} {serve : {β : Type} → Op β → σ → Option β × σ} {state after : σ}

theorem toGive_bind {program : Program Op β} {next : β → Program Op α} {value : β} (neutral : Neutral role program)
    (ran : program.run serve state = (some value, after)) :
    (program >>= next).toGive role serve state = (next value).toGive role serve after := by
  induction program generalizing state with
  | pure result =>
    cases ran
    rfl
  | request operation later ih =>
    rcases served : serve operation state with ⟨answer | reply, middle⟩
    · simp [served] at ran
    · rw [run_request, served, proceed_some] at ran
      rw [request_bind, toGive, served, proceed_some, if_neg (by simp [neutral.1])]
      exact ih reply (neutral.2 reply) ran

theorem toGive_give {operation : Op β} {next : β → Program Op α} {reply : β} (kind : role _ operation = .give)
    (served : serve operation state = (some reply, after)) :
    (Program.send operation >>= next).toGive role serve state = (some (next reply), after) := by
  rw [send_bind, toGive, served, proceed_some, if_pos kind]

theorem turn_take {operation : Op β} {next : β → Program Op α} {reply : β} (kind : role _ operation = .take)
    (served : serve operation state = (some reply, after)) :
    (Program.send operation >>= next).turn role serve state = (next reply).toGive role serve after := by
  rw [send_bind, turn, served, proceed_some, if_pos kind]

theorem turn_operate {operation : Op β} {next : β → Program Op α} {reply : β} (kind : role _ operation = .other)
    (served : serve operation state = (some reply, after)) :
    (Program.request operation next).turn role serve state = (some (next reply), after) := by
  rw [turn, served, proceed_some, if_neg (by simp [kind])]

theorem run_toGive {program rest : Program Op α} (went : program.toGive role serve state = (some rest, after)) :
    program.run serve state = rest.run serve after := by
  induction program generalizing state with
  | pure value =>
    cases went
    rfl
  | request operation next ih =>
    rcases served : serve operation state with ⟨answer | reply, middle⟩
    · simp [toGive, served] at went
    · rw [toGive, served, proceed_some] at went
      rw [run_request, served, proceed_some]
      split at went
      · cases went
        rfl
      · exact ih reply went

theorem run_turn {program rest : Program Op α} (turned : program.turn role serve state = (some rest, after)) :
    program.run serve state = rest.run serve after := by
  cases program with
  | pure value =>
    cases turned
    rfl
  | request operation next =>
    rcases served : serve operation state with ⟨answer | reply, middle⟩
    · simp [turn, served] at turned
    · rw [turn, served, proceed_some] at turned
      rw [run_request, served, proceed_some]
      split at turned
      · exact run_toGive turned
      · cases turned
        rfl

end Lemmas
end Program

/-- The shared state, the calls in progress and the calls that have returned, in order. -/
structure Pool (Op : Type → Type u) (σ ι ρ : Type) where
  world : σ
  running : Nat → Option (ι × Program Op ρ)
  returned : List (ι × ρ)

namespace Pool

def idle (world : σ) : Pool Op σ ι ρ := ⟨world, fun _ => none, []⟩

def settle (pool : Pool Op σ ι ρ) (task : Nat) (call : ι) (rest : Program Op ρ) (after : σ) : Pool Op σ ι ρ :=
  match rest with
  | .pure value => ⟨after, Function.update pool.running task none, pool.returned ++ [(call, value)]⟩
  | rest => ⟨after, Function.update pool.running task (some (call, rest)), pool.returned⟩

/-- Any task may start a call when it has none, and any call may make its next step. -/
inductive Step (role : (β : Type) → Op β → Role) (serve : {β : Type} → Op β → σ → Option β × σ)
    (body : ι → Program Op ρ) (callable : ι → Prop) : Pool Op σ ι ρ → Pool Op σ ι ρ → Prop where
  | start {pool task call} (idle : pool.running task = none) (called : callable call) :
      Step role serve body callable pool { pool with running := Function.update pool.running task (some (call, body call)) }
  | turn {pool task call program rest after} (busy : pool.running task = some (call, program))
      (turned : program.turn role serve pool.world = (some rest, after)) :
      Step role serve body callable pool (pool.settle task call rest after)

section Step
variable {role : (β : Type) → Op β → Role} {serve : {β : Type} → Op β → σ → Option β × σ}
variable {body : ι → Program Op ρ} {callable : ι → Prop} {pool later : Pool Op σ ι ρ}

theorem returned_grows (reached : Relation.ReflTransGen (Step role serve body callable) pool later) :
    pool.returned <+: later.returned := by
  induction reached with
  | refl => exact List.prefix_rfl
  | tail _ step ih =>
    apply ih.trans
    cases step with
    | start => exact List.prefix_rfl
    | @turn task call program rest after busy turned =>
      cases rest with
      | pure value => exact List.prefix_append _ _
      | request => exact List.prefix_rfl

/-- What a step of a call leaves behind: the invariant, and a call that is still
inside unless it has returned. -/
def Keeps (holds : σ → List (ι × ρ) → Prop) (inside : ι → Program Op ρ → Prop) (returned : List (ι × ρ)) (call : ι)
    (after : σ) : Program Op ρ → Prop
  | .pure value => holds after (returned ++ [(call, value)])
  | rest => holds after returned ∧ inside call rest

theorem invariant (holds : σ → List (ι × ρ) → Prop) (inside : ι → Program Op ρ → Prop) {world : σ}
    (initial : holds world []) (starts : ∀ call, callable call → inside call (body call))
    (turns : ∀ world returned call program rest after, holds world returned → inside call program →
      program.turn role serve world = (some rest, after) → Keeps holds inside returned call after rest)
    (reached : Relation.ReflTransGen (Step role serve body callable) (idle world) pool) :
    holds pool.world pool.returned ∧
      ∀ task call program, pool.running task = some (call, program) → inside call program := by
  induction reached with
  | refl => exact ⟨initial, nofun⟩
  | @tail before _ _ step ih =>
    obtain ⟨held, kept⟩ := ih
    cases step with
    | @start task call free called =>
      refine ⟨held, ?_⟩
      intro other found program running
      by_cases same : other = task
      · subst same
        obtain ⟨rfl, rfl⟩ : call = found ∧ body call = program := by simpa using running
        exact starts call called
      · exact kept other found program (by simpa [same] using running)
    | @turn task call program rest after busy turned =>
      have keeps := turns before.world before.returned call program rest after held (kept task call program busy) turned
      cases rest with
      | pure value =>
        refine ⟨keeps, ?_⟩
        intro other found program running
        by_cases same : other = task
        · subst same
          simp [settle] at running
        · exact kept other found program (by simpa [settle, same] using running)
      | request operation next =>
        refine ⟨keeps.1, ?_⟩
        intro other found program running
        by_cases same : other = task
        · subst same
          obtain ⟨rfl, rfl⟩ : call = found ∧ Program.request operation next = program := by simpa [settle] using running
          exact keeps.2
        · exact kept other found program (by simpa [settle, same] using running)

end Step

section Schedule
variable (role : (β : Type) → Op β → Role) (serve : {β : Type} → Op β → σ → Option β × σ)

def advance (pool : Pool Op σ ι ρ) (task : Nat) : Pool Op σ ι ρ :=
  match pool.running task with
  | none => pool
  | some (call, program) =>
    match program.turn role serve pool.world with
    | (some rest, after) => pool.settle task call rest after
    | (none, _) => pool

def follow (pool : Pool Op σ ι ρ) (schedule : List Nat) : Pool Op σ ι ρ := schedule.foldl (advance role serve) pool

variable {role serve} {body : ι → Program Op ρ} {callable : ι → Prop}

theorem reaches_follow (pool : Pool Op σ ι ρ) (schedule : List Nat) :
    Relation.ReflTransGen (Step role serve body callable) pool (follow role serve pool schedule) := by
  induction schedule generalizing pool with
  | nil => exact .refl
  | cons task rest ih =>
    refine Relation.ReflTransGen.trans ?_ (ih (advance role serve pool task))
    unfold advance
    split
    · exact .refl
    · rename_i call program running
      split
      · rename_i remaining after turned
        exact .single (.turn running turned)
      · exact .refl

end Schedule

section Trace
variable {ε : Type} {role : (β : Type) → Op β → Role} {serve : {β : Type} → Op β → σ → Option β × σ}
variable {body : ι → Program Op ρ} {pool later : Pool Op σ ι ρ}

def ofTask (task : Nat) (trace : List (Nat × ε)) : List ε := (trace.filter (·.1 = task)).map Prod.snd

theorem ofTask_append (task : Nat) (first second : List (Nat × ε)) :
    ofTask task (first ++ second) = ofTask task first ++ ofTask task second := by
  simp [ofTask]

theorem mem_ofTask {task : Nat} {trace : List (Nat × ε)} {event : ε} :
    event ∈ ofTask task trace ↔ (task, event) ∈ trace := by
  simp [ofTask]

def Remaining (acts : ι → Program Op ρ → List ε → Prop) (pool : Pool Op σ ι ρ) (remaining : Nat → List ε) : Prop :=
  ∀ task, match pool.running task with
    | none => remaining task = []
    | some (call, program) => acts call program (remaining task)

/-- One step of a task that has events to make: a silent one, or its next event. -/
def Acts (role : (β : Type) → Op β → Role) (serve : {β : Type} → Op β → σ → Option β × σ)
    (acts : ι → Program Op ρ → List ε → Prop) (apply : σ → ε → σ) (holds : σ → Prop) : Prop :=
  ∀ world call program events rest after, holds world → acts call program events →
    program.turn role serve world = (some rest, after) → holds after ∧
      ((after = world ∧ acts call rest events) ∨
        ∃ event later, events = event :: later ∧ after = apply world event ∧ acts call rest later)

theorem remaining_settle {acts : ι → Program Op ρ → List ε → Prop} {remaining : Nat → List ε} {task : Nat} {call : ι}
    {rest : Program Op ρ} {after : σ} {events : List ε}
    (finished : ∀ call value events, acts call (.pure value) events → events = [])
    (acting : Remaining acts pool remaining) (acted : acts call rest events) :
    Remaining acts (pool.settle task call rest after) (Function.update remaining task events) := by
  intro other
  have before := acting other
  by_cases same : other = task
  · subst same
    cases rest with
    | pure value => simpa [settle] using finished call value events acted
    | request operation next => simpa [settle] using acted
  · cases rest <;> simpa [settle, same] using before

/-- A run without new calls leaves a trace in which each task has made its events in order. -/
theorem traced {acts : ι → Program Op ρ → List ε → Prop} {apply : σ → ε → σ} {holds : σ → Prop}
    (turns : Acts role serve acts apply holds) (finished : ∀ call value events, acts call (.pure value) events → events = [])
    {remaining : Nat → List ε} (initial : holds pool.world) (acting : Remaining acts pool remaining)
    (reached : Relation.ReflTransGen (Step role serve body fun _ => False) pool later) :
    ∃ trace remaining', later.world = (trace.map Prod.snd).foldl apply pool.world ∧ holds later.world ∧
      Remaining acts later remaining' ∧ ∀ task, ofTask task trace ++ remaining' task = remaining task := by
  induction reached with
  | refl => exact ⟨[], remaining, rfl, initial, acting, fun _ => rfl⟩
  | @tail middle last _ step ih =>
    obtain ⟨trace, left, world, held, acting, split⟩ := ih
    cases step with
    | start _ called => exact called.elim
    | @turn task call program rest after busy turned =>
      have doing : acts call program (left task) := by
        have mine := acting task
        rw [busy] at mine
        exact mine
      have reached : (middle.settle task call rest after).world = after := by cases rest <;> rfl
      rw [reached]
      obtain ⟨kept, ⟨silent, acted⟩ | ⟨event, rest', events, applied, acted⟩⟩ :=
        turns _ call program _ rest after held doing turned
      · refine ⟨trace, Function.update left task (left task), ?_, kept, remaining_settle finished acting acted, ?_⟩
        · rw [silent, world]
        · intro other
          rw [Function.update_eq_self]
          exact split other
      · refine ⟨trace ++ [(task, event)], Function.update left task rest', ?_, kept,
          remaining_settle finished acting acted, ?_⟩
        · rw [applied, world, List.map_append, List.foldl_append]
          rfl
        · intro other
          rw [ofTask_append, List.append_assoc, ← split other]
          by_cases same : other = task
          · subst same
            simp [ofTask, events]
          · simp [ofTask, same, Ne.symm same]

end Trace
end Pool
end Effects
