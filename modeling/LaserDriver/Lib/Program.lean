import Mathlib.Logic.Basic

/-! Programs as trees of typed requests. A program fixes what is asked for and
in which order; what a request does is left to whoever serves it, so one text
can be read with arbitrary replies or executed against a model of the outside. -/

namespace Effects

universe u v

inductive Program (Op : Type → Type u) (α : Type) : Type (max 1 u) where
  | pure (value : α)
  | request {β : Type} (operation : Op β) (next : β → Program Op α)

variable {Op : Type → Type u} {α β γ σ : Type}

namespace Program

def bind (program : Program Op α) (next : α → Program Op β) : Program Op β :=
  match program with
  | .pure value => next value
  | .request operation rest => .request operation (fun reply => (rest reply).bind next)

instance : Monad (Program Op) where
  pure := .pure
  bind := .bind

def send (operation : Op β) : Program Op β := .request operation .pure

@[simp] theorem pure_bind (value : α) (next : α → Program Op β) :
    (Pure.pure value : Program Op α) >>= next = next value := rfl

@[simp] theorem send_bind (operation : Op α) (next : α → Program Op β) :
    send operation >>= next = .request operation next := rfl

@[simp] theorem request_bind (operation : Op γ) (rest : γ → Program Op α) (next : α → Program Op β) :
    request operation rest >>= next = .request operation (fun reply => rest reply >>= next) := rfl

theorem bind_assoc (program : Program Op α) (first : α → Program Op β) (second : β → Program Op γ) :
    (program >>= first) >>= second = program >>= fun value => first value >>= second := by
  induction program with
  | pure value => rfl
  | request operation rest ih =>
    simp only [request_bind]
    congr 1
    funext reply
    exact ih reply

/-- Every request the program can make is an allowed one, whatever the replies. -/
def Only (allowed : (β : Type) → Op β → Prop) : Program Op α → Prop
  | .pure _ => True
  | .request operation next => allowed _ operation ∧ ∀ reply, Only allowed (next reply)

section Only
variable {allowed : (β : Type) → Op β → Prop}

theorem Only.pure (value : α) : Only allowed (Pure.pure value : Program Op α) := trivial

theorem Only.send {operation : Op β} (permitted : allowed _ operation) : Only allowed (send operation) :=
  ⟨permitted, fun _ => trivial⟩

theorem Only.bind {program : Program Op α} {next : α → Program Op β} (only : Only allowed program)
    (rest : ∀ value, Only allowed (next value)) : Only allowed (program >>= next) := by
  induction program with
  | pure value => exact rest value
  | request operation later ih =>
    refine ⟨only.1, ?_⟩
    intro reply
    exact ih reply (only.2 reply)

end Only

/-- Go on with an answer and the state it came with. A request that is never
answered keeps its caller inside: no value, but the state it reached remains. -/
def proceed {β : Type v} (answer : Option α × σ) (next : α → σ → Option β × σ) : Option β × σ :=
  match answer with
  | (some value, state) => next value state
  | (none, state) => (none, state)

@[simp] theorem proceed_some {β : Type v} (value : α) (state : σ) (next : α → σ → Option β × σ) :
    proceed (some value, state) next = next value state := rfl

@[simp] theorem proceed_none {β : Type v} (state : σ) (next : α → σ → Option β × σ) :
    proceed (none, state) next = (none, state) := rfl

theorem proceed_assoc (answer : Option α × σ) (first : α → σ → Option β × σ)
    (second : β → σ → Option γ × σ) :
    proceed (proceed answer first) second =
      proceed answer (fun value state => proceed (first value state) second) := by
  obtain ⟨value | value, state⟩ := answer <;> rfl

def run (serve : {β : Type} → Op β → σ → Option β × σ) : Program Op α → σ → Option α × σ
  | .pure value, state => (some value, state)
  | .request operation next, state =>
    proceed (serve operation state) (fun reply after => (next reply).run serve after)

section Run
variable {serve : {β : Type} → Op β → σ → Option β × σ}

@[simp] theorem run_pure (value : α) (state : σ) :
    (Pure.pure value : Program Op α).run serve state = (some value, state) := rfl

@[simp] theorem run_send (operation : Op α) (state : σ) :
    (send operation).run serve state = serve operation state := by
  rcases answered : serve operation state with ⟨value | value, after⟩ <;> simp [send, run, answered]

@[simp] theorem run_request (operation : Op β) (next : β → Program Op α) (state : σ) :
    (request operation next).run serve state =
      proceed (serve operation state) (fun reply after => (next reply).run serve after) := rfl

theorem run_bind (program : Program Op α) (next : α → Program Op β) (state : σ) :
    (program >>= next).run serve state =
      proceed (program.run serve state) (fun value after => (next value).run serve after) := by
  induction program generalizing state with
  | pure value => rfl
  | request operation rest ih => simp only [request_bind, run_request, proceed_assoc, ih]

end Run
end Program
end Effects
