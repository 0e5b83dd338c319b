import LaserDriver.Lib.Program

/-! What a program exchanged with whoever served it: its requests with the replies they
got, oldest first. What follows from the text of a program alone holds of every list of
exchanges it can return after; a run has one such list. -/

namespace Effects

universe u

structure Exchange (Op : Type → Type u) where
  {β : Type}
  operation : Op β
  reply : β

variable {Op : Type → Type u} {α β γ σ : Type}

namespace Program

def Returns : Program Op α → List (Exchange Op) → α → Prop
  | .pure value, exchanges, result => exchanges = [] ∧ value = result
  | .request operation next, exchanges, result =>
    ∃ reply rest, exchanges = ⟨operation, reply⟩ :: rest ∧ (next reply).Returns rest result

@[simp] theorem returns_pure {value result : α} {exchanges : List (Exchange Op)} :
    (Pure.pure value : Program Op α).Returns exchanges result ↔ exchanges = [] ∧ value = result := Iff.rfl

@[simp] theorem returns_request {operation : Op β} {next : β → Program Op α} {exchanges : List (Exchange Op)} {result : α} :
    (request operation next).Returns exchanges result ↔
      ∃ reply rest, exchanges = ⟨operation, reply⟩ :: rest ∧ (next reply).Returns rest result := Iff.rfl

@[simp] theorem returns_send {operation : Op β} {exchanges : List (Exchange Op)} {result : β} :
    (send operation).Returns exchanges result ↔ exchanges = [⟨operation, result⟩] := by
  constructor
  · intro ⟨reply, rest, given, empty, same⟩
    rw [given, empty, same]
  · intro given
    exact ⟨result, [], given, rfl, rfl⟩

theorem returns_bind {program : Program Op α} {next : α → Program Op γ} {exchanges : List (Exchange Op)} {result : γ} :
    (program >>= next).Returns exchanges result ↔
      ∃ first value rest, exchanges = first ++ rest ∧ program.Returns first value ∧ (next value).Returns rest result := by
  induction program generalizing exchanges with
  | pure value =>
    constructor
    · intro returned
      exact ⟨[], value, exchanges, rfl, ⟨rfl, rfl⟩, returned⟩
    · intro ⟨first, _, rest, split, ⟨empty, same⟩, returned⟩
      subst empty same
      rw [split]
      exact returned
  | request operation later ih =>
    constructor
    · intro ⟨reply, rest, given, returned⟩
      obtain ⟨first, value, last, split, before, after⟩ := (ih reply).mp returned
      exact ⟨⟨operation, reply⟩ :: first, value, last, by rw [given, split]; rfl, ⟨reply, first, rfl, before⟩, after⟩
    · intro ⟨first, value, last, split, ⟨reply, rest, given, before⟩, after⟩
      refine ⟨reply, rest ++ last, ?_, (ih reply).mpr ⟨rest, value, last, rfl, before, after⟩⟩
      rw [split, given]
      rfl

theorem Returns.only {allowed : (β : Type) → Op β → Prop} {program : Program Op α} {exchanges : List (Exchange Op)}
    {result : α} (returned : program.Returns exchanges result) (only : Only allowed program) :
    ∀ exchange ∈ exchanges, allowed _ exchange.operation := by
  induction program generalizing exchanges with
  | pure value =>
    rw [returned.1]
    exact nofun
  | request operation next ih =>
    obtain ⟨reply, rest, rfl, returned⟩ := returned
    exact List.forall_mem_cons.mpr ⟨only.1, ih reply returned (only.2 reply)⟩

/-- The exchanges of a run, up to a request that is never answered. -/
def exchanges (serve : {β : Type} → Op β → σ → Option β × σ) : Program Op α → σ → List (Exchange Op)
  | .pure _, _ => []
  | .request operation next, state =>
    match serve operation state with
    | (some reply, after) => ⟨operation, reply⟩ :: (next reply).exchanges serve after
    | (none, _) => []

section Run
variable {serve : {β : Type} → Op β → σ → Option β × σ} {state after : σ}

@[simp] theorem exchanges_pure (value : α) (state : σ) :
    (Pure.pure value : Program Op α).exchanges serve state = [] := rfl

theorem exchanges_request {operation : Op β} {reply : β} (served : serve operation state = (some reply, after))
    (next : β → Program Op α) :
    (request operation next).exchanges serve state = ⟨operation, reply⟩ :: (next reply).exchanges serve after := by
  rw [exchanges, served]

theorem exchanges_send {operation : Op β} {reply : β} (served : serve operation state = (some reply, after))
    (next : β → Program Op α) :
    (send operation >>= next).exchanges serve state = ⟨operation, reply⟩ :: (next reply).exchanges serve after :=
  exchanges_request served next

theorem exchanges_bind {program : Program Op α} {value : α} (ran : program.run serve state = (some value, after))
    (next : α → Program Op γ) :
    (program >>= next).exchanges serve state = program.exchanges serve state ++ (next value).exchanges serve after := by
  induction program generalizing state with
  | pure other =>
    obtain ⟨same, rfl⟩ := Prod.mk.inj ran
    obtain rfl := Option.some.inj same
    rfl
  | request operation later ih =>
    cases served : serve operation state with
    | mk reply middle =>
      cases reply with
      | none => simp [run, served] at ran
      | some reply =>
        simp only [run, served, proceed_some] at ran
        rw [request_bind, exchanges_request served, exchanges_request served, ih reply ran, List.cons_append]

theorem exchanges_subset_bind (program : Program Op α) (next : α → Program Op γ) (state : σ) :
    program.exchanges serve state ⊆ (program >>= next).exchanges serve state := by
  induction program generalizing state with
  | pure value => exact List.nil_subset _
  | request operation later ih =>
    cases served : serve operation state with
    | mk reply after =>
      cases reply with
      | none =>
        rw [exchanges, served]
        exact List.nil_subset _
      | some reply =>
        rw [request_bind, exchanges_request served, exchanges_request served]
        exact List.cons_subset_cons _ (ih reply after)

theorem exchanges_wrap (program : Program Op α) (wrap : α → γ) (state : σ) :
    (program >>= fun value => Pure.pure (wrap value)).exchanges serve state = program.exchanges serve state := by
  induction program generalizing state with
  | pure value => rfl
  | request operation later ih =>
    cases served : serve operation state with
    | mk reply after =>
      cases reply with
      | none => rw [request_bind, exchanges, exchanges, served]
      | some reply => rw [request_bind, exchanges_request served, exchanges_request served, ih reply after]

theorem exchanges_only {allowed : (β : Type) → Op β → Prop} {program : Program Op α} (only : Only allowed program)
    (state : σ) : ∀ exchange ∈ program.exchanges serve state, allowed _ exchange.operation := by
  induction program generalizing state with
  | pure value => exact nofun
  | request operation next ih =>
    cases served : serve operation state with
    | mk reply after =>
      cases reply with
      | none =>
        rw [exchanges, served]
        exact nofun
      | some reply =>
        rw [exchanges_request served]
        exact List.forall_mem_cons.mpr ⟨only.1, ih reply (only.2 reply) after⟩

theorem returns_of_run {program : Program Op α} {value : α} (ran : program.run serve state = (some value, after)) :
    program.Returns (program.exchanges serve state) value := by
  induction program generalizing state with
  | pure other => exact ⟨rfl, Option.some.inj (Prod.mk.inj ran).1⟩
  | request operation next ih =>
    cases served : serve operation state with
    | mk reply middle =>
      cases reply with
      | none => simp [run, served] at ran
      | some reply =>
        simp only [run, served, proceed_some] at ran
        rw [exchanges_request served]
        exact ⟨reply, _, rfl, ih reply ran⟩

/-- A log that each answered request extends on its own is extended, over a run, by what its exchanges add. -/
theorem log_of_run {ρ : Type} {program : Program Op α} {value : α} (log : σ → List ρ) (entry : Exchange Op → List ρ)
    (logged : ∀ {β : Type} (operation : Op β) (state : σ) (reply : β) (after : σ),
      serve operation state = (some reply, after) → log after = log state ++ entry ⟨operation, reply⟩)
    (ran : program.run serve state = (some value, after)) :
    log after = log state ++ (program.exchanges serve state).flatMap entry := by
  induction program generalizing state with
  | pure other =>
    obtain ⟨-, rfl⟩ := Prod.mk.inj ran
    exact (List.append_nil _).symm
  | request operation next ih =>
    cases served : serve operation state with
    | mk reply middle =>
      cases reply with
      | none => simp [run, served] at ran
      | some reply =>
        simp only [run, served, proceed_some] at ran
        rw [exchanges_request served, ih reply ran, logged operation state reply middle served, List.flatMap_cons,
          List.append_assoc]

end Run
end Program
end Effects
