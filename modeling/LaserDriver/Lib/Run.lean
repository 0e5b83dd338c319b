import Mathlib.Logic.Basic

/-! Runs of a machine that takes one input at a time and may fail to answer it. -/

namespace Effects

variable {σ ι ρ : Type}

/-- What a run of answered inputs reaches when every step is one `allowed` names. -/
inductive Reaches (step : ι → σ → Option ρ × σ) (allowed : σ → ι → ρ → Prop) (start : σ) : σ → Prop where
  | refl : Reaches step allowed start start
  | next {before after} (input : ι) (reply : ρ) (reached : Reaches step allowed start before)
      (returned : step input before = (some reply, after)) (permitted : allowed before input reply) :
      Reaches step allowed start after

namespace Reaches
variable {step : ι → σ → Option ρ × σ} {allowed : σ → ι → ρ → Prop} {start world : σ}

theorem invariant (reached : Reaches step allowed start world) (holds : σ → Prop) (initial : holds start)
    (preserved : ∀ before input reply after, holds before → step input before = (some reply, after) →
      allowed before input reply → holds after) : holds world := by
  induction reached with
  | refl => exact initial
  | next _ _ _ returned permitted ih => exact preserved _ _ _ _ ih returned permitted

end Reaches

/-- A run of answered inputs with the answers it got, oldest first. -/
inductive Recorded (step : ι → σ → Option ρ × σ) (allowed : σ → ι → Prop) (start : σ) : List (ι × ρ) → σ → Prop where
  | nil : Recorded step allowed start [] start
  | snoc {record before after} (input : ι) (reply : ρ) (recorded : Recorded step allowed start record before)
      (returned : step input before = (some reply, after)) (permitted : allowed before input) :
      Recorded step allowed start (record ++ [(input, reply)]) after

namespace Recorded
variable {step : ι → σ → Option ρ × σ} {allowed : σ → ι → Prop} {start middle world : σ} {record : List (ι × ρ)}

theorem invariant (recorded : Recorded step allowed start record world) (holds : List (ι × ρ) → σ → Prop)
    (initial : holds [] start)
    (preserved : ∀ record before input reply after, holds record before → step input before = (some reply, after) →
      allowed before input → holds (record ++ [(input, reply)]) after) : holds record world := by
  induction recorded with
  | nil => exact initial
  | snoc _ _ _ returned permitted ih => exact preserved _ _ _ _ _ ih returned permitted

theorem weaken {other : σ → ι → Prop} (recorded : Recorded step allowed start record world)
    (implies : ∀ before input, allowed before input → other before input) : Recorded step other start record world := by
  induction recorded with
  | nil => exact .nil
  | snoc input reply _ returned permitted ih => exact .snoc input reply ih returned (implies _ _ permitted)

theorem single (input : ι) (reply : ρ) (returned : step input start = (some reply, world))
    (permitted : allowed start input) : Recorded step allowed start [(input, reply)] world := by
  have run : Recorded step allowed start ([] ++ [(input, reply)]) world := .snoc input reply .nil returned permitted
  exact run

theorem second {first : ι × ρ} (recorded : Recorded step allowed start [first] middle) (input : ι) (reply : ρ)
    (returned : step input middle = (some reply, world)) (permitted : allowed middle input) :
    Recorded step allowed start [first, (input, reply)] world := by
  have run : Recorded step allowed start ([first] ++ [(input, reply)]) world := .snoc input reply recorded returned permitted
  exact run

end Recorded

/-- A run in which an input may also be left unanswered: the state it stopped in
is the one the next input finds. -/
def trail (step : ι → σ → Option ρ × σ) (inputs : List ι) (start : σ) : σ :=
  inputs.foldl (fun state input => (step input state).2) start

def Always (step : ι → σ → Option ρ × σ) (holds : σ → Prop) : List ι → σ → Prop
  | [], state => holds state
  | input :: rest, state => holds state ∧ Always step holds rest (step input state).2

theorem Always.start {step : ι → σ → Option ρ × σ} {holds : σ → Prop} {inputs : List ι} {state : σ}
    (always : Always step holds inputs state) : holds state := by
  cases inputs with
  | nil => exact always
  | cons input rest => exact always.1

def Meets (step : ι → σ → Option ρ × σ) (condition : σ → ι → Prop) : List ι → σ → Prop
  | [], _ => True
  | input :: rest, state => condition state input ∧ Meets step condition rest (step input state).2

/-- Inputs that are allowed where they come can bring the machine to the goal. -/
inductive Leads (step : ι → σ → Option ρ × σ) (allowed : σ → ι → Prop) (goal : σ → Prop) : σ → Prop where
  | here {state} (reached : goal state) : Leads step allowed goal state
  | next {state} (input : ι) (permitted : allowed state input) (onwards : Leads step allowed goal (step input state).2) :
      Leads step allowed goal state

namespace Leads
variable {step : ι → σ → Option ρ × σ} {allowed : σ → ι → Prop} {goal further : σ → Prop} {start : σ}

theorem trans (leads : Leads step allowed goal start)
    (onwards : ∀ state, goal state → Leads step allowed further state) : Leads step allowed further start := by
  induction leads with
  | here reached => exact onwards _ reached
  | next input permitted _ ih => exact .next input permitted ih

theorem weaken (leads : Leads step allowed goal start) (implies : ∀ state, goal state → further state) :
    Leads step allowed further start :=
  leads.trans fun state reached => .here (implies state reached)

theorem inputs (leads : Leads step allowed goal start) :
    ∃ rest, Meets step allowed rest start ∧ goal (trail step rest start) := by
  induction leads with
  | here reached => exact ⟨[], trivial, reached⟩
  | next input permitted _ ih =>
    obtain ⟨rest, meets, reached⟩ := ih
    exact ⟨input :: rest, ⟨permitted, meets⟩, reached⟩

end Leads

/-- A property that one step establishes exactly when it held before and the
step meets the condition holds of a whole run exactly when every step does. -/
theorem trail_iff_meets {step : ι → σ → Option ρ × σ} {condition : σ → ι → Prop}
    (keeps holds : σ → Prop) (kept : ∀ input state, keeps state → keeps (step input state).2)
    (exact : ∀ input state, keeps state → (holds (step input state).2 ↔ holds state ∧ condition state input))
    (inputs : List ι) (start : σ) (initial : keeps start) :
    holds (trail step inputs start) ↔ holds start ∧ Meets step condition inputs start := by
  induction inputs generalizing start with
  | nil => simp [trail, Meets]
  | cons input rest ih =>
    have tail := ih (step input start).2 (kept input start initial)
    rw [exact input start initial, and_assoc] at tail
    exact tail

/-- A property that a step keeps exactly when it meets the condition holds in every state
of a run exactly when every step does. -/
theorem always_iff_meets {step : ι → σ → Option ρ × σ} {condition : σ → ι → Prop} {holds : σ → Prop}
    (exact : ∀ input state, holds state → (holds (step input state).2 ↔ condition state input))
    (inputs : List ι) (start : σ) (initial : holds start) :
    Always step holds inputs start ↔ Meets step condition inputs start := by
  induction inputs generalizing start with
  | nil => exact iff_of_true initial trivial
  | cons input rest ih =>
    have kept := exact input start initial
    constructor
    · intro always
      have next := always.2.start
      exact ⟨kept.mp next, (ih _ next).mp always.2⟩
    · intro meets
      exact ⟨initial, (ih _ (kept.mpr meets.1)).mpr meets.2⟩

end Effects
