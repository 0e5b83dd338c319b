import LaserDriver.Adc.Cases

/-! The frames of a continuous session. `adc_dma_intr` hands a finished frame to the
slot `on_conv_done` and reports a full pool to `on_pool_ovf` without a frame; the
controller's callback sits in the second one. -/

namespace LaserDriver.Adc
open Effects

variable {chance : Nat → Chance} {world after : World} {call : Call} {answer : Option Reply}

/-- `adc_continuous_evt_data_t`; `none` is the NULL buffer of an empty record. -/
structure EventData where
  convFrameBuffer : Option Nat
  size : UInt32
  deriving Repr, DecidableEq

/-- A frame the DMA has finished, and whether the ring buffer accepts it. -/
structure Frame where
  buffer : Nat
  size : UInt32
  accepted : Bool
  deriving Repr, DecidableEq

def Frame.data (frame : Frame) : EventData := ⟨some frame.buffer, frame.size⟩

abbrev Invoked := List (Callback × EventData)

def continuousConvDoneCallback (statics : Statics) (data : EventData) : Invoked :=
  match statics.activeContinuousCallback with
  | some callback => [(callback, data)]
  | none => []

def EventCallback.invoke (statics : Statics) (data : EventData) : Option EventCallback → Invoked
  | some .continuousConvDoneCallback => Adc.continuousConvDoneCallback statics data
  | none => []

/-- One round of the loop in `adc_dma_intr`. -/
def adcDmaIntr (ctx : ContinuousCtx) (statics : Statics) (frame : Frame) : Invoked :=
  EventCallback.invoke statics frame.data ctx.cbs.onConvDone ++
    if frame.accepted then [] else EventCallback.invoke statics ⟨none, 0⟩ ctx.cbs.onPoolOvf

/-- What happens while a session runs: frames, and calls of any task. -/
inductive Moment where
  | frame (frame : Frame)
  | call (call : Call)

def Call.ends (call : Call) (answer : Option Reply) : Bool :=
  match call with
  | .releaseAdcController _ => answer == some (.status .success)
  | _ => false

/-- The frames completed under a handle and the client calls they lead to, until
`ADC_ReleaseAdcController` succeeds. -/
def session (chance : Nat → Chance) (handle : Handle) : List Moment → World → List Frame × Invoked
  | [], _ => ([], [])
  | .frame frame :: rest, world =>
    let later := session chance handle rest world
    let invoked := (world.driver.context handle).elim [] (adcDmaIntr · world.statics frame)
    (frame :: later.1, invoked ++ later.2)
  | .call call :: rest, world =>
    let performed := perform chance call world
    if call.ends performed.1 then ([], []) else session chance handle rest performed.2

def Invoked.of (invoked : Invoked) (callback : Callback) : List EventData :=
  (invoked.filter (·.1 == callback)).map (·.2)

/-- No context has the slot for finished frames filled. -/
def ConvDoneUnset (world : World) : Prop := ∀ ctx ∈ world.driver.continuous, ctx.cbs.onConvDone = none

theorem ContinuousOutcome.unset {config : ContinuousConfig} {callback : Callback} {ret : Option Ret}
    (outcome : ContinuousOutcome chance config callback world ret after) (unset : ConvDoneUnset world) :
    ConvDoneUnset after := by
  have opened (ctx : ContinuousCtx) (empty : ctx.cbs.onConvDone = none) :
      ∀ other ∈ ctx :: world.driver.continuous, other.cbs.onConvDone = none :=
    List.forall_mem_cons.mpr ⟨empty, unset⟩
  cases outcome with
  | refused => exact unset
  | _ => exact opened _ rfl

theorem OneShotOutcome.unset {config : OneShotConfig} {ret : Option Ret}
    (outcome : OneShotOutcome chance config world ret after) (unset : ConvDoneUnset world) : ConvDoneUnset after := by
  cases outcome <;> exact unset

theorem Outcome.unset (outcome : Outcome chance world call answer after) (unset : ConvDoneUnset world) :
    ConvDoneUnset after := by
  cases outcome with
  | oneShot _ _ _ outcome => exact outcome.unset unset
  | continuous _ _ _ _ _ outcome => exact outcome.unset unset
  | closed => exact fun ctx member => unset ctx (List.mem_of_mem_eraseP member)
  | _ => exact unset

theorem Reachable.unset (reached : Reachable chance world) : ConvDoneUnset world := by
  obtain ⟨start, initialised, reaches⟩ := reached
  refine reaches.invariant ConvDoneUnset ((Outcome.of_perform initialised).unset nofun) ?_
  intro before input reply after unset returned _
  exact (Outcome.of_perform returned).unset unset

theorem adcDmaIntr_null {ctx : ContinuousCtx} (empty : ctx.cbs.onConvDone = none) (statics : Statics) (frame : Frame) :
    ∀ invoked ∈ adcDmaIntr ctx statics frame, invoked.2 = ⟨none, 0⟩ := by
  intro invoked member
  rw [adcDmaIntr, empty] at member
  cases slot : ctx.cbs.onPoolOvf with
  | none => simp [EventCallback.invoke, slot] at member
  | some callback =>
    cases frame.accepted <;> cases callback <;> cases client : statics.activeContinuousCallback <;>
      simp_all [EventCallback.invoke, continuousConvDoneCallback]

theorem session_call (chance : Nat → Chance) (handle : Handle) (call : Call) (rest : List Moment) (world : World) :
    session chance handle (.call call :: rest) world = ([], []) ∨
      session chance handle (.call call :: rest) world = session chance handle rest (perform chance call world).2 := by
  rw [session]
  split
  · exact .inl rfl
  · exact .inr rfl

/-- Whatever a session leads to comes from full pools, without a frame. -/
theorem session_invokes_null (handle : Handle) (moments : List Moment) (unset : ConvDoneUnset world) :
    ∀ invoked ∈ (session chance handle moments world).2, invoked.2 = ⟨none, 0⟩ := by
  induction moments generalizing world with
  | nil => nofun
  | cons moment rest ih =>
    cases moment with
    | frame frame =>
      intro invoked member
      obtain now | later := List.mem_append.mp member
      · cases found : world.driver.context handle with
        | none => simp [found] at now
        | some ctx =>
          rw [found] at now
          exact adcDmaIntr_null (unset ctx (List.mem_of_find?_eq_some found)) world.statics frame invoked now
      · exact ih unset invoked later
    | call call =>
      obtain ended | goes := session_call chance handle call rest world
      · rw [ended]
        nofun
      · rw [goes]
        exact ih ((perform_outcome chance call world).unset unset)

theorem session_without_frames (handle : Handle) (moments : List Moment)
    (none : (session chance handle moments world).1 = []) : (session chance handle moments world).2 = [] := by
  induction moments generalizing world with
  | nil => rfl
  | cons moment rest ih =>
    cases moment with
    | frame frame => cases none
    | call call =>
      obtain ended | goes := session_call chance handle call rest world
      · rw [ended]
      · rw [goes] at none ⊢
        exact ih none

/-- The client of a session receives its frames exactly when there are none. This
holds of every client function and of every handle, so of those of the session. -/
theorem session_delivers_iff {config : ContinuousConfig} {started : World} (reached : Reachable chance world)
    (starts : perform chance (.startSampling (.continuous (some config))) world = (some (.status .success), started))
    (callback : Callback) (handle : Handle) (moments : List Moment) :
    (session chance handle moments started).2.of callback = (session chance handle moments started).1.map Frame.data ↔
      (session chance handle moments started).1 = [] := by
  refine ⟨fun delivered => ?_, fun none => by rw [session_without_frames handle moments none, none]; rfl⟩
  have unset : ConvDoneUnset started := (Outcome.of_perform starts).unset reached.unset
  cases frames : (session chance handle moments started).1 with
  | nil => rfl
  | cons frame rest =>
    have member : frame.data ∈ Invoked.of (session chance handle moments started).2 callback := by
      rw [delivered, frames]
      exact List.mem_cons_self
    obtain ⟨invoked, among, same⟩ := List.mem_map.mp member
    have empty := session_invokes_null handle moments unset invoked (List.mem_of_mem_filter among)
    rw [same] at empty
    cases empty

theorem session_delivers_none :
    Invoked.of (session quiet 0 [.call .isControllerAvailable, .call (.releaseAdcController 1)]
        (afterCalls [.startSampling (.continuous (some ⟨1, 0, 1, 1000, some 7⟩))])).2 7 = [] ↔
      (session quiet 0 [.call .isControllerAvailable, .call (.releaseAdcController 1)]
        (afterCalls [.startSampling (.continuous (some ⟨1, 0, 1, 1000, some 7⟩))])).1 = [] :=
  @session_delivers_iff quiet (afterCalls []) ⟨1, 0, 1, 1000, some 7⟩ _ ⟨_, rfl, .refl⟩ rfl 7 0 _

theorem accepted_frame_undelivered :
    Reachable quiet (afterCalls []) ∧
      perform quiet (.startSampling (.continuous (some ⟨1, 0, 1, 1000, some 7⟩))) (afterCalls []) =
        (some (.status .success), afterCalls [.startSampling (.continuous (some ⟨1, 0, 1, 1000, some 7⟩))]) ∧
      (afterCalls [.startSampling (.continuous (some ⟨1, 0, 1, 1000, some 7⟩))]).statics.continuousHandle = some 0 ∧
      Invoked.of (session quiet 0 [.frame ⟨4096, 4, true⟩]
          (afterCalls [.startSampling (.continuous (some ⟨1, 0, 1, 1000, some 7⟩))])).2 7 ≠
        (session quiet 0 [.frame ⟨4096, 4, true⟩]
          (afterCalls [.startSampling (.continuous (some ⟨1, 0, 1, 1000, some 7⟩))])).1.map Frame.data := by
  exact ⟨⟨_, rfl, .refl⟩, rfl, rfl, by decide⟩

end LaserDriver.Adc
