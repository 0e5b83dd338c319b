import LaserDriver.Lib.Run
import LaserDriver.Lib.Sole
import LaserDriver.Ledc.Service

/-! Who may touch the channel. The semaphore is with the task that has taken it, or with
the fade that the task has started, until the handler gives it back. -/

namespace LaserDriver.Ledc
open Effects

/-- The task has taken the semaphore and has not passed it on. -/
def Task.holdsSem : Task → Bool
  | .setMask _ | .setConfig _ | .setRelease | .fadeMask _ _ | .fadeMeasure _ _ | .fadeRecord _ _ _ _ | .fadeConfig _
  | .fadeClear | .fadeEnable => true
  | _ => false

def Task.holdsMux : Task → Bool
  | .fadeAcquire _ _ | .fadeMask _ _ | .fadeMeasure _ _ | .fadeRecord _ _ _ _ | .fadeConfig _ | .fadeClear | .fadeEnable
  | .fadeUpdate | .fadeUnlock => true
  | _ => false

def Task.starts : Task → Bool
  | .fadeUpdate => true
  | _ => false

def Fade.Loads (fade : Fade) (config : DutyConfig) : Prop :=
  (config.duty = fade.targetDuty ∧ config.dutyScale = 0) ∨
    (config.direction = fade.direction ∧ config.dutyCycle = fade.cycleNum ∧ config.dutyScale = fade.scale)

/-- From the record on, the task carries a configuration of its fade, and then the registers do. -/
def Task.Ready (fade : Fade) (registers : DutyConfig) : Task → Prop
  | .fadeConfig config => fade.Loads config
  | .fadeClear | .fadeEnable => fade.Loads registers
  | _ => True

def Isr.reads : Isr → Bool
  | .read | .commit _ => true
  | _ => false

def Isr.Prepared (fade : Fade) : Isr → Prop
  | .commit (some config) => fade.Loads config
  | _ => True

/-- A fade runs, or it has just ended and the semaphore is still to be given. -/
def Channel.Fading (channel : Channel) : Prop := channel.fsm ≠ .idle ∨ channel.isr = .give

/-- The parties are the tasks and the fade. -/
def Channel.Holds (channel : Channel) : Option Nat → Prop
  | some task => (channel.tasks task).holdsSem = true
  | none => channel.Fading

structure Shared (channel : Channel) : Prop where
  sem : Sole channel.sem channel.Holds
  mux : Sole channel.mux (fun task => (channel.tasks task).holdsMux = true)
  reads : channel.isr.reads = true ↔ channel.fsm = .isrCal
  gives : channel.isr = .give → channel.fsm = .idle
  killed : channel.fsm ≠ .killedPending
  enabled : channel.fsm ≠ .idle → channel.intrEnabled = true
  loaded : channel.fsm ≠ .idle → channel.fade.Loads channel.registers
  started : channel.fsm ≠ .idle → channel.fade.Loads channel.started ∨ ∃ task, (channel.tasks task).starts = true
  ready : ∀ task, (channel.tasks task).Ready channel.fade channel.registers
  prepared : channel.isr.Prepared channel.fade
  running : channel.aborted = false

theorem loads_setFadeWithStep (fade : Fade) (maxDuty dutyRead targetDuty scale cycleNum : Nat) :
    (fade.setFadeWithStep maxDuty dutyRead targetDuty scale cycleNum).1.Loads
      (fade.setFadeWithStep maxDuty dutyRead targetDuty scale cycleNum).2 := by
  unfold Fade.setFadeWithStep
  apply iteInduction
  · intro steps
    exact .inr ⟨(if_pos steps.1).symm, rfl, rfl⟩
  · intro direct
    exact .inl ⟨rfl, rfl⟩

theorem loads_setFadeWithTime (fade : Fade) (maxDuty : Nat) (freq : UInt32) (dutyCur dutyRead targetDuty : Nat)
    (maxFadeTimeMs : UInt32) :
    (fade.setFadeWithTime maxDuty freq dutyCur dutyRead targetDuty maxFadeTimeMs).1.Loads
      (fade.setFadeWithTime maxDuty freq dutyCur dutyRead targetDuty maxFadeTimeMs).2 := by
  unfold Fade.setFadeWithTime
  simp only
  repeat' split
  all_goals exact loads_setFadeWithStep ..

theorem loads_next (fade : Fade) (dutyCur : Nat) : (Isr.commit (fade.next dutyCur)).Prepared fade := by
  unfold Fade.next
  repeat' split
  · trivial
  · exact .inr ⟨rfl, rfl, rfl⟩
  · exact .inl ⟨rfl, rfl⟩

/-- Only the holder of the semaphore relies on the record and the registers. -/
theorem Task.ready_of_free {task : Task} (free : task.holdsSem = false) (fade : Fade) (registers : DutyConfig) :
    task.Ready fade registers := by
  cases task with
  | fadeConfig => cases free
  | fadeClear => cases free
  | fadeEnable => cases free
  | _ => trivial

section Goto
variable {channel : Channel} {task : Nat} {current next : Task}

theorem goto_self (channel : Channel) (task : Nat) (next : Task) : (channel.goto task next).tasks task = next :=
  Function.update_self ..

theorem goto_other (next : Task) {other : Nat} (different : other ≠ task) :
    (channel.goto task next).tasks other = channel.tasks other := Function.update_of_ne different ..

theorem holds_goto_self (channel : Channel) (task : Nat) (next : Task) :
    (channel.goto task next).Holds (some task) ↔ next.holdsSem = true := by
  rw [Channel.Holds, goto_self]

theorem holds_goto_other (next : Task) {one : Option Nat} (different : one ≠ some task) :
    (channel.goto task next).Holds one ↔ channel.Holds one := by
  cases one with
  | none => rfl
  | some other =>
    have other_task : other ≠ task := fun same => different (congrArg some same)
    rw [Channel.Holds, goto_other next other_task]
    rfl

theorem holds_goto_same (stage : channel.tasks task = current) (same : next.holdsSem = current.holdsSem) (one : Option Nat) :
    (channel.goto task next).Holds one ↔ channel.Holds one := by
  by_cases here : one = some task
  · subst here
    rw [holds_goto_self, same, ← stage]
    rfl
  · exact holds_goto_other next here

theorem mux_goto_same (stage : channel.tasks task = current) (same : next.holdsMux = current.holdsMux) (one : Nat) :
    ((channel.goto task next).tasks one).holdsMux = true ↔ (channel.tasks one).holdsMux = true := by
  by_cases here : one = task
  · subst here
    rw [goto_self, same, stage]
  · rw [goto_other next here]

theorem ready_goto {fade : Fade} {registers : DutyConfig} (self : next.Ready fade registers)
    (others : ∀ other, other ≠ task → (channel.tasks other).Ready fade registers) (one : Nat) :
    ((channel.goto task next).tasks one).Ready fade registers := by
  by_cases here : one = task
  · subst here
    rw [goto_self]
    exact self
  · rw [goto_other next here]
    exact others one here

theorem starts_goto {loaded : Prop} (stage : channel.tasks task = current) (resting : current.starts = false)
    (started : loaded ∨ ∃ one, (channel.tasks one).starts = true) :
    loaded ∨ ∃ one, ((channel.goto task next).tasks one).starts = true := by
  refine started.imp_right ?_
  intro ⟨one, starts⟩
  have different : one ≠ task := by
    intro same
    rw [same, stage, resting] at starts
    cases starts
  exact ⟨one, by rw [goto_other next different, starts]⟩

end Goto

section Holder
variable {channel : Channel} {task : Nat} {current : Task}

theorem Shared.idle (shared : Shared channel) (held : channel.Holds (some task)) :
    channel.fsm = .idle ∧ channel.isr ≠ .give := by
  have quiet : ¬ channel.Fading := by
    intro fading
    cases shared.sem.alone (some task) none held fading
  exact ⟨not_not.mp fun running => quiet (.inl running), fun giving => quiet (.inr giving)⟩

theorem Shared.ready_of_others (shared : Shared channel) {party : Option Nat} (held : channel.Holds party) {other : Nat}
    (different : some other ≠ party) (fade : Fade) (registers : DutyConfig) :
    (channel.tasks other).Ready fade registers := by
  apply Task.ready_of_free
  cases holds : (channel.tasks other).holdsSem with
  | false => rfl
  | true => exact absurd (shared.sem.alone (some other) party holds held) different

theorem Shared.resting (shared : Shared channel) (idle : channel.fsm = .idle) : channel.isr.reads = false := by
  cases computing : channel.isr.reads with
  | false => rfl
  | true => cases idle.symm.trans (shared.reads.mp computing)

theorem Isr.prepared_of_resting {isr : Isr} (resting : isr.reads = false) (fade : Fade) : isr.Prepared fade := by
  cases isr with
  | commit => cases resting
  | _ => trivial

/-- A task goes on without taking or giving anything. -/
theorem Shared.move (shared : Shared channel) (next : Task) (stage : channel.tasks task = current)
    (sem : next.holdsSem = current.holdsSem) (mux : next.holdsMux = current.holdsMux) (resting : current.starts = false)
    (ready : next.Ready channel.fade channel.registers) : Shared (channel.goto task next) :=
  { shared with
    sem := shared.sem.same (holds_goto_same stage sem)
    mux := shared.mux.same (mux_goto_same stage mux)
    started := fun runs => starts_goto stage resting (shared.started runs)
    ready := ready_goto ready fun other _ => shared.ready other }

theorem Shared.mask (shared : Shared channel) (next : Task) (stage : channel.tasks task = current)
    (held : current.holdsSem = true) (sem : next.holdsSem = current.holdsSem) (mux : next.holdsMux = current.holdsMux)
    (resting : current.starts = false) (ready : next.Ready channel.fade channel.registers) :
    Shared { channel.goto task next with intrEnabled := false } := by
  have holds : channel.Holds (some task) := by
    rw [Channel.Holds, stage]
    exact held
  have moved := shared.move next stage sem mux resting ready
  exact { moved with enabled := fun running => absurd (shared.idle holds).1 running }

theorem Shared.write (shared : Shared channel) (next : Task) (fade : Fade) (registers : DutyConfig)
    (stage : channel.tasks task = current) (held : current.holdsSem = true) (sem : next.holdsSem = current.holdsSem)
    (mux : next.holdsMux = current.holdsMux) (ready : next.Ready fade registers) :
    Shared { channel.goto task next with fade, registers } := by
  have holds : channel.Holds (some task) := by
    rw [Channel.Holds, stage]
    exact held
  have idle := (shared.idle holds).1
  exact { shared with
    sem := shared.sem.same (holds_goto_same stage sem)
    mux := shared.mux.same (mux_goto_same stage mux)
    loaded := fun running => absurd idle running
    started := fun running => absurd idle running
    ready := ready_goto ready fun other different =>
      shared.ready_of_others holds (fun same => different (Option.some.inj same)) _ _
    prepared := Isr.prepared_of_resting (shared.resting idle) _ }

theorem Shared.takeSem (shared : Shared channel) (next : Task) (stage : channel.tasks task = current)
    (available : channel.sem = true) (takes : next.holdsSem = true) (mux : next.holdsMux = current.holdsMux)
    (resting : current.starts = false) (ready : next.Ready channel.fade channel.registers) :
    Shared { channel.goto task next with sem := false } := by
  have free : Sole true channel.Holds := available ▸ shared.sem
  exact { shared with
    sem := free.take ((holds_goto_self ..).mpr takes) fun one different => holds_goto_other _ different
    mux := shared.mux.same (mux_goto_same stage mux)
    started := fun runs => starts_goto stage resting (shared.started runs)
    ready := ready_goto ready fun other _ => shared.ready other }

theorem Shared.giveSem (shared : Shared channel) (stage : channel.tasks task = .setRelease) :
    Shared { channel.goto task .idle with sem := true } := by
  have held : channel.Holds (some task) := by
    rw [Channel.Holds, stage]
    rfl
  have gone : ¬ (channel.goto task .idle).Holds (some task) := by
    rw [holds_goto_self]
    exact Bool.false_ne_true
  exact { shared with
    sem := shared.sem.give held gone fun one different => holds_goto_other _ different
    mux := shared.mux.same (mux_goto_same stage rfl)
    started := fun runs => starts_goto stage rfl (shared.started runs)
    ready := ready_goto trivial fun other _ => shared.ready other }

theorem Shared.takeMux (shared : Shared channel) {targetDuty : Nat} {maxFadeTimeMs : UInt32}
    (stage : channel.tasks task = .fadeLock targetDuty maxFadeTimeMs) (available : channel.mux = true) :
    Shared { channel.goto task (.fadeAcquire targetDuty maxFadeTimeMs) with mux := false } := by
  have free : Sole true fun task => (channel.tasks task).holdsMux = true := available ▸ shared.mux
  have takes : ((channel.goto task (.fadeAcquire targetDuty maxFadeTimeMs)).tasks task).holdsMux = true := by
    rw [goto_self]
    rfl
  exact { shared with
    sem := shared.sem.same (holds_goto_same stage rfl)
    mux := free.take takes fun one different => by rw [goto_other _ different]
    started := fun runs => starts_goto stage rfl (shared.started runs)
    ready := ready_goto trivial fun other _ => shared.ready other }

theorem Shared.giveMux (shared : Shared channel) (stage : channel.tasks task = .fadeUnlock) :
    Shared { channel.goto task .idle with mux := true } := by
  have held : (channel.tasks task).holdsMux = true := by
    rw [stage]
    rfl
  have gone : ¬ ((channel.goto task .idle).tasks task).holdsMux = true := by
    rw [goto_self]
    exact Bool.false_ne_true
  exact { shared with
    sem := shared.sem.same (holds_goto_same stage rfl)
    mux := shared.mux.give held gone fun one different => by rw [goto_other _ different]
    started := fun runs => starts_goto stage rfl (shared.started runs)
    ready := ready_goto trivial fun other _ => shared.ready other }

/-- The task hands the semaphore to its fade. -/
theorem Shared.enable (shared : Shared channel) (stage : channel.tasks task = .fadeEnable) :
    Shared { channel.goto task .fadeUpdate with intrEnabled := true, fsm := .hwFade } := by
  have held : channel.Holds (some task) := by
    rw [Channel.Holds, stage]
    rfl
  have ready := shared.ready task
  rw [stage] at ready
  obtain ⟨idle, quiet⟩ := shared.idle held
  have gone : ¬ (channel.goto task .fadeUpdate).Holds (some task) := by
    rw [holds_goto_self]
    exact Bool.false_ne_true
  have begins : Channel.Holds { channel.goto task .fadeUpdate with intrEnabled := true, fsm := .hwFade } none := by
    left
    exact fun same => by cases same
  have computes : channel.isr.reads = true ↔ Fsm.hwFade = .isrCal := by
    rw [shared.resting idle]
    exact iff_of_false Bool.false_ne_true (fun same => by cases same)
  have others : ∀ one, one ≠ some task → one ≠ none →
      (Channel.Holds { channel.goto task .fadeUpdate with intrEnabled := true, fsm := .hwFade } one ↔ channel.Holds one) := by
    intro one different tasks
    obtain ⟨other, rfl⟩ := Option.ne_none_iff_exists'.mp tasks
    exact holds_goto_other _ different
  exact { shared with
    sem := shared.sem.pass held gone begins others
    mux := shared.mux.same (mux_goto_same stage rfl)
    reads := computes
    gives := fun giving => absurd giving quiet
    killed := fun same => by cases same
    enabled := fun _ => rfl
    loaded := fun _ => ready
    started := fun _ => .inr ⟨task, by rw [goto_self]; rfl⟩
    ready := ready_goto trivial fun other _ => shared.ready other }

/-- Without a lock the hardware is started. While a fade runs its own configuration is there to start on. -/
theorem Shared.start (shared : Shared channel) (next : Task) (stage : channel.tasks task = current)
    (sem : next.holdsSem = current.holdsSem) (mux : next.holdsMux = current.holdsMux)
    (ready : next.Ready channel.fade channel.registers) : Shared (channel.goto task next).updateDuty :=
  { shared with
    sem := shared.sem.same (holds_goto_same stage sem)
    mux := shared.mux.same (mux_goto_same stage mux)
    started := fun runs => .inl (shared.loaded runs)
    ready := ready_goto ready fun other _ => shared.ready other }

end Holder

section Step
variable {channel after : Channel} {task : Nat}

theorem Shared.begin (shared : Shared channel) {call : Call} (begun : channel.begin task call = some after) :
    Shared after := by
  unfold Channel.begin at begun
  cases stage : channel.tasks task with
  | idle =>
    simp only [stage] at begun
    cases call with
    | setDuty duty =>
      cases begun
      exact shared.move (.setAcquire duty) stage rfl rfl rfl trivial
    | updateDuty =>
      cases begun
      exact shared.move .update stage rfl rfl rfl trivial
    | setFadeTimeAndStart targetDuty maxFadeTimeMs =>
      simp only at begun
      split at begun
      · cases begun
        exact shared.move (.fadeLock targetDuty maxFadeTimeMs) stage rfl rfl rfl trivial
      · cases begun
        exact shared
  | _ =>
    simp only [stage] at begun
    cases begun

theorem Shared.advance (shared : Shared channel) {reading : Channel.Reading}
    (stepped : channel.advance task reading = some after) : Shared after := by
  have ready := shared.ready task
  generalize stage : channel.tasks task = current at ready
  rw [Channel.advance, stage] at stepped
  cases current with
  | idle => cases stepped
  | setAcquire duty =>
    obtain ⟨available, moved⟩ := Option.ite_none_right_eq_some.mp stepped
    obtain rfl := Option.some.inj moved
    exact shared.takeSem (.setMask duty) stage available rfl rfl rfl trivial
  | setMask duty =>
    obtain rfl := Option.some.inj stepped
    exact shared.mask (.setConfig duty) stage rfl rfl rfl rfl trivial
  | setConfig duty =>
    obtain rfl := Option.some.inj stepped
    exact shared.write .setRelease channel.fade ⟨duty, .increase, 1, 1, 0⟩ stage rfl rfl rfl trivial
  | setRelease =>
    obtain rfl := Option.some.inj stepped
    exact shared.giveSem stage
  | update =>
    obtain rfl := Option.some.inj stepped
    exact shared.start .idle stage rfl rfl trivial
  | fadeLock targetDuty maxFadeTimeMs =>
    obtain ⟨available, moved⟩ := Option.ite_none_right_eq_some.mp stepped
    obtain rfl := Option.some.inj moved
    exact shared.takeMux stage available
  | fadeAcquire targetDuty maxFadeTimeMs =>
    obtain ⟨available, moved⟩ := Option.ite_none_right_eq_some.mp stepped
    obtain rfl := Option.some.inj moved
    exact shared.takeSem (.fadeMask targetDuty maxFadeTimeMs) stage available rfl rfl rfl trivial
  | fadeMask targetDuty maxFadeTimeMs =>
    obtain rfl := Option.some.inj stepped
    exact shared.mask (.fadeMeasure targetDuty maxFadeTimeMs) stage rfl rfl rfl rfl trivial
  | fadeMeasure targetDuty maxFadeTimeMs =>
    obtain rfl := Option.some.inj stepped
    exact shared.move (.fadeRecord targetDuty maxFadeTimeMs reading.duty reading.freq) stage rfl rfl rfl trivial
  | fadeRecord targetDuty maxFadeTimeMs dutyCur freq =>
    obtain rfl := Option.some.inj stepped
    exact shared.write (.fadeConfig _) _ channel.registers stage rfl rfl rfl (loads_setFadeWithTime ..)
  | fadeConfig config =>
    obtain rfl := Option.some.inj stepped
    exact shared.write .fadeClear channel.fade config stage rfl rfl rfl ready
  | fadeClear =>
    obtain rfl := Option.some.inj stepped
    exact { shared.move .fadeEnable stage rfl rfl rfl ready with }
  | fadeEnable =>
    have held : channel.Holds (some task) := by
      rw [Channel.Holds, stage]
      rfl
    obtain rfl := Option.some.inj ((if_pos (shared.idle held).1).symm.trans stepped)
    exact shared.enable stage
  | fadeUpdate =>
    obtain rfl := Option.some.inj stepped
    exact shared.start .fadeUnlock stage rfl rfl trivial
  | fadeUnlock =>
    obtain rfl := Option.some.inj stepped
    exact shared.giveMux stage

theorem Shared.turn (shared : Shared channel) (fsm : Fsm) (isr : Isr) (intrStatus : Bool)
    (fading : (fsm ≠ .idle ∨ isr = .give) ↔ channel.Fading) (reads : isr.reads = true ↔ fsm = .isrCal)
    (gives : isr = .give → fsm = .idle) (killed : fsm ≠ .killedPending) (running : fsm ≠ .idle → channel.fsm ≠ .idle)
    (prepared : isr.Prepared channel.fade) : Shared { channel with fsm, isr, intrStatus } := by
  have same : ∀ one, Channel.Holds { channel with fsm, isr, intrStatus } one ↔ channel.Holds one := by
    intro one
    cases one with
    | none => exact fading
    | some other => rfl
  exact { shared with
    sem := shared.sem.same same
    reads, gives, killed, prepared
    enabled := fun runs => shared.enabled (running runs)
    loaded := fun runs => shared.loaded (running runs)
    started := fun runs => shared.started (running runs) }

theorem Shared.interrupt (shared : Shared channel) (entered : channel.interrupt = some after) : Shared after := by
  unfold Channel.interrupt at entered
  split at entered
  · rename_i raised
    cases entered
    have reads := shared.reads
    rw [raised.1] at reads
    apply shared.turn channel.fsm .clear channel.intrStatus _ reads nofun shared.killed id trivial
    rw [Channel.Fading, raised.1]
    simp
  · cases entered

theorem Shared.check (shared : Shared channel) (entered : channel.isr = .check) {dutyCur : Nat}
    (stepped : channel.handle dutyCur = some after) : Shared after := by
  have reads := shared.reads
  have fading : channel.Fading ↔ channel.fsm ≠ .idle ∨ channel.isr = .give := Iff.rfl
  simp only [Channel.handle, entered] at stepped reads fading
  cases state : channel.fsm with
  | hwFade =>
    simp only [state] at stepped fading
    cases stepped
    apply shared.turn .isrCal .read channel.intrStatus _ (iff_of_true rfl rfl) nofun nofun _ trivial
    · rw [fading]
      simp
    · rw [state]
      exact fun _ same => by cases same
  | idle =>
    simp only [state] at stepped fading
    cases stepped
    have quiet : (false = true ↔ Fsm.idle = .isrCal) := iff_of_false Bool.false_ne_true nofun
    apply shared.turn .idle .idle channel.intrStatus _ quiet nofun nofun (fun runs => absurd rfl runs) trivial
    rw [fading]
    simp
  | isrCal => cases reads.mpr state
  | killedPending => exact absurd state shared.killed

/-- The handler ends the fade, or loads its next configuration and starts the hardware on it. -/
theorem Shared.commit (shared : Shared channel) {next : Option DutyConfig} (entered : channel.isr = .commit next)
    {dutyCur : Nat} (stepped : channel.handle dutyCur = some after) : Shared after := by
  have reads := shared.reads
  have prepared := shared.prepared
  have fading : channel.Fading ↔ channel.fsm ≠ .idle ∨ channel.isr = .give := Iff.rfl
  rw [entered] at prepared
  simp only [Channel.handle, entered] at stepped reads fading
  have state : channel.fsm = .isrCal := reads.mp rfl
  simp only [state] at stepped
  cases next with
  | none =>
    cases stepped
    apply shared.turn .idle .give channel.intrStatus _ (iff_of_false Bool.false_ne_true nofun) (fun _ => rfl) nofun _ trivial
    · rw [fading, state]
      simp
    · exact fun runs => absurd rfl runs
  | some config =>
    cases stepped
    have runs : channel.fsm ≠ .idle := by
      rw [state]
      exact nofun
    have holds : channel.Holds none := .inl runs
    have quiet : (false = true ↔ Fsm.hwFade = .isrCal) := iff_of_false Bool.false_ne_true nofun
    have moved : Shared { channel with fsm := .hwFade, isr := .idle, intrStatus := channel.intrStatus } := by
      apply shared.turn .hwFade .idle channel.intrStatus _ quiet nofun nofun (fun _ => runs) trivial
      rw [fading, state]
      simp
    exact { moved with
      loaded := fun _ => prepared
      started := fun _ => .inl prepared
      ready := fun other => shared.ready_of_others holds (Option.some_ne_none other) _ _ }

theorem Shared.release (shared : Shared channel) (entered : channel.isr = .give) :
    Shared { channel with sem := true, isr := .idle } := by
  have reads := shared.reads
  rw [entered] at reads
  have idle := shared.gives entered
  have holds : channel.Holds none := .inr entered
  have gone : ¬ Channel.Holds { channel with sem := true, isr := .idle } none := by
    rintro (runs | gives)
    · exact runs idle
    · cases gives
  have others : ∀ one, one ≠ none → (Channel.Holds { channel with sem := true, isr := .idle } one ↔ channel.Holds one) := by
    intro one tasks
    obtain ⟨other, rfl⟩ := Option.ne_none_iff_exists'.mp tasks
    exact Iff.rfl
  exact { shared with
    sem := shared.sem.give holds gone others
    reads := reads
    gives := fun gives => by cases gives
    prepared := trivial }

theorem Shared.handle (shared : Shared channel) {dutyCur : Nat} (stepped : channel.handle dutyCur = some after) :
    Shared after := by
  have reads := shared.reads
  have fading : channel.Fading ↔ channel.fsm ≠ .idle ∨ channel.isr = .give := Iff.rfl
  cases entered : channel.isr with
  | idle =>
    simp only [Channel.handle, entered] at stepped
    cases stepped
  | clear =>
    simp only [Channel.handle, entered] at stepped reads fading
    cases stepped
    apply shared.turn channel.fsm .check false _ reads nofun shared.killed id trivial
    rw [fading]
    simp
  | check => exact shared.check entered stepped
  | read =>
    simp only [Channel.handle, entered] at stepped reads fading
    cases stepped
    apply shared.turn channel.fsm (.commit _) channel.intrStatus _ reads nofun shared.killed id (loads_next ..)
    rw [fading]
    simp
  | commit => exact shared.commit entered stepped
  | give =>
    simp only [Channel.handle, entered] at stepped
    cases stepped
    exact shared.release entered

theorem Shared.raise (shared : Shared channel) : Shared { channel with intrStatus := true } := { shared with }

theorem Shared.step (shared : Shared channel) (action : Action) : Shared (perform action channel).2 := by
  have stepped : ∀ next : Option Channel, (∀ after, next = some after → Shared after) → Shared (next.getD channel) := by
    intro next kept
    cases next with
    | none => exact shared
    | some after => exact kept after rfl
  cases action with
  | call task call => exact stepped _ fun _ begun => shared.begin begun
  | task task reading => exact stepped _ fun _ advanced => shared.advance advanced
  | raise => exact shared.raise
  | interrupt => exact stepped _ fun _ entered => shared.interrupt entered
  | handler dutyCur => exact stepped _ fun _ handled => shared.handle handled

theorem Shared.trail (shared : Shared channel) (actions : List Action) : Shared (trail perform actions channel) := by
  induction actions generalizing channel with
  | nil => exact shared
  | cons action rest ih => exact ih (shared.step action)

end Step
end LaserDriver.Ledc
