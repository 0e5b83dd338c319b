import LaserDriver.Led.Hardware

/-! What a colour command leaves behind when it fails. The channels are programmed one
after the other, and the first call that is refused ends the command. -/

namespace LaserDriver.Led
open Effects Program

variable {capacity : Nat} {chance : Nat → Chance} {world after : World capacity} {ledHandle : UInt8}

/-- No channel of the LED has another duty, and no fade was started on one. -/
def Untouched (config : RgbConfig) (before after : Outputs) : Prop :=
  ∀ channel ∈ config.channels, after.duty channel = before.duty channel ∧ after.fades channel = before.fades channel

/-- The channels before the one of the refused call are changed, and nothing else is. -/
structure FrontChanged (config : RgbConfig) (count : Nat) (before after : Outputs) : Prop where
  duty : ∀ channel ∉ config.channels.take count, after.duty channel = before.duty channel
  fades : ∀ channel ∉ config.channels.take count, after.fades channel = before.fades channel

section Failed
variable {config : RgbConfig} (unlocked : world.mutex = .free) (led : world.led? ledHandle = some config.info)
include unlocked led

theorem refused_of_error {call : Call} (operates : call.ledHandle? = some ledHandle) (serves : call.serves .rgb = true)
    (failed : perform chance call world = (some (.status .error), after)) :
    accepted chance world.clock (call.asks (.rgb config)) = false ∧
      issuedBy chance call world = attempted chance world.clock (call.asks (.rgb config)) := by
  have checks : call.checks = true := by
    cases call <;> first | rfl | cases serves
  have returned := @perform_served capacity chance world ledHandle config.info unlocked led call operates serves
  have issued := @issuedBy_served capacity chance world call ledHandle config.info (.rgb config) unlocked led operates
    serves rfl
  simp only [Call.exchange, checks, if_true] at returned issued
  refine ⟨?_, issued⟩
  cases all : accepted chance world.clock (call.asks (.rgb config)) with
  | false => rfl
  | true =>
    have status := congrArg Prod.fst (failed.symm.trans returned)
    have seen : config.info.seen chance world = (.rgb config, world) := rfl
    rw [seen, all] at status
    cases status

theorem failed_set_changes_front (color : Color) (outputs : Outputs)
    (failed : perform chance (.setLedRgbColor color ledHandle) world = (some (.status .error), after)) :
    ∃ count channel, config.channels[count]? = some channel ∧
      (∃ duty, StoppedAt (writeRequests channel duty) (issuedBy chance (.setLedRgbColor color ledHandle) world)) ∧
      (outputs.after (issuedBy chance (.setLedRgbColor color ledHandle) world)).duty =
        wrote outputs.duty ((config.duties (dutyFor config.activeLevel) color).take count) ∧
      FrontChanged config count outputs (outputs.after (issuedBy chance (.setLedRgbColor color ledHandle) world)) := by
  obtain ⟨refused, issued⟩ := refused_of_error unlocked led rfl rfl failed
  obtain ⟨count, stopped, written, kept⟩ :=
    @after_writes chance outputs world.clock (config.duties (dutyFor config.activeLevel) color)
  obtain ⟨channel, duty, found, last⟩ := stopped refused
  rw [issued]
  refine ⟨count, channel, ?_, ⟨duty, last⟩, written, ?_, fun channel _ => congrFun kept channel⟩
  · rw [← map_duties config (dutyFor config.activeLevel) color, List.getElem?_map, found]
    rfl
  · intro other outside
    refine (congrFun written other).trans (wrote_other _ ?_)
    rw [List.map_take, map_duties]
    exact outside

theorem failed_fade_changes_front (color : Color) (fadeTimeMs : UInt32) (outputs : Outputs)
    (failed : perform chance (.fadeLedRgbColor color fadeTimeMs ledHandle) world = (some (.status .error), after)) :
    ∃ count channel, config.channels[count]? = some channel ∧
      (∃ targetDuty, StoppedAt [.ledcSetFadeTimeAndStart channel targetDuty fadeTimeMs]
        (issuedBy chance (.fadeLedRgbColor color fadeTimeMs ledHandle) world)) ∧
      (outputs.after (issuedBy chance (.fadeLedRgbColor color fadeTimeMs ledHandle) world)).fades =
        started outputs.fades (config.channels.take count) ∧
      FrontChanged config count outputs
        (outputs.after (issuedBy chance (.fadeLedRgbColor color fadeTimeMs ledHandle) world)) := by
  obtain ⟨refused, issued⟩ := refused_of_error unlocked led rfl rfl failed
  obtain ⟨count, stopped, faded, kept⟩ :=
    @after_fades chance outputs world.clock fadeTimeMs (config.duties (inverse config.activeLevel) color)
  obtain ⟨channel, targetDuty, found, last⟩ := stopped refused
  rw [issued]
  refine ⟨count, channel, ?_, ⟨targetDuty, last⟩, faded, fun channel _ => congrFun kept channel, ?_⟩
  · rw [← map_duties config (inverse config.activeLevel) color, List.getElem?_map, found]
    rfl
  · intro other outside
    exact (congrFun faded other).trans (started_other _ outside)

/-- A colour command that failed was refused at one of the channels. The channels before it
have their new duty, or one fade more, and it and the channels after it are untouched. -/
theorem failed_colour_changes_front (color : Color) (outputs : Outputs) :
    (∀ after, perform chance (.setLedRgbColor color ledHandle) world = (some (.status .error), after) →
      ∃ count channel, config.channels[count]? = some channel ∧
        (∃ duty, StoppedAt (writeRequests channel duty) (issuedBy chance (.setLedRgbColor color ledHandle) world)) ∧
        (outputs.after (issuedBy chance (.setLedRgbColor color ledHandle) world)).duty =
          wrote outputs.duty ((config.duties (dutyFor config.activeLevel) color).take count) ∧
        FrontChanged config count outputs (outputs.after (issuedBy chance (.setLedRgbColor color ledHandle) world))) ∧
    ∀ fadeTimeMs after, perform chance (.fadeLedRgbColor color fadeTimeMs ledHandle) world = (some (.status .error), after) →
      ∃ count channel, config.channels[count]? = some channel ∧
        (∃ targetDuty, StoppedAt [.ledcSetFadeTimeAndStart channel targetDuty fadeTimeMs]
          (issuedBy chance (.fadeLedRgbColor color fadeTimeMs ledHandle) world)) ∧
        (outputs.after (issuedBy chance (.fadeLedRgbColor color fadeTimeMs ledHandle) world)).fades =
          started outputs.fades (config.channels.take count) ∧
        FrontChanged config count outputs
          (outputs.after (issuedBy chance (.fadeLedRgbColor color fadeTimeMs ledHandle) world)) := by
  constructor
  · intro after failed
    exact failed_set_changes_front unlocked led color outputs failed
  · intro fadeTimeMs after failed
    exact failed_fade_changes_front unlocked led color fadeTimeMs outputs failed

end Failed

/-- The range check of the fades, and a green channel that takes no duty. -/
def greenFails : Nat → Chance :=
  fun time => { quiet time with accepts := fun
    | .ledcSetDuty channel _ => channel ≠ 1
    | asked => (eightBit time).accepts asked }

theorem failed_colour_changes_front_green :
    ∃ count channel, threeColours.channels[count]? = some channel ∧
      (∃ duty, StoppedAt (writeRequests channel duty) (issuedBy greenFails (.setLedRgbColor ⟨255, 255, 255⟩ 0) coloured)) ∧
      (Outputs.low.after (issuedBy greenFails (.setLedRgbColor ⟨255, 255, 255⟩ 0) coloured)).duty =
        wrote Outputs.low.duty ((threeColours.duties (dutyFor .high) ⟨255, 255, 255⟩).take count) ∧
      FrontChanged threeColours count Outputs.low
        (Outputs.low.after (issuedBy greenFails (.setLedRgbColor ⟨255, 255, 255⟩ 0) coloured)) :=
  (failed_colour_changes_front rfl rfl ⟨255, 255, 255⟩ Outputs.low).1 _ rfl

/-- White on a LED whose green channel fails: the command reports an error and the LED is red. -/
theorem failed_colour_leaves_red :
    let before := Outputs.low.after coloured.log
    let after := before.after (issuedBy greenFails (.setLedRgbColor ⟨255, 255, 255⟩ 0) coloured)
    coloured.led? 0 = some threeColours.info ∧
    (∀ time channel targetDuty fadeTimeMs, 256 < targetDuty →
      (greenFails time).accepts (.ledcSetFadeTimeAndStart channel targetDuty fadeTimeMs) = false) ∧
    (perform greenFails (.setLedRgbColor ⟨255, 255, 255⟩ 0) coloured).1 = some (.status .error) ∧
    before.duty 0 = 0 ∧ after.duty 0 = 255 ∧ after.duty 1 = 0 ∧ ¬ Untouched threeColours before after := by
  refine ⟨rfl, ?_, rfl, rfl, rfl, rfl, ?_⟩
  · intro time channel targetDuty fadeTimeMs large
    exact decide_eq_false (UInt32.not_le.mpr large)
  · intro untouched
    have red := (untouched 0 List.mem_cons_self).1
    exact absurd red (by decide)

end LaserDriver.Led
