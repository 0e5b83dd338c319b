import Mathlib.Logic.Function.Basic
import LaserDriver.Led.Duties

/-! The outputs of the peripherals, read off what was issued to them. A call that was
refused changes nothing. -/

namespace LaserDriver.Led
open Effects Program

/-- The level of each pin; for each channel of the LEDC the duty written to it, the duty
in effect and the number of fades started. -/
structure Outputs where
  level : UInt8 → Bool
  written : Nat → UInt32
  duty : Nat → UInt32
  fades : Nat → Nat

namespace Outputs

/-- `ledc_set_duty` has no effect on the output before `ledc_update_duty`, and
`ledc_channel_config` does both. -/
def take (outputs : Outputs) : Issued → Outputs
  | .call (.gpioSetLevel gpioNum level) true => { outputs with level := Function.update outputs.level gpioNum level }
  | .call (.ledcChannelConfig config) true =>
    { outputs with
      written := Function.update outputs.written config.channel config.duty
      duty := Function.update outputs.duty config.channel config.duty }
  | .call (.ledcSetDuty channel duty) true => { outputs with written := Function.update outputs.written channel duty }
  | .call (.ledcUpdateDuty channel) true =>
    { outputs with duty := Function.update outputs.duty channel (outputs.written channel) }
  | .call (.ledcSetFadeTimeAndStart channel _ _) true =>
    { outputs with fades := Function.update outputs.fades channel (outputs.fades channel + 1) }
  | _ => outputs

def after (outputs : Outputs) (issued : List Issued) : Outputs := issued.foldl take outputs

@[simp] theorem after_nil (outputs : Outputs) : outputs.after [] = outputs := rfl

@[simp] theorem after_cons (outputs : Outputs) (issued : Issued) (rest : List Issued) :
    outputs.after (issued :: rest) = (outputs.take issued).after rest := rfl

@[simp] theorem after_append (outputs : Outputs) (first second : List Issued) :
    outputs.after (first ++ second) = (outputs.after first).after second := List.foldl_append

@[simp] theorem take_refused (outputs : Outputs) (asked : Request) : outputs.take (.call asked false) = outputs := by
  cases asked <;> rfl

def low : Outputs := ⟨fun _ => false, fun _ => 0, fun _ => 0, fun _ => 0⟩

end Outputs

def writesOf (duties : List (Nat × UInt32)) : List Request := duties.flatMap fun (channel, duty) => writeRequests channel duty

def fadesOf (fadeTimeMs : UInt32) (targets : List (Nat × UInt32)) : List Request :=
  targets.map fun (channel, targetDuty) => .ledcSetFadeTimeAndStart channel targetDuty fadeTimeMs

/-- The duties in effect after those of the list have been written in order. -/
def wrote (duty : Nat → UInt32) (duties : List (Nat × UInt32)) : Nat → UInt32 :=
  duties.foldl (fun duty (channel, value) => Function.update duty channel value) duty

def started (fades : Nat → Nat) (channels : List Nat) : Nat → Nat :=
  channels.foldl (fun fades channel => Function.update fades channel (fades channel + 1)) fades

theorem wrote_other {duties : List (Nat × UInt32)} {channel : Nat} (duty : Nat → UInt32)
    (other : channel ∉ duties.map Prod.fst) : wrote duty duties channel = duty channel := by
  induction duties generalizing duty with
  | nil => rfl
  | cons first rest ih =>
    rw [List.map_cons, List.mem_cons, not_or] at other
    exact (ih _ other.2).trans (Function.update_of_ne other.1 _ _)

theorem wrote_listed {duties : List (Nat × UInt32)} {entry : Nat × UInt32} (duty : Nat → UInt32)
    (distinct : (duties.map Prod.fst).Nodup) (listed : entry ∈ duties) : wrote duty duties entry.1 = entry.2 := by
  induction duties generalizing duty with
  | nil => cases listed
  | cons first rest ih =>
    rw [List.map_cons, List.nodup_cons] at distinct
    rcases List.mem_cons.mp listed with rfl | later
    · exact (wrote_other _ distinct.1).trans (Function.update_self _ _ _)
    · exact ih _ distinct.2 later

theorem after_accepting_writes (outputs : Outputs) (duties : List (Nat × UInt32)) :
    (outputs.after (accepting (writesOf duties))).duty = wrote outputs.duty duties := by
  induction duties generalizing outputs with
  | nil => rfl
  | cons first rest ih =>
    obtain ⟨channel, duty⟩ := first
    have requests : accepting (writesOf ((channel, duty) :: rest)) =
        .call (.ledcSetDuty channel duty) true :: .call (.ledcUpdateDuty channel) true :: accepting (writesOf rest) := rfl
    rw [requests, Outputs.after_cons, Outputs.after_cons, ih]
    simp [Outputs.take, wrote]

theorem started_other {channels : List Nat} {channel : Nat} (fades : Nat → Nat) (other : channel ∉ channels) :
    started fades channels channel = fades channel := by
  induction channels generalizing fades with
  | nil => rfl
  | cons first rest ih =>
    rw [List.mem_cons, not_or] at other
    exact (ih _ other.2).trans (Function.update_of_ne other.1 _ _)

def Shows (config : RgbConfig) (color : Color) (outputs : Outputs) : Prop :=
  ∀ entry ∈ config.duties (dutyFor config.activeLevel) color, outputs.duty entry.1 = entry.2

variable {chance : Nat → Chance}

def StoppedAt (requests : List Request) (issued : List Issued) : Prop :=
  ∃ asked ∈ requests, issued.getLast? = some (.call asked false)

theorem StoppedAt.cons {requests : List Request} {rest : List Issued} (stopped : StoppedAt requests rest)
    (issued : Issued) : StoppedAt requests (issued :: rest) := by
  obtain ⟨asked, member, last⟩ := stopped
  refine ⟨asked, member, ?_⟩
  rw [List.getLast?_cons, last, Option.getD_some]

/-- However the writing goes, the channels at the front of the list have their new duty and
nothing else is changed. When a call is refused it belongs to the channel after these. -/
theorem after_writes (outputs : Outputs) (clock : Nat) (duties : List (Nat × UInt32)) :
    ∃ count, (accepted chance clock (writesOf duties) = false → ∃ channel duty, duties[count]? = some (channel, duty) ∧
        StoppedAt (writeRequests channel duty) (attempted chance clock (writesOf duties))) ∧
      (outputs.after (attempted chance clock (writesOf duties))).duty = wrote outputs.duty (duties.take count) ∧
      (outputs.after (attempted chance clock (writesOf duties))).fades = outputs.fades := by
  induction duties generalizing outputs clock with
  | nil => exact ⟨0, nofun, rfl, rfl⟩
  | cons first rest ih =>
    obtain ⟨channel, duty⟩ := first
    have requests : writesOf ((channel, duty) :: rest) = .ledcSetDuty channel duty :: .ledcUpdateDuty channel :: writesOf rest := rfl
    rw [requests]
    by_cases set : (chance clock).accepts (.ledcSetDuty channel duty) = true
    · by_cases updated : (chance (clock + 1)).accepts (.ledcUpdateDuty channel) = true
      · let reached : Outputs := { outputs with
          written := Function.update outputs.written channel duty
          duty := Function.update outputs.duty channel duty }
        have next : (outputs.take (.call (.ledcSetDuty channel duty) true)).take (.call (.ledcUpdateDuty channel) true) =
            reached := by
          simp [Outputs.take, reached]
        obtain ⟨count, stopped, written, kept⟩ := ih reached (clock + 1 + 1)
        rw [attempted, if_pos set, attempted, if_pos updated, Outputs.after_cons, Outputs.after_cons, next]
        refine ⟨count + 1, ?_, written, kept⟩
        intro refused
        rw [accepted, accepted, set, updated, Bool.true_and, Bool.true_and] at refused
        obtain ⟨other, value, found, last⟩ := stopped refused
        exact ⟨other, value, found, (last.cons _).cons _⟩
      · rw [attempted, if_pos set, attempted, if_neg updated, Outputs.after_cons, Outputs.after_cons, Outputs.take_refused]
        exact ⟨0, fun _ => ⟨channel, duty, rfl, .ledcUpdateDuty channel, by simp [writeRequests], rfl⟩, rfl, rfl⟩
    · rw [attempted, if_neg set, Outputs.after_cons, Outputs.take_refused]
      exact ⟨0, fun _ => ⟨channel, duty, rfl, .ledcSetDuty channel duty, by simp [writeRequests], rfl⟩, rfl, rfl⟩

theorem after_fades (outputs : Outputs) (clock : Nat) (fadeTimeMs : UInt32) (targets : List (Nat × UInt32)) :
    ∃ count, (accepted chance clock (fadesOf fadeTimeMs targets) = false →
        ∃ channel targetDuty, targets[count]? = some (channel, targetDuty) ∧
          StoppedAt [.ledcSetFadeTimeAndStart channel targetDuty fadeTimeMs]
            (attempted chance clock (fadesOf fadeTimeMs targets))) ∧
      (outputs.after (attempted chance clock (fadesOf fadeTimeMs targets))).fades =
        started outputs.fades ((targets.map Prod.fst).take count) ∧
      (outputs.after (attempted chance clock (fadesOf fadeTimeMs targets))).duty = outputs.duty := by
  induction targets generalizing outputs clock with
  | nil => exact ⟨0, nofun, rfl, rfl⟩
  | cons first rest ih =>
    obtain ⟨channel, targetDuty⟩ := first
    have requests : fadesOf fadeTimeMs ((channel, targetDuty) :: rest) =
        .ledcSetFadeTimeAndStart channel targetDuty fadeTimeMs :: fadesOf fadeTimeMs rest := rfl
    rw [requests]
    by_cases begun : (chance clock).accepts (.ledcSetFadeTimeAndStart channel targetDuty fadeTimeMs) = true
    · obtain ⟨count, stopped, faded, kept⟩ :=
        ih (outputs.take (.call (.ledcSetFadeTimeAndStart channel targetDuty fadeTimeMs) true)) (clock + 1)
      rw [attempted, if_pos begun, Outputs.after_cons]
      refine ⟨count + 1, ?_, faded, kept⟩
      intro refused
      rw [accepted, begun, Bool.true_and] at refused
      obtain ⟨other, value, found, last⟩ := stopped refused
      exact ⟨other, value, found, last.cons _⟩
    · rw [attempted, if_neg begun, Outputs.after_cons, Outputs.take_refused]
      exact ⟨0, fun _ => ⟨channel, targetDuty, rfl, _, List.mem_singleton.mpr rfl, rfl⟩, rfl, rfl⟩

end LaserDriver.Led
