import LaserDriver.Adc.Locking
import LaserDriver.Led.Locking

/-! The two module mutexes, over every way through every entry point and over every
interleaving of the calls of any tasks. -/

namespace LaserDriver
open Effects Program

/-- The LED driver's exits in front of the take never touch the mutex. Every other way
through an entry point takes the mutex once and gives it once after that. -/
theorem mutexes_balanced (capacity : Nat) :
    (∀ (call : Adc.Call) (events : List Role) (reply : Adc.Reply), call.locks = true →
      Path Adc.Op.role call.body events reply → events = [.take, .give]) ∧
    (∀ (call : Led.Call) (events : List Role) (reply : Led.Reply), call.locks = true →
      Path Led.Op.role (call.body : Program (Led.Op capacity) Led.Reply) events reply →
        events = if call.skips capacity reply then [] else [.take, .give]) ∧
    Tasks.Exclusive Adc.Op.role (fun program => ∃ call : Adc.Call, program = call.body) ∧
    Tasks.Exclusive Led.Op.role
      (fun program : Program (Led.Op capacity) Led.Reply => ∃ call : Led.Call, program = call.body) := by
  refine ⟨?_, fun _ _ _ => Led.path_body, ?_, ?_⟩
  · intro call events reply locks path
    obtain touched | ⟨refused, -⟩ := (Adc.balanced_body locks).path path
    · exact touched
    · exact refused.elim
  · apply Tasks.exclusive
    rintro program ⟨call, rfl⟩
    exact Adc.balanced_call call
  · apply Tasks.exclusive
    rintro program ⟨call, rfl⟩
    exact Led.balanced_call call

theorem mutexes_balanced_in_range :
    Path Led.Op.role (Led.Call.body (.setLedSingleState 1 0) : Program (Led.Op Led.maxNbLed) Led.Reply)
      [.take, .give] (.status .error) ∧
    ∀ events, Path Led.Op.role (Led.Call.body (.setLedSingleState 1 0) : Program (Led.Op Led.maxNbLed) Led.Reply)
      events (.status .error) → events = [.take, .give] := by
  constructor
  · exact .request () (.request ⟨.single, false, .single ⟨0, .low⟩⟩ (.request () (.pure _)))
  · intro events path
    exact (mutexes_balanced Led.maxNbLed).2.1 _ events _ rfl path

/-- A handle outside the table is refused before the mutex is taken. -/
theorem refused_handle_leaves_mutex :
    ¬ ∀ (call : Led.Call) (events : List Role) (reply : Led.Reply), call.locks = true →
      Path Led.Op.role (call.body : Program (Led.Op Led.maxNbLed) Led.Reply) events reply → events = [.take, .give] := by
  intro always
  have touched := always (.setLedSingleState 1 255) [] (.status .error) rfl (.pure _)
  cases touched

end LaserDriver
