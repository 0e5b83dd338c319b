import LaserDriver.Led.Allocation
import LaserDriver.Led.Failing

/-! Two tasks that set the colour of one LED. The mutex covers the copy of the slot only, so
the driver calls of the two may come in any order that keeps each task's own. -/

namespace LaserDriver.Led
open Effects Program

variable {capacity : Nat} {chance : Nat → Chance} {world : World capacity}

section Registers
variable {requests : List Request} {channel : Nat} {duty : UInt32}

def Writes (requests : List Request) : Prop := ∀ asked ∈ requests, ∃ channel duty, asked ∈ writeRequests channel duty

/-- Every write of a duty is made effective later. -/
def Settled (requests : List Request) : Prop :=
  ∀ before channel duty later, requests = before ++ .ledcSetDuty channel duty :: later → .ledcUpdateDuty channel ∈ later

theorem duty_after_unset (outputs : Outputs) (writes : Writes requests)
    (unset : ∀ value, .ledcSetDuty channel value ∉ requests) : (outputs.after (accepting requests)).duty channel =
      if .ledcUpdateDuty channel ∈ requests then outputs.written channel else outputs.duty channel := by
  induction requests generalizing outputs with
  | nil => rfl
  | cons asked rest ih =>
    have onwards := ih (outputs.take (.call asked true)) (fun other member => writes other (List.mem_cons_of_mem _ member))
      fun value member => unset value (List.mem_cons_of_mem _ member)
    obtain ⟨other, value, member⟩ := writes asked List.mem_cons_self
    simp only [writeRequests, List.mem_cons, List.not_mem_nil, or_false] at member
    rw [accepting, List.map_cons, Outputs.after_cons]
    refine onwards.trans ?_
    rcases member with rfl | rfl
    · have different : channel ≠ other := by
        intro equal
        subst equal
        exact unset value List.mem_cons_self
      simp [Outputs.take, different]
    · by_cases same : channel = other
      · subst same
        simp [Outputs.take]
      · simp [Outputs.take, same]

theorem duty_of_last {before rest : List Request} (outputs : Outputs) (writes : Writes rest)
    (unset : ∀ value, .ledcSetDuty channel value ∉ rest) (updated : .ledcUpdateDuty channel ∈ rest) :
    (outputs.after (accepting (before ++ .ledcSetDuty channel duty :: rest))).duty channel = duty := by
  rw [accepting, List.map_append, List.map_cons, Outputs.after_append, Outputs.after_cons]
  refine (duty_after_unset _ writes unset).trans ?_
  simp [updated, Outputs.take]

theorem settled_writesOf (duties : List (Nat × UInt32)) : Settled (writesOf duties) := by
  induction duties with
  | nil =>
    intro before channel duty later split
    cases before <;> cases split
  | cons first rest ih =>
    obtain ⟨other, value⟩ := first
    intro before channel duty later split
    have requests : writesOf ((other, value) :: rest) = .ledcSetDuty other value :: .ledcUpdateDuty other :: writesOf rest := rfl
    rw [requests] at split
    match before with
    | [] =>
      cases split
      exact List.mem_cons_self
    | [_] => cases split
    | _ :: _ :: before =>
      obtain ⟨-, -, tail⟩ : _ ∧ _ ∧ writesOf rest = before ++ .ledcSetDuty channel duty :: later := by
        simpa using split
      exact ih before channel duty later tail

theorem writes_writesOf (duties : List (Nat × UInt32)) : Writes (writesOf duties) := by
  intro asked member
  obtain ⟨⟨channel, duty⟩, -, member⟩ := List.mem_flatMap.mp member
  exact ⟨channel, duty, member⟩

theorem mem_writesOf {duties : List (Nat × UInt32)} :
    .ledcSetDuty channel duty ∈ writesOf duties ↔ (channel, duty) ∈ duties := by
  simp [writesOf, writeRequests]

end Registers

section Trace
variable {trace : List (Nat × Request)} {channel : Nat}

/-- The task that was the last one to write a duty to the channel, and that duty. -/
def LastWrite (trace : List (Nat × Request)) (channel task : Nat) (duty : UInt32) : Prop :=
  ∃ before rest, trace = before ++ (task, .ledcSetDuty channel duty) :: rest ∧
    ∀ value, .ledcSetDuty channel value ∉ rest.map Prod.snd

theorem LastWrite.mem {task : Nat} {duty : UInt32} (last : LastWrite trace channel task duty) :
    .ledcSetDuty channel duty ∈ Pool.ofTask task trace := by
  obtain ⟨before, rest, rfl, -⟩ := last
  exact Pool.mem_ofTask.mpr (List.mem_append_right _ List.mem_cons_self)

theorem exists_lastWrite (written : ∃ duty, .ledcSetDuty channel duty ∈ trace.map Prod.snd) :
    ∃ task duty, LastWrite trace channel task duty := by
  induction trace with
  | nil => exact written.elim nofun
  | cons first rest ih =>
    by_cases later : ∃ duty, .ledcSetDuty channel duty ∈ rest.map Prod.snd
    · obtain ⟨task, duty, before, after, rfl, unset⟩ := ih later
      exact ⟨task, duty, first :: before, after, rfl, unset⟩
    · obtain ⟨task, asked⟩ := first
      obtain ⟨duty, member⟩ := written
      rcases List.mem_cons.mp member with rfl | member
      · exact ⟨task, duty, [], rest, rfl, not_exists.mp later⟩
      · exact absurd ⟨duty, member⟩ later

/-- Where every task makes what it writes effective, the last write to a channel decides. -/
theorem duty_of_lastWrite {task : Nat} {duty : UInt32} (outputs : Outputs) (writes : Writes (trace.map Prod.snd))
    (settled : ∀ task, Settled (Pool.ofTask task trace)) (last : LastWrite trace channel task duty) :
    (outputs.after (accepting (trace.map Prod.snd))).duty channel = duty := by
  obtain ⟨before, rest, rfl, unset⟩ := last
  have own : Pool.ofTask task (before ++ (task, .ledcSetDuty channel duty) :: rest) =
      Pool.ofTask task before ++ .ledcSetDuty channel duty :: Pool.ofTask task rest := by
    simp [Pool.ofTask]
  have updated := Pool.mem_ofTask.mp (settled task _ channel duty _ own)
  rw [List.map_append, List.map_cons] at writes ⊢
  apply duty_of_last outputs _ unset (List.mem_map.mpr ⟨_, updated, rfl⟩)
  intro asked member
  exact writes asked (List.mem_append_right _ (List.mem_cons_of_mem _ member))

end Trace

/-- A call that has these driver calls left to make, all of them to be accepted. -/
inductive Scripted : Program (Op capacity) Reply → List Request → Prop where
  | done (reply : Reply) : Scripted (.pure reply) []
  | request {asked : Request} {next : Bool → Program (Op capacity) Reply} {rest : List Request}
      (onwards : Scripted (next true) rest) : Scripted (.request (.driver asked) next) (asked :: rest)

theorem scripted_writeDuty {rest : Program (Op capacity) CfgRet} {finish : CfgRet → Program (Op capacity) Reply}
    {requests : List Request} (channel : Nat) (duty : UInt32) (scripted : Scripted (rest >>= finish) requests) :
    Scripted (Cfg.writeDuty channel duty rest >>= finish) (writeRequests channel duty ++ requests) :=
  .request (.request scripted)

section Paint
variable {ledHandle : UInt8} {config : RgbConfig}

def colourRequests (config : RgbConfig) (color : Color) : List Request :=
  writesOf (config.duties (dutyFor config.activeLevel) color)

/-- A colour command that has these driver calls left: it has not begun, or it is past the copy of the slot. -/
def Painting (ledHandle : UInt8) (config : RgbConfig) (call : Call) (program : Program (Op capacity) Reply)
    (requests : List Request) : Prop :=
  (∃ color, call = .setLedRgbColor color ledHandle ∧ program = call.body ∧ requests = colourRequests config color) ∨
    Scripted program requests

/-- The copy of the slot is one step, after which the six driver calls are left. -/
theorem turn_setLedRgbColor (unlocked : world.mutex = .free) (led : world.led? ledHandle = some config.info) (color : Color) :
    ∃ rest, (Call.setLedRgbColor color ledHandle).body.turn Op.role (serve chance) world = (some rest, world) ∧
      Scripted rest (colourRequests config color) := by
  have shape : (Call.setLedRgbColor color ledHandle).body =
      (setLedRgbColor color ledHandle >>= fun ret => Pure.pure (.status ret) : Program (Op capacity) Reply) := rfl
  rw [shape, setLedRgbColor, onType, withLed_map, turn_withLed unlocked, led]
  refine ⟨_, rfl, ?_⟩
  have done : Scripted ((return .ok : Program (Op capacity) CfgRet) >>= fun ret => Pure.pure (.status ret.status)) [] :=
    .done _
  show Scripted ((Cfg.setLedRgbColor (dutyFor config.activeLevel color.redDuty) (dutyFor config.activeLevel color.greenDuty)
    (dutyFor config.activeLevel color.blueDuty) config >>= fun ret => Pure.pure ret.status) >>= fun ret =>
      Pure.pure (.status ret)) (colourRequests config color)
  rw [Program.bind_assoc]
  exact scripted_writeDuty _ _ (scripted_writeDuty _ _ (scripted_writeDuty _ _ done))

def Successful (chance : Nat → Chance) : Prop := ∀ time asked, (chance time).accepts asked = true

theorem turn_scripted {program rest : Program (Op capacity) Reply} {requests : List Request} {after : World capacity}
    (successful : Successful chance) (scripted : Scripted program requests)
    (turned : program.turn Op.role (serve chance) world = (some rest, after)) :
    (after = world ∧ Scripted rest requests) ∨
      ∃ asked later, requests = asked :: later ∧ after = world.extend [.call asked true] ∧ Scripted rest later := by
  cases scripted with
  | done reply =>
    obtain ⟨rfl, rfl⟩ : Program.pure reply = rest ∧ world = after := by simpa [turn] using turned
    exact .inl ⟨rfl, .done reply⟩
  | @request asked next later onwards =>
    have served : serve chance (.driver asked) world = (some true, world.extend [.call asked true]) := by
      simp [serve, successful world.clock asked, World.record, World.extend]
    rw [turn_operate rfl served] at turned
    obtain ⟨rfl, rfl⟩ : next true = rest ∧ world.extend [.call asked true] = after := by simpa using turned
    exact .inr ⟨asked, later, rfl, rfl, onwards⟩

theorem acts_painting (successful : Successful chance) :
    Pool.Acts Op.role (serve chance) (Painting ledHandle config)
      (fun (world : World capacity) asked => world.extend [.call asked true])
      fun world => world.mutex = .free ∧ world.led? ledHandle = some config.info := by
  intro world call program requests rest after ⟨unlocked, led⟩ painting turned
  rcases painting with ⟨color, rfl, rfl, rfl⟩ | scripted
  · obtain ⟨remaining, reached, scripted⟩ := @turn_setLedRgbColor capacity chance world ledHandle config unlocked led color
    obtain ⟨rfl, rfl⟩ : remaining = rest ∧ world = after := by simpa using reached.symm.trans turned
    exact ⟨⟨unlocked, led⟩, .inl ⟨rfl, .inr scripted⟩⟩
  · rcases turn_scripted successful scripted turned with ⟨rfl, kept⟩ | ⟨asked, later, rfl, rfl, onwards⟩
    · exact ⟨⟨unlocked, led⟩, .inl ⟨rfl, .inr kept⟩⟩
    · exact ⟨⟨unlocked, led⟩, .inr ⟨asked, later, rfl, rfl, .inr onwards⟩⟩

theorem painting_finished (inside : ledHandle.toNat < capacity) (call : Call) (reply : Reply) (requests : List Request)
    (painting : Painting ledHandle config call (.pure reply : Program (Op capacity) Reply) requests) : requests = [] := by
  rcases painting with ⟨color, rfl, body, -⟩ | scripted
  · have shape : (Call.setLedRgbColor color ledHandle).body =
        (setLedRgbColor color ledHandle >>= fun ret => Pure.pure (.status ret) : Program (Op capacity) Reply) := rfl
    rw [shape, setLedRgbColor, onType, withLed_map, withLed, dif_pos inside] at body
    cases body
  · cases scripted
    rfl

/-- Two tasks, each of which is about to set the LED to a colour of its own. -/
def bothPainting (world : World capacity) (ledHandle : UInt8) (color color' : Color) : Calls capacity where
  world := world
  running task := match task with
    | 0 => some (.setLedRgbColor color ledHandle, (Call.setLedRgbColor color ledHandle).body)
    | 1 => some (.setLedRgbColor color' ledHandle, (Call.setLedRgbColor color' ledHandle).body)
    | _ => none
  returned := []

/-- What the two make of it when no other call is begun. -/
abbrev Interleaves (chance : Nat → Chance) : Calls capacity → Calls capacity → Prop :=
  Relation.ReflTransGen (Pool.Step Op.role (serve chance) Call.body fun _ => False)

/-- The driver calls of the two, in the order in which they were made. -/
structure Merged (config : RgbConfig) (color color' : Color) (trace : List (Nat × Request)) : Prop where
  first : Pool.ofTask 0 trace = colourRequests config color
  second : Pool.ofTask 1 trace = colourRequests config color'
  others : ∀ task, 1 < task → Pool.ofTask task trace = []

theorem merged_of_interleaves {color color' : Color} {later : Calls capacity} (unlocked : world.mutex = .free)
    (led : world.led? ledHandle = some config.info) (successful : Successful chance)
    (run : Interleaves chance (bothPainting world ledHandle color color') later)
    (returned : later.running 0 = none ∧ later.running 1 = none) :
    ∃ trace, later.world.log = world.log ++ accepting (trace.map Prod.snd) ∧ Merged config color color' trace := by
  have inside := (World.led?_eq_some.mp led).1
  let planned : Nat → List Request := fun task => match task with
    | 0 => colourRequests config color
    | 1 => colourRequests config color'
    | _ => []
  have planned_acts : Pool.Remaining (Painting ledHandle config) (bothPainting world ledHandle color color') planned := by
    intro task
    match task with
    | 0 => exact .inl ⟨color, rfl, rfl, rfl⟩
    | 1 => exact .inl ⟨color', rfl, rfl, rfl⟩
    | _ + 2 => rfl
  obtain ⟨trace, left, reached, -, acting, split⟩ :=
    Pool.traced (acts_painting successful) (painting_finished inside) ⟨unlocked, led⟩ planned_acts run
  rw [foldl_extend] at reached
  have done : ∀ task, later.running task = none → Pool.ofTask task trace = planned task := by
    intro task idle
    have rest := acting task
    rw [idle] at rest
    rw [← split task, rest, List.append_nil]
  refine ⟨trace, by rw [reached]; rfl, done 0 returned.1, done 1 returned.2, ?_⟩
  intro task other
  have nothing : planned task = [] := by
    match task with
    | _ + 2 => rfl
  exact (List.append_eq_nil_iff.mp ((split task).trans nothing)).1

namespace Merged
variable {color color' : Color} {trace : List (Nat × Request)} (merged : Merged config color color' trace)
include merged

theorem settled (task : Nat) : Settled (Pool.ofTask task trace) := by
  match task with
  | 0 =>
    rw [merged.first]
    exact settled_writesOf _
  | 1 =>
    rw [merged.second]
    exact settled_writesOf _
  | task + 2 =>
    rw [merged.others _ (by omega)]
    exact settled_writesOf []

theorem writes : Writes (trace.map Prod.snd) := by
  intro asked member
  obtain ⟨⟨task, asked⟩, listed, rfl⟩ := List.mem_map.mp member
  have own := Pool.mem_ofTask.mpr listed
  match task with
  | 0 => exact writes_writesOf _ asked (merged.first ▸ own)
  | 1 => exact writes_writesOf _ asked (merged.second ▸ own)
  | task + 2 =>
    rw [merged.others _ (by omega)] at own
    cases own

theorem mem_of_last {channel task : Nat} {duty : UInt32} (last : LastWrite trace channel task duty) :
    task = 0 ∧ (channel, duty) ∈ config.duties (dutyFor config.activeLevel) color ∨
      task = 1 ∧ (channel, duty) ∈ config.duties (dutyFor config.activeLevel) color' := by
  have own := last.mem
  match task with
  | 0 =>
    rw [merged.first] at own
    exact .inl ⟨rfl, mem_writesOf.mp own⟩
  | 1 =>
    rw [merged.second] at own
    exact .inr ⟨rfl, mem_writesOf.mp own⟩
  | task + 2 =>
    rw [merged.others _ (by omega)] at own
    cases own

theorem exists_last {channel : Nat} (member : channel ∈ config.channels) :
    ∃ task duty, LastWrite trace channel task duty := by
  rw [← map_duties config (dutyFor config.activeLevel) color] at member
  obtain ⟨⟨channel, duty⟩, listed, rfl⟩ := List.mem_map.mp member
  have own := mem_writesOf.mpr listed
  rw [← colourRequests, ← merged.first, Pool.mem_ofTask] at own
  exact exists_lastWrite ⟨duty, List.mem_map.mpr ⟨_, own, rfl⟩⟩

end Merged

theorem duties_unique {f : UInt32 → UInt32} {color : Color} {channel : Nat} {duty value : UInt32}
    (distinct : config.channels.Nodup) (listed : (channel, duty) ∈ config.duties f color)
    (listed' : (channel, value) ∈ config.duties f color) : duty = value := by
  rw [← map_duties config f color] at distinct
  have same := List.inj_on_of_nodup_map distinct listed listed' rfl
  exact congrArg Prod.snd same

theorem shows_of_last {trace : List (Nat × Request)} {color : Color} {task : Nat} {outputs : Outputs}
    (distinct : config.channels.Nodup)
    (decides : ∀ channel duty, LastWrite trace channel task duty → outputs.duty channel = duty)
    (own : ∀ channel duty, LastWrite trace channel task duty →
      (channel, duty) ∈ config.duties (dutyFor config.activeLevel) color)
    (last : ∀ channel ∈ config.channels, ∃ duty, LastWrite trace channel task duty) : Shows config color outputs := by
  intro ⟨channel, duty⟩ listed
  obtain ⟨value, wrote⟩ := last channel (map_duties config _ color ▸ List.mem_map.mpr ⟨_, listed, rfl⟩)
  rw [decides channel value wrote]
  exact duties_unique distinct (own channel value wrote) listed

/-- Once both commands have returned each channel has the duty of the command that was the
last to write one to it. The LED shows one of the two colours when one command was the
last on all three channels. -/
theorem last_colour_written_stays {color color' : Color} {later : Calls capacity} (unlocked : world.mutex = .free)
    (led : world.led? ledHandle = some config.info) (successful : Successful chance)
    (run : Interleaves chance (bothPainting world ledHandle color color') later)
    (returned : later.running 0 = none ∧ later.running 1 = none) (outputs : Outputs) :
    ∃ trace, later.world.log = world.log ++ accepting (trace.map Prod.snd) ∧ Merged config color color' trace ∧
      (∀ channel ∈ config.channels, ∃ task duty, LastWrite trace channel task duty ∧
        (outputs.after later.world.log).duty channel = duty ∧
        (task = 0 ∧ (channel, duty) ∈ config.duties (dutyFor config.activeLevel) color ∨
          task = 1 ∧ (channel, duty) ∈ config.duties (dutyFor config.activeLevel) color')) ∧
      (config.channels.Nodup →
        ((∀ channel ∈ config.channels, ∃ duty, LastWrite trace channel 0 duty) →
          Shows config color (outputs.after later.world.log)) ∧
        ((∀ channel ∈ config.channels, ∃ duty, LastWrite trace channel 1 duty) →
          Shows config color' (outputs.after later.world.log))) := by
  obtain ⟨trace, issued, merged⟩ := merged_of_interleaves unlocked led successful run returned
  have decides : ∀ channel task duty, LastWrite trace channel task duty →
      (outputs.after later.world.log).duty channel = duty := by
    intro channel task duty last
    rw [issued, Outputs.after_append]
    exact duty_of_lastWrite _ merged.writes merged.settled last
  refine ⟨trace, issued, merged, ?_, ?_⟩
  · intro channel member
    obtain ⟨task, duty, last⟩ := merged.exists_last member
    exact ⟨task, duty, last, decides channel task duty last, merged.mem_of_last last⟩
  · intro distinct
    constructor
    · apply shows_of_last distinct (decides · 0)
      intro channel duty last
      rcases merged.mem_of_last last with ⟨-, own⟩ | ⟨other, -⟩
      · exact own
      · cases other
    · apply shows_of_last distinct (decides · 1)
      intro channel duty last
      rcases merged.mem_of_last last with ⟨other, -⟩ | ⟨-, own⟩
      · cases other
      · exact own

end Paint

def white : Color := ⟨255, 255, 255⟩

def black : Color := ⟨0, 0, 0⟩

/-- The steps of two tasks that set one LED to white and to black. -/
def paintedBy (schedule : List Nat) : Calls maxNbLed :=
  (bothPainting coloured 0 white black).follow Op.role (serve quiet) schedule

theorem last_colour_written_stays_alternating :
    ∃ trace, Merged threeColours white black trace ∧ ∀ channel ∈ threeColours.channels, ∃ task duty,
      LastWrite trace channel task duty ∧
        (Outputs.low.after (paintedBy [0, 1, 0, 1, 0, 1, 0, 1, 0, 1, 0, 1, 0, 1]).world.log).duty channel = duty := by
  have run := @Pool.reaches_follow _ _ _ _ Op.role (serve quiet) Call.body (fun _ => False)
    (bothPainting coloured 0 white black) [0, 1, 0, 1, 0, 1, 0, 1, 0, 1, 0, 1, 0, 1]
  obtain ⟨trace, -, merged, last, -⟩ :=
    @last_colour_written_stays maxNbLed quiet coloured 0 threeColours white black _ rfl rfl (fun _ _ => rfl) run
      ⟨rfl, rfl⟩ Outputs.low
  refine ⟨trace, merged, ?_⟩
  intro channel member
  obtain ⟨task, duty, wrote, shown, -⟩ := last channel member
  exact ⟨task, duty, wrote, shown⟩

/-- White is written to the red channel, then the other task writes black to all three, and then
white is written to green and blue: the LED shows neither. -/
theorem concurrent_colours_mix :
    let later := paintedBy [0, 0, 0, 1, 1, 1, 1, 1, 1, 1, 0, 0, 0, 0]
    let outputs := Outputs.low.after later.world.log
    coloured.led? 0 = some threeColours.info ∧ threeColours.channels.Nodup ∧ Successful quiet ∧
    Interleaves quiet (bothPainting coloured 0 white black) later ∧
    later.returned = [(.setLedRgbColor black 0, .status .ok), (.setLedRgbColor white 0, .status .ok)] ∧
    outputs.duty 0 = 0 ∧ outputs.duty 1 = 255 ∧ outputs.duty 2 = 255 ∧
    ¬ Shows threeColours white outputs ∧ ¬ Shows threeColours black outputs := by
  refine ⟨rfl, by decide, fun _ _ => rfl, Pool.reaches_follow _ _, rfl, rfl, rfl, rfl, ?_, ?_⟩
  · intro shows
    exact absurd (shows (0, 255) List.mem_cons_self) (by decide)
  · intro shows
    exact absurd (shows (1, 0) (List.mem_cons_of_mem _ List.mem_cons_self)) (by decide)

end LaserDriver.Led
