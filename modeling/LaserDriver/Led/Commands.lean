import Mathlib.Data.List.Basic
import LaserDriver.Led.Codes
import LaserDriver.Led.Hardware

/-! Runs of additions and commands that set a LED. Where the peripherals accept everything,
the outputs of each LED follow the last command given to it. -/

namespace LaserDriver.Led
open Effects Program

variable {capacity : Nat} {chance : Nat → Chance} {world : World capacity}

namespace LedConfig

def Apart (config other : LedConfig) : Prop :=
  config.pins.Disjoint other.pins ∧ config.channels.Disjoint other.channels

theorem Apart.symm {config other : LedConfig} (apart : Apart config other) : Apart other config :=
  ⟨fun _ mine yours => apart.1 yours mine, fun _ mine yours => apart.2 yours mine⟩

end LedConfig

def Call.state? : Call → Option UInt8
  | .setLedSingleState state _ => some state
  | _ => none

def Call.dutyCycle? : Call → Option UInt32
  | .setLedSinglePwmDuty dutyCycle _ => some dutyCycle
  | _ => none

def Call.color? : Call → Option Color
  | .setLedRgbColor color _ => some color
  | _ => none

section Record
variable {β : Type} {record : List (Call × Reply)} {ledHandle : UInt8} {call : Call} {reply : Reply}

def Silent (ledHandle : UInt8) (entry : Call × Reply) : Prop :=
  entry.1.ledHandle? = some ledHandle → entry.2 ≠ .status .ok

def commanded (part : Call → Option β) (ledHandle : UInt8) (entry : Call × Reply) : Option β :=
  if entry.1.ledHandle? = some ledHandle ∧ entry.2 = .status .ok then part entry.1 else none

/-- What was last commanded on the handle with success. -/
def lastCommanded (part : Call → Option β) (record : List (Call × Reply)) (ledHandle : UInt8) : Option β :=
  (record.filterMap (commanded part ledHandle)).getLast?

theorem commanded_silent {entry : Call × Reply} (part : Call → Option β) (silent : Silent ledHandle entry) :
    commanded part ledHandle entry = none := by
  apply if_neg
  intro ⟨operates, succeeded⟩
  exact silent operates succeeded

theorem lastCommanded_snoc (part : Call → Option β) (entry : Call × Reply) :
    lastCommanded part (record ++ [entry]) ledHandle =
      (commanded part ledHandle entry).or (lastCommanded part record ledHandle) := by
  cases given : commanded part ledHandle entry <;> simp [lastCommanded, given]

theorem lastCommanded_silent {entry : Call × Reply} (part : Call → Option β) (silent : Silent ledHandle entry) :
    lastCommanded part (record ++ [entry]) ledHandle = lastCommanded part record ledHandle := by
  rw [lastCommanded_snoc, commanded_silent part silent, Option.none_or]

theorem lastCommanded_given {part : Call → Option β} {value : β} (operates : call.ledHandle? = some ledHandle)
    (gives : part call = some value) :
    lastCommanded part (record ++ [(call, .status .ok)]) ledHandle = some value := by
  have given : commanded part ledHandle (call, .status .ok) = some value := by
    rw [commanded, if_pos ⟨operates, rfl⟩, gives]
  rw [lastCommanded_snoc, given, Option.some_or]

def Uncommanded (record : List (Call × Reply)) (ledHandle : UInt8) : Prop := ∀ entry ∈ record, Silent ledHandle entry

theorem Uncommanded.last (uncommanded : Uncommanded record ledHandle) (part : Call → Option β) :
    lastCommanded part record ledHandle = none := by
  have nothing : record.filterMap (commanded part ledHandle) = [] :=
    List.filterMap_eq_nil_iff.mpr fun entry member => commanded_silent part (uncommanded entry member)
  rw [lastCommanded, nothing, List.getLast?_nil]

theorem Uncommanded.snoc {entry : Call × Reply} (uncommanded : Uncommanded record ledHandle) (silent : Silent ledHandle entry) :
    Uncommanded (record ++ [entry]) ledHandle := by
  intro other member
  rcases List.mem_append.mp member with before | new
  · exact uncommanded other before
  · exact List.mem_singleton.mp new ▸ silent

end Record

def Call.sets : Call → Bool
  | .addLedSingle _ | .addLedSinglePwm _ | .addLedRgb _ => true
  | .setLedSingleState _ _ | .setLedSinglePwmDuty _ _ | .setLedRgbColor _ _ => true
  | _ => false

/-- The duty a channel is configured with. -/
def setupDuty (activeLevel : ActiveLevel) : UInt32 := if activeLevel = .low then maxPwmDuty else minPwmDuty

/-- The channels with the component of a colour each is for. -/
def RgbConfig.components (config : RgbConfig) : List (Nat × (Color → UInt32)) :=
  [(config.redChannel, Color.redDuty), (config.greenChannel, Color.greenDuty), (config.blueChannel, Color.blueDuty)]

/-- The outputs of a LED are those of the last command given to it, or of its setup. -/
def LedConfig.Shown (record : List (Call × Reply)) (ledHandle : UInt8) (outputs : Outputs) : LedConfig → Prop
  | .single config =>
    outputs.level config.gpioNum =
      (lastCommanded Call.state? record ledHandle).elim (!(config.activeLevel = .high)) (levelFor · config)
  | .singlePwm config =>
    outputs.duty config.ledChannel =
      (lastCommanded Call.dutyCycle? record ledHandle).elim (setupDuty config.activeLevel) (dutyFor config.activeLevel)
  | .rgb config =>
    ∀ component ∈ config.components, outputs.duty component.1 =
      (lastCommanded Call.color? record ledHandle).elim (setupDuty config.activeLevel) fun color =>
        dutyFor config.activeLevel (component.2 color)

section Frame
variable {config : LedConfig} {requests : List Request}

def Request.Within (config : LedConfig) : Request → Prop
  | .gpioSetLevel gpioNum _ => gpioNum ∈ config.pins
  | .ledcChannelConfig channel => channel.channel ∈ config.channels
  | .ledcSetDuty channel _ | .ledcUpdateDuty channel => channel ∈ config.channels
  | _ => True

theorem after_within (outputs : Outputs) (within : ∀ asked ∈ requests, asked.Within config) :
    (∀ gpioNum ∉ config.pins, (outputs.after (accepting requests)).level gpioNum = outputs.level gpioNum) ∧
      ∀ channel ∉ config.channels, (outputs.after (accepting requests)).duty channel = outputs.duty channel := by
  induction requests generalizing outputs with
  | nil => exact ⟨fun _ _ => rfl, fun _ _ => rfl⟩
  | cons asked rest ih =>
    obtain ⟨level, duty⟩ := ih (outputs.take (.call asked true)) fun other member => within other (List.mem_cons_of_mem _ member)
    have reaches := within asked List.mem_cons_self
    constructor
    · intro gpioNum outside
      refine (level gpioNum outside).trans ?_
      cases asked with
      | gpioSetLevel other value => exact Function.update_of_ne (ne_of_mem_of_not_mem reaches outside).symm _ _
      | _ => rfl
    · intro channel outside
      refine (duty channel outside).trans ?_
      cases asked with
      | ledcChannelConfig other => exact Function.update_of_ne (ne_of_mem_of_not_mem reaches outside).symm _ _
      | ledcUpdateDuty other => exact Function.update_of_ne (ne_of_mem_of_not_mem reaches outside).symm _ _
      | _ => rfl

theorem setup_within {call : Call} {ledType : LedType} (adds : call.addition? = some (ledType, config)) :
    ∀ asked ∈ call.setupRequests, asked.Within config := by
  cases call <;> cases adds
  all_goals simp [Call.setupRequests, Request.Within, LedConfig.pins, LedConfig.channels, RgbConfig.channels, channelRequest]

theorem asks_within (call : Call) : ∀ asked ∈ call.asks config, asked.Within config := by
  cases call <;> cases config
  all_goals simp [Call.asks, writeRequests, Request.Within, LedConfig.pins, LedConfig.channels, RgbConfig.channels]

theorem LedConfig.Shown.frame {record record' : List (Call × Reply)} {ledHandle : UInt8} {outputs after : Outputs}
    (shown : config.Shown record ledHandle outputs)
    (level : ∀ gpioNum ∈ config.pins, after.level gpioNum = outputs.level gpioNum)
    (duty : ∀ channel ∈ config.channels, after.duty channel = outputs.duty channel)
    (same : ∀ {β : Type} (part : Call → Option β),
      lastCommanded part record' ledHandle = lastCommanded part record ledHandle) :
    config.Shown record' ledHandle after := by
  cases config with
  | single config =>
    rw [Shown, same, level _ (List.mem_singleton.mpr rfl)]
    exact shown
  | singlePwm config =>
    rw [Shown, same, duty _ (List.mem_singleton.mpr rfl)]
    exact shown
  | rgb config =>
    intro component member
    have listed : component.1 ∈ config.channels := List.mem_map.mpr ⟨component, member, rfl⟩
    rw [same, duty _ listed]
    exact shown component member

theorem shown_setup {call : Call} {ledType : LedType} {record : List (Call × Reply)} {ledHandle : UInt8} (outputs : Outputs)
    (adds : call.addition? = some (ledType, config)) (uncommanded : Uncommanded record ledHandle) :
    config.Shown record ledHandle (outputs.after (accepting call.setupRequests)) := by
  cases call <;> cases adds
  · rw [LedConfig.Shown, uncommanded.last]
    simp [Call.setupRequests, accepting, Outputs.take]
  · rw [LedConfig.Shown, uncommanded.last]
    simp [Call.setupRequests, accepting, Outputs.take, channelRequest, setupDuty]
  · rw [LedConfig.Shown, uncommanded.last]
    simp [Call.setupRequests, accepting, Outputs.take, channelRequest, setupDuty, RgbConfig.components, Function.update_apply]

theorem components_duties (config : RgbConfig) (f : UInt32 → UInt32) (color : Color) :
    config.duties f color = config.components.map fun (channel, part) => (channel, f (part color)) := rfl

theorem shown_command {call : Call} {record : List (Call × Reply)} {ledHandle : UInt8} (outputs : Outputs)
    (distinct : config.channels.Nodup) (sets : call.sets = true) (operates : call.ledHandle? = some ledHandle)
    (serves : call.serves config.ledType = true) :
    config.Shown (record ++ [(call, .status .ok)]) ledHandle (outputs.after (accepting (call.asks config))) := by
  cases call <;> cases sets <;> cases operates <;> cases config <;> cases serves
  case setLedSingleState.refl.refl.single.refl state config =>
    have last : lastCommanded Call.state? (record ++ [(.setLedSingleState state ledHandle, .status .ok)]) ledHandle =
        some state := lastCommanded_given rfl rfl
    rw [LedConfig.Shown, last]
    simp [Call.asks, accepting, Outputs.take]
  case setLedSinglePwmDuty.refl.refl.singlePwm.refl duty config =>
    have last : lastCommanded Call.dutyCycle? (record ++ [(.setLedSinglePwmDuty duty ledHandle, .status .ok)]) ledHandle =
        some duty := lastCommanded_given rfl rfl
    rw [LedConfig.Shown, last]
    simp [Call.asks, writeRequests, accepting, Outputs.take, dutyFor]
  case setLedRgbColor.refl.refl.rgb.refl color config =>
    intro component member
    have listed : (component.1, dutyFor config.activeLevel (component.2 color)) ∈
        config.duties (dutyFor config.activeLevel) color := by
      rw [components_duties]
      exact List.mem_map.mpr ⟨component, member, rfl⟩
    have asked : (Call.setLedRgbColor color ledHandle).asks (.rgb config) =
        writesOf (config.duties (dutyFor config.activeLevel) color) := rfl
    have last : lastCommanded Call.color? (record ++ [(.setLedRgbColor color ledHandle, .status .ok)]) ledHandle =
        some color := lastCommanded_given rfl rfl
    rw [asked, after_accepting_writes, last]
    refine wrote_listed _ ?_ listed
    rw [map_duties]
    exact distinct

end Frame

section Table
variable {after : World capacity} {free : Nat} {info : LedInfo} {ledHandle : UInt8}

theorem led?_set (small : capacity ≤ 255) (room : free < capacity) (active : info.activeFlag = true)
    (stored : after.table = world.table.set free info) :
    after.led? ledHandle = if ledHandle = UInt8.ofNat free then some info else world.led? ledHandle := by
  have counter := toNat_index small (Nat.le_of_lt room)
  have slot : ledHandle = UInt8.ofNat free ↔ free = ledHandle.toNat := by
    rw [← UInt8.toNat_inj, counter, eq_comm]
  unfold World.led?
  simp only [stored, Vector.getElem_set, slot]
  by_cases same : free = ledHandle.toNat
  · rw [if_pos same, dif_pos (same ▸ room)]
    simp [same, active]
  · simp only [if_neg same]

theorem led?_of_set {info' : LedInfo} (small : capacity ≤ 255) (room : free < capacity) (active : info.activeFlag = true)
    (stored : after.table = world.table.set free info) (led : after.led? ledHandle = some info') :
    (ledHandle = UInt8.ofNat free ∧ info' = info) ∨ (ledHandle ≠ UInt8.ofNat free ∧ world.led? ledHandle = some info') := by
  rw [led?_set small room active stored] at led
  by_cases new : ledHandle = UInt8.ofNat free
  · rw [if_pos new] at led
    exact .inl ⟨new, (Option.some.inj led).symm⟩
  · rw [if_neg new] at led
    exact .inr ⟨new, led⟩

theorem led?_firstInactive (small : capacity ≤ 255) (room : free < capacity) (first : FirstInactive world.table free) :
    world.led? (UInt8.ofNat free) = none := by
  have counter := toNat_index small (Nat.le_of_lt room)
  unfold World.led?
  simp [counter, first.inactive room]

end Table

section Step
variable {call : Call} {reply : Reply} {after : World capacity} {record : List (Call × Reply)} {outputs : Outputs}
variable {ledHandle : UInt8} {config : LedConfig}

theorem perform_accepted (unlocked : world.mutex = .free) (led : world.led? ledHandle = some config.info)
    (operates : call.ledHandle? = some ledHandle) (serves : call.serves config.ledType = true)
    (all : AllAccepted world (perform chance call world).2) :
    perform chance call world = (some (.status .ok), world.extend (accepting (call.asks config))) := by
  have returned := @perform_served capacity chance world ledHandle config.info unlocked led call operates serves
  have seen : config.info.seen chance world = (config, world) := by
    cases config <;> rfl
  rw [returned, seen, allAccepted_extend] at all
  rw [returned, seen]
  unfold Call.exchange at all ⊢
  cases checks : call.checks with
  | true =>
    simp only [checks, if_true] at all ⊢
    have accepted := accepted_of_attempted all
    rw [accepted, attempted_of_accepted accepted]
    rfl
  | false =>
    simp only [checks, if_false, Bool.false_eq_true] at all ⊢
    rw [answered_of_accepted ((all_answered_iff _ _).mp all)]

/-- What holds of the record of a run and the world it reached, over the outputs there were at the start. -/
structure Showing (outputs : Outputs) (record : List (Call × Reply)) (world : World capacity) : Prop where
  unlocked : world.mutex = .free
  tagged : ∀ ledHandle info, world.led? ledHandle = some info → info = info.config.info
  distinct : ∀ ledHandle info, world.led? ledHandle = some info → info.config.channels.Nodup
  apart : ∀ ledHandle other info info', ledHandle ≠ other → world.led? ledHandle = some info →
    world.led? other = some info' → info.config.Apart info'.config
  uncommanded : ∀ ledHandle, world.led? ledHandle = none → Uncommanded record ledHandle
  shown : ∀ ledHandle info, world.led? ledHandle = some info →
    info.config.Shown record ledHandle (outputs.after world.log)

theorem Showing.silent {entry : Call × Reply} (showing : Showing outputs record world)
    (silent : ∀ ledHandle, Silent ledHandle entry) : Showing outputs (record ++ [entry]) world := by
  obtain ⟨unlocked, tagged, distinct, apart, uncommanded, shown⟩ := showing
  refine ⟨unlocked, tagged, distinct, apart, ?_, ?_⟩
  · intro ledHandle vacant
    exact (uncommanded ledHandle vacant).snoc (silent ledHandle)
  · intro ledHandle info led
    refine (shown ledHandle info led).frame (fun _ _ => rfl) (fun _ _ => rfl) ?_
    intro β part
    exact lastCommanded_silent part (silent ledHandle)

/-- One of the calls, with what it asks of the peripherals accepted, and for an addition with
outputs of its own. -/
structure Orderly (chance : Nat → Chance) (world : World capacity) (call : Call) : Prop where
  sets : call.sets = true
  accepted : AllAccepted world (perform chance call world).2
  fresh : ∀ ledType config, call.addition? = some (ledType, config) → config.channels.Nodup ∧
    ∀ ledHandle info, world.led? ledHandle = some info → config.Apart info.config

/-- What is asked for one LED leaves the others as they are. -/
theorem LedConfig.Shown.keep {other : LedConfig} {requests : List Request} {entry : Call × Reply}
    (shown : config.Shown record ledHandle outputs) (apart : other.Apart config)
    (within : ∀ asked ∈ requests, asked.Within other) (silent : Silent ledHandle entry) :
    config.Shown (record ++ [entry]) ledHandle (outputs.after (accepting requests)) := by
  obtain ⟨level, duty⟩ := after_within outputs within
  refine shown.frame ?_ ?_ fun part => lastCommanded_silent part silent
  · intro gpioNum listed
    exact level gpioNum fun mine => apart.1 mine listed
  · intro channel listed
    exact duty channel fun mine => apart.2 mine listed

theorem Showing.command (showing : Showing outputs record world) (led : world.led? ledHandle = some config.info)
    (sets : call.sets = true) (operates : call.ledHandle? = some ledHandle) (serves : call.serves config.ledType = true) :
    Showing outputs (record ++ [(call, .status .ok)]) (world.extend (accepting (call.asks config))) := by
  have silent : ∀ other, ledHandle ≠ other → Silent other (call, .status .ok) := by
    intro other different same
    exact absurd (Option.some.inj (operates.symm.trans same)) different
  obtain ⟨unlocked, tagged, distinct, apart, uncommanded, shown⟩ := showing
  refine ⟨unlocked, tagged, distinct, apart, ?_, ?_⟩
  · intro other vacant
    have different : ledHandle ≠ other := by
      intro equal
      subst equal
      cases led.symm.trans vacant
    exact (uncommanded other vacant).snoc (silent other different)
  · intro other info led'
    rw [World.extend_log, Outputs.after_append]
    by_cases same : ledHandle = other
    · subst same
      obtain rfl : config.info = info := Option.some.inj (led.symm.trans led')
      exact shown_command _ (distinct ledHandle _ led) sets operates serves
    · exact (shown other info led').keep (apart ledHandle other _ _ same led led') (asks_within call) (silent other same)

theorem showing_command (showing : Showing outputs record world) (orderly : Orderly chance world call)
    (operates : call.ledHandle? = some ledHandle) (returned : perform chance call world = (some reply, after)) :
    Showing outputs (record ++ [(call, reply)]) after := by
  have reports : call.refusal = .status .error := by
    have sets := orderly.sets
    cases call <;> first | rfl | cases sets
  by_cases served : ∃ info, world.led? ledHandle = some info ∧ call.serves info.ledType = true
  · obtain ⟨info, led, serves⟩ := served
    obtain ⟨config, rfl⟩ : ∃ config : LedConfig, info = config.info := ⟨_, showing.tagged ledHandle info led⟩
    have accepted := perform_accepted showing.unlocked led operates serves orderly.accepted
    obtain ⟨rfl, rfl⟩ : .status .ok = reply ∧ world.extend (accepting (call.asks config)) = after := by
      simpa using accepted.symm.trans returned
    exact showing.command led orderly.sets operates serves
  · have refused : perform chance call world = (some (.status .error), world) := by
      apply perform_unserved showing.unlocked operates _ reports
      intro info led
      exact Bool.eq_false_iff.mpr fun serves => served ⟨info, led, serves⟩
    obtain ⟨rfl, rfl⟩ : .status .error = reply ∧ world = after := by simpa using refused.symm.trans returned
    exact showing.silent fun ledHandle _ => nofun

theorem addition_info {ledType : LedType} (adds : call.addition? = some (ledType, config)) :
    (⟨ledType, true, config⟩ : LedInfo) = config.info := by
  cases call <;> cases adds <;> rfl

theorem silent_addition {ledType : LedType} (adds : call.addition? = some (ledType, config)) (reply : Reply)
    (ledHandle : UInt8) : Silent ledHandle (call, reply) := by
  intro operates
  cases adds.symm.trans (addition_of_handle operates)

theorem Showing.add {ledType : LedType} {free : Nat} (small : capacity ≤ 255) (showing : Showing outputs record world)
    (adds : call.addition? = some (ledType, config)) (first : FirstInactive world.table free) (room : free < capacity)
    (channels : config.channels.Nodup)
    (fresh : ∀ ledHandle info, world.led? ledHandle = some info → config.Apart info.config)
    (unlocked : after.mutex = .free) (stored : after.table = world.table.set free config.info)
    (issued : after.log = world.log ++ accepting call.setupRequests) (reply : Reply) :
    Showing outputs (record ++ [(call, reply)]) after := by
  have vacant := led?_firstInactive small room first
  refine ⟨unlocked, ?_, ?_, ?_, ?_, ?_⟩
  · intro ledHandle info led
    rcases led?_of_set small room rfl stored led with ⟨-, rfl⟩ | ⟨-, old⟩
    · rfl
    · exact showing.tagged ledHandle info old
  · intro ledHandle info led
    rcases led?_of_set small room rfl stored led with ⟨-, rfl⟩ | ⟨-, old⟩
    · exact channels
    · exact showing.distinct ledHandle info old
  · intro ledHandle other info info' different led led'
    rcases led?_of_set small room rfl stored led with ⟨rfl, rfl⟩ | ⟨-, old⟩
    · rcases led?_of_set small room rfl stored led' with ⟨rfl, rfl⟩ | ⟨-, old'⟩
      · exact absurd rfl different
      · exact fresh other info' old'
    · rcases led?_of_set small room rfl stored led' with ⟨rfl, rfl⟩ | ⟨-, old'⟩
      · exact (fresh ledHandle info old).symm
      · exact showing.apart ledHandle other info info' different old old'
  · intro ledHandle led
    have none : world.led? ledHandle = none := by
      rw [led?_set small room rfl stored] at led
      split at led
      · cases led
      · exact led
    exact (showing.uncommanded ledHandle none).snoc (silent_addition adds reply ledHandle)
  · intro ledHandle info led
    rw [issued, Outputs.after_append]
    rcases led?_of_set small room rfl stored led with ⟨rfl, rfl⟩ | ⟨-, old⟩
    · exact shown_setup _ adds ((showing.uncommanded _ vacant).snoc (silent_addition adds reply _))
    · exact (showing.shown ledHandle info old).keep (fresh ledHandle info old) (setup_within adds)
        (silent_addition adds reply ledHandle)

theorem showing_addition {ledType : LedType} (small : capacity ≤ 255) (showing : Showing outputs record world)
    (orderly : Orderly chance world call) (adds : call.addition? = some (ledType, config))
    (returned : perform chance call world = (some reply, after)) : Showing outputs (record ++ [(call, reply)]) after := by
  obtain ⟨free, first⟩ := exists_firstInactive world.table
  by_cases full : free = capacity
  · subst full
    have refused := @perform_addition_full free chance world call ledType config small adds showing.unlocked first
    obtain ⟨rfl, rfl⟩ : .added .error none = reply ∧ world = after := by simpa using refused.symm.trans returned
    exact showing.silent (silent_addition adds _)
  · have room : free < capacity := Nat.lt_of_le_of_ne first.bounded full
    have added := @perform_addition_room capacity chance world call ledType config free small adds showing.unlocked first room
    have all := orderly.accepted
    rw [added] at all
    have accepted := answered_of_accepted ((all_answered_iff _ _).mp ((allAccepted_extend _).mp all))
    rw [accepted, addition_info adds] at added
    obtain ⟨channels, fresh⟩ := orderly.fresh ledType config adds
    have reached := (Prod.mk.inj (added.symm.trans returned)).2
    exact showing.add small adds first room channels fresh (reached ▸ showing.unlocked) (reached ▸ rfl) (reached ▸ rfl) reply

theorem Initialised.vacant (small : capacity ≤ 255) (initialised : Initialised chance world) (ledHandle : UInt8) :
    world.led? ledHandle = none := by
  obtain ⟨-, inactive⟩ := initialised.cleared small
  unfold World.led?
  simp [inactive]

theorem Orderly.first {ledType : LedType} (small : capacity ≤ 255) (initialised : Initialised chance world)
    (sets : call.sets = true) (adds : call.addition? = some (ledType, config)) (channels : config.channels.Nodup)
    (accepted : AllAccepted world (perform chance call world).2) : Orderly chance world call := by
  refine ⟨sets, accepted, ?_⟩
  intro ledType' config' adds'
  cases adds.symm.trans adds'
  refine ⟨channels, ?_⟩
  intro ledHandle info led
  cases (initialised.vacant small ledHandle).symm.trans led

theorem Orderly.command (sets : call.sets = true) (operates : call.ledHandle? = some ledHandle)
    (accepted : AllAccepted world (perform chance call world).2) : Orderly chance world call := by
  refine ⟨sets, accepted, ?_⟩
  intro ledType config adds
  cases adds.symm.trans (addition_of_handle operates)

/-- In every orderly run the outputs of each LED are those of the last command given to it. -/
theorem showing_of_recorded {start : World capacity} (small : capacity ≤ 255) (initialised : Initialised chance start)
    (recorded : Recorded (perform chance) (Orderly chance) start record world) (outputs : Outputs) :
    Showing outputs record world := by
  apply recorded.invariant (Showing outputs)
  · have vacant := initialised.vacant small
    have nothing : ∀ ledHandle, Uncommanded [] ledHandle := fun _ => List.forall_mem_nil _
    refine ⟨(initialised.cleared small).1, ?_, ?_, ?_, fun ledHandle _ => nothing ledHandle, ?_⟩
    · intro ledHandle info led
      cases (vacant ledHandle).symm.trans led
    · intro ledHandle info led
      cases (vacant ledHandle).symm.trans led
    · intro ledHandle other info info' _ led
      cases (vacant ledHandle).symm.trans led
    · intro ledHandle info led
      cases (vacant ledHandle).symm.trans led
  · intro record before call reply after showing returned orderly
    rcases call.sorts with rfl | rfl | ⟨⟨ledType, config⟩, adds⟩ | ⟨ledHandle, operates⟩
    · cases orderly.sets
    · cases orderly.sets
    · exact showing_addition small showing orderly adds returned
    · exact showing_command showing orderly operates returned

end Step

end LaserDriver.Led
