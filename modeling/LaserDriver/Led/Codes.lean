import Mathlib.Data.Nat.Find
import LaserDriver.Led.Allocation
import LaserDriver.Led.Performed

/-! Which results of the peripherals get through to the caller. -/

namespace LaserDriver.Led
open Effects Program

variable {capacity : Nat} {chance : Nat → Chance} {world after : World capacity} {call : Call}

def Reply.succeeded : Reply → Bool
  | .status ret | .added ret _ | .frequency ret _ => ret = .ok

def Issued.accepted : Issued → Bool
  | .call _ accepted => accepted
  | .getFreq _ _ | .reinterpreted => true

@[simp] theorem Issued.accepted_call (asked : Request) (answer : Bool) : (Issued.call asked answer).accepted = answer := rfl

def AllAccepted (before after : World capacity) : Prop :=
  ∀ issued ∈ after.log.drop before.log.length, issued.accepted = true

instance (before after : World capacity) : Decidable (AllAccepted before after) :=
  inferInstanceAs (Decidable (∀ issued ∈ after.log.drop before.log.length, issued.accepted = true))

theorem all_answered_iff (clock : Nat) (requests : List Request) :
    (∀ issued ∈ answered chance clock requests, issued.accepted = true) ↔ accepted chance clock requests = true := by
  induction requests generalizing clock with
  | nil => simp [answered, Led.accepted]
  | cons asked rest ih => simp [answered, Led.accepted, ih]

theorem all_attempted {clock : Nat} {requests : List Request} (all : accepted chance clock requests = true) :
    ∀ issued ∈ attempted chance clock requests, issued.accepted = true := by
  induction requests generalizing clock with
  | nil => nofun
  | cons asked rest ih =>
    rw [Led.accepted, Bool.and_eq_true] at all
    rw [attempted, if_pos all.1]
    intro issued member
    rcases List.mem_cons.mp member with rfl | member
    · rfl
    · exact ih all.2 issued member

theorem accepted_of_attempted {clock : Nat} {requests : List Request}
    (all : ∀ issued ∈ attempted chance clock requests, issued.accepted = true) : accepted chance clock requests = true := by
  induction requests generalizing clock with
  | nil => rfl
  | cons asked rest ih =>
    by_cases done : (chance clock).accepts asked = true
    · rw [attempted, if_pos done] at all
      rw [Led.accepted, done, Bool.true_and]
      exact ih fun issued member => all issued (List.mem_cons_of_mem _ member)
    · rw [attempted, if_neg done] at all
      exact absurd (all _ List.mem_cons_self) Bool.false_ne_true

@[simp] theorem allAccepted_extend (issued : List Issued) :
    AllAccepted world (world.extend issued) ↔ ∀ each ∈ issued, each.accepted = true := by
  simp [AllAccepted]

theorem seen_extends (info : LedInfo) (chance : Nat → Chance) (world : World capacity) :
    ∃ prelude, (info.seen chance world).2 = world.extend prelude ∧ ∀ each ∈ prelude, each.accepted = true := by
  have read : ∀ {β : Type} (member : Member β), ∃ prelude,
      (info.readout member chance world).2 = world.extend prelude ∧ ∀ each ∈ prelude, each.accepted = true := by
    intro β member
    unfold LedInfo.readout
    cases info.config.member? member with
    | some config => exact ⟨[], by simp, nofun⟩
    | none => exact ⟨[.reinterpreted], rfl, by simp [Issued.accepted]⟩
  unfold LedInfo.seen
  cases info.ledType with
  | single => exact read .single
  | singlePwm => exact read .singlePwm
  | rgb => exact read .rgb
  | invalid => exact ⟨[], by simp, nofun⟩

theorem exists_firstInactive (table : Vector LedInfo capacity) : ∃ free, FirstInactive table free := by
  by_cases full : Full table
  · exact ⟨capacity, Nat.le_refl _, fun slot inside _ => full slot inside, fun inside => absurd inside (Nat.lt_irrefl _)⟩
  · have vacant : ∃ slot, ∃ inside : slot < capacity, table[slot].activeFlag = false := by
      simpa [Full] using full
    classical
    obtain ⟨inside, inactive⟩ := Nat.find_spec vacant
    refine ⟨Nat.find vacant, Nat.le_of_lt inside, ?_, fun _ => inactive⟩
    intro slot within before
    have active := Nat.find_min vacant before
    simpa [within] using active

/-- A call that succeeds, and one that makes a slot active, had everything accepted. -/
structure Honest (chance : Nat → Chance) (call : Call) (world : World capacity) : Prop where
  succeeds : ∀ reply after, perform chance call world = (some reply, after) → reply.succeeded = true →
    AllAccepted world after
  activates : ∀ reply after, perform chance call world = (some reply, after) →
    ∀ (slot : Nat) (inside : slot < capacity), world.table[slot].activeFlag = false →
      after.table[slot].activeFlag = true → AllAccepted world after

theorem Honest.of_returned {reply : Reply} (returned : perform chance call world = (some reply, after))
    (all : reply.succeeded = true → AllAccepted world after)
    (same : reply.succeeded = false → after.table = world.table) : Honest chance call world := by
  constructor
  · intro other reached performed
    obtain ⟨rfl, rfl⟩ : reply = other ∧ after = reached := by simpa using returned.symm.trans performed
    exact all
  · intro other reached performed slot inside inactive active
    obtain ⟨rfl, rfl⟩ : reply = other ∧ after = reached := by simpa using returned.symm.trans performed
    cases done : reply.succeeded with
    | true => exact all done
    | false =>
      rw [same done, inactive] at active
      cases active

/-- The requests whose results the code does not look at are accepted: the setup of a LED
that finds a slot, and the level of a single LED. -/
structure Heeded (chance : Nat → Chance) (call : Call) (world : World capacity) : Prop where
  setup : call.addition?.isSome = true → ¬ Full world.table → accepted chance world.clock call.setupRequests = true
  operation : call.checks = false → ∀ ledHandle info, call.ledHandle? = some ledHandle →
    world.led? ledHandle = some info → call.serves info.ledType = true →
      accepted chance (info.seen chance world).2.clock (call.asks (info.seen chance world).1) = true

theorem honest_addition_iff {ledType : LedType} {config : LedConfig} (small : capacity ≤ 255)
    (unlocked : world.mutex = .free) (adds : call.addition? = some (ledType, config)) :
    Honest chance call world ↔
      (¬ Full world.table → accepted chance world.clock call.setupRequests = true) := by
  obtain ⟨free, first⟩ := exists_firstInactive world.table
  by_cases full : free = capacity
  · subst full
    have refused := @perform_addition_full free chance world call ledType config small adds unlocked first
    apply iff_of_true
    · exact Honest.of_returned refused nofun fun _ => rfl
    · intro vacant
      exact absurd (fun slot inside => first.active slot inside inside) vacant
  · have room : free < capacity := Nat.lt_of_le_of_ne first.bounded full
    have added := @perform_addition_room capacity chance world call ledType config free small adds unlocked first room
    have vacant : ¬ Full world.table := by
      intro full
      have inactive := first.inactive room
      rw [full free room] at inactive
      cases inactive
    have issued : AllAccepted world (world.extend (answered chance world.clock call.setupRequests)) ↔
        accepted chance world.clock call.setupRequests = true := by
      rw [allAccepted_extend, all_answered_iff]
    rw [← issued]
    constructor
    · intro honest _
      have all := honest.succeeds _ _ added rfl
      exact all
    · intro all
      exact Honest.of_returned added (fun _ => all vacant) nofun

theorem honest_served_iff {ledHandle : UInt8} {info : LedInfo} (unlocked : world.mutex = .free)
    (operates : call.ledHandle? = some ledHandle) (led : world.led? ledHandle = some info)
    (serves : call.serves info.ledType = true) :
    Honest chance call world ↔ (call.checks = false →
      accepted chance (info.seen chance world).2.clock (call.asks (info.seen chance world).1) = true) := by
  have returned := @perform_served capacity chance world ledHandle info unlocked led call operates serves
  obtain ⟨prelude, seen, quiet⟩ := seen_extends info chance world
  have kept : ∀ issued, ((info.seen chance world).2.extend issued).table = world.table := by
    intro issued
    rw [World.extend_table, seen, World.extend_table]
  have all : ∀ issued, AllAccepted world ((info.seen chance world).2.extend issued) ↔
      ∀ each ∈ issued, each.accepted = true := by
    intro issued
    rw [seen, World.extend_extend, allAccepted_extend, List.forall_mem_append]
    exact and_iff_right quiet
  cases checks : call.checks with
  | true =>
    simp only [Call.exchange, checks, if_true] at returned
    apply iff_of_true
    · refine Honest.of_returned returned ?_ fun _ => kept _
      intro succeeded
      rw [all]
      apply all_attempted
      by_contra refused
      rw [if_neg refused] at succeeded
      cases succeeded
    · nofun
  | false =>
    simp only [Call.exchange, checks, if_false, Bool.false_eq_true] at returned
    rw [← all_answered_iff, ← all]
    constructor
    · intro honest _
      exact honest.succeeds _ _ returned rfl
    · intro accepted
      exact Honest.of_returned returned (fun _ => accepted rfl) fun _ => kept _

theorem honest_unserved {ledHandle : UInt8} (unlocked : world.mutex = .free)
    (operates : call.ledHandle? = some ledHandle)
    (unserved : ∀ info, world.led? ledHandle = some info → call.serves info.ledType = false)
    (reports : call.refusal = .status .error) : Honest chance call world :=
  Honest.of_returned (perform_unserved unlocked operates unserved reports) nofun fun _ => rfl

def Call.drives : Call → Bool
  | .initDriver | .startFadeService | .getLedPwmFreq _ => false
  | _ => true

/-- Success means that the peripherals accepted everything, except that four operations do
not look at what the peripherals return. -/
theorem honest_iff_heeded (small : capacity ≤ 255) (unlocked : world.mutex = .free) (drives : call.drives = true) :
    Honest chance call world ↔ Heeded chance call world := by
  rcases call.sorts with rfl | rfl | ⟨⟨ledType, config⟩, adds⟩ | ⟨ledHandle, operates⟩
  · cases drives
  · cases drives
  · rw [honest_addition_iff small unlocked adds]
    have noHandle : call.ledHandle? = none := by
      cases call <;> first | rfl | cases adds
    constructor
    · intro heeded
      refine ⟨fun _ => heeded, ?_⟩
      intro _ ledHandle info operates
      rw [noHandle] at operates
      cases operates
    · intro heeded
      exact heeded.setup (adds ▸ rfl)
  · have reports : call.refusal = .status .error := by
      cases call <;> first | rfl | cases drives
    have noAddition : call.addition?.isSome ≠ true := by
      rw [addition_of_handle operates]
      nofun
    by_cases served : ∃ info, world.led? ledHandle = some info ∧ call.serves info.ledType = true
    · obtain ⟨info, led, serves⟩ := served
      rw [honest_served_iff unlocked operates led serves]
      constructor
      · intro heeded
        refine ⟨fun adds => absurd adds noAddition, ?_⟩
        intro unchecked other info' same found _
        obtain rfl : ledHandle = other := Option.some.inj (operates.symm.trans same)
        obtain rfl : info = info' := Option.some.inj (led.symm.trans found)
        exact heeded unchecked
      · intro heeded unchecked
        exact heeded.operation unchecked ledHandle info operates led serves
    · apply iff_of_true
      · apply honest_unserved unlocked operates _ reports
        intro info led
        cases serves : call.serves info.ledType with
        | true => exact absurd ⟨info, led, serves⟩ served
        | false => rfl
      · refine ⟨fun adds => absurd adds noAddition, ?_⟩
        intro _ other info same found serves
        obtain rfl : ledHandle = other := Option.some.inj (operates.symm.trans same)
        exact absurd ⟨info, found, serves⟩ served

/-- An outside in which the GPIO driver refuses a pin, as it does for a number that is no output. -/
def noSuchPin : Nat → Chance :=
  fun time => { quiet time with accepts := fun request => match request with
    | .gpioConfig _ | .gpioSetLevel _ _ => false
    | _ => true }

theorem honest_quiet : Honest quiet (.addLedSingle ⟨4, .high⟩) readied := by
  apply (honest_iff_heeded (by decide) rfl rfl).mpr
  exact ⟨fun _ _ => rfl, nofun⟩

/-- A LED on a pin that does not exist gets a slot, and the addition succeeds. -/
theorem addition_hides_refusal :
    perform noSuchPin (.addLedSingle ⟨23, .high⟩) readied =
      (some (.added .ok (some 0)), (perform noSuchPin (.addLedSingle ⟨23, .high⟩) readied).2) ∧
    readied.table[0].activeFlag = false ∧
    (perform noSuchPin (.addLedSingle ⟨23, .high⟩) readied).2.table[0].activeFlag = true ∧
    (perform noSuchPin (.addLedSingle ⟨23, .high⟩) readied).2.log =
      [.call (.gpioConfig (2 ^ 23)) false, .call (.gpioSetLevel 23 false) false] ∧
    ¬ Honest noSuchPin (.addLedSingle ⟨23, .high⟩) readied := by
  have added : perform noSuchPin (.addLedSingle ⟨23, .high⟩) readied =
      (some (.added .ok (some 0)), (perform noSuchPin (.addLedSingle ⟨23, .high⟩) readied).2) := rfl
  refine ⟨added, rfl, rfl, rfl, ?_⟩
  intro honest
  have all := honest.succeeds _ _ added rfl
  exact absurd (all (.call (.gpioConfig (2 ^ 23)) false) (by decide)) nofun

end LaserDriver.Led
