import LaserDriver.Uart.Driver

/-! The bytes on their way from the line to the shell, whatever the order in which the
handler, the reader and the line make their accesses. -/

namespace LaserDriver.Uart
open Effects Rtos Shell

/-- Where the handler has found `rx_buffer_full_flg` clear: only it sets the flag. -/
def Handler.clear : Handler → Bool
  | .measure | .readFifo _ | .reading _ _ | .send | .sent | .markFull => true
  | _ => false

def Handler.Bounded : Handler → Prop
  | .readFifo rxFifoLen => rxFifoLen ≤ uartHwFifoLen
  | .reading remaining got => remaining + got.length ≤ uartHwFifoLen
  | _ => True

/-- Where the reader has found `rx_buffer_full_flg` set: only it clears the flag. -/
def Reader.raised : Reader → Bool
  | .flush _ .send | .flush _ .sent | .read (.send _ _ _) | .read (.sent _ _) => true
  | _ => false

def Reader.holdsMux : Reader → Bool
  | .flush _ .take | .read .take | .drain | .deliver _ => false
  | _ => true

def Reader.Lends (free : Nat) (lent : List UInt8) : Reader → Prop
  | .read (.copy _ _ address size) | .read (.update _ _ address size) | .flush _ (.update address size) =>
    address = free ∧ size = lent.length ∧ lent ≠ []
  | .read (.giveBack _ _ address) | .flush _ (.giveBack address) => address = free ∧ lent ≠ []
  | _ => lent = []

def Reader.Asks : Reader → Prop
  | .read (.receive length copied) | .read (.giveBack length copied _) | .read (.check length copied _)
  | .read (.send length copied _) | .read (.sent length copied) | .read (.reenable length copied) =>
    copied.length + length = 1
  | .read (.copy length copied _ size) => copied.length + length = 1 ∧ size ≤ length
  | .read (.update length copied _ size) => copied.length + (length - size) = 1
  | .read (.give copied) => copied.length ≤ 1
  | .deliver outcome => outcome ≠ .error
  | _ => True

structure Sound (system : System) : Prop where
  ring : ∃ lent waiting, system.rxRingBuf.Holds system.memory lent waiting ∧
    system.reader.Lends system.rxRingBuf.pucFree lent
  size : system.rxRingBuf.xSize = 2 * uartHwFifoLen
  mux : system.rxMuxTaken = system.reader.holdsMux
  clear : system.handler.clear = true → system.rxBufferFullFlg = false
  raised : system.reader.raised = true → system.rxBufferFullFlg = true
  measured : system.rxDataBuf.length = system.rxStashLen.toNat
  short : system.rxDataBuf.length ≤ uartHwFifoLen
  fifo : system.rxFifo.length ≤ uartHwFifoLen
  bounded : system.handler.Bounded
  asks : system.reader.Asks

def Reader.handOf (lent : List UInt8) : Reader → List UInt8
  | .read (.copy _ copied _ _) => copied ++ lent
  | reader => reader.hand fun _ => 0

variable {system after : System} {lent waiting : List UInt8}

theorem hand_eq (holds : system.rxRingBuf.Holds system.memory lent waiting)
    (lends : system.reader.Lends system.rxRingBuf.pucFree lent) :
    system.reader.hand system.memory = system.reader.handOf lent := by
  cases reading : system.reader with
  | read stage =>
    cases stage with
    | copy length copied address size =>
      rw [reading] at lends
      obtain ⟨rfl, rfl, -⟩ := lends
      exact congrArg (copied ++ ·) holds.load_lent
    | _ => rfl
  | _ => rfl

theorem transit_eq (holds : system.rxRingBuf.Holds system.memory lent waiting)
    (lends : system.reader.Lends system.rxRingBuf.pucFree lent) :
    system.transit = system.task.received ++ system.reader.handOf lent ++ waiting ++
      system.handler.hand system.stash ++ system.stashed ++ system.rxFifo := by
  rw [System.transit, hand_eq holds lends, System.waiting, holds.contents_waiting]

/-- What a step does to the bytes: one may arrive, and those that go are counted. -/
structure Flows (before after : System) (arrived : List UInt8) : Prop where
  torn : before.history.torn = true → after.history.torn = true
  line : after.history.line = before.history.line ++ arrived
  bytes : after.history.torn = false → after.transit.Sublist (before.transit ++ arrived) ∧
    after.transit.length + after.history.discarded + after.history.lost =
      before.transit.length + arrived.length + before.history.discarded + before.history.lost

/-- The next access exists, and the bytes stay in order. -/
def Carries (before : System) (next : Option System) : Prop :=
  ∃ after, next = some after ∧ Sound after ∧ Flows before after []

theorem Flows.still (same : after.transit = system.transit) (torn : after.history.torn = system.history.torn)
    (line : after.history.line = system.history.line) (discarded : after.history.discarded = system.history.discarded)
    (lost : after.history.lost = system.history.lost) : Flows system after [] := by
  refine ⟨fun before => torn.trans before, ?_, ?_⟩
  · rw [line, List.append_nil]
  · intro _
    rw [same, discarded, lost, List.append_nil]
    exact ⟨List.Sublist.refl _, rfl⟩

theorem Carries.quiet (sound : Sound after) (same : after.transit = system.transit)
    (history : after.history = system.history) : Carries system (some after) :=
  ⟨after, rfl, sound, .still same (history ▸ rfl) (history ▸ rfl) (history ▸ rfl) (history ▸ rfl)⟩

theorem not_raised (sound : Sound system) (clear : system.handler.clear = true) : system.reader.raised = false := by
  cases raised : system.reader.raised with
  | false => rfl
  | true => exact absurd ((sound.clear clear).symm.trans (sound.raised raised)) Bool.false_ne_true

theorem resent_raised {reader : Reader} (resent : reader.resent = true) : reader.raised = true := by
  unfold Reader.resent at resent
  split at resent
  · rfl
  · rfl
  · cases resent

/-- With the flag clear nothing waits in the stash. -/
theorem stashed_of_clear (flag : system.rxBufferFullFlg = false) : system.stashed = [] :=
  if_neg (fun waits => Bool.false_ne_true (flag.symm.trans waits.1))

theorem stashed_of_set (flag : system.rxBufferFullFlg = true) (kept : system.reader.resent = false) :
    system.stashed = system.stash := if_pos ⟨flag, kept⟩

theorem stashed_of_resent (resent : system.reader.resent = true) : system.stashed = [] :=
  if_neg (fun waits => Bool.false_ne_true (waits.2.symm.trans resent))

/-- With the flag set the handler has nothing in hand. -/
theorem hand_of_set (sound : Sound system) (flag : system.rxBufferFullFlg = true) (stash : List UInt8) :
    system.handler.hand stash = [] := by
  have clear : system.handler.clear = true → False :=
    fun clear => Bool.false_ne_true ((sound.clear clear).symm.trans flag)
  cases entered : system.handler with
  | reading => exact (clear (by rw [entered]; rfl)).elim
  | send => exact (clear (by rw [entered]; rfl)).elim
  | markFull => exact (clear (by rw [entered]; rfl)).elim
  | _ => rfl

theorem transit_of_clear (flag : system.rxBufferFullFlg = false) :
    system.transit = system.task.received ++ system.reader.hand system.memory ++ system.waiting ++
      system.handler.hand system.stash ++ system.rxFifo := by
  rw [System.transit, stashed_of_clear flag, List.append_nil]

theorem transit_resent (sound : Sound system) (flag : system.rxBufferFullFlg = true)
    (kept : system.reader.resent = false) {reader : Reader} {held : List UInt8}
    (before : system.transit = system.task.received ++ held ++ waiting ++ system.handler.hand system.stash ++
      system.stashed ++ system.rxFifo) {ring : Ringbuffer} {memory : Memory}
    (holds : ring.Holds memory lent (waiting ++ system.stash)) (lends : reader.Lends ring.pucFree lent)
    (resent : reader.resent = true) (hand : reader.handOf lent = held) :
    { system with rxRingBuf := ring, memory, reader }.transit = system.transit := by
  have moved : { system with rxRingBuf := ring, memory, reader }.stashed = [] := stashed_of_resent resent
  have silent : { system with rxRingBuf := ring, memory, reader }.handler.hand
      { system with rxRingBuf := ring, memory, reader }.stash = [] := hand_of_set sound flag _
  rw [before, hand_of_set sound flag _, stashed_of_set flag kept]
  refine (transit_eq holds lends).trans ?_
  rw [moved, silent, hand]
  simp only [List.append_nil, List.append_assoc]

/-- The reader goes on with the same bytes in hand. -/
theorem Sound.move (sound : Sound system) {reader : Reader} {rxIntr rxMuxTaken : Bool} {rxBufferedLen : Int}
    (holds : system.rxRingBuf.Holds system.memory lent waiting) (lends : reader.Lends system.rxRingBuf.pucFree lent)
    (mux : rxMuxTaken = reader.holdsMux) (raised : reader.raised = true → system.rxBufferFullFlg = true)
    (asks : reader.Asks) (hand : reader.hand system.memory = system.reader.hand system.memory)
    (resent : reader.resent = system.reader.resent) :
    Carries system (some { system with reader, rxIntr, rxMuxTaken, rxBufferedLen }) := by
  refine .quiet { sound with ring := ⟨lent, waiting, holds, lends⟩, mux, raised, asks } ?_ rfl
  simp only [System.transit, System.waiting, System.stashed, System.stash, hand, resent]

theorem Sound.turn (sound : Sound system) {handler : Handler} {rxIntr rxOvf : Bool} {rxBufferedLen : Int}
    {eventQueue : Fifo EventType uartEventQueueSize}
    (clear : handler.clear = true → system.rxBufferFullFlg = false) (bounded : handler.Bounded)
    (hand : handler.hand system.stash = system.handler.hand system.stash) :
    Carries system (some { system with handler, rxIntr, rxOvf, rxBufferedLen, eventQueue }) := by
  refine .quiet { sound with clear, bounded } ?_ rfl
  exact congrArg (fun held => system.task.received ++ system.reader.hand system.memory ++ system.waiting ++ held ++
    system.stashed ++ system.rxFifo) hand

section Handler
variable {stale : UInt8}

theorem Sound.readFifo (sound : Sound system) {rxFifoLen : Nat} (entered : system.handler = .readFifo rxFifoLen) :
    Carries system (system.handle stale) := by
  have flag := sound.clear (by rw [entered]; rfl)
  have bounded : rxFifoLen ≤ uartHwFifoLen := by
    have measured := sound.bounded
    rw [entered] at measured
    exact measured
  simp only [System.handle, entered]
  split
  · exact sound.turn (fun _ => flag) sound.fifo (by rw [entered]; rfl)
  · exact sound.turn (fun _ => flag) bounded (by rw [entered]; rfl)

theorem Sound.keep (sound : Sound system) {got : List UInt8} (entered : system.handler = .reading 0 got) :
    Carries system (system.handle stale) := by
  have flag := sound.clear (by rw [entered]; rfl)
  have short : got.length ≤ uartHwFifoLen := by
    have bounded := sound.bounded
    rw [entered, Handler.Bounded, Nat.zero_add] at bounded
    exact bounded
  have size : (UInt8.ofNat got.length).toNat = got.length := by
    rw [UInt8.toNat_ofNat']
    exact Nat.mod_eq_of_lt (Nat.lt_of_le_of_lt short (by decide))
  simp only [System.handle, entered]
  refine .quiet { sound with clear := fun _ => flag, measured := size.symm, short, bounded := trivial } ?_ rfl
  refine (transit_of_clear (by exact flag)).trans (Eq.trans ?_ (transit_of_clear flag).symm)
  simp only [System.waiting, System.stash, Handler.hand, entered, size, List.take_length]

/-- One byte is read, out of a FIFO that may have been reset. -/
theorem Sound.take (sound : Sound system) {remaining : Nat} {got : List UInt8}
    (entered : system.handler = .reading (remaining + 1) got) : Carries system (system.handle stale) := by
  have flag := sound.clear (by rw [entered]; rfl)
  have bounded : ∀ byte : UInt8, (Handler.reading remaining (got ++ [byte])).Bounded := by
    intro byte
    have measured := sound.bounded
    rw [entered, Handler.Bounded] at measured
    rw [Handler.Bounded, List.length_append, List.length_singleton]
    omega
  cases fifo : system.rxFifo with
  | cons byte rest =>
    have shorter : (byte :: rest).length ≤ uartHwFifoLen := fifo ▸ sound.fifo
    simp only [System.handle, entered, fifo]
    refine .quiet { sound with
      clear := fun _ => flag, fifo := Nat.le_of_succ_le shorter, bounded := bounded byte } ?_ rfl
    refine (transit_of_clear (by exact flag)).trans (Eq.trans ?_ (transit_of_clear flag).symm)
    simp only [System.waiting, Handler.hand, entered, fifo, List.append_assoc, List.singleton_append]
  | nil =>
    simp only [System.handle, entered, fifo]
    exact ⟨_, rfl, { sound with clear := fun _ => flag, fifo := Nat.zero_le _, bounded := bounded stale },
      fun _ => rfl, (List.append_nil _).symm, nofun⟩

theorem Sound.send (sound : Sound system) (entered : system.handler = .send) : Carries system (system.handle stale) := by
  have flag := sound.clear (by rw [entered]; rfl)
  obtain ⟨lent, waiting, holds, lends⟩ := sound.ring
  obtain ⟨-, ring, memory, sent, held, within, free⟩ | ⟨-, refused⟩ := holds.send system.stash
  · simp only [System.handle, entered, sent]
    refine .quiet { sound with
      ring := ⟨lent, waiting ++ system.stash, held, free ▸ lends⟩
      size := within.size.trans sound.size
      clear := fun _ => flag
      bounded := trivial } ?_ rfl
    refine (transit_eq held (free ▸ lends)).trans (Eq.trans ?_ (transit_eq holds lends).symm)
    simp only [System.stashed, System.stash, Handler.hand, entered, List.append_assoc, List.nil_append]
  · simp only [System.handle, entered, refused]
    refine ⟨_, rfl, { sound with clear := fun _ => flag, bounded := trivial }, .still ?_ rfl rfl rfl rfl⟩
    simp only [System.transit, System.waiting, System.stashed, System.stash, Handler.hand, entered]

theorem Sound.markFull (sound : Sound system) (entered : system.handler = .markFull) :
    Carries system (system.handle stale) := by
  have flag := sound.clear (by rw [entered]; rfl)
  have lowered := not_raised sound (by rw [entered]; rfl)
  have kept : system.reader.resent = false := by
    cases resent : system.reader.resent with
    | false => rfl
    | true => exact absurd (lowered.symm.trans (resent_raised resent)) Bool.false_ne_true
  simp only [System.handle, entered]
  refine .quiet { sound with clear := nofun, raised := fun _ => rfl, bounded := trivial } ?_ rfl
  rw [transit_of_clear flag]
  simp only [System.transit, System.waiting, System.stashed, System.stash, Handler.hand, entered, kept, and_self, if_true,
    List.append_nil]

theorem Sound.resetFifo (sound : Sound system) (entered : system.handler = .resetFifo) :
    Carries system (system.handle stale) := by
  simp only [System.handle, entered]
  refine ⟨_, rfl, { sound with clear := nofun, fifo := Nat.zero_le _, bounded := trivial }, id,
    (List.append_nil _).symm, ?_⟩
  intro _
  simp only [System.transit, System.waiting, System.stashed, System.stash, Handler.hand, entered, List.append_nil]
  refine ⟨List.sublist_append_left _ _, ?_⟩
  simp only [List.length_append, List.length_nil]
  omega

theorem Sound.post (sound : Sound system) {type : EventType} (entered : system.handler = .post type) :
    Carries system (system.handle stale) := by
  simp only [System.handle, entered]
  split
  · exact sound.turn nofun trivial (by rw [entered]; rfl)
  · refine ⟨_, rfl, { sound with clear := nofun, bounded := trivial }, .still ?_ rfl rfl rfl rfl⟩
    simp only [System.transit, System.waiting, System.stashed, System.stash, Handler.hand, entered]

theorem Sound.handle (sound : Sound system) (busy : system.handler ≠ .idle) (stale : UInt8) :
    Carries system (system.handle stale) := by
  cases entered : system.handler with
  | idle => exact absurd entered busy
  | checkFlag =>
    simp only [System.handle, entered]
    split
    · exact sound.turn nofun trivial (by rw [entered]; rfl)
    · rename_i flag
      exact sound.turn (fun _ => Bool.not_eq_true _ ▸ flag) trivial (by rw [entered]; rfl)
  | measure =>
    simp only [System.handle, entered]
    exact sound.turn (fun _ => sound.clear (by rw [entered]; rfl)) sound.fifo (by rw [entered]; rfl)
  | readFifo => exact sound.readFifo entered
  | reading remaining got =>
    cases remaining with
    | zero => exact sound.keep entered
    | succ => exact sound.take entered
  | send => exact sound.send entered
  | sent =>
    simp only [System.handle, entered]
    exact sound.turn nofun trivial (by rw [entered]; rfl)
  | markFull => exact sound.markFull entered
  | disable full =>
    simp only [System.handle, entered]
    cases full with
    | true => exact sound.turn nofun trivial (by rw [entered]; rfl)
    | false => exact sound.turn nofun trivial (by rw [entered]; rfl)
  | resetFifo => exact sound.resetFifo entered
  | clearOvf =>
    simp only [System.handle, entered]
    exact sound.turn nofun trivial (by rw [entered]; rfl)
  | post => exact sound.post entered

end Handler

section Lent
variable {reader : Reader}

theorem Sound.giveBack (sound : Sound system) (holds : system.rxRingBuf.Holds system.memory lent waiting)
    (lends : system.reader.Lends system.rxRingBuf.pucFree lent) (borrowed : lent ≠ [])
    (mux : system.rxMuxTaken = reader.holdsMux) (next : ∀ free, reader.Lends free []) (raised : reader.raised = false)
    (asks : reader.Asks) (hand : reader.handOf [] = system.reader.handOf lent)
    (resent : reader.resent = system.reader.resent) :
    ∃ ring, system.rxRingBuf.vRingbufferReturnItem system.rxRingBuf.pucFree = some ring ∧
      Carries system (some { system with rxRingBuf := ring, reader }) := by
  obtain ⟨ring, returned, held, within⟩ := holds.give_back borrowed holds.free
  refine ⟨ring, returned, .quiet { sound with
    ring := ⟨[], waiting, held, next _⟩
    size := within.size.trans sound.size
    mux := mux
    raised := fun raises => absurd (raised.symm.trans raises) Bool.false_ne_true
    asks := asks } ?_ rfl⟩
  refine (transit_eq held (next _)).trans (Eq.trans ?_ (transit_eq holds lends).symm)
  simp only [System.stashed, System.stash, hand, resent]

theorem Sound.resend (sound : Sound system) (holds : system.rxRingBuf.Holds system.memory [] waiting)
    (lends : system.reader.Lends system.rxRingBuf.pucFree []) (flag : system.rxBufferFullFlg = true)
    (kept : system.reader.resent = false) (mux : system.rxMuxTaken = reader.holdsMux)
    (next : ∀ free, reader.Lends free []) (asks : reader.Asks) (resent : reader.resent = true)
    (hand : reader.handOf [] = system.reader.handOf []) :
    (∃ ring memory, system.rxRingBuf.xRingbufferSendFromISR system.memory system.stash = some (true, ring, memory) ∧
        Carries system (some { system with rxRingBuf := ring, memory, reader })) ∨
      system.rxRingBuf.xRingbufferSendFromISR system.memory system.stash =
        some (false, system.rxRingBuf, system.memory) := by
  obtain ⟨-, ring, memory, sent, held, within, free⟩ | ⟨-, refused⟩ := holds.send system.stash
  · left
    refine ⟨ring, memory, sent, .quiet { sound with
      ring := ⟨[], waiting ++ system.stash, held, next _⟩
      size := within.size.trans sound.size
      mux := mux
      raised := fun _ => flag
      asks := asks } ?_ rfl⟩
    exact transit_resent sound flag kept (transit_eq holds lends) held (next _) resent hand
  · exact .inr refused

theorem Sound.lower (sound : Sound system) {rxBufferedLen : Int} (holds : system.rxRingBuf.Holds system.memory lent waiting)
    (lends : reader.Lends system.rxRingBuf.pucFree lent) (mux : system.rxMuxTaken = reader.holdsMux)
    (raised : reader.raised = false) (asks : reader.Asks)
    (hand : reader.hand system.memory = system.reader.hand system.memory) (resent : system.reader.resent = true) :
    Carries system (some { system with rxBufferedLen, rxBufferFullFlg := false, reader }) := by
  refine .quiet { sound with
    ring := ⟨lent, waiting, holds, lends⟩
    mux := mux
    clear := fun _ => rfl
    raised := fun raises => absurd (raised.symm.trans raises) Bool.false_ne_true
    asks := asks } ?_ rfl
  simp only [System.transit, System.waiting, System.stashed, System.stash, hand, resent, Bool.false_eq_true,
    Bool.true_eq_false, false_and, and_false, if_false]

end Lent

section Flush
variable {initial : Bool}

theorem throwAway_counts (system : System) (initial : Bool) (count : Nat) :
    (system.throwAway initial count).torn = system.history.torn ∧
      (system.throwAway initial count).line = system.history.line ∧
      (system.throwAway initial count).discarded + (system.throwAway initial count).lost =
        system.history.discarded + system.history.lost + count := by
  cases initial with
  | true => exact ⟨rfl, rfl, Nat.add_right_comm _ _ _⟩
  | false => exact ⟨rfl, rfl, (Nat.add_assoc _ _ _).symm⟩

theorem Flows.thrown (count : Nat) (sublist : after.transit.Sublist system.transit)
    (length : after.transit.length + count = system.transit.length)
    (torn : after.history.torn = (system.throwAway initial count).torn)
    (line : after.history.line = (system.throwAway initial count).line)
    (discarded : after.history.discarded = (system.throwAway initial count).discarded)
    (lost : after.history.lost = (system.throwAway initial count).lost) : Flows system after [] := by
  obtain ⟨same, unchanged, counted⟩ := throwAway_counts system initial count
  refine ⟨fun before => torn.trans (same.trans before), ?_, ?_⟩
  · rw [line, unchanged, List.append_nil]
  · intro _
    rw [List.append_nil, discarded, lost, List.length_nil]
    exact ⟨sublist, by omega⟩

theorem Sound.flushReceive (sound : Sound system) (reading : system.reader = .flush initial .receive) :
    Carries system (system.flush initial .receive) := by
  have mux := sound.mux
  obtain ⟨lent, waiting, holds, lends⟩ := sound.ring
  have before := transit_eq holds lends
  rw [reading] at mux lends before
  obtain rfl : lent = [] := lends
  by_cases nothing : waiting = []
  · have received : system.rxRingBuf.xRingbufferReceive = some (none, system.rxRingBuf) := holds.receive_nothing nothing 0
    simp only [System.flush, received]
    exact sound.move holds rfl mux nofun trivial (by rw [reading]; rfl) (by rw [reading]; rfl)
  · obtain ⟨ring, received, held, within⟩ := holds.receive nothing 0
    have positive := holds.portion_pos nothing 0
    have enough := system.rxRingBuf.portion_le waiting 0
    generalize system.rxRingBuf.portion waiting 0 = size at received held positive enough
    have got : system.rxRingBuf.xRingbufferReceive = some (some (ring.pucFree, size), ring) := received
    have taken : (waiting.take size).length = size := List.length_take_of_le enough
    have some_bytes : waiting.take size ≠ [] := List.length_pos_iff.mp (Nat.lt_of_lt_of_eq positive taken.symm)
    have lent : Reader.Lends ring.pucFree (waiting.take size) (.flush initial (.update ring.pucFree size)) :=
      ⟨rfl, taken.symm, some_bytes⟩
    simp only [System.flush, got]
    have left : ({ system with
        rxRingBuf := ring
        reader := .flush initial (.update ring.pucFree size)
        history := system.throwAway initial size } : System).transit = _ := transit_eq held lent
    refine ⟨_, rfl, { sound with
      ring := ⟨_, _, held, lent⟩
      size := within.size.trans sound.size
      mux := mux
      raised := nofun
      asks := trivial }, .thrown size ?_ ?_ rfl rfl rfl rfl⟩
    · rw [left, before]
      simp only [System.stashed, System.stash, reading]
      exact ((((List.drop_sublist size waiting).append_left _).append_right _).append_right _).append_right _
    · rw [left, before]
      simp only [System.stashed, System.stash, reading, List.length_append, List.length_drop]
      simp only [Reader.handOf, Reader.hand, Reader.resent]
      omega

/-- The flag is lowered, and what was in the stash goes with it. -/
theorem Sound.flushEmpty (sound : Sound system) (reading : system.reader = .flush initial .empty) :
    Carries system (system.flush initial .empty) := by
  have mux := sound.mux
  obtain ⟨lent, waiting, holds, lends⟩ := sound.ring
  rw [reading] at mux lends
  simp only [System.flush]
  refine ⟨_, rfl, { sound with
      ring := ⟨lent, waiting, holds, lends⟩
      mux := mux
      clear := fun _ => rfl
      raised := nofun
      asks := trivial }, .thrown _ ?_ ?_ rfl rfl rfl rfl⟩
  · simp only [System.transit, System.waiting, System.stashed, System.stash, reading, Bool.false_eq_true, false_and,
      if_false, List.append_nil]
    exact (List.sublist_append_left _ _).append_right _
  · simp only [System.transit, System.waiting, System.stashed, System.stash, reading, List.length_append]
    simp only [Reader.hand, Reader.resent, Bool.false_eq_true, if_false, List.length_nil, and_true]
    split
    · omega
    · rw [List.length_nil]
      omega

theorem Sound.flushReset (sound : Sound system) (reading : system.reader = .flush initial .reset) :
    Carries system (system.flush initial .reset) := by
  have mux := sound.mux
  obtain ⟨lent, waiting, holds, lends⟩ := sound.ring
  rw [reading] at mux lends
  simp only [System.flush]
  refine ⟨_, rfl, { sound with
    ring := ⟨lent, waiting, holds, lends⟩
    mux := mux
    raised := nofun
    fifo := Nat.zero_le _
    asks := trivial }, .thrown _ ?_ ?_ rfl rfl rfl rfl⟩
  · simp only [System.transit, System.waiting, System.stashed, System.stash, reading, List.append_nil]
    exact List.sublist_append_left _ _
  · simp only [System.transit, System.waiting, System.stashed, System.stash, reading, List.append_nil, List.length_append]
    rfl

theorem Sound.flush (sound : Sound system) {stage : Flush} (reading : system.reader = .flush initial stage) :
    Carries system (system.flush initial stage) := by
  have mux := sound.mux
  have raised := sound.raised
  obtain ⟨lent, waiting, holds, lends⟩ := sound.ring
  have still := lends
  rw [reading] at mux raised lends
  cases stage with
  | take =>
    have free : system.rxMuxTaken = false := mux
    simp only [System.flush, free]
    exact sound.move holds lends rfl nofun trivial (by rw [reading]; rfl) (by rw [reading]; rfl)
  | disable => exact sound.move holds lends mux nofun trivial (by rw [reading]; rfl) (by rw [reading]; rfl)
  | receive => exact sound.flushReceive reading
  | empty => exact sound.flushEmpty reading
  | update address size =>
    have borrowed : Reader.Lends system.rxRingBuf.pucFree lent (.flush initial (.giveBack address)) := ⟨lends.1, lends.2.2⟩
    exact sound.move holds borrowed mux nofun trivial (by rw [reading]; rfl) (by rw [reading]; rfl)
  | giveBack address =>
    obtain ⟨rfl, borrowed⟩ := lends
    obtain ⟨ring, returned, carries⟩ := @Sound.giveBack system lent waiting (.flush initial .check) sound holds still borrowed
      mux (fun _ => rfl) rfl trivial (by rw [reading]; rfl) (by rw [reading]; rfl)
    simp only [System.flush, returned]
    exact carries
  | check =>
    simp only [System.flush]
    split
    · rename_i flag
      exact sound.move holds lends mux (fun _ => flag) trivial (by rw [reading]; rfl) (by rw [reading]; rfl)
    · exact sound.move holds lends mux nofun trivial (by rw [reading]; rfl) (by rw [reading]; rfl)
  | send =>
    obtain rfl : lent = [] := lends
    obtain ⟨ring, memory, sent, carries⟩ | refused := @Sound.resend system waiting (.flush initial .sent) sound holds still
      (raised rfl) (by rw [reading]; rfl) mux (fun _ => rfl) trivial rfl (by rw [reading]; rfl)
    · simp only [System.flush, sent]
      exact carries
    · simp only [System.flush, refused]
      exact sound.move holds rfl mux nofun trivial (by rw [reading]; rfl) (by rw [reading]; rfl)
  | sent => exact sound.lower holds lends mux rfl trivial (by rw [reading]; rfl) (by rw [reading]; rfl)
  | reset => exact sound.flushReset reading
  | reenable => exact sound.move holds lends mux nofun trivial (by rw [reading]; rfl) (by rw [reading]; rfl)
  | give => exact sound.move holds lends rfl nofun trivial (by rw [reading]; rfl) (by rw [reading]; rfl)

end Flush

theorem outcome_bytes {copied : List UInt8} (short : copied.length ≤ 1) : (System.outcome copied).bytes = copied := by
  match copied with
  | [] => rfl
  | [_] => rfl
  | _ :: _ :: _ => exact absurd short (by simp)

theorem outcome_succeeds (copied : List UInt8) : System.outcome copied ≠ .error := by
  cases copied <;> exact nofun

section Read
variable {timedOut : Bool} {length : Nat} {copied : List UInt8}

theorem Sound.unchanged (sound : Sound system) (holds : system.rxRingBuf.Holds system.memory [] waiting) {empty : Bool}
    (mux : system.rxMuxTaken = true) (asked : copied.length + length = 1)
    (hand : system.reader.hand system.memory = copied) (resent : system.reader.resent = false) :
    Carries system (some { system with reader := System.unchanged length copied empty }) := by
  cases empty with
  | true => exact sound.move holds rfl mux nofun (Nat.le_of_add_right_le (Nat.le_of_eq asked)) hand.symm resent.symm
  | false => exact sound.move holds rfl mux nofun asked hand.symm resent.symm

theorem Sound.readReceive (sound : Sound system) (reading : system.reader = .read (.receive (length + 1) copied)) :
    Carries system (system.readBytes timedOut (.receive (length + 1) copied)) ∨
      (timedOut = false ∧ system.readBytes timedOut (.receive (length + 1) copied) = none) := by
  have mux := sound.mux
  have asks := sound.asks
  obtain ⟨lent, waiting, holds, lends⟩ := sound.ring
  have before := transit_eq holds lends
  rw [reading] at mux asks lends before
  obtain rfl : lent = [] := lends
  have limited : length + 1 ≠ 0 := Nat.succ_ne_zero length
  have generic : system.rxRingBuf.xRingbufferReceiveUpTo (length + 1) =
      system.rxRingBuf.prvReceiveGeneric (length + 1) := if_neg limited
  by_cases nothing : waiting = []
  · simp only [System.readBytes, generic, holds.receive_nothing nothing]
    cases timedOut with
    | false => exact .inr ⟨rfl, rfl⟩
    | true =>
      left
      exact sound.move holds rfl mux nofun asks (by rw [reading]; rfl) (by rw [reading]; rfl)
  · obtain ⟨ring, received, held, within⟩ := holds.receive nothing (length + 1)
    have positive := holds.portion_pos nothing (length + 1)
    have enough := system.rxRingBuf.portion_le waiting (length + 1)
    have few := system.rxRingBuf.portion_le_max waiting limited
    generalize system.rxRingBuf.portion waiting (length + 1) = size at received held positive enough few
    have taken : (waiting.take size).length = size := List.length_take_of_le enough
    have some_bytes : waiting.take size ≠ [] := List.length_pos_iff.mp (Nat.lt_of_lt_of_eq positive taken.symm)
    have lent : Reader.Lends ring.pucFree (waiting.take size) (.read (.copy (length + 1) copied ring.pucFree size)) :=
      ⟨rfl, taken.symm, some_bytes⟩
    left
    simp only [System.readBytes, generic, received]
    refine .quiet { sound with
      ring := ⟨_, _, held, lent⟩
      size := within.size.trans sound.size
      mux := mux
      raised := nofun
      asks := ⟨asks, few⟩ } ?_ rfl
    refine (transit_eq held lent).trans (Eq.trans ?_ before.symm)
    simp only [System.stashed, System.stash, reading, Reader.handOf, Reader.hand, Reader.resent, List.append_assoc]
    rw [← List.append_assoc (waiting.take size), List.take_append_drop]

theorem Sound.readBytes (sound : Sound system) {stage : Reading} (reading : system.reader = .read stage) :
    Carries system (system.readBytes timedOut stage) ∨ (timedOut = false ∧ system.readBytes timedOut stage = none) := by
  have mux := sound.mux
  have raised := sound.raised
  have asks := sound.asks
  obtain ⟨lent, waiting, holds, lends⟩ := sound.ring
  have still := lends
  rw [reading] at mux raised asks lends
  cases stage with
  | receive length copied =>
    cases length with
    | zero =>
      exact .inl (sound.move holds lends mux nofun (Nat.le_of_eq asks) (by rw [reading]; rfl) (by rw [reading]; rfl))
    | succ length => exact sound.readReceive reading
  | take =>
    left
    have free : system.rxMuxTaken = false := mux
    simp only [System.readBytes, free]
    exact sound.move holds lends rfl nofun rfl (by rw [reading]; rfl) (by rw [reading]; rfl)
  | copy length copied address size =>
    left
    obtain ⟨rfl, rfl, borrowed⟩ := lends
    obtain ⟨asked, few⟩ := asks
    refine sound.move holds ⟨rfl, rfl, borrowed⟩ mux nofun ?_ (by rw [reading]; rfl) (by rw [reading]; rfl)
    rw [holds.load_lent, Reader.Asks, List.length_append]
    omega
  | update length copied address size =>
    left
    have borrowed : Reader.Lends system.rxRingBuf.pucFree lent (.read (.giveBack (length - size) copied address)) :=
      ⟨lends.1, lends.2.2⟩
    exact sound.move holds borrowed mux nofun asks (by rw [reading]; rfl) (by rw [reading]; rfl)
  | giveBack length copied address =>
    left
    obtain ⟨rfl, borrowed⟩ := lends
    obtain ⟨ring, returned, carries⟩ := @Sound.giveBack system lent waiting (.read (.check length copied false)) sound holds
      still borrowed mux (fun _ => rfl) rfl asks (by rw [reading]; rfl) (by rw [reading]; rfl)
    simp only [System.readBytes, returned]
    exact carries
  | check length copied empty =>
    left
    obtain rfl : lent = [] := lends
    simp only [System.readBytes]
    split
    · rename_i flag
      exact sound.move holds rfl mux (fun _ => flag) asks (by rw [reading]; rfl) (by rw [reading]; rfl)
    · exact sound.unchanged holds mux asks (by rw [reading]; rfl) (by rw [reading]; rfl)
  | send length copied empty =>
    left
    obtain rfl : lent = [] := lends
    obtain ⟨ring, memory, sent, carries⟩ | refused := @Sound.resend system waiting (.read (.sent length copied)) sound holds
      still (raised rfl) (by rw [reading]; rfl) mux (fun _ => rfl) asks rfl (by rw [reading]; rfl)
    · simp only [System.readBytes, sent]
      exact carries
    · simp only [System.readBytes, refused]
      exact sound.unchanged holds mux asks (by rw [reading]; rfl) (by rw [reading]; rfl)
  | sent length copied =>
    left
    exact sound.lower holds lends mux rfl asks (by rw [reading]; rfl) (by rw [reading]; rfl)
  | reenable length copied =>
    left
    exact sound.move holds lends mux nofun asks (by rw [reading]; rfl) (by rw [reading]; rfl)
  | give copied =>
    left
    exact sound.move holds lends rfl nofun (outcome_succeeds copied)
      (by rw [reading]; exact outcome_bytes asks) (by rw [reading]; rfl)

end Read

theorem received_outcome {outcome : Read} (succeeded : outcome ≠ .error) (task : Listener) :
    (tUartListenerTask (.read outcome) task).2.received = task.received ++ outcome.bytes := by
  rw [Shell.received_read]
  cases outcome with
  | stored byte => rfl
  | timeout => rfl
  | error => exact absurd rfl succeeded

theorem Sound.advance (sound : Sound system) (timedOut : Bool) :
    Carries system (system.advance timedOut) ∨ (timedOut = false ∧ system.advance timedOut = none) := by
  cases reading : system.reader with
  | flush initial stage =>
    simp only [System.advance, reading]
    exact .inl (sound.flush reading)
  | read stage =>
    simp only [System.advance, reading]
    exact sound.readBytes reading
  | drain =>
    have mux := sound.mux
    obtain ⟨lent, waiting, holds, lends⟩ := sound.ring
    rw [reading] at mux lends
    left
    simp only [System.advance, reading]
    split
    · refine .quiet { sound with
        ring := ⟨lent, waiting, holds, lends⟩, mux := mux, raised := nofun, asks := trivial } ?_ rfl
      simp only [System.transit, System.waiting, System.stashed, System.stash, reading]
      rfl
    · rename_i type eventQueue received
      split
      · refine .quiet { sound with
          ring := ⟨lent, waiting, holds, lends⟩, mux := mux, raised := nofun, asks := trivial } ?_ rfl
        simp only [System.transit, System.waiting, System.stashed, System.stash, reading, received_event]
        rfl
      · refine .quiet { sound with
          ring := ⟨lent, waiting, holds, lends⟩, mux := mux, raised := nofun, asks := trivial } ?_ rfl
        simp only [System.transit, System.waiting, System.stashed, System.stash, reading, received_event]
  | deliver outcome =>
    have mux := sound.mux
    have asks := sound.asks
    obtain ⟨lent, waiting, holds, lends⟩ := sound.ring
    rw [reading] at mux asks lends
    left
    simp only [System.advance, reading]
    refine .quiet { sound with
      ring := ⟨lent, waiting, holds, lends⟩, mux := mux, raised := nofun, asks := trivial } ?_ rfl
    simp only [System.transit, System.waiting, System.stashed, System.stash, reading, received_outcome asks]
    simp only [Reader.hand, Reader.resent, List.append_nil]

theorem Sound.interrupt (sound : Sound system) {cause : Cause} (entered : system.interrupt cause = some after) :
    Sound after ∧ Flows system after [] := by
  have carries : ∀ handler : Handler, handler.clear = false → handler.Bounded → handler.hand system.stash = [] →
      system.handler = .idle → Sound { system with handler } ∧ Flows system { system with handler } [] := by
    intro handler clear bounded hand idle
    obtain ⟨_, same, kept, flows⟩ := sound.turn (fun cleared => absurd (clear.symm.trans cleared) Bool.false_ne_true) bounded
      (by rw [idle, hand]; rfl)
    cases same
    exact ⟨kept, flows⟩
  unfold System.interrupt at entered
  split at entered
  · cases entered
  · rename_i idle
    have idle := not_not.mp idle
    cases cause with
    | rxFifo =>
      simp only at entered
      split at entered
      · cases entered
        exact carries .checkFlag rfl trivial rfl idle
      · cases entered
    | rxFifoOvf =>
      simp only at entered
      split at entered
      · cases entered
        exact carries .resetFifo rfl trivial rfl idle
      · cases entered
    | brkDet =>
      cases entered
      exact carries (.post .uartBreak) rfl trivial rfl idle
    | framErr =>
      cases entered
      exact carries (.post .uartFrameErr) rfl trivial rfl idle
    | parityErr =>
      cases entered
      exact carries (.post .uartParityErr) rfl trivial rfl idle
    | wakeup =>
      cases entered
      exact carries (.post .uartWakeup) rfl trivial rfl idle

theorem Sound.arrive (sound : Sound system) (byte : UInt8) :
    Sound (system.arrive byte) ∧ Flows system (system.arrive byte) [byte] := by
  unfold System.arrive
  split
  · rename_i room
    refine ⟨{ sound with fifo := ?_ }, id, rfl, ?_⟩
    · rw [List.length_append]
      exact room
    · intro _
      have transit : ({ system with
          rxFifo := system.rxFifo ++ [byte]
          history := { system.history with line := system.history.line ++ [byte] } } : System).transit =
          system.transit ++ [byte] := (List.append_assoc _ _ _).symm
      rw [transit, List.length_append]
      exact ⟨List.Sublist.refl _, rfl⟩
  · refine ⟨{ sound with }, id, rfl, ?_⟩
    intro _
    have transit : ({ system with
        rxOvf := true
        history := { system.history with
          line := system.history.line ++ [byte]
          overrun := true
          lost := system.history.lost + 1 } } : System).transit = system.transit := rfl
    rw [transit]
    refine ⟨List.sublist_append_left _ _, ?_⟩
    simp only [List.length_singleton]
    omega

/-- What holds in every state of a run: the structure, and the account of the bytes. -/
structure Accounted (system : System) : Prop where
  sound : Sound system
  bytes : system.history.torn = false → system.transit.Sublist system.history.line ∧
    system.transit.length + system.history.discarded + system.history.lost = system.history.line.length

theorem Accounted.flows (accounted : Accounted system) {arrived : List UInt8} (sound : Sound after)
    (flows : Flows system after arrived) : Accounted after := by
  refine ⟨sound, ?_⟩
  intro whole
  have before : system.history.torn = false := by
    cases torn : system.history.torn with
    | false => rfl
    | true => exact absurd (whole.symm.trans (flows.torn torn)) Bool.false_ne_true
  obtain ⟨sublist, total⟩ := accounted.bytes before
  obtain ⟨moved, counted⟩ := flows.bytes whole
  rw [flows.line, List.length_append]
  exact ⟨moved.trans (sublist.append_right arrived), by omega⟩

theorem Accounted.step (accounted : Accounted system) (action : Action) : Accounted (perform action system).2 := by
  have sound := accounted.sound
  have carried : ∀ next, Carries system next → Accounted (next.getD system) := by
    rintro _ ⟨after, rfl, kept, flows⟩
    exact accounted.flows kept flows
  cases action with
  | arrive byte => exact accounted.flows (sound.arrive byte).1 (sound.arrive byte).2
  | interrupt cause =>
    cases entered : system.interrupt cause with
    | none => simpa [perform, entered] using accounted
    | some after =>
      obtain ⟨kept, flows⟩ := sound.interrupt entered
      simpa [perform, entered] using accounted.flows kept flows
  | handler stale =>
    by_cases busy : system.handler = .idle
    · have stays : system.handle stale = none := by
        simp only [System.handle, busy]
      simpa [perform, stays] using accounted
    · exact carried _ (sound.handle busy stale)
  | reader timedOut =>
    obtain carries | ⟨-, waits⟩ := sound.advance timedOut
    · exact carried _ carries
    · simpa [perform, waits] using accounted

theorem accounted_installed (storage : Nat) (memory : Memory) (readLen incomingByte : UInt8) :
    Accounted (.installed storage memory readLen incomingByte) := by
  refine ⟨⟨⟨[], [], .initial (by decide) storage memory, rfl⟩, rfl, rfl, nofun, nofun, rfl, Nat.zero_le _, Nat.zero_le _,
    trivial, trivial⟩, ?_⟩
  intro _
  exact ⟨List.nil_sublist _, rfl⟩

theorem Accounted.trail (accounted : Accounted system) (actions : List Action) :
    Accounted (trail perform actions system) := by
  induction actions generalizing system with
  | nil => exact accounted
  | cons action rest ih => exact ih (accounted.step action)

end LaserDriver.Uart
