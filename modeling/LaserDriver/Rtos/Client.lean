import LaserDriver.Rtos.Ringbuf

/-! A byte buffer and those who use it: whatever they send, receive and return in
whatever order, the bytes come out as they went in. -/

namespace LaserDriver.Rtos
open Effects

inductive Call where
  | send (item : List UInt8)
  | receive
  | receiveUpTo (xMaxSize : Nat)
  | returnItem
  deriving Repr, DecidableEq

def Call.receives : Call → Bool
  | .receive => true
  | .receiveUpTo xMaxSize => xMaxSize != 0
  | _ => false

/-- The buffer, the piece that is lent, and the bytes accepted and obtained so far. -/
structure Client where
  ring : Ringbuffer
  memory : Memory
  borrowed : Option (Nat × Nat)
  accepted : List UInt8
  obtained : List UInt8

namespace Client

def create (xBufferSize storage : Nat) (memory : Memory) : Client :=
  ⟨prvInitializeNewRingbuffer xBufferSize storage, memory, none, [], []⟩

def lend (client : Client) : Option (Option (Nat × Nat) × Ringbuffer) → Option Bool × Client
  | none => (none, client)
  | some (none, ring) => (some false, { client with ring })
  | some (some (address, size), ring) =>
    (some true, { client with
      ring
      borrowed := some (address, size)
      obtained := client.obtained ++ load client.memory address size })

/-- Whether the call got what it asked for; nothing where an assertion fails. Only
what is lent is returned. -/
def perform (call : Call) (client : Client) : Option Bool × Client :=
  match call with
  | .send item =>
    match client.ring.xRingbufferSendFromISR client.memory item with
    | none => (none, client)
    | some (true, ring, memory) => (some true, { client with ring, memory, accepted := client.accepted ++ item })
    | some (false, ring, memory) => (some false, { client with ring, memory })
  | .receive => client.lend client.ring.xRingbufferReceive
  | .receiveUpTo xMaxSize => client.lend (client.ring.xRingbufferReceiveUpTo xMaxSize)
  | .returnItem =>
    match client.borrowed with
    | none => (some false, client)
    | some (address, _) =>
      match client.ring.vRingbufferReturnItem address with
      | none => (none, client)
      | some ring => (some true, { client with ring, borrowed := none })

def lentSize (client : Client) : Nat := (client.borrowed.map Prod.snd).getD 0

/-- The bytes obtained are the first of those accepted, the last of them may still be
lent, and the others wait. -/
structure Served (xSize storage : Nat) (memory : Memory) (client : Client) : Prop where
  head : client.ring.pucHead = storage
  size : client.ring.xSize = xSize
  outside : ∀ place, place < storage ∨ storage + xSize ≤ place → client.memory place = memory place
  split : ∃ lent waiting, client.ring.Holds client.memory lent waiting ∧
    client.borrowed = (if lent = [] then none else some (client.ring.pucFree, lent.length)) ∧
    client.accepted = client.obtained ++ waiting ∧ lent <:+ client.obtained

variable {xSize storage : Nat} {memory : Memory} {client : Client}

theorem served_create (positive : 0 < xSize) : Served xSize storage memory (create xSize storage memory) :=
  ⟨rfl, rfl, fun _ _ => rfl, [], [], .initial positive storage memory, rfl, rfl, List.suffix_refl []⟩

theorem Served.within (served : Served xSize storage memory client) {ring : Ringbuffer} {later : Memory}
    (within : client.ring.Within ring client.memory later) :
    ring.pucHead = storage ∧ ring.xSize = xSize ∧
      ∀ place, place < storage ∨ storage + xSize ≤ place → later place = memory place := by
  refine ⟨within.head.trans served.head, within.size.trans served.size, ?_⟩
  intro place apart
  rw [← served.outside place apart]
  apply within.beyond
  rw [served.head, served.size]
  exact apart

theorem lentSize_eq {lent : List UInt8} {address : Nat}
    (borrowed : client.borrowed = if lent = [] then none else some (address, lent.length)) :
    client.lentSize = lent.length := by
  unfold lentSize
  rw [borrowed]
  split
  · rename_i nothing
    rw [nothing]
    rfl
  · rfl

/-- A receive that finds something lends it, and any other leaves the buffer as it is. -/
theorem Served.lend (served : Served xSize storage memory client) (xMaxSize : Nat) :
    (client.lend (client.ring.prvReceiveGeneric xMaxSize)).1 ≠ none ∧
      Served xSize storage memory (client.lend (client.ring.prvReceiveGeneric xMaxSize)).2 := by
  obtain ⟨lent, waiting, holds, borrowed, accepted, last⟩ := served.split
  by_cases free : lent = []
  · subst free
    by_cases empty : waiting = []
    · rw [holds.receive_nothing empty]
      exact ⟨by simp [Client.lend], served⟩
    · obtain ⟨after, received, held, within⟩ := holds.receive empty xMaxSize
      obtain ⟨head, same, outside⟩ := served.within within
      have positive := holds.portion_pos empty xMaxSize
      have enough := client.ring.portion_le waiting xMaxSize
      rw [received]
      generalize client.ring.portion waiting xMaxSize = size at held positive enough ⊢
      have taken : (waiting.take size).length = size := List.length_take_of_le enough
      have some_bytes : waiting.take size ≠ [] := List.length_pos_iff.mp (Nat.lt_of_lt_of_eq positive taken.symm)
      have found := held.load_lent
      rw [taken] at found
      refine ⟨by simp [Client.lend], head, same, outside, _, _, held, ?_, ?_, ?_⟩
      · rw [if_neg some_bytes, taken]
        rfl
      · simp only [Client.lend, found, List.append_assoc, List.take_append_drop]
        exact accepted
      · simp only [Client.lend, found]
        exact List.suffix_append _ _
  · rw [holds.receive_lent free]
    exact ⟨by simp [Client.lend], served⟩

theorem Served.step (served : Served xSize storage memory client) (call : Call) :
    (perform call client).1 ≠ none ∧ Served xSize storage memory (perform call client).2 := by
  obtain ⟨lent, waiting, holds, borrowed, accepted, last⟩ := served.split
  cases call with
  | send item =>
    obtain ⟨-, after, later, sent, held, within, free⟩ | ⟨-, refused⟩ := holds.send item
    · obtain ⟨head, same, outside⟩ := served.within within
      simp only [perform, sent]
      refine ⟨by simp, head, same, outside, lent, waiting ++ item, held, ?_, ?_, last⟩
      · rw [free]
        exact borrowed
      · rw [accepted, List.append_assoc]
    · simp only [perform, refused]
      exact ⟨by simp, served⟩
  | receive => exact served.lend 0
  | receiveUpTo xMaxSize =>
    by_cases zero : xMaxSize = 0
    · simp only [perform, Ringbuffer.xRingbufferReceiveUpTo, if_pos zero]
      exact ⟨by simp [Client.lend], served⟩
    · simp only [perform, Ringbuffer.xRingbufferReceiveUpTo, if_neg zero]
      exact served.lend xMaxSize
  | returnItem =>
    by_cases free : lent = []
    · rw [if_pos free] at borrowed
      simp only [perform, borrowed]
      exact ⟨by simp, served⟩
    · rw [if_neg free] at borrowed
      obtain ⟨after, returned, held, within⟩ := holds.give_back free holds.free
      obtain ⟨head, same, outside⟩ := served.within within
      simp only [perform, borrowed, returned]
      exact ⟨by simp, head, same, outside, [], waiting, held, rfl, accepted, List.nil_suffix⟩

theorem Served.trail (served : Served xSize storage memory client) (calls : List Call) :
    Served xSize storage memory (trail perform calls client) := by
  induction calls generalizing client with
  | nil => exact served
  | cons call rest ih => exact ih (served.step call).2

theorem Served.accepts (served : Served xSize storage memory client) (item : List UInt8) :
    (perform (.send item) client).1 = some true ↔
      client.accepted.length + item.length ≤ xSize + (client.obtained.length - client.lentSize) := by
  obtain ⟨lent, waiting, holds, borrowed, accepted, last⟩ := served.split
  have size := served.size
  have shorter := last.length_le
  have total : client.accepted.length = client.obtained.length + waiting.length := by
    rw [accepted, List.length_append]
  rw [lentSize_eq borrowed]
  obtain ⟨room, after, later, sent, -⟩ | ⟨long, refused⟩ := holds.send item
  · simp only [perform, sent, true_iff]
    omega
  · simp only [perform, refused]
    exact iff_of_false (by simp) (by omega)

theorem Served.yields (served : Served xSize storage memory client) (free : client.borrowed = none)
    (more : client.obtained.length < client.accepted.length) (xMaxSize : Nat) :
    (client.lend (client.ring.prvReceiveGeneric xMaxSize)).1 = some true ∧
      client.obtained.length < (client.lend (client.ring.prvReceiveGeneric xMaxSize)).2.obtained.length := by
  obtain ⟨lent, waiting, holds, borrowed, accepted, -⟩ := served.split
  obtain rfl : lent = [] := by
    by_cases nothing : lent = []
    · exact nothing
    · rw [free, if_neg nothing] at borrowed
      cases borrowed
  have some_wait : waiting ≠ [] := by
    intro empty
    rw [accepted, empty, List.append_nil] at more
    exact Nat.lt_irrefl _ more
  obtain ⟨after, received, -⟩ := holds.receive some_wait xMaxSize
  have positive := holds.portion_pos some_wait xMaxSize
  rw [received]
  refine ⟨rfl, ?_⟩
  simp only [Client.lend, List.length_append, length_load]
  omega

theorem Served.receives (served : Served xSize storage memory client) (free : client.borrowed = none)
    (more : client.obtained.length < client.accepted.length) {call : Call} (receives : call.receives = true) :
    (perform call client).1 = some true ∧ client.obtained.length < (perform call client).2.obtained.length := by
  cases call with
  | send => cases receives
  | returnItem => cases receives
  | receive => exact served.yields free more 0
  | receiveUpTo xMaxSize =>
    have limited : xMaxSize ≠ 0 := by simpa [Call.receives] using receives
    simp only [perform, Ringbuffer.xRingbufferReceiveUpTo, if_neg limited]
    exact served.yields free more xMaxSize

/-- Over every sequence of calls no assertion fails, the bytes come out as they went in,
the counters agree with them, an item is accepted exactly when it fits, nothing outside
the storage is written, and where bytes wait and none are lent a receive gets some. -/
theorem bytes_in_order (positive : 0 < xSize) (storage : Nat) (memory : Memory) (calls : List Call) :
    let client := Effects.trail perform calls (create xSize storage memory)
    (∀ call, (perform call client).1 ≠ none) ∧ client.obtained <+: client.accepted ∧
      client.ring.xItemsWaiting = client.accepted.length - client.obtained.length ∧
      client.ring.prvGetCurMaxSizeByteBuf + client.accepted.length =
        xSize + (client.obtained.length - client.lentSize) ∧
      (∀ item, (perform (.send item) client).1 = some true ↔ item.length ≤ client.ring.prvGetCurMaxSizeByteBuf) ∧
      (∀ place, place < storage ∨ storage + xSize ≤ place → client.memory place = memory place) ∧
      (client.borrowed = none → client.obtained.length < client.accepted.length → ∀ call : Call, call.receives = true →
        (perform call client).1 = some true ∧ client.obtained.length < (perform call client).2.obtained.length) := by
  intro client
  have served : Served xSize storage memory client := (served_create positive).trail calls
  obtain ⟨lent, waiting, holds, borrowed, accepted, last⟩ := served.split
  have size := served.size
  have fits := holds.fits
  have shorter := last.length_le
  have total : client.accepted.length = client.obtained.length + waiting.length := by
    rw [accepted, List.length_append]
  have free : client.ring.prvGetCurMaxSizeByteBuf + client.accepted.length =
      xSize + (client.obtained.length - client.lentSize) := by
    rw [holds.free_size, lentSize_eq borrowed]
    omega
  refine ⟨fun call => (served.step call).1, ?_, ?_, free, ?_, served.outside,
    fun none_lent more _ receives => served.receives none_lent more receives⟩
  · rw [accepted]
    exact List.prefix_append _ _
  · rw [holds.counted]
    omega
  · intro item
    rw [served.accepts item]
    omega

theorem bytes_in_order_around :
    let client := Effects.trail perform [.send [1, 2, 3], .receiveUpTo 2, .returnItem, .send [4, 5, 6], .receive]
      (create 4 100 fun _ => 0)
    client.obtained <+: client.accepted :=
  (bytes_in_order (by decide : 0 < 4) 100 (fun _ => 0)
    [.send [1, 2, 3], .receiveUpTo 2, .returnItem, .send [4, 5, 6], .receive]).2.1

end Client
end LaserDriver.Rtos
