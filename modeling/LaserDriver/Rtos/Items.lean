import LaserDriver.Rtos.Returns

/-! A no-split buffer and those who use it. They may keep any number of items and return
them in any order; the items come out whole and in the order in which they went in. -/

namespace LaserDriver.Rtos.Nosplit
open Effects

section
variable {circle : Storage} {memory : Memory} {limit place : Nat} {slots others : List Slot}

theorem loans_append (has : circle.Has place) (bounded : total slots + total others ≤ circle.size) :
    loans circle place (slots ++ others) =
      loans circle place slots ++ loans circle (circle.after place (total slots)) others := by
  induction slots generalizing place with
  | nil =>
    rw [total_nil, Storage.after_zero has]
    rfl
  | cons slot rest ih =>
    rw [total_cons] at bounded ⊢
    rw [List.cons_append, loans, loans, ih (has.after (by omega)) (by omega), Storage.after_add has (by omega),
      List.append_assoc]

theorem load_loan (laid : Laid circle memory limit place slots) :
    ∀ loan ∈ loans circle place slots, load memory loan.1 loan.2.length = loan.2 := by
  induction slots generalizing place with
  | nil => nofun
  | cons slot rest ih =>
    intro loan member
    obtain first | later := List.mem_append.mp member
    · split at first
      · cases first
      · rw [List.mem_singleton.mp first]
        exact laid.1.bytes
    · exact ih laid.2 loan later

theorem returned_of_loans_nil (nothing : loans circle place slots = []) : ∀ slot ∈ slots, slot.returned = true := by
  induction slots generalizing place with
  | nil => nofun
  | cons slot rest ih =>
    obtain ⟨first, later⟩ := List.append_eq_nil_iff.mp nothing
    intro other member
    obtain rfl | behind := List.mem_cons.mp member
    · by_contra still
      rw [if_neg still] at first
      cases first
    · exact ih later other behind

theorem slot_of_loan (has : circle.Has place) (bounded : total slots ≤ circle.size) {before after : List (Nat × List UInt8)}
    {loan : Nat × List UInt8} (lent : loans circle place slots = before ++ loan :: after) :
    ∃ front slot behind, slots = front ++ slot :: behind ∧ slot.returned = false ∧
      loan = (slot.start circle (circle.after place (total front)) + headerSize, slot.item) ∧
      loans circle place front = before ∧
      loans circle (circle.after (circle.after place (total front)) slot.span) behind = after := by
  induction slots generalizing place before with
  | nil => exact absurd lent.symm (by simp [loans])
  | cons slot rest ih =>
    rw [total_cons] at bounded
    have next : circle.Has (circle.after place slot.span) := has.after (by omega)
    rw [loans] at lent
    have onward : ∀ {kept : List (Nat × List UInt8)}, loans circle (circle.after place slot.span) rest = kept ++ loan :: after →
        ∃ front other behind, slot :: rest = (slot :: front) ++ other :: behind ∧ other.returned = false ∧
          loan = (other.start circle (circle.after place (total (slot :: front))) + headerSize, other.item) ∧
          loans circle (circle.after place slot.span) front = kept ∧
          loans circle (circle.after (circle.after place (total (slot :: front))) other.span) behind = after := by
      intro kept found
      obtain ⟨front, other, behind, rfl, still, address, first, last⟩ := ih next (by omega) found
      rw [total_append] at bounded
      rw [Storage.after_add has (by omega), ← total_cons] at address last
      exact ⟨front, other, behind, rfl, still, address, first, last⟩
    cases returned : slot.returned with
    | true =>
      rw [returned, if_pos rfl, List.nil_append] at lent
      obtain ⟨front, other, behind, whole, still, address, first, last⟩ := onward lent
      refine ⟨slot :: front, other, behind, whole, still, address, ?_, last⟩
      rw [loans, returned, if_pos rfl, List.nil_append]
      exact first
    | false =>
      rw [returned, if_neg Bool.false_ne_true, List.singleton_append] at lent
      cases before with
      | nil =>
        obtain ⟨rfl, rfl⟩ := List.cons.inj lent
        refine ⟨[], slot, rest, rfl, returned, ?_, rfl, ?_⟩
        · rw [total_nil, Storage.after_zero has]
        · rw [total_nil, Storage.after_zero has]
      | cons earlier kept =>
        obtain ⟨rfl, found⟩ := List.cons.inj lent
        obtain ⟨front, other, behind, whole, still, address, first, last⟩ := onward found
        refine ⟨slot :: front, other, behind, whole, still, address, ?_, last⟩
        rw [loans, returned, if_neg Bool.false_ne_true, List.singleton_append, first]

end

inductive Call where
  | send (item : List UInt8)
  | receive
  | returnItem (index : Nat)
  deriving Repr, DecidableEq

/-- The buffer, the items that are lent with their addresses, and the items accepted and
obtained so far. -/
structure Client where
  ring : Ringbuffer
  memory : Memory
  borrowed : List (Nat × List UInt8)
  accepted : List (List UInt8)
  obtained : List (List UInt8)

namespace Client

def create (xBufferSize storage : Nat) (memory : Memory) : Client :=
  ⟨prvInitializeNewRingbuffer xBufferSize storage, memory, [], [], []⟩

/-- Whether the call got what it asked for; nothing where an assertion fails. Only
what is lent is returned. -/
def perform (call : Call) (client : Client) : Option Bool × Client :=
  match call with
  | .send item =>
    match xRingbufferSend client.ring client.memory item with
    | none => (none, client)
    | some (true, ring, memory) => (some true, { client with ring, memory, accepted := client.accepted ++ [item] })
    | some (false, ring, memory) => (some false, { client with ring, memory })
  | .receive =>
    match xRingbufferReceive client.ring client.memory with
    | none => (none, client)
    | some (none, ring) => (some false, { client with ring })
    | some (some (address, size), ring) =>
      let item := load client.memory address size
      (some true, { client with
        ring
        borrowed := client.borrowed ++ [(address, item)]
        obtained := client.obtained ++ [item] })
  | .returnItem index =>
    match client.borrowed[index]? with
    | none => (some false, client)
    | some (address, _) =>
      match vRingbufferReturnItem client.ring client.memory address with
      | none => (none, client)
      | some (ring, memory) => (some true, { client with ring, memory, borrowed := client.borrowed.eraseIdx index })

/-- When a full buffer is lent as a whole, `pucFree` and `pucRead` meet: the first item
that is returned would free the others with it. -/
def Careful (client : Client) : Call → Prop
  | .returnItem _ => client.ring.bufferFull = true → client.ring.xItemsWaiting = 0 → client.borrowed.length ≤ 1
  | _ => True

/-- The items obtained are the first of those accepted, some of them may still be lent,
and the others wait. -/
structure Served (xSize storage : Nat) (memory : Memory) (client : Client) : Prop where
  head : client.ring.pucHead = storage
  size : client.ring.xSize = xSize
  outside : ∀ place, place < storage ∨ storage + xSize ≤ place → client.memory place = memory place
  lent : (client.borrowed.map Prod.snd).Sublist client.obtained
  split : ∃ lent waiting, Holds client.ring client.memory lent waiting ∧
    client.borrowed = loans client.ring.circle client.ring.pucFree lent ∧
    client.accepted = client.obtained ++ waiting.map Slot.item

variable {xSize storage : Nat} {memory : Memory} {client : Client}

theorem served_create (aligned : storage % 4 = 0) (whole : xSize % 4 = 0) (least : 12 ≤ xSize)
    (limited : xSize < 0x100000000) : Served xSize storage memory (create xSize storage memory) :=
  ⟨rfl, rfl, fun _ _ => rfl, List.Sublist.refl _, [], [], initial aligned whole least limited memory, rfl, rfl⟩

theorem Served.within (served : Served xSize storage memory client) {ring : Ringbuffer} {later : Memory}
    (within : client.ring.Within ring client.memory later) :
    ring.pucHead = storage ∧ ring.xSize = xSize ∧
      ∀ place, place < storage ∨ storage + xSize ≤ place → later place = memory place := by
  refine ⟨within.head.trans served.head, within.size.trans served.size, ?_⟩
  intro place apart
  rw [← served.outside place apart]
  apply within.beyond
  rw [served.head, served.size]
  exact apart

theorem Served.sends (served : Served xSize storage memory client) (item : List UInt8) :
    (perform (.send item) client).1 ≠ none ∧ Served xSize storage memory (perform (.send item) client).2 := by
  obtain ⟨lent, waiting, holds, borrowed, accepted⟩ := served.split
  obtain ⟨-, after, later, sent, held, within, free⟩ | ⟨-, refused⟩ := holds.send item
  · obtain ⟨head, same, outside⟩ := served.within within
    simp only [perform, sent]
    refine ⟨by simp, head, same, outside, served.lent, lent, _, held, ?_, ?_⟩
    · rw [within.circle, free]
      exact borrowed
    · rw [accepted, List.map_append, List.append_assoc, List.map_singleton, (slotFor_item client.ring item).1]
  · simp only [perform, refused]
    exact ⟨by simp, served⟩

theorem Served.receives (served : Served xSize storage memory client) :
    (perform .receive client).1 ≠ none ∧ Served xSize storage memory (perform .receive client).2 := by
  obtain ⟨lent, waiting, holds, borrowed, accepted⟩ := served.split
  cases waiting with
  | nil =>
    simp only [perform, holds.receive_nothing rfl]
    exact ⟨by simp, served⟩
  | cons slot rest =>
    obtain ⟨after, received, held, within, free⟩ := holds.receive
    obtain ⟨head, same, outside⟩ := served.within within
    have bytes : load client.memory (slot.start client.ring.circle client.ring.pucRead + headerSize) slot.item.length =
        slot.item := holds.next_lies.bytes
    simp only [perform, received, bytes]
    refine ⟨by simp, head, same, outside, ?_, _, rest, held, ?_, ?_⟩
    · rw [List.map_append]
      exact served.lent.append (List.Sublist.refl _)
    · have bounded : total lent + total [slot] ≤ client.ring.circle.size := by
        have bounded := holds.next_bounded
        rw [total_cons, total_nil]
        exact bounded
      rw [within.circle, free, loans_append holds.free.has bounded, ← holds.read, borrowed]
      simp only [loans, holds.unread slot List.mem_cons_self, Bool.false_eq_true, if_false, List.append_nil]
    · rw [accepted, List.map_cons, List.append_assoc, List.singleton_append]

theorem Served.yields (served : Served xSize storage memory client) (more : client.obtained.length < client.accepted.length) :
    (perform .receive client).1 = some true ∧
      (perform .receive client).2.obtained.length = client.obtained.length + 1 := by
  obtain ⟨lent, waiting, holds, borrowed, accepted⟩ := served.split
  cases waiting with
  | nil =>
    rw [accepted, List.map_nil, List.append_nil] at more
    exact absurd more (Nat.lt_irrefl _)
  | cons slot rest =>
    obtain ⟨after, received, -⟩ := holds.receive
    simp only [perform, received]
    exact ⟨trivial, List.length_append⟩

theorem Served.returns (served : Served xSize storage memory client) (index : Nat)
    (careful : Careful client (.returnItem index)) :
    (perform (.returnItem index) client).1 ≠ none ∧
      Served xSize storage memory (perform (.returnItem index) client).2 := by
  obtain ⟨lent, waiting, holds, borrowed, accepted⟩ := served.split
  cases found : client.borrowed[index]? with
  | none =>
    simp only [perform, found]
    exact ⟨by simp, served⟩
  | some loan =>
    obtain ⟨below, got⟩ := List.getElem?_eq_some_iff.mp found
    have cut : client.borrowed = client.borrowed.take index ++ loan :: client.borrowed.drop (index + 1) := by
      rw [← got, List.getElem_cons_drop below, List.take_append_drop]
    have erased : client.borrowed.eraseIdx index = client.borrowed.take index ++ client.borrowed.drop (index + 1) :=
      List.eraseIdx_eq_take_drop_succ _ _
    have has := holds.free.has
    have bounded : total lent ≤ client.ring.circle.size := Nat.le_trans (Nat.le_add_right _ _) holds.fits
    obtain ⟨front, slot, behind, rfl, still, rfl, first, last⟩ := slot_of_loan has bounded (borrowed.symm.trans cut)
    have whole_careful : total (front ++ slot :: behind) = client.ring.xSize →
        ∀ other ∈ front ++ behind, other.returned = true := by
      intro whole
      have fits := holds.fits
      have empty : waiting = [] := by
        have short := holds.parts.2.length_le
        unfold headerSize at short
        exact List.length_eq_zero_iff.mp (by omega)
      have full := holds.full.mpr (by omega)
      have counted := holds.counted
      rw [empty] at counted
      have single := careful full counted
      rw [cut, List.length_append, List.length_cons] at single
      have front_empty : loans client.ring.circle client.ring.pucFree front = [] := by
        rw [first]
        exact List.length_eq_zero_iff.mp (by omega)
      have behind_empty := List.length_eq_zero_iff.mp (show (client.borrowed.drop (index + 1)).length = 0 by omega)
      rw [behind_empty] at last
      intro other member
      obtain before | after := List.mem_append.mp member
      · exact returned_of_loans_nil front_empty other before
      · exact returned_of_loans_nil last other after
    obtain ⟨after, later, returned, held, within, kept⟩ := holds.give_back still whole_careful
    obtain ⟨head, same, outside⟩ := served.within within
    have fits := holds.lent_bounded
    have remaining : loans client.ring.circle client.ring.pucFree (front ++ giveBack slot :: behind) =
        client.borrowed.take index ++ client.borrowed.drop (index + 1) := by
      rw [loans_append has (by rw [total_cons]; change _ + (slot.span + _) ≤ client.ring.xSize; omega), first]
      congr 1
    simp only [perform, found, returned]
    refine ⟨by simp, head, same, outside, ?_, _, waiting, held, ?_, accepted⟩
    · exact ((List.eraseIdx_sublist client.borrowed index).map Prod.snd).trans served.lent
    · rw [kept, remaining, erased]

theorem Served.step (served : Served xSize storage memory client) (call : Call) (careful : Careful client call) :
    (perform call client).1 ≠ none ∧ Served xSize storage memory (perform call client).2 := by
  cases call with
  | send item => exact served.sends item
  | receive => exact served.receives
  | returnItem index => exact served.returns index careful

theorem Served.trail (served : Served xSize storage memory client) (calls : List Call)
    (careful : Meets perform Careful calls client) : Served xSize storage memory (trail perform calls client) := by
  induction calls generalizing client with
  | nil => exact served
  | cons call rest ih => exact ih (served.step call careful.1).2 careful.2

theorem Served.accepts (served : Served xSize storage memory client) {item : List UInt8} (some_bytes : item ≠ []) :
    (perform (.send item) client).1 = some true ↔ item.length ≤ prvGetCurMaxSizeNoSplit client.ring := by
  obtain ⟨lent, waiting, holds, -, -⟩ := served.split
  rw [← holds.fits_iff (List.length_pos_iff.mpr some_bytes)]
  obtain ⟨room, after, later, sent, -⟩ | ⟨full, refused⟩ := holds.send item
  · simp only [perform, sent, true_iff]
    exact room
  · simp only [perform, refused]
    exact iff_of_false (by simp) full

theorem Served.empties (served : Served xSize storage memory client) (returned : client.borrowed = [])
    (received : client.obtained = client.accepted) :
    prvGetCurMaxSizeNoSplit client.ring = xMaxItemSize client.ring := by
  obtain ⟨lent, waiting, holds, borrowed, accepted⟩ := served.split
  have none_waits : waiting = [] := by
    rw [received] at accepted
    exact List.map_eq_nil_iff.mp (List.self_eq_append_right.mp accepted)
  have none_lent : lent = [] := by
    have all := returned_of_loans_nil (borrowed.symm.trans returned)
    cases lent with
    | nil => rfl
    | cons slot rest =>
      have still := holds.first slot rfl
      rw [all slot List.mem_cons_self] at still
      cases still
  have fits := holds.fits_of_empty ⟨none_lent, none_waits⟩ (xMaxItemSize client.ring)
  apply Nat.le_antisymm
  · unfold prvGetCurMaxSizeNoSplit
    split
    · exact Nat.zero_le _
    · exact Nat.min_le_right _ _
  · by_cases positive : 0 < xMaxItemSize client.ring
    · exact (holds.fits_iff positive).mp ⟨Nat.le_refl _, fits⟩
    · omega

/-- Over every run in which a full buffer that is lent as a whole is returned as one item: no
assertion fails, the items come out whole and as they went in, those that are lent stay as
they are, an item is accepted exactly when it fits the free size, all of the buffer is free
again when all has been returned, nothing outside the storage is written, and where items
wait a receive gets the next one. -/
theorem items_in_order (aligned : storage % 4 = 0) (whole : xSize % 4 = 0) (least : 12 ≤ xSize)
    (limited : xSize < 0x100000000) (memory : Memory) (calls : List Call)
    (careful : Meets perform Careful calls (create xSize storage memory)) :
    let client := Effects.trail perform calls (create xSize storage memory)
    (∀ call, Careful client call → (perform call client).1 ≠ none) ∧
      client.obtained <+: client.accepted ∧
      client.ring.xItemsWaiting = client.accepted.length - client.obtained.length ∧
      (client.borrowed.map Prod.snd).Sublist client.obtained ∧
      (∀ loan ∈ client.borrowed, load client.memory loan.1 loan.2.length = loan.2) ∧
      (∀ item ≠ [], (perform (.send item) client).1 = some true ↔
        item.length ≤ prvGetCurMaxSizeNoSplit client.ring) ∧
      (client.borrowed = [] → client.obtained = client.accepted →
        prvGetCurMaxSizeNoSplit client.ring = alignSize (xSize / 2) - headerSize) ∧
      (∀ place, place < storage ∨ storage + xSize ≤ place → client.memory place = memory place) ∧
      (client.obtained.length < client.accepted.length → (perform .receive client).1 = some true ∧
        (perform .receive client).2.obtained.length = client.obtained.length + 1) := by
  intro client
  have served : Served xSize storage memory client := (served_create aligned whole least limited).trail calls careful
  obtain ⟨lent, waiting, holds, borrowed, accepted⟩ := served.split
  refine ⟨fun call kind => (served.step call kind).1, ?_, ?_, served.lent, ?_, fun item bytes => served.accepts bytes, ?_,
    served.outside, fun more => served.yields more⟩
  · rw [accepted]
    exact List.prefix_append _ _
  · rw [holds.counted, accepted, List.length_append, List.length_map]
    omega
  · rw [borrowed]
    exact load_loan holds.parts.1
  · intro returned received
    rw [served.empties returned received, xMaxItemSize, served.size]

theorem items_in_order_around :
    let client := Effects.trail perform [.send [1, 2, 3], .receive, .returnItem 0, .send [4, 5, 6, 7, 8], .receive]
      (create 32 64 fun _ => 0)
    client.obtained <+: client.accepted :=
  (items_in_order (by decide : 64 % 4 = 0) (by decide : 32 % 4 = 0) (by decide) (by decide) (fun _ => 0)
    [.send [1, 2, 3], .receive, .returnItem 0, .send [4, 5, 6, 7, 8], .receive]
    ⟨trivial, trivial, fun _ _ => by decide, trivial, trivial, trivial⟩).2.1

/-- Without the care: two items fill the buffer and are lent, the second one is returned, and
the next item overwrites the first one. -/
example :
    let calls : List Nosplit.Call :=
      [.send [1, 2, 3, 4, 5, 6, 7, 8], .send [8, 7, 6, 5, 4, 3, 2, 1], .receive, .receive, .returnItem 1,
        .send [0, 0, 0, 0, 0, 0, 0, 0]]
    let client := trail perform calls (create 32 64 fun _ => 0)
    client.borrowed = [(72, [1, 2, 3, 4, 5, 6, 7, 8])] ∧
      load client.memory 72 8 = [0, 0, 0, 0, 0, 0, 0, 0] := by
  decide

end Client
end LaserDriver.Rtos.Nosplit
