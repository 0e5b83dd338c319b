import LaserDriver.Lib.Run

/-! The listener task of `shellComUART.c`, and the `uart_read_bytes` that it calls for
one byte at a time. The shell is only the place where the characters go. -/

namespace LaserDriver.Shell
open Effects

inductive EventType where
  | uartData | uartBreak | uartBufferFull | uartFifoOvf | uartFrameErr | uartParityErr | uartDataBreak
  | uartPatternDet | uartWakeup | uartEventMax
  deriving Repr, DecidableEq

/-- What `xRingbufferReceiveUpTo` finds: at least one byte, or nothing, and then
`uart_check_buf_full` answers whether it moved the stash into the ring buffer. -/
inductive Fetch where
  | item (first : UInt8) (more : List UInt8)
  | nothing (refilled : Bool)

structure Port where
  uartNum : Nat
  installed : Bool

def uartNumMax : Nat := 3

/-- `while (length)`, with the bytes copied so far. It has not come to its end where the
answers run out. -/
def fetchBytes : List Fetch → Nat → List UInt8 → Option (List UInt8)
  | _, 0, copied => some copied
  | [], _ + 1, _ => none
  | .item first more :: rest, length + 1, copied =>
    let data := (first :: more).take (length + 1)
    fetchBytes rest (length + 1 - data.length) (copied ++ data)
  | .nothing true :: rest, length + 1, copied => fetchBytes rest (length + 1) copied
  | .nothing false :: _, _ + 1, copied => some copied

def uartReadBytes (port : Port) (buf : Bool) (length : Nat) (rxMuxTaken : Bool) (fetches : List Fetch) :
    Option (Int × List UInt8) :=
  if ¬ port.uartNum < uartNumMax then some (-1, [])
  else if ¬ buf then some (-1, [])
  else if ¬ port.installed then some (-1, [])
  else if ¬ rxMuxTaken then some (-1, [])
  else (fetchBytes fetches length []).map (fun copied => (copied.length, copied))

inductive Read where
  | stored (byte : UInt8)
  | timeout
  | error
  deriving Repr, DecidableEq

def Read.result : Read → Int
  | .stored _ => 1
  | .timeout => 0
  | .error => -1

def Read.bytes : Read → List UInt8
  | .stored byte => [byte]
  | .timeout => []
  | .error => []

/-- `incoming_byte` after the read. -/
def Read.store (incomingByte : UInt8) : Read → UInt8
  | .stored byte => byte
  | .timeout => incomingByte
  | .error => incomingByte

inductive Call where
  | uartGetBufferedDataLen
  | uartFlushInput
  | uartReadBytes
  | shellRecvChar (c : UInt8)
  deriving Repr, DecidableEq

/-- The locals of the task that live through its loop, and the calls it has made. -/
structure Listener where
  readLen : UInt8
  incomingByte : UInt8
  calls : List Call

/-- Neither local is initialised. -/
def Listener.entered (readLen incomingByte : UInt8) : Listener := ⟨readLen, incomingByte, []⟩

/-- Where the task waits for the outside: the queue gives it an event, or it is empty
and the read that follows returns. -/
inductive Input where
  | event (type : EventType)
  | read (outcome : Read)
  deriving Repr, DecidableEq

def EventType.handle : EventType → List Call
  | .uartData => [.uartGetBufferedDataLen]
  | .uartBufferFull | .uartFifoOvf => [.uartGetBufferedDataLen, .uartFlushInput]
  | .uartBreak | .uartFrameErr | .uartPatternDet => []
  | _ => []

def tUartListenerTask (input : Input) (task : Listener) : Option Unit × Listener :=
  match input with
  | .event type => (some (), { task with calls := task.calls ++ type.handle })
  | .read outcome =>
    let readLen := UInt8.ofInt outcome.result
    let incomingByte := outcome.store task.incomingByte
    let calls := task.calls ++ [.uartReadBytes]
    (some (), ⟨readLen, incomingByte, if readLen > 0 then calls ++ [.shellRecvChar incomingByte] else calls⟩)

def Call.char : Call → Option UInt8
  | .shellRecvChar c => some c
  | _ => none

def Listener.received (task : Listener) : List UInt8 := task.calls.filterMap Call.char

def Input.bytes : Input → List UInt8
  | .event _ => []
  | .read outcome => outcome.bytes

def Input.failed (input : Input) : Prop := input = .read .error

instance (input : Input) : Decidable input.failed := inferInstanceAs (Decidable (_ = _))

theorem fetchBytes_one (fetches : List Fetch) {copied : List UInt8} (returned : fetchBytes fetches 1 [] = some copied) :
    copied = [] ∨ ∃ byte, copied = [byte] := by
  induction fetches with
  | nil => cases returned
  | cons fetch rest ih =>
    cases fetch with
    | item first more =>
      obtain rfl : [first] = copied := by
        simpa [fetchBytes] using returned
      exact .inr ⟨first, rfl⟩
    | nothing refilled =>
      cases refilled with
      | true => exact ih returned
      | false =>
        obtain rfl : [] = copied := Option.some.inj returned
        exact .inl rfl

/-- What the driver checks before it reads. -/
structure Ready (port : Port) (buf rxMuxTaken : Bool) : Prop where
  known : port.uartNum < uartNumMax
  buffered : buf = true
  installed : port.installed = true
  taken : rxMuxTaken = true

theorem uartReadBytes_ready {port : Port} {buf rxMuxTaken : Bool} (ready : Ready port buf rxMuxTaken) (length : Nat)
    (fetches : List Fetch) : uartReadBytes port buf length rxMuxTaken fetches =
      (fetchBytes fetches length []).map (fun copied => ((copied.length : Int), copied)) := by
  simp [uartReadBytes, ready.known, ready.buffered, ready.installed, ready.taken]

theorem uartReadBytes_refused {port : Port} {buf rxMuxTaken : Bool} (refused : ¬ Ready port buf rxMuxTaken) (length : Nat)
    (fetches : List Fetch) : uartReadBytes port buf length rxMuxTaken fetches = some (-1, []) := by
  unfold uartReadBytes
  by_cases known : port.uartNum < uartNumMax
  · cases buf with
    | false => simp
    | true =>
      cases installed : port.installed with
      | false => simp
      | true =>
        cases rxMuxTaken with
        | false => simp
        | true => exact absurd ⟨known, rfl, installed, rfl⟩ refused
  · simp [known]

/-- The driver's read of one byte returns in one of three ways, and fails where it was not ready. -/
theorem uartReadBytes_one {port : Port} {buf rxMuxTaken : Bool} {fetches : List Fetch} {result : Int}
    {copied : List UInt8} (returned : uartReadBytes port buf 1 rxMuxTaken fetches = some (result, copied)) :
    ∃ read : Read, result = read.result ∧ copied = read.bytes ∧ (read = .error ↔ ¬ Ready port buf rxMuxTaken) := by
  by_cases ready : Ready port buf rxMuxTaken
  · rw [uartReadBytes_ready ready, Option.map_eq_some_iff] at returned
    obtain ⟨fetched, fetch, same⟩ := returned
    obtain ⟨rfl, rfl⟩ := Prod.mk.inj same
    obtain rfl | ⟨byte, rfl⟩ := fetchBytes_one fetches fetch
    · exact ⟨.timeout, rfl, rfl, by simp [ready]⟩
    · exact ⟨.stored byte, rfl, rfl, by simp [ready]⟩
  · rw [uartReadBytes_refused ready] at returned
    obtain ⟨rfl, rfl⟩ := Prod.mk.inj (Option.some.inj returned)
    exact ⟨.error, rfl, rfl, by simp [ready]⟩

section Received
variable {task : Listener}

@[simp] theorem received_entered (readLen incomingByte : UInt8) :
    (Listener.entered readLen incomingByte).received = [] := rfl

theorem received_event (type : EventType) : (tUartListenerTask (.event type) task).2.received = task.received := by
  have silent : type.handle.filterMap Call.char = [] := by cases type <;> rfl
  simp [tUartListenerTask, Listener.received, silent]

/-- A read that returned -1 leaves 255 in `read_len`, and the last byte is passed on again. -/
theorem received_read (outcome : Read) : (tUartListenerTask (.read outcome) task).2.received =
    task.received ++ (if outcome = .timeout then [] else [outcome.store task.incomingByte]) := by
  have passed : ∀ c, ((task.calls ++ [Call.uartReadBytes]) ++ [Call.shellRecvChar c]).filterMap Call.char =
      task.received ++ [c] := by
    intro c
    rw [List.append_assoc, List.filterMap_append]
    rfl
  cases outcome with
  | stored byte => exact passed byte
  | timeout => exact List.filterMap_append
  | error => exact passed task.incomingByte

theorem received_input (input : Input) (task : Listener) :
    ∃ passed, (tUartListenerTask input task).2.received = task.received ++ passed ∧
      (¬ input.failed → passed = input.bytes) ∧ (input.failed → input.bytes.length < passed.length) := by
  cases input with
  | event type =>
    refine ⟨[], ?_, fun _ => rfl, nofun⟩
    rw [received_event, List.append_nil]
  | read outcome =>
    refine ⟨_, received_read outcome, ?_, ?_⟩
    · intro succeeded
      cases outcome with
      | stored byte => rfl
      | timeout => rfl
      | error => exact absurd rfl succeeded
    · intro failed
      obtain rfl : outcome = .error := Input.read.inj failed
      exact Nat.zero_lt_one

theorem received_trail (inputs : List Input) (task : Listener) :
    ∃ passed, (trail tUartListenerTask inputs task).received = task.received ++ passed ∧
      (inputs.flatMap Input.bytes).length ≤ passed.length ∧
      (passed = inputs.flatMap Input.bytes ↔ ∀ input ∈ inputs, ¬ input.failed) := by
  induction inputs generalizing task with
  | nil => exact ⟨[], (List.append_nil _).symm, Nat.le_refl _, iff_of_true rfl nofun⟩
  | cons input rest ih =>
    obtain ⟨first, received, succeeded, failed⟩ := received_input input task
    obtain ⟨later, followed, longer, exactly⟩ := ih (tUartListenerTask input task).2
    have total : (trail tUartListenerTask (input :: rest) task).received = task.received ++ (first ++ later) := by
      rw [← List.append_assoc, ← received]
      exact followed
    rw [List.forall_mem_cons]
    by_cases fails : input.failed
    · have more := failed fails
      refine ⟨first ++ later, total, ?_, iff_of_false ?_ (fun none => none.1 fails)⟩
      · simp only [List.flatMap_cons, List.length_append]
        omega
      · intro same
        have lengths := congrArg List.length same
        simp only [List.flatMap_cons, List.length_append] at lengths
        omega
    · obtain rfl := succeeded fails
      refine ⟨input.bytes ++ later, total, ?_, ?_⟩
      · simp only [List.flatMap_cons, List.length_append]
        omega
      · rw [List.flatMap_cons, List.append_cancel_left_eq, exactly, and_iff_right fails]

end Received

/-- In every state that a run comes to, the shell has got the bytes that were read so far
and no others, exactly when no read of the run fails. -/
theorem always_received_iff (inputs : List Input) (readLen incomingByte : UInt8) :
    (∀ seen, seen <+: inputs →
      (trail tUartListenerTask seen (.entered readLen incomingByte)).received = seen.flatMap Input.bytes) ↔
    ∀ input ∈ inputs, ¬ input.failed := by
  constructor
  · intro always
    obtain ⟨passed, received, -, exactly⟩ := received_trail inputs (.entered readLen incomingByte)
    rw [always inputs (List.prefix_refl inputs)] at received
    exact exactly.mp received.symm
  · intro succeeded seen initial
    obtain ⟨passed, received, -, exactly⟩ := received_trail seen (.entered readLen incomingByte)
    rw [received]
    exact exactly.mpr (fun input member => succeeded input (initial.subset member))

/-- A read that cannot take the port in time fails, and the character before it arrives twice. -/
theorem received_twice :
    uartReadBytes ⟨0, true⟩ true 1 false [] = some (Read.error.result, Read.error.bytes) ∧
    (trail tUartListenerTask [.event .uartData, .read (.stored 0x61), .read .error, .read .timeout]
      (.entered 0 0)).received = [0x61, 0x61] ∧
    [Input.event .uartData, .read (.stored 0x61), .read .error, .read .timeout].flatMap Input.bytes = [0x61] :=
  ⟨rfl, rfl, rfl⟩

end LaserDriver.Shell
