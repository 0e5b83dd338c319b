import LaserDriver.Lib.Fifo
import LaserDriver.Rtos.Ringbuf
import LaserDriver.Shell.Listener

/-! The receiving side of `uart.c` and the task that reads from it. The two run on
different cores: the interrupt handler and the task make their accesses to what they
share in any order, and the line brings bytes at any moment. -/

namespace LaserDriver.Uart
open Effects Rtos Shell

def uartHwFifoLen : Nat := 128
def uartEventQueueSize : Nat := 16

/-- The branches of the handler that do not send. -/
inductive Cause where
  | rxFifo
  | rxFifoOvf
  | brkDet
  | framErr
  | parityErr
  | wakeup
  deriving Repr, DecidableEq

/-- What `uart_rx_intr_handler_default` does next. -/
inductive Handler where
  | idle
  | checkFlag
  | measure
  | readFifo (rxFifoLen : Nat)
  | reading (remaining : Nat) (got : List UInt8)
  | send
  | sent
  | markFull
  | disable (full : Bool)
  | resetFifo
  | clearOvf
  | post (type : EventType)
  deriving Repr, DecidableEq

inductive Flush where
  | take
  | disable
  | receive
  | empty
  | update (address size : Nat)
  | giveBack (address : Nat)
  | check
  | send
  | sent
  | reset
  | reenable
  | give
  deriving Repr, DecidableEq

/-- The stages of `uart_read_bytes` with what remains to be read and what is in `buf`.
The last four but one are `uart_check_buf_full`, called with the buffer found empty or not. -/
inductive Reading where
  | take
  | receive (length : Nat) (copied : List UInt8)
  | copy (length : Nat) (copied : List UInt8) (address size : Nat)
  | update (length : Nat) (copied : List UInt8) (address size : Nat)
  | giveBack (length : Nat) (copied : List UInt8) (address : Nat)
  | check (length : Nat) (copied : List UInt8) (empty : Bool)
  | send (length : Nat) (copied : List UInt8) (empty : Bool)
  | sent (length : Nat) (copied : List UInt8)
  | reenable (length : Nat) (copied : List UInt8)
  | give (copied : List UInt8)
  deriving Repr, DecidableEq

/-- What the reader does next: the flush at the end of `SHCOM_InitCom`, and then
`tUartListenerTask`. -/
inductive Reader where
  | flush (initial : Bool) (stage : Flush)
  | drain
  | read (stage : Reading)
  | deliver (outcome : Read)
  deriving Repr, DecidableEq

/-- What has happened: the bytes on the line, whether one found the FIFO full, whether
the ring buffer refused the handler, whether the FIFO was reset while the handler read
it, whether the event queue refused an event, whether `rx_buffered_len` was found wrong,
and how many bytes were thrown away before the task began and since. -/
structure History where
  line : List UInt8
  overrun : Bool
  refused : Bool
  torn : Bool
  unposted : Bool
  lengthError : Bool
  discarded : Nat
  lost : Nat

/-- The peripheral, what `uart_obj_t` has of the receiving side, and where the handler
and the reader are. `rxIntr` stands for the interrupts of a full FIFO and of the timeout,
which the driver enables and disables together. -/
structure System where
  rxFifo : List UInt8
  rxOvf : Bool
  rxIntr : Bool
  rxDataBuf : List UInt8
  rxStashLen : UInt8
  rxBufferFullFlg : Bool
  rxBufferedLen : Int
  rxRingBuf : Ringbuffer
  memory : Memory
  rxMuxTaken : Bool
  eventQueue : Fifo EventType uartEventQueueSize
  handler : Handler
  reader : Reader
  task : Listener
  history : History

/-- After `uart_driver_install` with buffers of twice the FIFO and `uart_param_config`, whose own
reset of the FIFO is left out: the line starts when it is done. -/
def System.installed (storage : Nat) (memory : Memory) (readLen incomingByte : UInt8) : System where
  rxFifo := []
  rxOvf := false
  rxIntr := true
  rxDataBuf := []
  rxStashLen := 0
  rxBufferFullFlg := false
  rxBufferedLen := 0
  rxRingBuf := prvInitializeNewRingbuffer (2 * uartHwFifoLen) storage
  memory := memory
  rxMuxTaken := false
  eventQueue := .empty
  handler := .idle
  reader := .flush true .take
  task := .entered readLen incomingByte
  history := ⟨[], false, false, false, false, false, 0, 0⟩

namespace System
variable (system : System)

def stash : List UInt8 := system.rxDataBuf.take system.rxStashLen.toNat

/-- A byte that finds the FIFO full is gone. -/
def arrive (byte : UInt8) : System :=
  let history := { system.history with line := system.history.line ++ [byte] }
  if system.rxFifo.length < uartHwFifoLen then { system with rxFifo := system.rxFifo ++ [byte], history }
  else { system with rxOvf := true, history := { history with overrun := true, lost := history.lost + 1 } }

/-- The handler enters one of its branches, or starts its loop again. -/
def interrupt (cause : Cause) : Option System :=
  if system.handler ≠ .idle then none
  else match cause with
    | .rxFifo => if system.rxIntr then some { system with handler := .checkFlag } else none
    | .rxFifoOvf => if system.rxOvf then some { system with handler := .resetFifo } else none
    | .brkDet => some { system with handler := .post .uartBreak }
    | .framErr => some { system with handler := .post .uartFrameErr }
    | .parityErr => some { system with handler := .post .uartParityErr }
    | .wakeup => some { system with handler := .post .uartWakeup }

/-- The next access of `uart_rx_intr_handler_default`; `stale` is what an empty FIFO
gives to a read. -/
def handle (stale : UInt8) : Option System :=
  match system.handler with
  | .idle => none
  | .checkFlag =>
    if system.rxBufferFullFlg then some { system with handler := .disable false }
    else some { system with handler := .measure }
  | .measure => some { system with handler := .readFifo system.rxFifo.length }
  | .readFifo rxFifoLen =>
    if rxFifoLen = 0 then some { system with handler := .reading system.rxFifo.length [] }
    else some { system with handler := .reading rxFifoLen [] }
  | .reading 0 got =>
    some { system with rxDataBuf := got, rxStashLen := UInt8.ofNat got.length, handler := .send }
  | .reading (remaining + 1) got =>
    match system.rxFifo with
    | byte :: rxFifo => some { system with rxFifo, handler := .reading remaining (got ++ [byte]) }
    | [] => some { system with
        handler := .reading remaining (got ++ [stale])
        history := { system.history with torn := true } }
  | .send =>
    match system.rxRingBuf.xRingbufferSendFromISR system.memory system.stash with
    | none => none
    | some (true, rxRingBuf, memory) => some { system with rxRingBuf, memory, handler := .sent }
    | some (false, rxRingBuf, memory) => some { system with
        rxRingBuf
        memory
        handler := .markFull
        history := { system.history with refused := true } }
  | .sent => some { system with
      rxBufferedLen := system.rxBufferedLen + system.rxStashLen.toNat
      handler := .post .uartData }
  | .markFull => some { system with rxBufferFullFlg := true, handler := .disable true }
  | .disable full => some { system with rxIntr := false, handler := if full then .post .uartBufferFull else .idle }
  | .resetFifo => some { system with
      rxFifo := []
      handler := .clearOvf
      history := { system.history with lost := system.history.lost + system.rxFifo.length } }
  | .clearOvf => some { system with rxOvf := false, handler := .post .uartFifoOvf }
  | .post type =>
    match system.eventQueue.send type with
    | some eventQueue => some { system with eventQueue, handler := .idle }
    | none => some { system with handler := .idle, history := { system.history with unposted := true } }

def throwAway (initial : Bool) (count : Nat) : History :=
  if initial then { system.history with discarded := system.history.discarded + count }
  else { system.history with lost := system.history.lost + count }

def flush (initial : Bool) (stage : Flush) : Option System :=
  match stage with
  | .take => if system.rxMuxTaken then none else some { system with rxMuxTaken := true, reader := .flush initial .disable }
  | .disable => some { system with rxIntr := false, reader := .flush initial .receive }
  | .receive =>
    match system.rxRingBuf.xRingbufferReceive with
    | none => none
    | some (none, rxRingBuf) => some { system with rxRingBuf, reader := .flush initial .empty }
    | some (some (address, size), rxRingBuf) => some { system with
        rxRingBuf
        reader := .flush initial (.update address size)
        history := system.throwAway initial size }
  | .empty => some { system with
      rxBufferedLen := 0
      rxBufferFullFlg := false
      reader := .flush initial .reset
      history := { system.throwAway initial (if system.rxBufferFullFlg then system.stash.length else 0) with
        lengthError := system.history.lengthError || system.rxBufferedLen != 0 } }
  | .update address size => some { system with
      rxBufferedLen := system.rxBufferedLen - size
      reader := .flush initial (.giveBack address) }
  | .giveBack address =>
    match system.rxRingBuf.vRingbufferReturnItem address with
    | none => none
    | some rxRingBuf => some { system with rxRingBuf, reader := .flush initial .check }
  | .check => some { system with reader := .flush initial (if system.rxBufferFullFlg then .send else .receive) }
  | .send =>
    match system.rxRingBuf.xRingbufferSendFromISR system.memory system.stash with
    | none => none
    | some (true, rxRingBuf, memory) => some { system with rxRingBuf, memory, reader := .flush initial .sent }
    | some (false, rxRingBuf, memory) => some { system with rxRingBuf, memory, reader := .flush initial .receive }
  | .sent => some { system with
      rxBufferedLen := system.rxBufferedLen + system.rxStashLen.toNat
      rxBufferFullFlg := false
      reader := .flush initial .receive }
  | .reset => some { system with
      rxFifo := []
      reader := .flush initial .reenable
      history := system.throwAway initial system.rxFifo.length }
  | .reenable => some { system with rxIntr := true, reader := .flush initial .give }
  | .give => some { system with rxMuxTaken := false, reader := .drain }

/-- How `uart_read_bytes` of one byte returns. -/
def outcome : List UInt8 → Read
  | [] => .timeout
  | byte :: _ => .stored byte

/-- `uart_check_buf_full` has returned false. -/
def unchanged (length : Nat) (copied : List UInt8) (empty : Bool) : Reader :=
  .read (if empty then .give copied else .receive length copied)

/-- The next access of `uart_read_bytes`; a wait ends without success when its time is over. -/
def readBytes (timedOut : Bool) (stage : Reading) : Option System :=
  match stage with
  | .take =>
    if system.rxMuxTaken then if timedOut then some { system with reader := .deliver .error } else none
    else some { system with rxMuxTaken := true, reader := .read (.receive 1 []) }
  | .receive 0 copied => some { system with reader := .read (.give copied) }
  | .receive (length + 1) copied =>
    match system.rxRingBuf.xRingbufferReceiveUpTo (length + 1) with
    | none => none
    | some (none, rxRingBuf) =>
      if timedOut then some { system with rxRingBuf, reader := .read (.check (length + 1) copied true) } else none
    | some (some (address, size), rxRingBuf) =>
      some { system with rxRingBuf, reader := .read (.copy (length + 1) copied address size) }
  | .copy length copied address size =>
    some { system with reader := .read (.update length (copied ++ load system.memory address size) address size) }
  | .update length copied address size => some { system with
      rxBufferedLen := system.rxBufferedLen - size
      reader := .read (.giveBack (length - size) copied address) }
  | .giveBack length copied address =>
    match system.rxRingBuf.vRingbufferReturnItem address with
    | none => none
    | some rxRingBuf => some { system with rxRingBuf, reader := .read (.check length copied false) }
  | .check length copied empty =>
    if system.rxBufferFullFlg then some { system with reader := .read (.send length copied empty) }
    else some { system with reader := unchanged length copied empty }
  | .send length copied empty =>
    match system.rxRingBuf.xRingbufferSendFromISR system.memory system.stash with
    | none => none
    | some (true, rxRingBuf, memory) => some { system with rxRingBuf, memory, reader := .read (.sent length copied) }
    | some (false, rxRingBuf, memory) => some { system with rxRingBuf, memory, reader := unchanged length copied empty }
  | .sent length copied => some { system with
      rxBufferedLen := system.rxBufferedLen + system.rxStashLen.toNat
      rxBufferFullFlg := false
      reader := .read (.reenable length copied) }
  | .reenable length copied => some { system with rxIntr := true, reader := .read (.receive length copied) }
  | .give copied => some { system with rxMuxTaken := false, reader := .deliver (outcome copied) }

def advance (timedOut : Bool) : Option System :=
  match system.reader with
  | .flush initial stage => system.flush initial stage
  | .drain =>
    match system.eventQueue.receive with
    | none => some { system with reader := .read .take }
    | some (type, eventQueue) => some { system with
        eventQueue
        task := (tUartListenerTask (.event type) system.task).2
        reader := if Call.uartFlushInput ∈ type.handle then .flush false .take else .drain }
  | .read stage => system.readBytes timedOut stage
  | .deliver outcome => some { system with
      task := (tUartListenerTask (.read outcome) system.task).2
      reader := .drain }

end System

inductive Action where
  | arrive (byte : UInt8)
  | interrupt (cause : Cause)
  | handler (stale : UInt8)
  | reader (timedOut : Bool)
  deriving Repr, DecidableEq

/-- One access of one party. What cannot go on leaves the system as it is. -/
def perform (action : Action) (system : System) : Option Unit × System :=
  let next := match action with
    | .arrive byte => some (system.arrive byte)
    | .interrupt cause => system.interrupt cause
    | .handler stale => system.handle stale
    | .reader timedOut => system.advance timedOut
  (next.map fun _ => (), next.getD system)

/-- What the reader has taken out of the ring buffer and not yet passed on. -/
def Reader.hand (memory : Memory) : Reader → List UInt8
  | .read (.copy _ copied address size) => copied ++ load memory address size
  | .read (.receive _ copied) | .read (.update _ copied _ _) | .read (.giveBack _ copied _)
  | .read (.check _ copied _) | .read (.send _ copied _) | .read (.sent _ copied) | .read (.reenable _ copied)
  | .read (.give copied) => copied
  | .deliver outcome => outcome.bytes
  | _ => []

/-- The stash is in the ring buffer again while `rx_buffer_full_flg` is still set. -/
def Reader.resent : Reader → Bool
  | .flush _ .sent | .read (.sent _ _) => true
  | _ => false

/-- What the handler has taken out of the FIFO and not yet passed on. -/
def Handler.hand (stash : List UInt8) : Handler → List UInt8
  | .reading _ got => got
  | .send | .markFull => stash
  | _ => []

namespace System
variable (system : System)

def waiting : List UInt8 :=
  system.rxRingBuf.circle.contents system.memory system.rxRingBuf.pucRead system.rxRingBuf.xItemsWaiting.toNat

def stashed : List UInt8 := if system.rxBufferFullFlg ∧ system.reader.resent = false then system.stash else []

/-- What the shell has got and all that is on its way to it, oldest first. -/
def transit : List UInt8 :=
  system.task.received ++ system.reader.hand system.memory ++ system.waiting ++ system.handler.hand system.stash ++
    system.stashed ++ system.rxFifo

end System
end LaserDriver.Uart
