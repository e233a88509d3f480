import MucOpcua.Lib.Buffer
import MucOpcua.Lib.Framing
import MucOpcua.Encoding.BinaryReader

/-!
# Receiving

The stream side of `poll.c`: a read appends what the TCP adapter returns to the connection's
receive buffer, and `poll_process_buffer` hands every complete message in it to `process_message`
and compacts what is left. The message handler is a parameter here.
-/

namespace MucOpcua

/-- `rx_buffer`, `rx_read_pos` and `rx_len` of a connection. -/
structure RxBuffer where
  buffer : List UInt8
  readPos : Nat
  rxLen : Nat

namespace RxBuffer

/-- A connection's buffer when it is accepted; the slot's old bytes are still there. -/
def accepted (buffer : List UInt8) : RxBuffer := ⟨buffer, 0, 0⟩

def clear (rx : RxBuffer) : RxBuffer := { rx with readPos := 0, rxLen := 0 }

def pending (rx : RxBuffer) : List UInt8 := Buffer.slice rx.buffer rx.readPos rx.rxLen

end RxBuffer

/-- What `poll.c` needs of the server: whether the connection still has a handle, closing it, how
long it may be silent, and `process_message`, which may rewrite the message where it lies (a
secured chunk is decrypted in place). -/
structure Endpoint (σ : Type) where
  isOpen : σ → Bool
  close : σ → σ
  idleLimit : σ → UInt64
  processMessage : σ → List UInt8 → σ × List UInt8
  isOpen_close : ∀ s, isOpen (close s) = false
  length_processMessage : ∀ s msg, (processMessage s msg).2.length = msg.length

variable {σ : Type}

def pollCloseConnection (ep : Endpoint σ) (rx : RxBuffer) (s : σ) : RxBuffer × σ :=
  if ep.isOpen s then (rx.clear, ep.close s) else (rx, s)

def pollMsgSize (buffer : List UInt8) (offset : Nat) : Nat :=
  (leGetU32 (buffer.drop (offset + 4))).toNat

/-- The loop of `poll_process_buffer`. It ends with the number of consumed bytes, or with `none`
when the function has already returned because the connection is gone. -/
def pollProcessLoop (ep : Endpoint σ) (rx : RxBuffer) (s : σ) (consumed : Nat) :
    RxBuffer × σ × Option Nat :=
  if ep.isOpen s ∧ 8 ≤ rx.rxLen - consumed then
    let msgSize := pollMsgSize rx.buffer (rx.readPos + consumed)
    if msgSize < 8 ∨ rx.buffer.length < msgSize then
      let (rx, s) := pollCloseConnection ep rx s
      (rx, s, none)
    else if rx.rxLen - consumed < msgSize then
      (rx, s, some consumed)
    else
      let (s, msg) := ep.processMessage s (Buffer.slice rx.buffer (rx.readPos + consumed) msgSize)
      let rx := { rx with buffer := Buffer.overwrite rx.buffer (rx.readPos + consumed) msg }
      if ep.isOpen s then pollProcessLoop ep rx s (consumed + msgSize) else (rx.clear, s, none)
  else
    (rx, s, some consumed)
termination_by rx.rxLen - consumed
decreasing_by omega

def pollCompact (rx : RxBuffer) : RxBuffer :=
  if rx.rxLen = 0 then
    { rx with readPos := 0 }
  else if rx.buffer.length < rx.readPos + rx.rxLen + 64 then
    { rx with buffer := Buffer.overwrite rx.buffer 0 rx.pending, readPos := 0 }
  else
    rx

def pollProcessBuffer (ep : Endpoint σ) (rx : RxBuffer) (s : σ) : RxBuffer × σ :=
  match pollProcessLoop ep rx s 0 with
  | (rx, s, none) => (rx, s)
  | (rx, s, some consumed) =>
    (pollCompact { rx with rxLen := rx.rxLen - consumed, readPos := rx.readPos + consumed }, s)

/-- The space `poll_read_data` offers to the adapter. -/
def RxBuffer.offered (rx : RxBuffer) : Nat := rx.buffer.length - (rx.readPos + rx.rxLen)

/-- `read` is the adapter's answer: an error, or the bytes it stored. -/
def pollReadData (ep : Endpoint σ) (rx : RxBuffer) (s : σ) (lastActivity now : UInt64)
    (read : Option (List UInt8)) : RxBuffer × σ × UInt64 :=
  if rx.buffer.length ≤ rx.readPos + rx.rxLen then (rx, s, lastActivity)
  else
    match read with
    | none =>
      let (rx, s) := pollCloseConnection ep rx s
      (rx, s, lastActivity)
    | some bytes =>
      if bytes.length = 0 then (rx, s, lastActivity)
      else
        ({ rx with
            buffer := Buffer.overwrite rx.buffer (rx.readPos + rx.rxLen) bytes
            rxLen := rx.rxLen + bytes.length },
          s, now)

def pollConnReadAndProcess (ep : Endpoint σ) (rx : RxBuffer) (s : σ) (lastActivity now : UInt64)
    (read : Option (List UInt8)) : RxBuffer × σ × UInt64 :=
  let (rx, s, lastActivity) := pollReadData ep rx s lastActivity now read
  let (rx, s) := pollProcessBuffer ep rx s
  (rx, s, lastActivity)

/-- `poll_check_idle_timeout`'s test. -/
def idleExpired (ep : Endpoint σ) (s : σ) (lastActivity now : UInt64) : Prop :=
  lastActivity < now ∧ ep.idleLimit s < now - lastActivity

instance (ep : Endpoint σ) (s : σ) (lastActivity now : UInt64) :
    Decidable (idleExpired ep s lastActivity now) :=
  inferInstanceAs (Decidable (_ ∧ _))

/-- The part of `mu_server_poll` that is about one connection; `now` is the tick of this poll. -/
def pollConnection (ep : Endpoint σ) (rx : RxBuffer) (s : σ) (lastActivity now : UInt64)
    (read : Option (List UInt8)) : RxBuffer × σ × UInt64 :=
  if ¬ ep.isOpen s then (rx, s, lastActivity)
  else if idleExpired ep s lastActivity now then
    let (rx, s) := pollCloseConnection ep rx s
    (rx, s, lastActivity)
  else
    pollConnReadAndProcess ep rx s lastActivity now read

end MucOpcua
