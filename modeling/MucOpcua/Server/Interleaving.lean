import MucOpcua.Lib.Exclusive
import MucOpcua.Server.Connections
import MucOpcua.Server.PlainChunk

/-!
# Split requests of several connections

All connections share one chunk assembler, and accepting a connection does not reset it.
-/

namespace MucOpcua

variable {ω σ : Type} {cfg : ServerConfig ω σ}
variable (s : Server ω σ) (msg : List UInt8)

/-! ## What a message does to the assembler -/

def ChunkAssembler.next (ca : ChunkAssembler) (msg : List UInt8) : ChunkAssembler :=
  match parseMessageHeader msg with
  | .error _ => idle
  | .ok header =>
    if header.messageType = .msg ∧ header.chunkType = .intermediate then
      if msg.length ≤ uascSymmetricHeaderSize then ca
      else (ca.activate.append (msg.drop uascSymmetricHeaderSize)).getD idle
    else if header.messageType = .msg ∧ header.chunkType = .final ∧ ca.isActive then idle
    else ca

def touchesAssembler (msg : List UInt8) : Bool :=
  match parseMessageHeader msg with
  | .error _ => true
  | .ok header => header.messageType = .msg

theorem ChunkAssembler.next_of_not_touches {msg : List UInt8} (h : touchesAssembler msg = false)
    (ca : ChunkAssembler) : ca.next msg = ca := by
  unfold touchesAssembler at h
  unfold ChunkAssembler.next
  cases hparse : parseMessageHeader msg with
  | error fault =>
    rw [hparse] at h
    cases h
  | ok header =>
    rw [hparse] at h
    have hmsg : header.messageType ≠ .msg := by simpa using h
    simp [hmsg]

theorem messageInbound_of_not_touches {msg : List UInt8} (h : touchesAssembler msg = false)
    (s : Server ω σ) (ca : ChunkAssembler) :
    messageInbound cfg { s with chunkAssembly := ca } msg = messageInbound cfg s msg := by
  unfold touchesAssembler at h
  unfold messageInbound
  cases hparse : parseMessageHeader msg with
  | error fault => rfl
  | ok header =>
    rw [hparse] at h
    have hmsg : header.messageType ≠ .msg := by simpa using h
    simp [hmsg]

theorem Route.chunkAssembly {s s' : Server ω σ} {m : Inbound} (h : Route cfg s m s') :
    s'.chunkAssembly = s.chunkAssembly := by
  cases h with
  | refused _ hs => rw [hs]; rfl
  | undecodable _ _ _ hs => rw [hs]; rfl
  | served _ _ _ _ _ hs _ => exact hs.chunkAssembly

theorem processMessageOpnOrMsg_chunkAssembly (isOpn : Bool) :
    (processMessageOpnOrMsg cfg s msg isOpn).chunkAssembly = s.chunkAssembly := by
  have hroute := processMessageOpnOrMsg_route cfg s msg isOpn
  split at hroute
  · rw [hroute]
  · exact hroute.chunkAssembly

theorem processMessageFinalChunk_chunkAssembly :
    (processMessageFinalChunk cfg s msg).chunkAssembly = ChunkAssembler.idle := by
  have hroute := processMessageFinalChunk_route cfg s msg
  split at hroute
  · rw [hroute]
    rfl
  obtain ⟨ca,u,-,heq⟩ := hroute
  rw [heq]
  rfl

theorem processMessageMultiChunkContinuation_chunkAssembly :
    (processMessageMultiChunkContinuation cfg s msg).chunkAssembly =
      if msg.length ≤ uascSymmetricHeaderSize then s.chunkAssembly
      else (s.chunkAssembly.activate.append (msg.drop uascSymmetricHeaderSize)).getD
        ChunkAssembler.idle := by
  unfold processMessageMultiChunkContinuation
  split
  · exact (sendTcpErrorChunk_acts cfg s _).quiet.chunkAssembly
  cases s.chunkAssembly.activate.append (msg.drop uascSymmetricHeaderSize) with
  | none => exact (sendTcpErrorChunk_acts cfg _ _).quiet.chunkAssembly
  | some ca => rfl

theorem processMessageHello_chunkAssembly :
    (processMessageHello cfg s msg).chunkAssembly = s.chunkAssembly := by
  unfold processMessageHello
  split
  · exact (sendChunk_quiet cfg _ _).chunkAssembly
  · rfl

theorem processMessage_chunkAssembly : (processMessage cfg s msg).chunkAssembly =
      if s.conn.tcpConn.state = .closed then s.chunkAssembly else s.chunkAssembly.next msg := by
  unfold processMessage ChunkAssembler.next
  split
  · exact processMessageHello_chunkAssembly s msg
  cases parseMessageHeader msg with
  | error fault =>
    dsimp only [processMessageRefused]
    split <;> rfl
  | ok header =>
    dsimp only
    split
    · exact processMessageMultiChunkContinuation_chunkAssembly s msg
    split
    · exact processMessageFinalChunk_chunkAssembly s msg
    split
    · rfl
    split
    · rfl
    · exact processMessageOpnOrMsg_chunkAssembly s msg _

/-! ## An assembler for each connection -/

def ownAssembly (received : List (List UInt8)) : ChunkAssembler :=
  received.foldl ChunkAssembler.next ChunkAssembler.idle

/-- A server together with what each slot's connection has received since it was accepted, the
HELLO exchange apart. -/
structure Tracked (ω σ : Type) where
  pool : Pool ω σ
  received : Nat → List (List UInt8)

def Tracked.receivedAfter (t : Tracked ω σ) : Input → Nat → List (List UInt8)
  | .message i msg =>
    match t.pool.conns[i]? with
    | some conn =>
      if conn.clientHandle.isSome ∧ conn.tcpConn.state ≠ .closed then
        Function.update t.received i (t.received i ++ [msg])
      else t.received
    | none => t.received
  | .accept _ =>
    match t.pool.conns.findIdx? fun conn => conn.clientHandle.isNone with
    | some i => Function.update t.received i []
    | none => t.received
  | .disconnect _ => t.received

def Tracked.step (cfg : ServerConfig ω σ) (t : Tracked ω σ) (x : Input) : Tracked ω σ :=
  ⟨t.pool.step cfg x, t.receivedAfter x⟩

/-- The connections take turns: a message that touches the assembler finds no unfinished assembly of
another slot, and a new connection finds none of its own slot. -/
def TakesTurns (t : Tracked ω σ) : Input → Prop
  | .message i msg => ∀ conn, t.pool.conns[i]? = some conn → conn.clientHandle.isSome = true →
    conn.tcpConn.state ≠ .closed → touchesAssembler msg = true →
    ∀ j, j ≠ i → (ownAssembly (t.received j)).isActive = false
  | .accept _ => ∀ i, (t.pool.conns.findIdx? fun conn => conn.clientHandle.isNone) = some i →
    (ownAssembly (t.received i)).isActive = false
  | .disconnect _ => True

def Isolated (cfg : ServerConfig ω σ) (t : Tracked ω σ) : Input → Prop
  | .message i msg => ∀ conn, t.pool.conns[i]? = some conn → conn.clientHandle.isSome = true →
    let alone := { t.pool.focus i conn with chunkAssembly := ownAssembly (t.received i) }
    dispatches (t.pool.step cfg (.message i msg)).shared.log =
      ((messageInbound cfg alone msg).bind fun r => r.2.dispatched conn.secureChannel).toList
  | _ => True

theorem ChunkAssembler.next_idle {ca : ChunkAssembler} (h : ca.isActive = false → ca = idle)
    (msg : List UInt8) (hnext : (ca.next msg).isActive = false) : ca.next msg = idle := by
  unfold ChunkAssembler.next at hnext ⊢
  cases hparse : parseMessageHeader msg with
  | error fault => rfl
  | ok header =>
    rw [hparse] at hnext
    dsimp only at hnext ⊢
    split at hnext
    · next hmore =>
      rw [if_pos hmore]
      split at hnext
      · next hshort =>
        rw [if_pos hshort]
        exact h hnext
      rename_i hlong
      rw [if_neg hlong]
      cases happend : ca.activate.append (msg.drop uascSymmetricHeaderSize) with
      | none => rfl
      | some ca' =>
        rw [happend,Option.getD_some,append_isActive happend,activate_isActive] at hnext
        cases hnext
    · next hmore =>
      rw [if_neg hmore]
      split at hnext
      · next hfinal => rw [if_pos hfinal]
      rename_i hfinal
      rw [if_neg hfinal]
      exact h hnext

theorem ownAssembly_concat (received : List (List UInt8)) (msg : List UInt8) :
    ownAssembly (received ++ [msg]) = (ownAssembly received).next msg := by
  simp [ownAssembly]

theorem ownAssembly_idle (received : List (List UInt8))
    (h : (ownAssembly received).isActive = false) : ownAssembly received = ChunkAssembler.idle := by
  induction received using List.reverseRecOn with
  | nil => rfl
  | append_singleton received msg ih =>
    rw [ownAssembly_concat] at h ⊢
    exact ChunkAssembler.next_idle ih msg h

/-! ## Runs -/

def Tracked.OneAssembly (t : Tracked ω σ) : Prop :=
  Exclusive.Owned ChunkAssembler.idle (fun i => ownAssembly (t.received i))
    t.pool.shared.chunkAssembly

theorem ownAssembly_update (received : Nat → List (List UInt8)) (i : Nat)
    (messages : List (List UInt8)) :
    (fun j => ownAssembly (Function.update received i messages j)) =
      Function.update (fun j => ownAssembly (received j)) i (ownAssembly messages) := by
  funext j
  by_cases hj : j = i
  · subst hj
    simp
  · simp [hj]

theorem ownAssembly_update_eq {received : Nat → List (List UInt8)} {i : Nat}
    {messages : List (List UInt8)} (h : ownAssembly messages = ownAssembly (received i)) :
    (fun j => ownAssembly (Function.update received i messages j)) =
      fun j => ownAssembly (received j) := by
  rw [ownAssembly_update,h]
  exact Function.update_eq_self i _

theorem Pool.step_message_dispatches {p : Pool ω σ} {i : Nat} {conn : Connection}
    (h : p.conns[i]? = some conn) (hup : conn.clientHandle.isSome = true) (msg : List UInt8) :
    dispatches (p.step cfg (.message i msg)).shared.log =
      ((messageInbound cfg (p.focus i conn) msg).bind fun r =>
        r.2.dispatched conn.secureChannel).toList := by
  rw [Pool.step_message_shared h hup]
  exact processMessage_dispatches cfg (p.focus i conn) msg

theorem Tracked.message_isolated {t : Tracked ω σ} (h : t.OneAssembly) {i : Nat} {msg : List UInt8}
    {conn : Connection} (hconn : t.pool.conns[i]? = some conn)
    (hup : conn.clientHandle.isSome = true) (hstate : conn.tcpConn.state ≠ .closed)
    (hturns : touchesAssembler msg = true →
      ∀ j, j ≠ i → (ownAssembly (t.received j)).isActive = false) :
    Isolated cfg t (.message i msg) ∧ (t.step cfg (.message i msg)).OneAssembly := by
  have hassembly : (t.pool.step cfg (.message i msg)).shared.chunkAssembly =
      t.pool.shared.chunkAssembly.next msg := by
    rw [Pool.step_message_shared hconn hup]
    exact (processMessage_chunkAssembly (t.pool.focus i conn) msg).trans (if_neg hstate)
  have hreceived : t.receivedAfter (.message i msg) =
      Function.update t.received i (t.received i ++ [msg]) := by
    simp only [receivedAfter,hconn]
    exact if_pos ⟨hup,hstate⟩
  cases htouch : touchesAssembler msg with
  | true =>
    have hothers : ∀ j, j ≠ i → ownAssembly (t.received j) = ChunkAssembler.idle :=
      fun j hj => ownAssembly_idle _ (hturns htouch j hj)
    have hown : ownAssembly (t.received i) = t.pool.shared.chunkAssembly := h.own_eq hothers
    constructor
    · intro conn' hconn' _
      rw [hconn] at hconn'
      cases hconn'
      rw [hown]
      exact Pool.step_message_dispatches hconn hup msg
    · unfold OneAssembly step
      rw [hassembly,hreceived,ownAssembly_update,ownAssembly_concat,hown]
      exact Exclusive.Owned.update hothers _
  | false =>
    constructor
    · intro conn' hconn' _
      rw [hconn] at hconn'
      cases hconn'
      dsimp only
      rw [messageInbound_of_not_touches htouch]
      exact Pool.step_message_dispatches hconn hup msg
    · unfold OneAssembly step
      rw [hassembly,ChunkAssembler.next_of_not_touches htouch,hreceived,ownAssembly_update_eq]
      · exact h
      · rw [ownAssembly_concat,ChunkAssembler.next_of_not_touches htouch]

theorem Pool.Step.chunkAssembly {p p' : Pool ω σ} {x : Input} (h : Pool.Step cfg p x p')
    (hx : ∀ i msg conn, x = .message i msg → p.conns[i]? = some conn →
      conn.clientHandle.isSome = true → conn.tcpConn.state = .closed) :
    p'.shared.chunkAssembly = p.shared.chunkAssembly := by
  cases h with
  | message i msg conn hconn hup =>
    exact (processMessage_chunkAssembly (p.focus i conn) msg).trans
      (if_pos (hx i msg conn rfl hconn hup))
  | _ => rfl

theorem Tracked.step_isolated {t : Tracked ω σ} (h : t.OneAssembly) {x : Input}
    (hturns : TakesTurns t x) : Isolated cfg t x ∧ (t.step cfg x).OneAssembly := by
  have hrest := Pool.step_cases cfg t.pool x
  cases x with
  | accept handle =>
    have hkept := hrest.chunkAssembly fun _ _ _ hx => Input.noConfusion hx
    refine ⟨trivial,?_⟩
    unfold OneAssembly step receivedAfter
    rw [hkept]
    cases hfree : t.pool.conns.findIdx? fun conn => conn.clientHandle.isNone with
    | none => exact h
    | some i =>
      have hfresh : ownAssembly [] = ownAssembly (t.received i) :=
        (ownAssembly_idle _ (hturns i hfree)).symm
      rw [ownAssembly_update_eq hfresh]
      exact h
  | disconnect i =>
    have hkept := hrest.chunkAssembly fun _ _ _ hx => Input.noConfusion hx
    refine ⟨trivial,?_⟩
    unfold OneAssembly step
    rw [hkept]
    exact h
  | message i msg =>
    by_cases hup : ∃ conn, t.pool.conns[i]? = some conn ∧ conn.clientHandle.isSome = true ∧
        conn.tcpConn.state ≠ .closed
    · obtain ⟨conn,hconn,hsome,hstate⟩ := hup
      exact message_isolated h hconn hsome hstate (hturns conn hconn hsome hstate)
    -- the connection is not there, or it is still waiting for its HELLO
    have hclosed : ∀ conn, t.pool.conns[i]? = some conn → conn.clientHandle.isSome = true →
        conn.tcpConn.state = .closed := by
      intro conn hconn hsome
      by_contra hstate
      exact hup ⟨conn,hconn,hsome,hstate⟩
    have hreceived : t.receivedAfter (.message i msg) = t.received := by
      cases hconn : t.pool.conns[i]? with
      | none => simp only [receivedAfter,hconn]
      | some conn =>
        simp only [receivedAfter,hconn]
        exact if_neg fun hc => hc.2 (hclosed conn hconn hc.1)
    constructor
    · intro conn hconn hsome
      have hnone (s : Server ω σ) (hs : s.conn = conn) : messageInbound cfg s msg = none :=
        if_pos (by rw [hs]; exact hclosed conn hconn hsome)
      rw [Pool.step_message_dispatches hconn hsome,hnone (t.pool.focus i conn) rfl]
      dsimp only
      rw [hnone _ rfl]
    · unfold OneAssembly step
      rw [hrest.chunkAssembly,hreceived]
      · exact h
      · rintro i' msg' conn hx hconn hsome
        cases hx
        exact hclosed conn hconn hsome

/-- While the connections take turns, each message of each connection dispatches what it would with
an assembler of its own. -/
theorem interleaved_run_isolated {p : Pool ω σ} (hidle : p.shared.chunkAssembly = ChunkAssembler.idle)
    (inputs : List Input)
    (hrun : Run.AllSteps (Tracked.step cfg) TakesTurns ⟨p, fun _ => []⟩ inputs) :
    Run.AllSteps (Tracked.step cfg) (Isolated cfg) ⟨p, fun _ => []⟩ inputs := by
  have hstart : Tracked.OneAssembly ⟨p,fun _ => []⟩ := by
    unfold Tracked.OneAssembly
    rw [hidle]
    exact Exclusive.Owned.start 0
  refine Run.AllSteps.of_invariant ?_ hstart hrun
  intro t x h hx
  exact Tracked.step_isolated h hx

/-! ## Two connections -/

def plainPool : Pool Unit Unit :=
  ⟨bareShared, [bareConnection .none .none, bareConnection .none .none]⟩

def openingChunk (i : Nat) : Input := .message i (plainChunk .intermediate ⟨1, 1, 6, 9⟩ [0x01, 0x00])
def closingChunk (i : Nat) : Input := .message i (plainChunk .final ⟨1, 1, 6, 9⟩ [0x77, 0x02, 0x2a])

def turns : List Input := [openingChunk 0, closingChunk 0, openingChunk 1, closingChunk 1]

/-- The connections send a split request each, one after the other. -/
theorem interleaved_run_isolated_turns :
    Run.AllSteps (Tracked.step (bareConfig none)) TakesTurns ⟨plainPool, fun _ => []⟩ turns ∧
      Run.AllSteps (Tracked.step (bareConfig none)) (Isolated (bareConfig none))
        ⟨plainPool, fun _ => []⟩ turns := by
  have hturns : Run.AllSteps (Tracked.step (bareConfig none)) TakesTurns
      ⟨plainPool,fun _ => []⟩ turns := by
    refine ⟨fun _ _ _ _ _ j _ => rfl,fun _ _ _ _ _ j hj => ?_,fun _ _ _ _ _ j hj => ?_,
      fun _ _ _ _ _ j hj => ?_,trivial⟩
    all_goals
      rcases j with _ | _ | j
      all_goals first | exact absurd rfl hj | rfl
  exact ⟨hturns,interleaved_run_isolated rfl _ hturns⟩

/-- The second connection's chunk is completed with the bytes of the first one. -/
theorem closingChunk_not_isolated :
    let t := Tracked.step (bareConfig none) ⟨plainPool,fun _ => []⟩ (openingChunk 0)
    dispatches (t.step (bareConfig none) (closingChunk 1)).pool.shared.log = [(631, [0x2a])] ∧
      t.received 1 = [] ∧
      ¬ Run.AllSteps (Tracked.step (bareConfig none)) (Isolated (bareConfig none))
        ⟨plainPool,fun _ => []⟩ [openingChunk 0,closingChunk 1] := by
  intro t
  have hconn : t.pool.conns[1]? = some (bareConnection .none .none) := by decide +kernel
  let msg := plainChunk .final ⟨1,1,6,9⟩ [0x77,0x02,0x2a]
  have hmixed : dispatches (t.pool.step (bareConfig none) (.message 1 msg)).shared.log =
      [(631, [0x2a])] := by
    rw [Pool.step_message_dispatches hconn rfl]
    decide +kernel
  refine ⟨hmixed,by decide +kernel,fun h => ?_⟩
  have hsecond : Isolated (bareConfig none) t (.message 1 msg) := h.2.1
  have halone := hsecond _ hconn rfl
  rw [hmixed] at halone
  revert halone
  decide +kernel

end MucOpcua
