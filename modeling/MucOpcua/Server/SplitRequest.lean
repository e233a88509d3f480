import MucOpcua.Server.Connections
import MucOpcua.Server.PlainChunk

/-!
# Split requests

A request may come in several MSG chunks, with consecutive SequenceNumbers.
-/

namespace MucOpcua

variable {ω σ : Type} {cfg : ServerConfig ω σ}
variable {bytes : List UInt8} {s s₀ : Server ω σ}

def TcpAdapter.Reliable (tcp : TcpAdapter ω) : Prop :=
  ∀ world handle bytes, (tcp.write world handle bytes).1 = Status.good ∧
    (tcp.write world handle bytes).2.1 = bytes.length

def processMessages (cfg : ServerConfig ω σ) (s : Server ω σ) (msgs : List (List UInt8)) :
    Server ω σ :=
  msgs.foldl (fun s msg => if s.conn.clientHandle.isSome then processMessage cfg s msg else s) s

/-- The chunks of a request in pieces; `last` is the number before the first chunk. -/
def splitChunks (channelId tokenId requestId last : UInt32) (final : List UInt8) :
    List (List UInt8) → List (List UInt8)
  | [] => [plainChunk .final ⟨channelId, tokenId, last + 1, requestId⟩ final]
  | piece :: pieces => plainChunk .intermediate ⟨channelId, tokenId, last + 1, requestId⟩ piece ::
      splitChunks channelId tokenId requestId (last + 1) final pieces

/-- The number of the last chunk of `pieces.length + 1`. -/
def finalNumber (last : UInt32) : List (List UInt8) → UInt32
  | [] => last + 1
  | _ :: pieces => finalNumber (last + 1) pieces

/-! ## Collecting -/

/-- `bytes` have been collected since state `s₀`, and nothing else has happened. -/
structure Collecting (s₀ s : Server ω σ) (bytes : List UInt8) : Prop where
  quiet : Quiet s₀ { s with chunkAssembly := s₀.chunkAssembly }
  up : s.conn.clientHandle = s₀.conn.clientHandle
  collected : s.chunkAssembly.activate.bytes = bytes
  active : s.chunkAssembly.isActive = true ↔ bytes ≠ []

theorem Collecting.start (h : s.chunkAssembly.isActive = false) : Collecting s s [] where
  quiet := Quiet.refl s
  up := rfl
  collected := by simp [ChunkAssembler.activate,h]
  active := by simp [h]

theorem sendTcpErrorChunk_up (hreliable : cfg.tcpAdapter.Reliable) (s : Server ω σ)
    (code : StatusCode) :
    (sendTcpErrorChunk cfg s code).conn.clientHandle = s.conn.clientHandle := by
  have hfit : (tcpErrorMessage code []).length ≤ s.sendBuffer.val.length := by
    have hsize : minChunkSize ≤ s.sendBuffer.val.length := s.sendBuffer.property
    have hlen : (tcpErrorMessage code []).length = 16 := rfl
    unfold minChunkSize at hsize
    omega
  unfold sendTcpErrorChunk sendBufferChunk
  dsimp only
  rw [if_neg]
  · rfl
  · obtain ⟨hgood,hlength⟩ := hreliable s.world s.conn.clientHandle
      ((s.sendBuffer.patch 0 (tcpErrorMessage code [])).val.take (tcpErrorMessage code []).length)
    rw [hgood,hlength]
    simp [hfit]

variable {t : Server ω σ}

theorem Quiet.setAssembly (h : Quiet s t) (ca : ChunkAssembler) :
    Quiet { s with chunkAssembly := ca } { t with chunkAssembly := ca } :=
  ⟨⟨h.tcpConn,h.clientHandle,rfl,h.channelClientCert,h.pendingPolicy,h.pendingCert,h.peers⟩,
    h.channel,h.trace⟩

theorem Collecting.channel (h : Collecting s₀ s bytes) :
    s.channel = { s₀.channel with outSequenceNumber := s.channel.outSequenceNumber } :=
  h.quiet.channel

theorem Collecting.state (h : Collecting s₀ s bytes) : s.conn.tcpConn = s₀.conn.tcpConn :=
  h.quiet.tcpConn

theorem append_activate {ca : ChunkAssembler} {piece : List UInt8}
    (hfit : ca.activate.bytes.length + piece.length ≤ chunkAssemblyBufferSize) :
    ∃ ca', ca.activate.append piece = some ca' ∧ ca'.isActive = true ∧
      ca'.bytes = ca.activate.bytes ++ piece := by
  exact ⟨_,dif_pos hfit,ca.activate_isActive,rfl⟩

theorem Collecting.piece {piece : List UInt8}
    (h : Collecting s₀ s bytes) (hstate : s₀.conn.tcpConn.state ≠ .closed)
    (hfit : bytes.length + piece.length ≤ chunkAssemblyBufferSize)
    (hsend : piece = [] → cfg.tcpAdapter.Reliable) (header : ChunkHeader) :
    Collecting s₀ (processMessage cfg s (plainChunk .intermediate header piece))
      (bytes ++ piece) := by
  have hsize : uascSymmetricHeaderSize + piece.length < 2 ^ 32 := by
    unfold chunkAssemblyBufferSize at hfit
    unfold uascSymmetricHeaderSize
    omega
  have hprocess : processMessage cfg s (plainChunk .intermediate header piece) =
      processMessageMultiChunkContinuation cfg s (plainChunk .intermediate header piece) := by
    unfold processMessage
    rw [if_neg (h.state ▸ hstate),
      parseMessageHeader_plainChunk .intermediate header piece (by decide) hsize]
    exact if_pos ⟨rfl,rfl⟩
  rw [hprocess,processMessageMultiChunkContinuation,plainChunk_length,plainChunk_body]
  by_cases hempty : piece = []
  · subst hempty
    have hquiet := (sendTcpErrorChunk_acts cfg s Status.badTcpInternalError.val).quiet
    rw [if_pos (by simp),List.append_nil]
    refine ⟨h.quiet.trans (hquiet.setAssembly _),?_,?_,?_⟩
    · rw [sendTcpErrorChunk_up (hsend rfl)]
      exact h.up
    · rw [hquiet.chunkAssembly]
      exact h.collected
    · rw [hquiet.chunkAssembly]
      exact h.active
  · have hpos := List.length_pos_of_ne_nil hempty
    rw [if_neg (by omega)]
    obtain ⟨ca,happend,hactive,hbytes⟩ := append_activate (h.collected ▸ hfit)
    rw [happend]
    refine ⟨h.quiet,h.up,?_,?_⟩
    · show ca.activate.bytes = _
      rw [ChunkAssembler.activate,if_pos hactive,hbytes,h.collected]
    · show ca.isActive = true ↔ _
      simp [hactive,hempty]

theorem processMessages_cons (hup : s.conn.clientHandle.isSome = true)
    (msg : List UInt8) (msgs : List (List UInt8)) :
    processMessages cfg s (msg :: msgs) = processMessages cfg (processMessage cfg s msg) msgs := by
  rw [processMessages,List.foldl_cons,if_pos hup]
  rfl

theorem Collecting.pieces (h : Collecting s₀ s bytes)
    (hup : s₀.conn.clientHandle.isSome = true) (hstate : s₀.conn.tcpConn.state ≠ .closed)
    {pieces : List (List UInt8)}
    (hfit : bytes.length + pieces.flatten.length ≤ chunkAssemblyBufferSize)
    (hsend : ∀ piece ∈ pieces, piece = [] → cfg.tcpAdapter.Reliable)
    (channelId tokenId requestId last : UInt32) (final : List UInt8) :
    ∃ t, Collecting s₀ t (bytes ++ pieces.flatten) ∧
      processMessages cfg s (splitChunks channelId tokenId requestId last final pieces) =
        processMessage cfg t
          (plainChunk .final ⟨channelId, tokenId, finalNumber last pieces, requestId⟩ final) := by
  induction pieces generalizing s bytes last with
  | nil =>
    refine ⟨s,by simpa using h,?_⟩
    rw [splitChunks,processMessages_cons (h.up ▸ hup)]
    rfl
  | cons piece pieces ih =>
    rw [List.flatten_cons,List.length_append] at hfit
    have hpiece : Collecting s₀ (processMessage cfg s _) (bytes ++ piece) :=
      h.piece hstate (by omega) (hsend piece List.mem_cons_self)
        ⟨channelId,tokenId,last + 1,requestId⟩
    obtain ⟨t,ht,hrun⟩ := ih hpiece (by rw [List.length_append]; omega)
      (fun piece hmem => hsend piece (List.mem_cons_of_mem _ hmem)) (last + 1)
    refine ⟨t,by simpa using ht,?_⟩
    rw [splitChunks,processMessages_cons (h.up ▸ hup),hrun]
    rfl

/-! ## The last chunk -/

theorem plaintextInbound_plainChunk (chunkType : ChunkType) (header : ChunkHeader)
    (body : List UInt8) :
    plaintextInbound (plainChunk chunkType header body) false =
      some ⟨header.channelId, header.tokenId, header.sequenceNumber, header.requestId,
        typeAndBody body (BinaryReader.init body), none⟩ := by
  rw [plaintextInbound,readPlaintextPrologue_plainChunk]
  simp only [PlaintextPrologue.inbound,typeAndBody_seek,plainChunk_body]

theorem assembledInbound_plainChunk {ca : ChunkAssembler} {final : List UInt8}
    (hfinal : final ≠ []) (hfit : ca.bytes.length + final.length ≤ chunkAssemblyBufferSize)
    (header : ChunkHeader) :
    assembledInbound ca (plainChunk .final header final) =
      some ⟨header.channelId, header.tokenId, header.sequenceNumber, header.requestId,
        typeAndBody (ca.bytes ++ final) (BinaryReader.init (ca.bytes ++ final)), none⟩ := by
  have hpos := List.length_pos_of_ne_nil hfinal
  have happend : ca.append final = some ⟨ca.isActive,ca.bytes ++ final,by simpa using hfit⟩ :=
    dif_pos hfit
  rw [assembledInbound,if_neg (by rw [plainChunk_length]; omega),plainChunk_body,happend,
    readPlaintextPrologue_plainChunk]
  rfl

theorem Collecting.finalInbound {final : List UInt8}
    (h : Collecting s₀ t bytes) (hstate : s₀.conn.tcpConn.state ≠ .closed)
    (hpolicy : s₀.channel.policy = .none)
    (hfit : bytes.length + final.length ≤ chunkAssemblyBufferSize) (header : ChunkHeader) :
    messageInbound cfg t (plainChunk .final header final) =
      if bytes ≠ [] ∧ final = [] then none
      else some (.none, ⟨header.channelId, header.tokenId, header.sequenceNumber, header.requestId,
        typeAndBody (bytes ++ final) (BinaryReader.init (bytes ++ final)), none⟩) := by
  have hsize : uascSymmetricHeaderSize + final.length < 2 ^ 32 := by
    unfold chunkAssemblyBufferSize at hfit
    unfold uascSymmetricHeaderSize
    omega
  have hpolicy' : t.channel.policy = .none := by
    rw [h.channel]
    exact hpolicy
  unfold messageInbound
  rw [if_neg (h.state ▸ hstate),parseMessageHeader_plainChunk .final header final (by decide) hsize]
  dsimp only
  rw [if_neg (by simp)]
  by_cases hbytes : bytes = []
  · -- nothing was collected, so the chunk is a request of its own
    have hidle : ¬ t.chunkAssembly.isActive = true := by simp [h.active,hbytes]
    rw [if_neg (by simp [hidle]),hbytes]
    have hplain := plaintextInbound_plainChunk .final header final
    unfold chunkInbound
    cases cfg.cryptoAdapter with
    | none | some crypto => simp [hplain,hpolicy']
  · have hactive : t.chunkAssembly.isActive = true := h.active.mpr hbytes
    have hcollected : t.chunkAssembly.bytes = bytes := by
      rw [← h.collected,ChunkAssembler.activate,if_pos hactive]
    rw [if_pos ⟨rfl,rfl,hactive⟩]
    by_cases hfinal : final = []
    · rw [if_pos ⟨hbytes,hfinal⟩,assembledInbound,if_pos (by simp [hfinal])]
      rfl
    · rw [if_neg (by simp [hfinal]),assembledInbound_plainChunk hfinal (hcollected ▸ hfit),
        hcollected,Option.map_some,hpolicy']

/-! ## The whole request -/

/-- One request was dispatched and the validator stands at the last chunk's number. -/
structure SplitServed (s s' : Server ω σ) (id : UInt32) (body : List UInt8) (number : UInt32) :
    Prop where
  dispatched : dispatches s'.log = dispatches s.log ++ [(id, body)]
  sequence : s'.channel.sequence = ⟨number, true⟩
  next : s'.channel.sequence.Accepts (number + 1)

theorem Collecting.dispatches (h : Collecting s₀ t bytes) :
    dispatches t.log = dispatches s₀.log := by
  have htrace : t.trace = s₀.trace := h.quiet.trace
  rw [← dispatches_trace,htrace,dispatches_trace]

theorem Route.splitServed_iff {s' : Server ω σ} {m : Inbound} {typeId : NodeId}
    {body : List UInt8} {id : UInt32} (h : Route cfg s m s') (hopen : s.channel.isOpen = true)
    (hbinding : m.channelId = s.channel.channelId ∧ m.tokenId = s.channel.tokenId)
    (hrequest : m.request = some (typeId, body)) (hopn : m.opn = none)
    (htype : ns0Numeric? typeId = some id) :
    SplitServed s s' id body m.sequenceNumber ↔
      s.channel.sequence.Accepts m.sequenceNumber ∧ ¬ ClosesChannel id body := by
  cases h with
  | refused hnot hs' =>
    constructor
    · intro hserved
      have hlog := hserved.dispatched
      subst hs'
      simp [abortConnection] at hlog
    · rintro ⟨haccepts,-⟩
      exact (hnot ⟨fun _ => hbinding,haccepts⟩).elim
  | undecodable _ _ hnone =>
    rw [hrequest] at hnone
    cases hnone
  | served inLast typeId' body' haccepts hrequest' hserved _ =>
    rw [hrequest] at hrequest'
    cases hrequest'
    have hsequence := hserved.sequence hopn hopen
    rw [htype,Option.elim_some] at hsequence
    constructor
    · intro hsplit
      refine ⟨haccepts.sequence,fun hcloses => ?_⟩
      rw [sequenceAfter_of_closes hcloses,hsplit.sequence] at hsequence
      exact Bool.noConfusion (congrArg SequenceValidator.isInitialized hsequence)
    · rintro ⟨-,hkeeps⟩
      rw [sequenceAfter_of_not_closes hkeeps] at hsequence
      have hdispatched := hserved.dispatches
      rw [htype] at hdispatched
      exact ⟨hdispatched,hsequence,by rw [hsequence]; exact .inr (.inl rfl)⟩

/-- While nothing is being assembled, a split request on a channel without security is served as one
request just when the number of its last chunk is accepted after the number before its first, its
last piece is not empty and it does not close the channel. -/
theorem splitRequest_served_iff {s : Server ω σ} (hup : s.conn.clientHandle.isSome = true)
    (hstate : s.conn.tcpConn.state ≠ .closed) (hopen : s.channel.isOpen = true)
    (hpolicy : s.channel.policy = .none) (hidle : s.chunkAssembly.isActive = false)
    {pieces : List (List UInt8)} {final : List UInt8}
    (hfit : (pieces.flatten ++ final).length ≤ chunkAssemblyBufferSize)
    (hsend : ∀ piece ∈ pieces, piece = [] → cfg.tcpAdapter.Reliable) {typeId : NodeId}
    {body : List UInt8} {id : UInt32}
    (hrequest : typeAndBody (pieces.flatten ++ final) (BinaryReader.init (pieces.flatten ++ final)) =
      some (typeId, body)) (htype : ns0Numeric? typeId = some id) (requestId : UInt32) :
    SplitServed s (processMessages cfg s (splitChunks s.channel.channelId s.channel.tokenId requestId
        s.channel.sequence.lastSequenceNumber final pieces)) id body
        (finalNumber s.channel.sequence.lastSequenceNumber pieces) ↔
      s.channel.sequence.Accepts (finalNumber s.channel.sequence.lastSequenceNumber pieces) ∧
        final ≠ [] ∧ ¬ ClosesChannel id body := by
  rw [List.length_append] at hfit
  obtain ⟨t,hcollect,hrun⟩ := (Collecting.start hidle).pieces hup hstate
    (by simpa using Nat.le_of_add_right_le hfit) hsend s.channel.channelId s.channel.tokenId
    requestId s.channel.sequence.lastSequenceNumber final
  rw [hrun]
  have hcases := processMessage_cases cfg t (plainChunk .final ⟨s.channel.channelId,
    s.channel.tokenId,finalNumber s.channel.sequence.lastSequenceNumber pieces,requestId⟩ final)
  rw [hcollect.finalInbound hstate hpolicy hfit] at hcases
  by_cases hfinal : final = []
  · -- the request is in the other chunks, which the empty one discards
    have hflatten : pieces.flatten ≠ [] := by
      intro hnil
      rw [hnil,hfinal,List.nil_append] at hrequest
      cases hrequest
    rw [if_pos ⟨hflatten,hfinal⟩] at hcases
    constructor
    · intro hserved
      have hlog := hserved.dispatched
      rw [← dispatches_trace,hcases.trace,dispatches_trace,hcollect.dispatches] at hlog
      simp at hlog
    · exact fun h => (h.2.1 hfinal).elim
  · rw [if_neg fun h => hfinal h.2] at hcases
    obtain ⟨ca,u,hroute,heq⟩ := hcases
    have hchannel := hcollect.channel
    have hiff := hroute.splitServed_iff (by rw [hchannel]; exact hopen)
      (by rw [hchannel]; exact ⟨rfl,rfl⟩) hrequest rfl htype
    have hsequence : t.channel.sequence = s.channel.sequence := by rw [hchannel]
    rw [heq]
    constructor
    · intro hserved
      obtain ⟨haccepts,hkeeps⟩ := hiff.mp
        ⟨hserved.dispatched.trans (by rw [← hcollect.dispatches]; rfl),hserved.sequence,
          hserved.next⟩
      exact ⟨hsequence ▸ haccepts,hfinal,hkeeps⟩
    · rintro ⟨haccepts,-,hkeeps⟩
      have hserved := hiff.mpr ⟨hsequence ▸ haccepts,hkeeps⟩
      exact ⟨hserved.dispatched.trans (by rw [← hcollect.dispatches]; rfl),hserved.sequence,
        hserved.next⟩

/-! ## A Read request in two chunks -/

def plainServer : Server Unit Unit where
  toShared := bareShared
  conn := bareConnection .none .none
  peers := []

/-- The numbers go round between the two chunks, and the last one is accepted. -/
theorem splitRead_served :
    let s := { plainServer with conn := { plainServer.conn with secureChannel :=
      { plainServer.conn.secureChannel with sequence := ⟨4294967294, true⟩ } } }
    SplitServed s (processMessages (bareConfig none) s
      (splitChunks 1 1 9 4294967294 [0x77, 0x02, 0x2a] [[0x01, 0x00]])) 631 [0x2a] 0 := by
  intro s
  have hrequest : typeAndBody [0x01,0x00,0x77,0x02,0x2a]
      (BinaryReader.init [0x01,0x00,0x77,0x02,0x2a]) = some (⟨0,.numeric 631⟩, [0x2a]) := by
    decide +kernel
  have hkeeps : ¬ ClosesChannel 631 [0x2a] := fun hcloses => absurd hcloses.1 (by decide)
  have hiff := @splitRequest_served_iff Unit Unit (bareConfig none) s rfl (by decide) rfl rfl rfl
    [[0x01,0x00]] [0x77,0x02,0x2a] (by decide) (by simp) _ _ _ hrequest rfl 9
  have hnumber : finalNumber s.channel.sequence.lastSequenceNumber [[0x01,0x00]] = 0 := by decide
  rw [hnumber] at hiff
  exact hiff.mpr ⟨by decide,by decide,hkeeps⟩

/-- Chunk 6 is collected without being counted, so chunk 7 is out of order and the connection is
aborted. -/
theorem splitRead_not_served :
    let s' := processMessages (bareConfig none) plainServer
      (splitChunks 1 1 9 5 [0x77,0x02,0x2a] [[0x01,0x00]])
    dispatches s'.log = [] ∧ s'.conn.clientHandle = none ∧
      s'.channel.sequence = ⟨5,true⟩ ∧ ¬ SplitServed plainServer s' 631 [0x2a] 7 := by
  intro s'
  have hlog : dispatches s'.log = [] := by decide +kernel
  refine ⟨hlog,by decide +kernel,by decide +kernel,fun hserved => ?_⟩
  have hdispatched := hserved.dispatched
  rw [hlog] at hdispatched
  simp at hdispatched

end MucOpcua
