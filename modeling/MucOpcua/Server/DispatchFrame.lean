import MucOpcua.Server.Frame

/-!
# What a dispatched request does to the connection

Only OpenSecureChannel and CloseSecureChannel change the channel.
-/

namespace MucOpcua

variable {ω σ : Type} (cfg : ServerConfig ω σ)
variable {requestId : UInt32} {s' : Server ω σ} (s : Server ω σ) (c : SecureChannel)
variable {body : List UInt8}

structure Granted (c c' : SecureChannel) : Prop where
  check : ∃ requested, checkChannelSecurity c.policy requested c'.mode = .ok ()
  isOpen : c'.isOpen = true
  policy : c'.policy = c.policy
  sequence : c'.sequence = c.sequence

/-- How a request can leave the channel. A closed channel comes from an open one or was not open. -/
inductive ChannelStep (c c' : SecureChannel) : Prop where
  | kept (h : c' = { c with outSequenceNumber := c'.outSequenceNumber })
  | closed (h : c'.isOpen = false)
  | granted (h : Granted c c')

structure SameGrant (c c' : SecureChannel) : Prop where
  channelId : c'.channelId = c.channelId
  tokenId : c'.tokenId = c.tokenId
  isOpen : c'.isOpen = c.isOpen
  policy : c'.policy = c.policy
  mode : c'.mode = c.mode
  sequence : c'.sequence = c.sequence

namespace SameGrant

theorem refl : SameGrant c c := ⟨rfl,rfl,rfl,rfl,rfl,rfl⟩

theorem trans {c d e : SecureChannel} (h : SameGrant c d) (h' : SameGrant d e) : SameGrant c e :=
  ⟨h'.channelId.trans h.channelId,h'.tokenId.trans h.tokenId,h'.isOpen.trans h.isOpen,
    h'.policy.trans h.policy,h'.mode.trans h.mode,h'.sequence.trans h.sequence⟩

theorem of_quiet {s : Server ω σ} (h : Quiet s s') : SameGrant s.channel s'.channel := by
  rw [h.channel]
  exact ⟨rfl,rfl,rfl,rfl,rfl,rfl⟩

end SameGrant

theorem Granted.trans {c d e : SecureChannel} (h : Granted c d) (h' : SameGrant d e) :
    Granted c e where
  check := by
    rw [h'.mode]
    exact h.check
  isOpen := h'.isOpen.trans h.isOpen
  policy := h'.policy.trans h.policy
  sequence := h'.sequence.trans h.sequence

theorem ChannelStep.refl : ChannelStep c c := .kept rfl

theorem ChannelStep.trans_quiet {c : SecureChannel} {s : Server ω σ}
    (h : ChannelStep c s.channel) (hq : Quiet s s') : ChannelStep c s'.channel := by
  cases h with
  | kept h => exact .kept (by rw [hq.channel,h])
  | closed h => exact .closed (hq.isOpen.trans h)
  | granted h => exact .granted (h.trans (SameGrant.of_quiet hq))

theorem ChannelStep.after_quiet {s : Server ω σ} {c : SecureChannel} (hq : Quiet s s')
    (h : ChannelStep s'.channel c) : ChannelStep s.channel c := by
  cases h with
  | kept h => exact .kept (by rw [h,hq.channel])
  | closed h => exact .closed h
  | granted h =>
    refine .granted ⟨?_,h.isOpen,h.policy.trans hq.policy,?_⟩
    · rw [← hq.policy]
      exact h.check
    · rw [h.sequence,hq.channel]

/-! ## OpenSecureChannel -/

structure Rekeyed (c c' : SecureChannel) : Prop extends SameGrant c c' where
  outSequenceNumber : c'.outSequenceNumber = c.outSequenceNumber

theorem Rekeyed.refl : Rekeyed c c := ⟨SameGrant.refl c,rfl⟩

theorem deriveEccKeys_rekeyed (crypto : CryptoAdapter ω) (c : SecureChannel) (curve : EccCurve)
    (ctx serverNonce clientNonce : List UInt8) :
    Rekeyed c (deriveEccKeys crypto c curve ctx serverNonce clientNonce).2 := by
  unfold deriveEccKeys
  split
  · exact Rekeyed.refl c
  split
  · exact Rekeyed.refl c
  · dsimp only
    split <;> exact ⟨⟨rfl,rfl,rfl,rfl,rfl,rfl⟩,rfl⟩

theorem deriveRsaKeys_rekeyed (crypto : CryptoAdapter ω) (c : SecureChannel)
    (serverNonce clientNonce : List UInt8) :
    Rekeyed c (deriveRsaKeys crypto c serverNonce clientNonce).2 := by
  unfold deriveRsaKeys
  dsimp only
  split <;> exact ⟨⟨rfl,rfl,rfl,rfl,rfl,rfl⟩,rfl⟩

theorem deriveChannelKeys_rekeyed (serverNonce : ServerNonce) (clientNonce : MuString) :
    Rekeyed c (deriveChannelKeys cfg c serverNonce clientNonce).2 := by
  unfold deriveChannelKeys
  split
  · exact Rekeyed.refl c
  split
  · exact Rekeyed.refl c
  split
  · exact Rekeyed.refl c
  extract_lets derived
  have h : Rekeyed c derived.2 := by
    unfold derived
    split
    · exact deriveEccKeys_rekeyed ..
    · exact deriveRsaKeys_rekeyed ..
  clear_value derived
  split
  · exact h
  · exact ⟨h.toSameGrant.trans ⟨rfl,rfl,rfl,rfl,rfl,rfl⟩,h.outSequenceNumber⟩

theorem setChannel_frame : Frame s (s.setChannel c) :=
  ⟨rfl,.inl rfl,rfl,rfl,rfl,rfl,rfl⟩

theorem completeOpenSecureChannel_frame (slot : Server.Slot)
    (requestHandle : UInt32) (clientNonce : MuString) :
    let s' := (completeOpenSecureChannel cfg s slot requestHandle clientNonce).2
    Frame s s' ∧ s'.trace = s.trace ∧ SameGrant s.channel s'.channel := by
  have hquiet {s' : Server ω σ} (h : Quiet s s') :
      Frame s s' ∧ s'.trace = s.trace ∧ SameGrant s.channel s'.channel :=
    ⟨h.toFrame,h.trace,.of_quiet h⟩
  unfold completeOpenSecureChannel
  dsimp only
  split
  · exact hquiet (Quiet.refl s)
  split
  · exact hquiet (Quiet.update s ..)
  rename_i serverNonce world _
  have hrespond := (Quiet.update s world ..).trans (respond_acts cfg { s with world } slot
    (encodeOscSecurityToken cfg s.returnDiagnostics requestHandle s.channel serverNonce.nonce)).quiet
  split
  · next h =>
    rw [h] at hrespond
    exact hquiet hrespond
  rename_i h
  rw [h] at hrespond
  obtain ⟨hframe,htrace,hsame⟩ := hquiet hrespond
  exact ⟨hframe.trans (setChannel_frame _ _),htrace,
    hsame.trans (deriveChannelKeys_rekeyed ..).toSameGrant⟩

def Refused (c c' : SecureChannel) : Prop := c' = c ∨ (c.isOpen = false ∧ c'.isOpen = false)

theorem grantSecureChannel_frame (request : OpenRequest) :
    let r := grantSecureChannel cfg s request
    Frame s r.2 ∧ r.2.trace = s.trace ∧ (r.1 = .ok () → Granted s.channel r.2.channel) ∧
      (r.1 ≠ .ok () → Refused s.channel r.2.channel) := by
  unfold grantSecureChannel
  split
  · exact ⟨(Quiet.update s ..).toFrame,rfl,nofun,fun _ => .inl rfl⟩
  rename_i channel world hopened
  obtain ⟨hcheck,hopen,hpolicy,hmode,hsequence⟩ := secureChannelOpen_ok hopened
  have hframe (c : SecureChannel) : Frame s ({ s with world }.setChannel c) :=
    (Quiet.update s ..).toFrame.trans (setChannel_frame _ c)
  have hgranted (channelId : UInt32) : Granted s.channel { channel with channelId } :=
    ⟨⟨_,hmode ▸ hcheck⟩,hopen,hpolicy,hsequence⟩
  unfold grantUniqueId ensureUniqueSecureChannelId
  split
  · exact ⟨hframe channel,rfl,fun _ => hgranted channel.channelId,fun h => (h rfl).elim⟩
  rename_i hwas
  split
  · next h =>
    split at h
    · cases h
    · cases h
      exact ⟨hframe _,rfl,fun _ => hgranted _,fun h => (h rfl).elim⟩
  · exact ⟨(hframe channel).trans (setChannel_frame _ _),rfl,nofun,
      fun _ => .inr ⟨by simpa using hwas,closed_isOpen _⟩⟩

/-- `handle_open_secure_channel` changes nothing but the channel. -/
theorem handleOpenSecureChannel_frame (body : List UInt8) (slot : Server.Slot) :
    let s' := (handleOpenSecureChannel cfg s body slot).2
    Frame s s' ∧ s'.trace = s.trace ∧
      (Granted s.channel s'.channel ∨ Refused s.channel s'.channel) := by
  have hclock (world : ω) : Quiet s { s with world } := Quiet.update s ..
  unfold handleOpenSecureChannel
  split
  · exact ⟨Frame.refl s,rfl,.inr (.inl rfl)⟩
  dsimp only
  split
  · exact ⟨(hclock _).toFrame,rfl,.inr (.inl rfl)⟩
  split
  · exact ⟨(hclock _).toFrame,rfl,.inr (.inl rfl)⟩
  rename_i request _
  obtain ⟨hframe,htrace,hgranted,hrefused⟩ := grantSecureChannel_frame cfg
    { s with world := (cfg.timeAdapter.getTime s.world).2 } request
  split
  · next h =>
    rw [h] at hframe htrace hrefused
    exact ⟨(hclock _).toFrame.trans hframe,htrace,.inr (hrefused nofun)⟩
  rename_i granted h
  rw [h] at hframe htrace hgranted
  obtain ⟨hframe',htrace',hsame⟩ :=
    completeOpenSecureChannel_frame cfg granted slot _ request.clientNonce
  exact ⟨(hclock _).toFrame.trans (hframe.trans hframe'),htrace'.trans htrace,
    .inl ((hgranted rfl).trans hsame)⟩

/-! ## CloseSecureChannel -/

theorem handleCloseSecureChannel_frame (body : List UInt8) (slot : Server.Slot) :
    let s' := (handleCloseSecureChannel cfg s body slot).2
    Frame s s' ∧ s'.trace = s.trace ∧ (s'.channel = s.channel ∨ s'.channel.isOpen = false) := by
  unfold handleCloseSecureChannel
  split
  · exact ⟨Frame.refl s,rfl,.inl rfl⟩
  split
  · exact ⟨Frame.refl s,rfl,.inl rfl⟩
  rename_i header _ _ channel hclose
  have hopen : channel.isOpen = false := by
    unfold secureChannelClose at hclose
    split at hclose
    · cases hclose
      rfl
    · cases hclose
  have hquiet := (respond_acts cfg (s.setChannel channel) slot
    (writeResponsePrefix cfg.timeAdapter s.returnDiagnostics idCloseSecureChannelResponse
      header.requestHandle Status.good)).quiet
  exact ⟨(setChannel_frame s channel).trans hquiet.toFrame,hquiet.trace,
    .inr (hquiet.isOpen.trans hopen)⟩

def ClosesChannel (requestId : UInt32) (body : List UInt8) : Prop :=
  requestId = idCloseSecureChannelRequest ∧
    ∃ header, requestHeaderDecode.result (BinaryReader.init body) = .ok header

open Classical in
noncomputable def sequenceAfter (sequence : SequenceValidator) (requestId : UInt32)
    (body : List UInt8) : SequenceValidator :=
  if ClosesChannel requestId body then SequenceValidator.init else sequence

theorem sequenceAfter_of_closes (h : ClosesChannel requestId body) (sequence : SequenceValidator) :
    sequenceAfter sequence requestId body = SequenceValidator.init := if_pos h

theorem sequenceAfter_of_not_closes
    (h : ¬ ClosesChannel requestId body) (sequence : SequenceValidator) :
    sequenceAfter sequence requestId body = sequence := if_neg h

theorem not_closesChannel
    (h : requestId ≠ idCloseSecureChannelRequest) : ¬ ClosesChannel requestId body :=
  fun hcloses => h hcloses.1

theorem handleCloseSecureChannel_sequence {s : Server ω σ} (hopen : s.channel.isOpen = true)
    (body : List UInt8) (slot : Server.Slot) :
    (handleCloseSecureChannel cfg s body slot).2.channel.sequence =
      sequenceAfter s.channel.sequence idCloseSecureChannelRequest body := by
  cases hdecode : requestHeaderDecode.result (BinaryReader.init body) with
  | error status =>
    rw [sequenceAfter_of_not_closes]
    · simp only [handleCloseSecureChannel,hdecode]
    · rintro ⟨-,header,hok⟩
      rw [hdecode] at hok
      cases hok
  | ok header =>
    rw [sequenceAfter_of_closes ⟨rfl,header,hdecode⟩]
    have hclose : secureChannelClose s.channel = .ok s.channel.init := if_pos hopen
    simp only [handleCloseSecureChannel,hdecode,hclose]
    rw [(respond_acts cfg (s.setChannel s.channel.init) slot _).quiet.channel]
    rfl

/-! ## Dispatch -/

/-- What one call of a handler may do: the channel makes a step, the log names the call. -/
structure Handled (s : Server ω σ) (requestId : UInt32) (body : List UInt8) (s' : Server ω σ) : Prop
    extends Frame s s' where
  channel : ChannelStep s.channel s'.channel
  sequence : s.channel.isOpen = true →
    s'.channel.sequence = sequenceAfter s.channel.sequence requestId body
  kept : requestId ≠ idOpenSecureChannelRequest → s'.channel.isOpen = true →
    SameGrant s.channel s'.channel
  trace : s'.trace = s.trace ++ [.handled requestId s.activeSession s.channelClientCert.val]

private theorem callHandler_start (requestId diagnostics : UInt32) :
    let s₁ := { s with returnDiagnostics := diagnostics }.record
      (.handled requestId s.activeSession s.channelClientCert.val)
    Frame s s₁ ∧ s₁.channel = s.channel ∧
      s₁.trace = s.trace ++ [.handled requestId s.activeSession s.channelClientCert.val] := by
  refine ⟨⟨rfl,.inl rfl,rfl,rfl,rfl,rfl,rfl⟩,rfl,?_⟩
  simp [Server.trace,Server.record,Event.isSent]

theorem callHandler_handled (requestId : UInt32) (body : List UInt8)
    (slot : Server.Slot) : Handled s requestId body (callHandler cfg s requestId body slot).2 := by
  obtain ⟨hframe,hchannel,htrace⟩ :=
    callHandler_start s requestId (readReturnDiagnosticsFromRequest body)
  unfold callHandler
  dsimp only at hframe hchannel htrace ⊢
  generalize Server.record { s with returnDiagnostics := readReturnDiagnosticsFromRequest body }
    (.handled requestId s.activeSession s.channelClientCert.val) = s₁ at hframe hchannel htrace ⊢
  split
  · next hopen =>
    obtain ⟨hframe',htrace',hstep⟩ := handleOpenSecureChannel_frame cfg s₁ body slot
    refine ⟨hframe.trans hframe',?_,fun hisOpen => ?_,fun hne => (hne hopen).elim,
      htrace'.trans htrace⟩
    · rw [← hchannel]
      rcases hstep with hgranted | hsame | ⟨-,hclosed⟩
      · exact .granted hgranted
      · exact hsame ▸ ChannelStep.refl _
      · exact .closed hclosed
    · rw [sequenceAfter_of_not_closes (not_closesChannel (by rw [hopen]; decide)),← hchannel]
      rw [← hchannel] at hisOpen
      rcases hstep with hgranted | hsame | ⟨hwas,-⟩
      · exact hgranted.sequence
      · rw [hsame]
      · rw [hwas] at hisOpen
        cases hisOpen
  · split
    · next hclose =>
      obtain ⟨hframe',htrace',hstep⟩ := handleCloseSecureChannel_frame cfg s₁ body slot
      refine ⟨hframe.trans hframe',?_,fun hisOpen => ?_,fun _ hopen => ?_,htrace'.trans htrace⟩
      · rw [← hchannel]
        rcases hstep with hsame | hclosed
        · exact hsame ▸ ChannelStep.refl _
        · exact .closed hclosed
      · rw [← hchannel] at hisOpen ⊢
        have hsequence := handleCloseSecureChannel_sequence cfg hisOpen body slot
        rwa [← hclose] at hsequence
      · rcases hstep with hsame | hclosed
        · rw [hsame,hchannel]
          exact SameGrant.refl _
        · rw [hclosed] at hopen
          cases hopen
    · next hclose =>
      have hquiet := (runHandler_acts cfg slot (cfg.handler requestId s₁ body) s₁).quiet
      refine ⟨hframe.trans hquiet.toFrame,?_,fun _ => ?_,fun _ _ => ?_,hquiet.trace.trans htrace⟩
      · exact hchannel ▸ (ChannelStep.refl _).trans_quiet hquiet
      · rw [sequenceAfter_of_not_closes (not_closesChannel hclose),hquiet.channel,hchannel]
      · exact hchannel ▸ SameGrant.of_quiet hquiet

/-- What a dispatch may do. A handler other than that of OpenSecureChannel needs an open channel; the
handler of a service without session then runs. -/
structure Dispatched (s : Server ω σ) (requestId : UInt32) (body : List UInt8)
    (s' : Server ω σ) : Prop extends Frame s s' where
  channel : ChannelStep s.channel s'.channel
  sequence : s.channel.isOpen = true →
    s'.channel.sequence = sequenceAfter s.channel.sequence requestId body
  kept : requestId ≠ idOpenSecureChannelRequest → s'.channel.isOpen = true →
    SameGrant s.channel s'.channel
  trace : (s'.trace = s.trace ++ [.dispatched requestId body] ∧
      (s.channel.isOpen = true → ∀ descriptor, findServiceDescriptor requestId = some descriptor →
        descriptor.requiresSession = true)) ∨
    ∃ session, s'.trace = s.trace ++
        [.dispatched requestId body, .handled requestId session s.channelClientCert.val] ∧
      (requestId = idOpenSecureChannelRequest ∨ s.channel.isOpen = true)

theorem beginDispatch_frame (requestId : UInt32) (body : List UInt8) :
    Frame s (s.beginDispatch requestId body) ∧
      (s.beginDispatch requestId body).channel = s.channel ∧
      (s.beginDispatch requestId body).trace = s.trace ++ [.dispatched requestId body] := by
  refine ⟨⟨rfl,.inl rfl,rfl,rfl,rfl,rfl,rfl⟩,rfl,?_⟩
  simp [Server.trace,Server.beginDispatch,Server.record,Event.isSent]

theorem findServiceDescriptor_close : findServiceDescriptor idCloseSecureChannelRequest =
    some ⟨idCloseSecureChannelRequest, idCloseSecureChannelResponse, false⟩ := by
  have hlisted : ⟨idCloseSecureChannelRequest,idCloseSecureChannelResponse,false⟩ ∈
      supportedServices := by decide
  exact findServiceDescriptor_of_mem hlisted

theorem Dispatched.of_quiet {s : Server ω σ} (h : Quiet (s.beginDispatch requestId body) s')
    (hstops : s.channel.isOpen = true → ∀ descriptor,
      findServiceDescriptor requestId = some descriptor → descriptor.requiresSession = true) :
    Dispatched s requestId body s' := by
  obtain ⟨hframe,hchannel,htrace⟩ := beginDispatch_frame s requestId body
  refine ⟨hframe.trans h.toFrame,?_,fun hopen => ?_,fun _ _ => ?_,
    .inl ⟨h.trace.trans htrace,hstops⟩⟩
  · exact hchannel ▸ (ChannelStep.refl _).trans_quiet h
  · have hkeeps : requestId ≠ idCloseSecureChannelRequest := by
      rintro rfl
      cases hstops hopen _ findServiceDescriptor_close
    rw [sequenceAfter_of_not_closes (not_closesChannel hkeeps),h.channel]
    rfl
  · exact hchannel ▸ SameGrant.of_quiet h

theorem Dispatched.of_handled {s t : Server ω σ}
    (hq : Quiet (s.beginDispatch requestId body) t) (h : Handled t requestId body s')
    (hopen : requestId = idOpenSecureChannelRequest ∨ s.channel.isOpen = true) :
    Dispatched s requestId body s' := by
  obtain ⟨hframe,hchannel,htrace⟩ := beginDispatch_frame s requestId body
  refine ⟨hframe.trans (hq.toFrame.trans h.toFrame),?_,fun hisOpen => ?_,fun hne hisOpen => ?_,
    .inr ⟨t.activeSession,?_,hopen⟩⟩
  · exact hchannel ▸ ChannelStep.after_quiet hq h.channel
  · rw [h.sequence (hq.isOpen.trans hisOpen),hq.channel]
    rfl
  · exact hchannel ▸ (SameGrant.of_quiet hq).trans (h.kept hne hisOpen)
  · rw [h.trace,hq.trace,htrace,hq.channelClientCert,List.append_assoc]
    rfl

theorem serviceDispatch_dispatched (requestId : UInt32) (body : List UInt8) (slot : Server.Slot) :
    Dispatched s requestId body (serviceDispatch cfg s requestId body slot).2 := by
  unfold serviceDispatch
  dsimp only
  split
  · next hnone =>
    refine Dispatched.of_quiet (Quiet.refl _) fun _ descriptor hsome => ?_
    rw [hnone] at hsome
    cases hsome
  rename_i descriptor hsome
  split
  · next hclosed =>
    refine Dispatched.of_quiet (Quiet.refl _) fun hopen => ?_
    have hnot : s.channel.isOpen = false := hclosed.2
    rw [hopen] at hnot
    cases hnot
  rename_i hnot
  have hopen : requestId = idOpenSecureChannelRequest ∨ s.channel.isOpen = true := by
    by_cases hid : requestId = idOpenSecureChannelRequest
    · exact .inl hid
    · exact .inr (by simpa [hid,Server.beginDispatch,Server.record] using hnot)
  split
  · next hsession =>
    have hbind := (bindSession_acts cfg (s.beginDispatch requestId body) body).quiet
    split
    · next h =>
      rw [h] at hbind
      refine Dispatched.of_quiet hbind fun _ descriptor' hsome' => ?_
      rw [hsome] at hsome'
      cases hsome'
      exact hsession
    · next h =>
      rw [h] at hbind
      exact Dispatched.of_handled hbind (callHandler_handled cfg _ requestId body slot) hopen
  · exact Dispatched.of_handled (Quiet.refl _)
      (callHandler_handled cfg _ requestId body slot) hopen

end MucOpcua
