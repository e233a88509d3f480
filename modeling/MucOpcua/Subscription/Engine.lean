import MucOpcua.Subscription.ItemServices

/-!
# Runs of the engine

What the server does with the engine: it lets a service work on a request, it runs the tick, it
closes sessions, and it passes on what the application and the Call service ask for.
-/

namespace MucOpcua

variable {ω κ : Type}

/-! ## Inputs -/

inductive Service where
  | createSubscription | modifySubscription | setPublishingMode | deleteSubscriptions
  | publish | republish | transferSubscriptions
  | createMonitoredItems | modifyMonitoredItems | setMonitoringMode | deleteMonitoredItems
  | setTriggering
  deriving DecidableEq

def Service.handle (cfg : EngineConfig ω κ) (caller : Caller) : Service → ServiceM ω κ Nat
  | .createSubscription => handleCreateSubscription cfg caller
  | .modifySubscription => handleModifySubscription cfg caller
  | .setPublishingMode => handleSetPublishingMode cfg caller
  | .deleteSubscriptions => handleDeleteSubscriptions cfg caller
  | .publish => handlePublish cfg caller
  | .republish => handleRepublish cfg caller
  | .transferSubscriptions => handleTransferSubscriptions cfg caller
  | .createMonitoredItems => handleCreateMonitoredItems cfg caller
  | .modifyMonitoredItems => handleModifyMonitoredItems cfg caller
  | .setMonitoringMode => handleSetMonitoringMode cfg caller
  | .deleteMonitoredItems => handleDeleteMonitoredItems cfg caller
  | .setTriggering => handleSetTriggering cfg caller

def Work.start (e : Engine ω κ) (body : List UInt8) (room : Nat) : Work ω κ :=
  ⟨e, BinaryReader.init body, BinaryWriter.init (List.replicate room 0)⟩

inductive EngineInput (ω : Type) where
  /-- a request of a client -/
  | call (caller : Caller) (service : Service) (body : List UInt8) (room : Nat)
  /-- the sampling half of a tick -/
  | sample (nowMs : UInt64)
  /-- the turn of a slot in a tick -/
  | turn (sessions : List Session) (returnDiagnostics : UInt32) (nowMs : UInt64) (index : Nat)
  /-- CloseSession, or the end of a session by its timeout -/
  | sessionClosed (sessionId : UInt32)
  /-- `mu_server_trigger_event` -/
  | event (event : EventNotification)
  /-- `mu_server_signal_semantic_change` -/
  | semanticChange (nodeId : NodeId)
  /-- the method ResendData -/
  | resendData (sessionId subscriptionId : UInt32)
  /-- a new client of a server with a single connection -/
  | restart
  /-- other parts of the server -/
  | elsewhere (world : ω) (diag : DiagnosticsSummary)

/-! ## Steps -/

namespace Engine

/-- The loops of `handle_close_session` and `mu_server_poll_background` over the subscriptions of a
session. Its parked requests stay. -/
def closeSession (cfg : EngineConfig ω κ) (sessionId : UInt32) (e : Engine ω κ) : Engine ω κ :=
  (List.range cfg.caps.maxSubscriptions).foldl (fun e index =>
    match e.subs.subscription? index with
    | none => e
    | some sub =>
      if sub.sessionId = sessionId then (e.subscriptionDelete sessionId sub.subscriptionId).2
      else e) e

def Step (cfg : EngineConfig ω κ) (e : Engine ω κ) : EngineInput ω → Engine ω κ → Prop
  | .call caller service body room, e' => ∃ result work,
    ((service.handle cfg caller).run (Work.start e body room)).Leads (result, work) ∧
      e' = work.engine
  | .sample nowMs, e' => e' = e.sampleAll cfg nowMs
  | .turn sessions returnDiagnostics nowMs index, e' =>
    (publishTurn cfg sessions returnDiagnostics nowMs index e).Leads ((), e')
  | .sessionClosed sessionId, e' => e' = e.closeSession cfg sessionId
  | .event event, e' => e' = { e with subs := e.subs.triggerEvent event }
  | .semanticChange nodeId, e' =>
    e' = { e with subs := { e.subs with
      monitoredItems := signalSemanticChange e.subs.monitoredItems nodeId } }
  | .resendData sessionId subscriptionId, e' =>
    e' = { e with subs := (e.subs.requestResendData sessionId subscriptionId).2 }
  | .restart, e' => e' = { e with subs := Subs.init cfg.caps e.subs.history }
  | .elsewhere world diag, e' => e' = { e with world, diag }

def start (cfg : EngineConfig ω κ) (world : ω) (diag : DiagnosticsSummary) : Engine ω κ :=
  ⟨world, Subs.init cfg.caps ⟨0, []⟩, diag⟩

def StepIf (cfg : EngineConfig ω κ) (C : Engine ω κ → EngineInput ω → Prop)
    (e e' : Engine ω κ) : Prop :=
  ∃ input, C e input ∧ Step cfg e input e'

def ReachableIf (cfg : EngineConfig ω κ) (C : Engine ω κ → EngineInput ω → Prop)
    (e : Engine ω κ) : Prop :=
  ∃ world diag, Relation.ReflTransGen (StepIf cfg C) (start cfg world diag) e

def Reachable (cfg : EngineConfig ω κ) : Engine ω κ → Prop := ReachableIf cfg fun _ _ => True

variable {cfg : EngineConfig ω κ} {C : Engine ω κ → EngineInput ω → Prop}

theorem ReachableIf.induct (Inv : Engine ω κ → Prop) {e : Engine ω κ} (h : ReachableIf cfg C e)
    (hstart : ∀ world diag, Inv (start cfg world diag))
    (hstep : ∀ e input e', Inv e → C e input → Step cfg e input e' → Inv e') : Inv e := by
  obtain ⟨world,diag,hrun⟩ := h
  induction hrun with
  | refl => exact hstart world diag
  | tail _ hlast ih =>
    obtain ⟨input,hc,hs⟩ := hlast
    exact hstep _ input _ ih hc hs

theorem subscriptionsTick_steps {sessions : List Session} {returnDiagnostics : UInt32}
    {nowMs : UInt64} {e e' : Engine ω κ}
    (h : (subscriptionsTick cfg sessions returnDiagnostics nowMs e).Leads ((), e')) :
    Relation.ReflTransGen (StepIf cfg fun _ _ => True) e e' := by
  have hturns (indices : List Nat) (e : Engine ω κ)
      (h : (indices.forM (publishTurn cfg sessions returnDiagnostics nowMs) e).Leads ((), e')) :
      Relation.ReflTransGen (StepIf cfg fun _ _ => True) e e' := by
    induction indices generalizing e with
    | nil =>
      cases h
      exact .refl
    | cons index indices ih =>
      obtain ⟨⟨⟨⟩,e₁⟩,hturn,hrest⟩ := Interact.leads_bind.mp h
      exact .head ⟨.turn sessions returnDiagnostics nowMs index,trivial,hturn⟩ (ih e₁ hrest)
  exact .head ⟨.sample nowMs,trivial,rfl⟩ (hturns _ (e.sampleAll cfg nowMs) h)

/-! ## Runs under given answers -/

section Answers

variable (cfg : EngineConfig ω κ) (answer : (q : Ask ω) → Ask.Answer q)

def stepWith (e : Engine ω κ) : EngineInput ω → Engine ω κ
  | .call caller service body room =>
    (((service.handle cfg caller).run (Work.start e body room)).run answer).2.engine
  | .sample nowMs => e.sampleAll cfg nowMs
  | .turn sessions returnDiagnostics nowMs index =>
    ((publishTurn cfg sessions returnDiagnostics nowMs index e).run answer).2
  | .sessionClosed sessionId => e.closeSession cfg sessionId
  | .event event => { e with subs := e.subs.triggerEvent event }
  | .semanticChange nodeId =>
    { e with subs := { e.subs with
      monitoredItems := signalSemanticChange e.subs.monitoredItems nodeId } }
  | .resendData sessionId subscriptionId =>
    { e with subs := (e.subs.requestResendData sessionId subscriptionId).2 }
  | .restart => { e with subs := Subs.init cfg.caps e.subs.history }
  | .elsewhere world diag => { e with world, diag }

theorem step_stepWith (e : Engine ω κ) (input : EngineInput ω) :
    Step cfg e input (e.stepWith cfg answer input) := by
  cases input with
  | call caller service body room => exact ⟨_,_,Interact.leads_run answer _,rfl⟩
  | turn sessions returnDiagnostics nowMs index => exact Interact.leads_run answer _
  | _ => rfl

def runWith (inputs : List (EngineInput ω)) (e : Engine ω κ) : Engine ω κ :=
  inputs.foldl (stepWith cfg answer) e

def RunMeets (C : Engine ω κ → EngineInput ω → Prop) : List (EngineInput ω) → Engine ω κ → Prop
  | [], _ => True
  | input :: inputs, e => C e input ∧ RunMeets C inputs (e.stepWith cfg answer input)

variable {cfg}

theorem reachableIf_runWith {inputs : List (EngineInput ω)} {e : Engine ω κ}
    (h : ReachableIf cfg C e) (hmeets : RunMeets cfg answer C inputs e) :
    ReachableIf cfg C (e.runWith cfg answer inputs) := by
  induction inputs generalizing e with
  | nil => exact h
  | cons input inputs ih =>
    obtain ⟨hc,hrest⟩ := hmeets
    obtain ⟨world,diag,hrun⟩ := h
    exact ih ⟨world,diag,hrun.tail ⟨input,hc,step_stepWith cfg answer e input⟩⟩ hrest

theorem runMeets_true (inputs : List (EngineInput ω)) (e : Engine ω κ) :
    RunMeets cfg answer (fun _ _ => True) inputs e := by
  induction inputs generalizing e with
  | nil => exact trivial
  | cons input inputs ih => exact ⟨trivial,ih _⟩

theorem Reachable.stepWith {e : Engine ω κ} (h : Reachable cfg e) (input : EngineInput ω) :
    Reachable cfg (e.stepWith cfg answer input) := by
  obtain ⟨world,diag,hrun⟩ := h
  exact ⟨world,diag,hrun.tail ⟨input,trivial,step_stepWith cfg answer e input⟩⟩

theorem ReachableIf.start (world : ω) (diag : DiagnosticsSummary) :
    ReachableIf cfg C (Engine.start cfg world diag) :=
  ⟨world,diag,.refl⟩

end Answers

end Engine

/-! ## A small server -/

def BinaryWriter.front (w : BinaryWriter) : List UInt8 :=
  (List.range (min w.position (if w.buffer.isSome then w.length else 0))).map
    fun i => (w.buffer.getD []).getD i 0

theorem BinaryWriter.written_eq_front (w : BinaryWriter) : w.written = w.front := by
  have hlength : (w.buffer.getD []).length = if w.buffer.isSome then w.length else 0 := by
    cases hb : w.buffer with
    | none => rfl
    | some b => exact w.sized b hb
  apply List.ext_getElem?
  intro i
  rw [BinaryWriter.written,BinaryWriter.front,← hlength,List.getElem?_map,List.getElem?_take]
  by_cases hi : i < min w.position (w.buffer.getD []).length
  · have hcell : i < (w.buffer.getD []).length := by omega
    rw [if_pos (by omega),List.getElem?_range hi,Option.map_some,List.getD_eq_getElem _ _ hcell,
      List.getElem?_eq_getElem hcell]
  rw [List.getElem?_eq_none (l := List.range _) (by rw [List.length_range]; omega)]
  split
  · exact List.getElem?_eq_none (by omega)
  · rfl

/-- `encodeResponse` with a body whose length is known without its bytes: a run can be evaluated
with it. -/
def encodeFront {α : Type} (encode : RespondM ω α) :
    PublishM ω κ (Except BadStatus (α × List UInt8)) :=
  modifyGet fun e =>
    match encode (BinaryWriter.init (List.replicate publishBodyBytes 0), e.world) with
    | .ok a (writer, world) => (.ok (a, writer.front), { e with world })
    | .error status (_, world) => (.error status, { e with world })

theorem encodeResponse_eq_front {α : Type} : @encodeResponse ω κ α = encodeFront := by
  funext encode
  unfold encodeResponse encodeFront
  congr 1
  funext e
  generalize encode (BinaryWriter.init (List.replicate publishBodyBytes 0), e.world) = result
  cases result with
  | ok a final =>
    dsimp only
    rw [BinaryWriter.written_eq_front]
  | error status final => rfl

/-- `BinaryWriter.put`, `writeFixed` and `BinaryWriter.patch` over `splice`: with them the bytes of a
response can be evaluated. -/
def BinaryWriter.putSplice (w : BinaryWriter) (bytes : List UInt8) : BinaryWriter :=
  { w with
    buffer := w.buffer.map fun b => Buffer.splice b w.position bytes
    position := w.position + bytes.length
    sized := by
      intro b hb
      obtain ⟨b', hb', rfl⟩ := Option.map_eq_some_iff.mp hb
      rw [← Buffer.overwrite_eq_splice]
      simpa using w.sized b' hb' }

def writeSplice (bytes : List UInt8) : WriteM Unit := do
  ensureSpace bytes.length
  modify (·.putSplice bytes)

def BinaryWriter.patchSplice (w : BinaryWriter) (position : Nat) (bytes : List UInt8) :
    BinaryWriter :=
  { w with
    buffer := w.buffer.map fun b => Buffer.splice b position bytes
    sized := by
      intro b hb
      obtain ⟨b', hb', rfl⟩ := Option.map_eq_some_iff.mp hb
      rw [← Buffer.overwrite_eq_splice]
      simpa using w.sized b' hb' }

theorem writeFixed_eq_splice : writeFixed = writeSplice := by
  have hput : BinaryWriter.put = BinaryWriter.putSplice := by
    funext w bytes
    simp only [BinaryWriter.put,BinaryWriter.putSplice,Buffer.overwrite_eq_splice]
  unfold writeFixed writeSplice
  rw [hput]

theorem BinaryWriter.patch_eq_splice : BinaryWriter.patch = BinaryWriter.patchSplice := by
  funext w position bytes
  simp only [patch,patchSplice,Buffer.overwrite_eq_splice]

namespace Sample

def config : EngineConfig Unit Unit where
  caps := ⟨2, 2, 2, 2, 1, by decide, by decide, by decide⟩
  filterCaps := FilterCapacities.default
  profile := ⟨8, fun _ _ => true⟩
  double :=
    ⟨fun _ => 0, fun _ _ => 0, fun _ _ => 0, fun _ _ => 0, id, fun _ _ => false, fun _ _ => false⟩
  timeAdapter := ⟨fun world => (0, world), fun world => (0, world)⟩
  zeroAccumulator := ()
  accumulateAggregate state _ _ := state
  aggregateValue _ _ := (Status.good, Variant.zero)
  aggregateTypeSupported _ := false
  resolveNode _ _ := none
  eurangeSpan _ _ := none
  sameUser _ _ _ := true
  auditPool _ := []
  whereClauseEval _ _ := false
  leftover _ _ := ⟨[], ⟨[], [], [], 0, 0, 0⟩, Status.good⟩

/-- The connection with the channel `id`. -/
def connection (id : UInt32) : Connection where
  clientHandle := some id.toNat
  tcpConn := { TcpConnection.init with state := .established }
  secureChannel :=
    { channelId := id
      tokenId := 1
      revisedLifetime := 3600000
      sequence := ⟨5, true⟩
      outSequenceNumber := 5
      inLastSequenceNumber := 5
      isOpen := true
      policy := .none
      mode := .none
      clientKeys := SymKeys.zero
      serverKeys := SymKeys.zero
      keysValid := false }

def answer : (q : Ask Unit) → Ask.Answer q
  | .emit world _ _ => (Status.good, world)
  | .connections => [connection 1, connection 2]
  | .write _ _ => ()

def start : Engine Unit Unit :=
  Engine.start config () ⟨⟨List.replicate 12 0, DiagnosticsSummary.length_zero⟩⟩

/-- The session `id` on the channel `id`. -/
def session (id : UInt32) : Session :=
  { Session.init with state := .activated, sessionId := id, authToken := id, secureChannelId := id }

def caller (first : Bool) : Caller where
  channelId := if first then 1 else 2
  sessions := [session 1, session 2]
  returnDiagnostics := 0
  session := session (if first then 1 else 2)
  requestId := 7
  session_mem := by cases first <;> simp
  activated := rfl
  bound := rfl

def requestHeader : List UInt8 :=
  [0, 0] ++ List.replicate 16 0 ++ [0xff, 0xff, 0xff, 0xff] ++ List.replicate 7 0

def call (first : Bool) (service : Service) (parameters : List UInt8) : EngineInput Unit :=
  .call (caller first) service (requestHeader ++ parameters) 256

def create (first : Bool) : EngineInput Unit :=
  call first .createSubscription (List.replicate 20 0 ++ [1, 0])

def publish (first : Bool) : EngineInput Unit := call first .publish [0, 0, 0, 0]

def acknowledge (first : Bool) (sequenceNumber : UInt8) : EngineInput Unit :=
  call first .publish [1, 0, 0, 0, 1, 0, 0, 0, sequenceNumber, 0, 0, 0]

def tick : EngineInput Unit := .turn [session 1, session 2] 0 60000 0

def transfer (first : Bool) : EngineInput Unit :=
  call first .transferSubscriptions [1, 0, 0, 0, 1, 0, 0, 0, 0]

def after (inputs : List (EngineInput Unit)) : Engine Unit Unit :=
  start.runWith config answer inputs

def agrees (e e' : Engine Unit Unit) : Bool :=
  let itemless (slots : List (ItemSlot Unit Unit)) : Bool :=
    slots.all fun slot => slot.item.isNone && !slot.reportable
  decide (e.subs.subscriptions = e'.subs.subscriptions ∧ e.subs.publishQueue = e'.subs.publishQueue ∧
      e.subs.nextSubscriptionId = e'.subs.nextSubscriptionId ∧
      e.subs.nextMonitoredItemId = e'.subs.nextMonitoredItemId ∧
      e.subs.activeMonitoredItemsCount = e'.subs.activeMonitoredItemsCount ∧
      e.subs.history = e'.subs.history ∧ e.diag = e'.diag ∧
      e.subs.monitoredItems.length = e'.subs.monitoredItems.length) &&
    itemless e.subs.monitoredItems && itemless e'.subs.monitoredItems

theorem eq_of_agrees {e e' : Engine Unit Unit} (h : agrees e e' = true) : e = e' := by
  obtain ⟨⟨world⟩,⟨subscriptions,slots,queue,n,m,count,history⟩,diag⟩ := e
  obtain ⟨⟨world'⟩,⟨subscriptions',slots',queue',n',m',count',history'⟩,diag'⟩ := e'
  simp only [agrees,Bool.and_eq_true,decide_eq_true_eq,List.all_eq_true,
    Option.isNone_iff_eq_none,Bool.not_eq_true'] at h
  obtain ⟨⟨⟨rfl,rfl,rfl,rfl,rfl,rfl,rfl,hlength⟩,hslots⟩,hslots'⟩ := h
  have hsame : slots = slots' := by
    apply List.ext_getElem hlength
    intro i hi hi'
    obtain ⟨hitem,hreportable⟩ := hslots _ (List.getElem_mem hi)
    obtain ⟨hitem',hreportable'⟩ := hslots' _ (List.getElem_mem hi')
    generalize slots[i] = slot at hitem hreportable
    generalize slots'[i] = slot' at hitem' hreportable'
    obtain ⟨item,reportable⟩ := slot
    obtain ⟨item',reportable'⟩ := slot'
    cases hitem
    cases hitem'
    cases hreportable
    cases hreportable'
    rfl
  rw [hsame]

theorem reachable_after (inputs : List (EngineInput Unit)) :
    Engine.Reachable config (after inputs) :=
  Engine.reachableIf_runWith answer (.start () _) (Engine.runMeets_true answer inputs start)

theorem reachableIf_append {C : Engine Unit Unit → EngineInput Unit → Prop}
    (inputs : List (EngineInput Unit)) (input : EngineInput Unit)
    (h : Engine.ReachableIf config C (after inputs)) (hc : C (after inputs) input) :
    Engine.ReachableIf config C (after (inputs ++ [input])) := by
  have hmeets : Engine.RunMeets config answer C [input] (after inputs) := ⟨hc,trivial⟩
  have hnext := Engine.reachableIf_runWith answer h hmeets
  unfold after Engine.runWith at hnext ⊢
  rwa [List.foldl_append]

end Sample

end MucOpcua
