import MucOpcua.Services.SessionTable
import MucOpcua.Subscription.LedgerServices

/-!
# The life of sessions and subscriptions

The session table and the engine together, with the counts of the diagnostics.
-/

namespace MucOpcua

variable {ω κ : Type}
variable {nowMs : UInt64} {sessions : List Session}

/-! ## Counters of sessions -/

namespace DiagnosticsSummary

variable (diag : DiagnosticsSummary)

def sessionCreated : DiagnosticsSummary := (diag.modify 2 (· + 1)).modify 1 (· + 1)

def sessionClosed : DiagnosticsSummary :=
  diag.modify 1 fun count => if 0 < count then count - 1 else count

def sessionTimeout : DiagnosticsSummary := diag.modify 5 (· + 1)

@[simp] theorem sessionCreated_currentSessionCount :
    diag.sessionCreated.currentSessionCount = diag.currentSessionCount + 1 := by
  simp [sessionCreated,currentSessionCount,getD_modify]

@[simp] theorem sessionCreated_currentSubscriptionCount :
    diag.sessionCreated.currentSubscriptionCount = diag.currentSubscriptionCount := by
  simp [sessionCreated,currentSubscriptionCount,getD_modify]

@[simp] theorem sessionClosed_currentSessionCount : diag.sessionClosed.currentSessionCount =
      if 0 < diag.currentSessionCount then diag.currentSessionCount - 1
      else diag.currentSessionCount :=
  (getD_modify diag 1 1 _ (by decide)).trans (if_pos rfl)

@[simp] theorem sessionClosed_currentSubscriptionCount :
    diag.sessionClosed.currentSubscriptionCount = diag.currentSubscriptionCount := by
  simp [sessionClosed,currentSubscriptionCount,getD_modify]

@[simp] theorem sessionTimeout_currentSessionCount :
    diag.sessionTimeout.currentSessionCount = diag.currentSessionCount := by
  simp [sessionTimeout,currentSessionCount,getD_modify]

@[simp] theorem sessionTimeout_currentSubscriptionCount :
    diag.sessionTimeout.currentSubscriptionCount = diag.currentSubscriptionCount := by
  simp [sessionTimeout,currentSubscriptionCount,getD_modify]

end DiagnosticsSummary

/-! ## The server -/

structure Lifecycle (ω κ : Type) where
  sessions : List Session
  engine : Engine ω κ

inductive LifecycleInput (ω : Type) where
  | createSession (request : CreateSession)
  | activateSession (request : ActivateSession)
  /-- a request of a service that needs a session, before its handler -/
  | request (authToken secureChannelId : UInt32) (tick : Option UInt64)
  | closeSession (authToken secureChannelId : UInt32) (tick : Option UInt64)
  /-- what the engine does for the sessions -/
  | engine (input : EngineInput ω)
  /-- the timeouts of `mu_server_poll_background` -/
  | timeouts (nowMs : UInt64)
  /-- a new client of a server with a single connection -/
  | accept
  /-- other parts of the server, such as a client that disconnects or a session that is refused;
  the counts of sessions and subscriptions are not theirs -/
  | elsewhere (world : ω) (diag : DiagnosticsSummary)

def EngineInput.For (sessions : List Session) : EngineInput ω → Prop
  | .call caller .. => caller.sessions = sessions
  | .turn sessions' .. => sessions' = sessions
  | .sessionClosed _ | .restart | .elsewhere .. => False
  | _ => True

namespace Lifecycle

variable (cfg : EngineConfig ω κ) (entropy : EntropyAdapter ω)

/-- `handle_create_session`: a session that is created is counted. -/
def createSession (request : CreateSession) (st : Lifecycle ω κ) : Lifecycle ω κ :=
  let (result, table) := handleCreateSession entropy request ⟨st.sessions, st.engine.world⟩
  { sessions := table.sessions
    engine := { st.engine with
      world := table.world
      diag :=
        match result with
        | .ok () => st.engine.diag.sessionCreated
        | .error _ => st.engine.diag } }

def activateSession (request : ActivateSession) (st : Lifecycle ω κ) : Lifecycle ω κ :=
  let table := handleActivateSession entropy request ⟨st.sessions, st.engine.world⟩
  { sessions := table.sessions, engine := { st.engine with world := table.world } }

/-- `handle_close_session` behind the dispatcher. -/
def closeSession (authToken secureChannelId : UInt32) (tick : Option UInt64)
    (st : Lifecycle ω κ) : Lifecycle ω κ :=
  { sessions := handleSessionRequest authToken secureChannelId tick true st.sessions
    engine :=
      match gatedSession authToken secureChannelId st.sessions with
      | none => st.engine
      | some (_, session) =>
        let e := st.engine.closeSession cfg session.sessionId
        { e with diag := e.diag.sessionClosed } }

/-- One round of the loop of `mu_server_poll_background` over the sessions. -/
def timeout (nowMs : UInt64) (st : Lifecycle ω κ) (i : Nat) : Lifecycle ω κ :=
  match st.sessions[i]? with
  | none => st
  | some session =>
    if sessionTimedOut nowMs session then
      { sessions := st.sessions.set i (sessionCloseTimeout session)
        engine := Engine.closeSession cfg session.sessionId
          { st.engine with diag := st.engine.diag.sessionTimeout.sessionClosed } }
    else st

def timeouts (nowMs : UInt64) (st : Lifecycle ω κ) : Lifecycle ω κ :=
  if nowMs = 0 then st else (List.range st.sessions.length).foldl (timeout cfg nowMs) st

/-- `poll_try_accept_single`. -/
def accept (st : Lifecycle ω κ) : Lifecycle ω κ :=
  { sessions := st.sessions.map fun _ => Session.init
    engine := { st.engine with subs := Subs.init cfg.caps st.engine.subs.history } }

def Step (st : Lifecycle ω κ) : LifecycleInput ω → Lifecycle ω κ → Prop
  | .createSession request, st' => st' = st.createSession entropy request
  | .activateSession request, st' => st' = st.activateSession entropy request
  | .request authToken secureChannelId tick, st' => st' = { st with
      sessions := handleSessionRequest authToken secureChannelId tick false st.sessions }
  | .closeSession authToken secureChannelId tick, st' =>
    st' = st.closeSession cfg authToken secureChannelId tick
  | .engine input, st' => input.For st.sessions ∧ st'.sessions = st.sessions ∧
      Engine.Step cfg st.engine input st'.engine
  | .timeouts nowMs, st' => st' = st.timeouts cfg nowMs
  | .accept, st' => st' = st.accept cfg
  | .elsewhere world diag, st' =>
    diag.currentSessionCount = st.engine.diag.currentSessionCount ∧
      diag.currentSubscriptionCount = st.engine.diag.currentSubscriptionCount ∧
      st' = { st with engine := { st.engine with world, diag } }

/-- `mu_server_init`. -/
def start (maxSessions : Nat) (world : ω) : Lifecycle ω κ where
  sessions := List.replicate maxSessions Session.init
  engine := Engine.start cfg world ⟨⟨List.replicate 12 0, DiagnosticsSummary.length_zero⟩⟩

def ReachableIf (maxSessions : Nat) (C : Lifecycle ω κ → LifecycleInput ω → Prop)
    (st : Lifecycle ω κ) : Prop :=
  ∃ world, Relation.ReflTransGen
    (fun st st' => ∃ input, C st input ∧ Step cfg entropy st input st')
    (start cfg maxSessions world) st

variable {cfg entropy} {maxSessions : Nat} {C : Lifecycle ω κ → LifecycleInput ω → Prop}

theorem ReachableIf.induct (Inv : Lifecycle ω κ → Prop) {st : Lifecycle ω κ}
    (h : ReachableIf cfg entropy maxSessions C st)
    (hstart : ∀ world, Inv (start cfg maxSessions world))
    (hstep : ∀ st input st', Inv st → C st input → Step cfg entropy st input st' → Inv st') :
    Inv st := by
  obtain ⟨world,hrun⟩ := h
  induction hrun with
  | refl => exact hstart world
  | tail _ hlast ih =>
    obtain ⟨input,hc,hs⟩ := hlast
    exact hstep _ input _ ih hc hs

theorem ReachableIf.tail {st st' : Lifecycle ω κ} (h : ReachableIf cfg entropy maxSessions C st)
    (input : LifecycleInput ω) (hc : C st input)
    (hstep : Step cfg entropy st input st') : ReachableIf cfg entropy maxSessions C st' := by
  obtain ⟨world,hrun⟩ := h
  exact ⟨world,hrun.tail ⟨input,hc,hstep⟩⟩

end Lifecycle

/-! ## What becomes of sessions -/

def SameLife (before after : Session) : Prop :=
  (after.state = .closed ↔ before.state = .closed) ∧
    (before.state ≠ .closed → after.sessionId = before.sessionId)

theorem SameLife.refl (session : Session) : SameLife session session := ⟨Iff.rfl,fun _ => rfl⟩

theorem Slotwise.set_sameLife {i : Nat} {before after : Session}
    (h : sessions[i]? = some before) (hlife : SameLife before after) :
    Slotwise SameLife sessions (sessions.set i after) := by
  refine Slotwise.set SameLife.refl fun session hsession => ?_
  rw [h] at hsession
  cases hsession
  exact hlife

section Sessions

variable (entropy : EntropyAdapter ω)

theorem handleActivateSession_sameLife (request : ActivateSession) (table : SessionTable ω) :
    Slotwise SameLife table.sessions (handleActivateSession entropy request table).sessions := by
  rcases handleActivateSession_ends entropy request table with
    hsame | ⟨i,before,after,hslot,hset,hlive,hactivated,hid,-⟩
  · rw [hsame]
    exact Slotwise.refl SameLife.refl _
  rw [hset]
  refine Slotwise.set_sameLife hslot ⟨?_,fun _ => hid⟩
  rw [hactivated]
  exact iff_of_false nofun hlive

theorem handleSessionRequest_sameLife (authToken secureChannelId : UInt32) (tick : Option UInt64)
    (sessions : List Session) : Slotwise SameLife sessions
      (handleSessionRequest authToken secureChannelId tick false sessions) := by
  rw [handleSessionRequest_eq]
  split
  · exact Slotwise.refl SameLife.refl _
  · next i session hgate =>
    exact Slotwise.set_sameLife (gatedSession_some hgate).1 ⟨Iff.rfl,fun _ => rfl⟩

def SessionLive (sessions : List Session) (sessionId : UInt32) : Prop :=
  ∃ session ∈ sessions, session.state ≠ .closed ∧ session.sessionId = sessionId

def liveCount (sessions : List Session) : Nat :=
  sessions.countP fun session => session.state ≠ .closed

variable {sessions sessions' : List Session} {sessionId : UInt32} {i : Nat} {before after : Session}

theorem SessionLive.sameLife (h : SessionLive sessions sessionId)
    (hlife : Slotwise SameLife sessions sessions') : SessionLive sessions' sessionId := by
  obtain ⟨session,hmem,hlive,hid⟩ := h
  obtain ⟨j,hj⟩ := List.getElem?_of_mem hmem
  obtain ⟨session',hj',hclosed,hsame⟩ := hlife.after hj
  exact ⟨session',List.mem_of_getElem? hj',fun h => hlive (hclosed.mp h),(hsame hlive).trans hid⟩

theorem mem_set_of_mem {α : Type} {t : List α} {i : Nat} {a b : α} (h : a ∈ t)
    (hi : t[i]? ≠ some a) : a ∈ t.set i b := by
  obtain ⟨j,hj⟩ := List.getElem?_of_mem h
  have hij : i ≠ j := by
    rintro rfl
    exact hi hj
  refine List.mem_of_getElem? (i := j) ?_
  rw [List.getElem?_set_ne hij]
  exact hj

theorem SessionLive.set (h : SessionLive sessions sessionId) (hbefore : sessions[i]? = some before)
    (hother : before.state = .closed ∨ before.sessionId ≠ sessionId) (after : Session) :
    SessionLive (sessions.set i after) sessionId := by
  obtain ⟨session,hmem,hlive,hid⟩ := h
  refine ⟨session,mem_set_of_mem hmem ?_,hlive,hid⟩
  rw [hbefore]
  rintro ⟨⟩
  rcases hother with hclosed | hne
  · exact hlive hclosed
  · exact hne hid

theorem liveCount_sameLife (h : Slotwise SameLife sessions sessions') :
    liveCount sessions' = liveCount sessions := by
  refine h.countP_eq fun a b hab => ?_
  simp only [decide_not,hab.1]

theorem liveCount_begins (h : sessions[i]? = some before) (hclosed : before.state = .closed)
    (hlive : after.state ≠ .closed) :
    liveCount (sessions.set i after) = liveCount sessions + 1 := by
  have hcount := Slotwise.countP_set (b := after) h fun session => decide (session.state ≠ .closed)
  simpa [liveCount,hclosed,hlive] using hcount

theorem liveCount_ends (h : sessions[i]? = some before) (hlive : before.state ≠ .closed)
    (hclosed : after.state = .closed) :
    liveCount (sessions.set i after) + 1 = liveCount sessions := by
  have hcount := Slotwise.countP_set (b := after) h fun session => decide (session.state ≠ .closed)
  simpa [liveCount,hclosed,hlive] using hcount

end Sessions

/-! ## Entries about sessions -/

structure Roll where
  sessions : List Session
  ledger : Ledger

def Lifecycle.roll (st : Lifecycle ω κ) : Roll :=
  ⟨st.sessions, st.engine.subs.ledger st.engine.diag⟩

namespace Roll

/-- What a run may do: what the ledger may, end a session, and let a new client in; `slots` is the
size of the table of subscriptions. -/
structure Rules where
  slots : Nat
  ledger : List Session → Ledger.Rules
  ends : Ledger → UInt32 → Prop
  accept : Roll → Prop

inductive Step (P : Rules) (r : Roll) : Roll → Prop where
  | entry (l : Ledger) (h : Ledger.Step (P.ledger r.sessions) r.ledger l) :
      Step P r { r with ledger := l }
  | keeps (sessions : List Session) (h : Slotwise SameLife r.sessions sessions) :
      Step P r { r with sessions }
  | begins (i : Nat) (before after : Session) (hslot : r.sessions[i]? = some before)
      (hclosed : before.state = .closed) (hlive : after.state ≠ .closed) :
      Step P r ⟨r.sessions.set i after,
        { r.ledger with sessionCount := r.ledger.sessionCount + 1 }⟩
  | ends (i : Nat) (before after : Session) (hslot : r.sessions[i]? = some before)
      (hlive : before.state ≠ .closed) (hclosed : after.state = .closed)
      (h : P.ends r.ledger before.sessionId) :
      Step P r ⟨r.sessions.set i after, { r.ledger with
        sessionCount :=
          if 0 < r.ledger.sessionCount then r.ledger.sessionCount - 1 else r.ledger.sessionCount }⟩
  | accept (l : Ledger) (h : P.accept r) (howners : ∀ owner ∈ l.owners, owner = none)
      (hparked : ∀ slot ∈ l.parked, slot = none) (hslots : l.owners.length = P.slots)
      (hsessions : l.sessionCount = r.ledger.sessionCount)
      (hsubscriptions : l.subscriptionCount = r.ledger.subscriptionCount) :
      Step P r ⟨r.sessions.map fun _ => Session.init, l⟩

abbrev Run (P : Rules) : Roll → Roll → Prop := Relation.ReflTransGen (Step P)

variable {P : Rules}

theorem Run.of_ledger {l l' : Ledger}
    (h : Ledger.Run (P.ledger sessions) l l') : Run P ⟨sessions, l⟩ ⟨sessions, l'⟩ := by
  induction h with
  | refl => exact .refl
  | tail _ hlast ih => exact ih.tail (.entry _ hlast)

def Rules.MayEnd (P : Rules) (queue : List (Option PublishRequest)) (sessionId : UInt32) : Prop :=
  ∀ l : Ledger, l.parked = queue →
    P.ends l sessionId ∧ ∀ sessions, (P.ledger sessions).remove l sessionId true

end Roll

def LifecycleInput.Entered (cfg : EngineConfig ω κ) (P : Roll.Rules) (st : Lifecycle ω κ) :
    LifecycleInput ω → Prop
  | .closeSession authToken secureChannelId _ => ∀ i session,
      gatedSession authToken secureChannelId st.sessions = some (i, session) →
        P.MayEnd st.engine.subs.publishQueue session.sessionId
  | .timeouts nowMs => ∀ session ∈ st.sessions, sessionTimedOut nowMs session →
      P.MayEnd st.engine.subs.publishQueue session.sessionId
  | .engine input => input.For st.sessions → input.Entered cfg (P.ledger st.sessions) st.engine
  | .accept => P.accept st.roll
  | _ => True

namespace Lifecycle

variable {cfg : EngineConfig ω κ} {entropy : EntropyAdapter ω} {st st' : Lifecycle ω κ}
  {P : Roll.Rules}

theorem roll_diag {e : Engine ω κ} {world : ω} {diag : DiagnosticsSummary}
    {count : UInt32} (hsessions : diag.currentSessionCount = count)
    (hsubscriptions : diag.currentSubscriptionCount = e.diag.currentSubscriptionCount) :
    roll ⟨sessions, { e with world, diag }⟩ =
      ⟨sessions, { e.subs.ledger e.diag with sessionCount := count }⟩ := by
  subst hsessions
  simp only [roll,Subs.ledger,hsubscriptions]

theorem closeSession_rolls (cfg : EngineConfig ω κ) (sessions : List Session) (e : Engine ω κ)
    {sessionId : UInt32} (h : P.MayEnd e.subs.publishQueue sessionId) :
    Roll.Run P (roll ⟨sessions, e⟩) (roll ⟨sessions, e.closeSession cfg sessionId⟩) ∧
      (e.closeSession cfg sessionId).subs.publishQueue = e.subs.publishQueue := by
  have hremove : ∀ l : Ledger, l.parked = e.subs.publishQueue →
      (P.ledger sessions).remove l sessionId true := fun l hl => (h l hl).2 sessions
  obtain ⟨hrun,hqueue⟩ := Engine.closeSession_run sessionId e hremove
  exact ⟨.of_ledger hrun,hqueue⟩

/-- A session ends; its end is counted by `mu_diagnostics_session_closed`. -/
theorem ends_rolls {i : Nat} {before after : Session} {diag : DiagnosticsSummary}
    (hslot : st.sessions[i]? = some before) (hlive : before.state ≠ .closed)
    (hclosed : after.state = .closed)
    (h : P.ends (st.engine.subs.ledger st.engine.diag) before.sessionId)
    (hsessions : diag.currentSessionCount = st.engine.diag.sessionClosed.currentSessionCount)
    (hsubscriptions : diag.currentSubscriptionCount = st.engine.diag.currentSubscriptionCount) :
    Roll.Run P st.roll (roll ⟨st.sessions.set i after, { st.engine with diag }⟩) := by
  have hends : Roll.Step P st.roll _ := .ends i before after hslot hlive hclosed h
  rw [DiagnosticsSummary.sessionClosed_currentSessionCount] at hsessions
  rw [roll_diag hsessions hsubscriptions]
  exact .single hends

theorem sessionCloseTimeout_closed (session : Session) :
    (sessionCloseTimeout session).state = .closed := by
  unfold sessionCloseTimeout
  split
  · assumption
  · rfl

theorem sessionTimedOut_live {session : Session}
    (h : sessionTimedOut nowMs session) : session.state ≠ .closed := by
  simp only [sessionTimedOut,decide_eq_true_eq] at h
  exact h.1

theorem timeout_sessions {i : Nat} {session : Session}
    (h : session ∈ (st.timeout cfg nowMs i).sessions) (hexpired : sessionTimedOut nowMs session) :
    session ∈ st.sessions := by
  unfold timeout at h
  split at h
  · exact h
  split at h
  · rcases List.mem_or_eq_of_mem_set h with hold | rfl
    · exact hold
    · exact absurd (sessionCloseTimeout_closed _) (sessionTimedOut_live hexpired)
  · exact h

theorem timeout_rolls (cfg : EngineConfig ω κ) (i : Nat)
    (h : ∀ session ∈ st.sessions, sessionTimedOut nowMs session →
      P.MayEnd st.engine.subs.publishQueue session.sessionId) :
    Roll.Run P st.roll (st.timeout cfg nowMs i).roll ∧
      (st.timeout cfg nowMs i).engine.subs.publishQueue = st.engine.subs.publishQueue := by
  unfold timeout
  split
  · exact ⟨.refl,rfl⟩
  rename_i session hslot
  split
  · next hexpired =>
    have hmay := h session (List.mem_of_getElem? hslot) hexpired
    have hends : Roll.Run P st.roll (roll ⟨st.sessions.set i (sessionCloseTimeout session),
        { st.engine with diag := st.engine.diag.sessionTimeout.sessionClosed }⟩) :=
      ends_rolls hslot (sessionTimedOut_live hexpired) (sessionCloseTimeout_closed session)
        (hmay _ rfl).1 (by simp) (by simp)
    obtain ⟨hrun,hqueue⟩ := closeSession_rolls cfg (st.sessions.set i (sessionCloseTimeout session))
      { st.engine with diag := st.engine.diag.sessionTimeout.sessionClosed } hmay
    exact ⟨hends.trans hrun,hqueue⟩
  · exact ⟨.refl,rfl⟩

theorem timeouts_rolls (h : ∀ session ∈ st.sessions, sessionTimedOut nowMs session →
      P.MayEnd st.engine.subs.publishQueue session.sessionId) :
    Roll.Run P st.roll (st.timeouts cfg nowMs).roll := by
  unfold timeouts
  split
  · exact .refl
  generalize List.range st.sessions.length = slots
  induction slots generalizing st with
  | nil => exact .refl
  | cons i slots ih =>
    obtain ⟨hrun,hqueue⟩ := timeout_rolls cfg i h
    refine hrun.trans (ih fun session hsession hexpired => ?_)
    rw [hqueue]
    exact h session (timeout_sessions hsession hexpired) hexpired

theorem Step.rolls {input : LifecycleInput ω} (h : Step cfg entropy st input st')
    (hslots : P.slots = cfg.caps.maxSubscriptions) (hentered : input.Entered cfg P st) :
    Roll.Run P st.roll st'.roll := by
  cases input with
  | createSession request =>
    cases h
    unfold Lifecycle.createSession
    have hends := handleCreateSession_ends entropy request ⟨st.sessions,st.engine.world⟩
    generalize handleCreateSession entropy request ⟨st.sessions,st.engine.world⟩ = run at hends ⊢
    cases hends with
    | refused => exact .refl
    | dropped status world hslot hfree hclosed =>
      exact .single (.keeps _
        (Slotwise.set_sameLife hslot ⟨iff_of_true hclosed hfree,fun hlive => absurd hfree hlive⟩))
    | begun world hslot hfree hlive =>
      rw [roll_diag (DiagnosticsSummary.sessionCreated_currentSessionCount _)
        (DiagnosticsSummary.sessionCreated_currentSubscriptionCount _)]
      exact .single (.begins _ _ _ hslot hfree hlive)
  | activateSession request =>
    cases h
    exact .single (.keeps _
      (handleActivateSession_sameLife entropy request ⟨st.sessions,st.engine.world⟩))
  | request authToken secureChannelId tick =>
    cases h
    exact .single (.keeps _ (handleSessionRequest_sameLife authToken secureChannelId tick _))
  | closeSession authToken secureChannelId tick =>
    cases h
    unfold Lifecycle.closeSession
    rw [handleSessionRequest_eq]
    cases hgate : gatedSession authToken secureChannelId st.sessions with
    | none => exact .refl
    | some gated =>
      obtain ⟨i,session⟩ := gated
      obtain ⟨hslot,hactivated,-⟩ := gatedSession_some hgate
      have hlive : session.state ≠ .closed := by
        rw [hactivated]
        nofun
      have hmay := hentered i session hgate
      obtain ⟨hrun,hqueue⟩ := closeSession_rolls cfg st.sessions st.engine hmay
      exact hrun.trans (ends_rolls hslot hlive rfl (hmay _ hqueue).1 rfl (by simp))
  | engine input =>
    obtain ⟨hfor,hsessions,hstep⟩ := h
    have hrun := Roll.Run.of_ledger (hstep.entries (hentered hfor))
    rw [roll,roll,hsessions]
    exact hrun
  | timeouts nowMs =>
    cases h
    exact timeouts_rolls hentered
  | accept =>
    cases h
    refine .single (.accept _ hentered ?_ ?_ ?_ rfl rfl)
    · intro owner howner
      obtain ⟨slot,hslot,rfl⟩ := List.mem_map.mp howner
      rw [List.eq_of_mem_replicate hslot]
      rfl
    · intro slot hslot
      exact List.eq_of_mem_replicate hslot
    · rw [hslots]
      exact (List.length_map _).trans List.length_replicate
  | elsewhere world diag =>
    obtain ⟨hsessions,hsubscriptions,rfl⟩ := h
    rw [roll_diag hsessions hsubscriptions]
    exact .refl

theorem ReachableIf.rolls {C : Lifecycle ω κ → LifecycleInput ω → Prop} {maxSessions : Nat}
    (h : ReachableIf cfg entropy maxSessions C st) (hslots : P.slots = cfg.caps.maxSubscriptions)
    (hentered : ∀ st input, C st input → input.Entered cfg P st) (Inv : Roll → Prop)
    (hstart : ∀ world, Inv (start cfg maxSessions world).roll)
    (hkept : ∀ r r', Inv r → Roll.Step P r r' → Inv r') : Inv st.roll := by
  refine h.induct (fun st => Inv st.roll) hstart fun st input st' hinv hc hstep => ?_
  have hrun := hstep.rolls hslots (hentered st input hc)
  generalize st'.roll = r at hrun
  induction hrun with
  | refl => exact hinv
  | tail _ hlast ih => exact hkept _ _ ih hlast

end Lifecycle

/-! ## Requests that can be answered -/

namespace Ledger

variable {l l' : Ledger} {live : UInt32 → Prop}

/-- A request is parked for a session that is not closed, and a session whose last subscription is
removed has no parked requests. -/
def Rules.cleansUp (live : UInt32 → Prop) : Rules where
  park _ _ request := live request.sessionId
  remove l sessionId _ := 2 ≤ l.owners.count (some sessionId) ∨
    ∀ request, some request ∈ l.parked → request.sessionId ≠ sessionId

def Answerable (live : UInt32 → Prop) (l : Ledger) : Prop :=
  ∀ request, some request ∈ l.parked →
    live request.sessionId ∧ some request.sessionId ∈ l.owners

theorem answerable_clearIfUnowned {sessionId : UInt32}
    (h : ∀ request, some request ∈ l.parked → live request.sessionId ∧
      (request.sessionId ≠ sessionId → some request.sessionId ∈ l.owners)) :
    Answerable live (l.clearIfUnowned sessionId) := by
  intro request hrequest
  unfold clearIfUnowned at hrequest ⊢
  by_cases howner : some sessionId ∈ l.owners
  · rw [if_pos howner] at hrequest ⊢
    obtain ⟨hlive,hothers⟩ := h request hrequest
    refine ⟨hlive,?_⟩
    by_cases hsession : request.sessionId = sessionId
    · rwa [hsession]
    · exact hothers hsession
  · rw [if_neg howner] at hrequest ⊢
    obtain ⟨slot,hslot,hfilter⟩ := List.mem_map.mp hrequest
    obtain ⟨rfl,hsession⟩ := Option.filter_eq_some_iff.mp hfilter
    obtain ⟨hlive,hothers⟩ := h request hslot
    exact ⟨hlive,hothers (by simpa using hsession)⟩

theorem Answerable.step (h : l.Answerable live) (hstep : Step (Rules.cleansUp live) l l') :
    l'.Answerable live := by
  have hother {index : Nat} {sessionId owner : UInt32} {owner' : Option UInt32}
      (howner : l.owners[index]? = some (some sessionId)) (hmem : some owner ∈ l.owners)
      (hne : owner ≠ sessionId) : some owner ∈ l.owners.set index owner' := by
    refine mem_set_of_mem hmem ?_
    rw [howner]
    exact fun heq => hne (Option.some.inj (Option.some.inj heq)).symm
  cases hstep with
  | number => exact h
  | drop parked hdrop =>
    intro request hrequest
    obtain ⟨i,hi⟩ := List.getElem?_of_mem hrequest
    obtain ⟨slot,hslot,hkept⟩ := hdrop.before hi
    rcases hkept with rfl | hnone
    · exact h request (List.mem_of_getElem? hslot)
    · cases hnone
  | answer i =>
    intro request hrequest
    rcases List.mem_or_eq_of_mem_set hrequest with hold | hnone
    · exact h request hold
    · cases hnone
  | park i request hfree huid howner hpark =>
    intro request' hrequest'
    rcases List.mem_or_eq_of_mem_set hrequest' with hold | hnew
    · exact h request' hold
    · cases hnew
      exact ⟨hpark,howner⟩
  | create index sessionId hfree =>
    intro request hrequest
    obtain ⟨hlive,howner⟩ := h request hrequest
    refine ⟨hlive,mem_set_of_mem howner ?_⟩
    rw [hfree]
    nofun
  | delete index sessionId howner | transfer index sessionId newSessionId howner =>
    exact answerable_clearIfUnowned fun request hrequest =>
      ⟨(h request hrequest).1,fun hne => hother howner (h request hrequest).2 hne⟩
  | remove index sessionId counted howner hremove =>
    have hparked : l.parked = (if counted then (l.setOwner index none).subscriptionClosed
        else l.setOwner index none).parked := by
      cases counted <;> rfl
    have howners : (if counted then (l.setOwner index none).subscriptionClosed
        else l.setOwner index none).owners = l.owners.set index none := by
      cases counted <;> rfl
    intro request hrequest
    rw [← hparked] at hrequest
    rw [howners]
    obtain ⟨hlive,hown⟩ := h request hrequest
    refine ⟨hlive,?_⟩
    by_cases hsession : request.sessionId = sessionId
    · -- another subscription of the session is left
      rcases hremove with htwo | hnone
      · have hcount := Slotwise.countP_set (b := none) howner fun owner => owner == some sessionId
        have hpos : 0 < (l.owners.set index none).count (some sessionId) := by
          rw [List.count] at htwo ⊢
          simp only [beq_self_eq_true,if_true] at hcount
          omega
        rw [hsession]
        exact List.count_pos_iff.mp hpos
      · exact absurd hsession (hnone request hrequest)
    · exact hother howner hown hsession

end Ledger

theorem Subs.countForSession_eq (s : Subs ω κ) (diag : DiagnosticsSummary) (sessionId : UInt32) :
    s.countForSession sessionId = (s.ledger diag).owners.count (some sessionId) := by
  show s.subscriptions.countP _ = (s.subscriptions.map _).count _
  rw [List.count,List.countP_map]
  refine List.countP_congr fun slot _ => ?_
  cases slot <;> simp

def Roll.Rules.cleansUp (slots : Nat) : Roll.Rules where
  slots
  ledger sessions := .cleansUp (SessionLive sessions)
  ends l sessionId := ∀ request, some request ∈ l.parked → request.sessionId ≠ sessionId
  accept _ := True

def Roll.Answerable (r : Roll) : Prop := r.ledger.Answerable (SessionLive r.sessions)

theorem Roll.Answerable.step {slots : Nat} {r r' : Roll} (h : r.Answerable)
    (hstep : Step (.cleansUp slots) r r') : r'.Answerable := by
  have hmono {sessions : List Session} (hlive : ∀ request, some request ∈ r.ledger.parked →
      SessionLive r.sessions request.sessionId → SessionLive sessions request.sessionId) :
      r.ledger.Answerable (SessionLive sessions) := by
    intro request hrequest
    obtain ⟨hold,howner⟩ := h request hrequest
    exact ⟨hlive request hrequest hold,howner⟩
  cases hstep with
  | entry l hentry => exact Ledger.Answerable.step h hentry
  | keeps sessions hsame => exact hmono fun _ _ hlive => hlive.sameLife hsame
  | begins i before after hslot hclosed =>
    exact hmono fun _ _ hlive => hlive.set hslot (.inl hclosed) after
  | ends i before after hslot _ _ hends =>
    exact hmono fun request hrequest hlive =>
      hlive.set hslot (.inr (hends request hrequest).symm) after
  | accept l _ _ hparked => exact fun request hrequest => nomatch hparked _ hrequest

namespace Lifecycle

variable {cfg : EngineConfig ω κ} {entropy : EntropyAdapter ω} {maxSessions : Nat}
  {st : Lifecycle ω κ}

def NoRequests (st : Lifecycle ω κ) (sessionId : UInt32) : Prop :=
  ∀ request, some request ∈ st.engine.subs.publishQueue → request.sessionId ≠ sessionId

/-- The condition of `reachable_answerable`: what ends by the input has no requests that only it
could answer. -/
def CleansUp (st : Lifecycle ω κ) : LifecycleInput ω → Prop
  | .closeSession authToken secureChannelId _ => ∀ i session,
      gatedSession authToken secureChannelId st.sessions = some (i, session) →
        st.NoRequests session.sessionId
  | .timeouts nowMs => ∀ session ∈ st.sessions, sessionTimedOut nowMs session →
      st.NoRequests session.sessionId
  | .engine (.turn _ _ nowMs index) => ∀ sub, st.engine.subs.subscription? index = some sub →
      ¬ nowMs < sub.nextPublishMs →
        sub.Outlives ∨ 2 ≤ st.engine.subs.countForSession sub.sessionId ∨
          st.NoRequests sub.sessionId
  | _ => True

theorem CleansUp.entered {input : LifecycleInput ω} (h : st.CleansUp input) :
    input.Entered cfg (.cleansUp cfg.caps.maxSubscriptions) st := by
  have hends {sessionId : UInt32} (hnone : st.NoRequests sessionId) :
      (Roll.Rules.cleansUp cfg.caps.maxSubscriptions).MayEnd st.engine.subs.publishQueue
        sessionId := by
    intro l hl
    have hnone' : ∀ request, some request ∈ l.parked → request.sessionId ≠ sessionId := by
      rw [hl]
      exact hnone
    exact ⟨hnone',fun _ => .inr hnone'⟩
  cases input with
  | closeSession => exact fun i session hgate => hends (h i session hgate)
  | timeouts => exact fun session hsession hexpired => hends (h session hsession hexpired)
  | engine input =>
    intro hfor
    cases input with
    | call caller service body room =>
      intro _ i request l _ hsession _ _ _
      show SessionLive st.sessions request.sessionId
      rw [hsession,← hfor]
      refine ⟨caller.session,caller.session_mem,?_,rfl⟩
      rw [caller.activated]
      nofun
    | turn sessions returnDiagnostics nowMs index =>
      intro sub hsub hdue hshort l hthins
      rcases h sub hsub hdue with houtlives | htwo | hnone
      · exact absurd houtlives hshort
      · refine .inl ?_
        rw [hthins.owners,← Subs.countForSession_eq]
        exact htwo
      · exact .inr fun request hrequest => hnone request (hthins.parked request hrequest)
    | sessionClosed | restart | elsewhere => exact hfor.elim
    | sample | event | semanticChange | resendData => trivial
  | createSession | activateSession | request | accept | elsewhere => trivial

/-- As long as no session ends with parked requests, and no session loses its last subscription to
a lifetime while it has some, every parked request can be answered. -/
theorem reachable_answerable (h : ReachableIf cfg entropy maxSessions CleansUp st) :
    ∀ request, some request ∈ st.engine.subs.publishQueue →
      SessionLive st.sessions request.sessionId ∧
        st.engine.subs.countForSession request.sessionId ≠ 0 := by
  have hanswerable : st.roll.Answerable :=
    h.rolls rfl (fun _ _ hclean => hclean.entered) Roll.Answerable
      (fun _ _ hrequest => nomatch List.eq_of_mem_replicate hrequest)
      fun _ _ hinv hstep => hinv.step hstep
  intro request hrequest
  obtain ⟨hlive,howner⟩ := hanswerable request hrequest
  exact ⟨hlive,Subs.owner_mem_iff.mp howner⟩

end Lifecycle

/-! ## A client -/

namespace Sample

def entropy : EntropyAdapter Unit := fun n world => (.ok (Vector.replicate n 1), world)

def created : Lifecycle Unit Unit :=
  (Lifecycle.start config 1 ()).createSession entropy ⟨0, 1, none, true, true⟩

def activated : Lifecycle Unit Unit :=
  created.activateSession entropy ⟨0xA4A4A4A4, 1, 321, true, none, true⟩

def client : Caller where
  channelId := 1
  sessions := activated.sessions
  returnDiagnostics := 0
  session := activated.sessions.head (by decide +kernel)
  requestId := 7
  session_mem := List.head_mem _
  activated := by decide +kernel
  bound := by decide +kernel

def served (input : EngineInput Unit) (st : Lifecycle Unit Unit) : Lifecycle Unit Unit :=
  { st with engine := st.engine.stepWith config answer input }

def subscribed : Lifecycle Unit Unit :=
  served (.call client .createSubscription (requestHeader ++ List.replicate 20 0 ++ [1, 0]) 256)
    activated

def parked : Lifecycle Unit Unit :=
  served (.call client .publish (requestHeader ++ [0, 0, 0, 0]) 256) subscribed

def left : Lifecycle Unit Unit := parked.closeSession config 0xA4A4A4A4 1 none

def turned (st : Lifecycle Unit Unit) : Lifecycle Unit Unit :=
  served (.turn activated.sessions 0 60000 0) st

abbrev ReachedIf (C : Lifecycle Unit Unit → LifecycleInput Unit → Prop) :
    Lifecycle Unit Unit → Prop := Lifecycle.ReachableIf config entropy 1 C

abbrev Reached : Lifecycle Unit Unit → Prop := ReachedIf fun _ _ => True

variable {C : Lifecycle Unit Unit → LifecycleInput Unit → Prop}

theorem reached_served {st : Lifecycle Unit Unit} {input : EngineInput Unit} (h : ReachedIf C st)
    (hc : C st (.engine input)) (hfor : input.For st.sessions) : ReachedIf C (served input st) :=
  h.tail _ hc ⟨hfor,rfl,Engine.step_stepWith config answer st.engine input⟩

theorem reached_parked (hcreate : ∀ st request, C st (.createSession request))
    (hactivate : ∀ st request, C st (.activateSession request))
    (hcall : ∀ st caller service body room, C st (.engine (.call caller service body room))) :
    ReachedIf C activated ∧ ReachedIf C subscribed ∧ ReachedIf C parked := by
  have hstart : ReachedIf C (Lifecycle.start config 1 ()) := ⟨(),.refl⟩
  have hcreated : ReachedIf C created := hstart.tail _ (hcreate _ _) rfl
  have hactivated : ReachedIf C activated := hcreated.tail _ (hactivate _ _) rfl
  have hsubscribed : ReachedIf C subscribed := reached_served hactivated (hcall _ _ _ _ _) rfl
  exact ⟨hactivated,hsubscribed,reached_served hsubscribed (hcall _ _ _ _ _) rfl⟩

end Sample

/-- A request is parked, and its session is there with its subscription. -/
theorem parked_request_answerable :
    (∃ request, some request ∈ Sample.parked.engine.subs.publishQueue) ∧
      ∀ request, some request ∈ Sample.parked.engine.subs.publishQueue →
        SessionLive Sample.parked.sessions request.sessionId ∧
          Sample.parked.engine.subs.countForSession request.sessionId ≠ 0 := by
  obtain ⟨-,-,hparked⟩ : Sample.ReachedIf Lifecycle.CleansUp _ ∧ _ :=
    Sample.reached_parked (fun _ _ => trivial) (fun _ _ => trivial) fun _ _ _ _ _ => trivial
  refine ⟨?_,Lifecycle.reachable_answerable hparked⟩
  have hsome : (Sample.parked.engine.subs.publishQueue.find? Option.isSome).isSome := by
    decide +kernel
  obtain ⟨slot,hslot⟩ := Option.isSome_iff_exists.mp hsome
  obtain ⟨request,rfl⟩ := Option.isSome_iff_exists.mp (List.find?_some hslot)
  exact ⟨request,List.mem_of_find?_eq_some hslot⟩

/-- After CloseSession the request stays parked, without a session and without a subscription. -/
theorem closed_session_leaves_request :
    ∃ st, Sample.Reached st ∧ ∃ request, some request ∈ st.engine.subs.publishQueue ∧
      (∀ session ∈ st.sessions, session.state = .closed) ∧
        st.engine.subs.countForSession request.sessionId = 0 := by
  obtain ⟨-,-,hparked⟩ : Sample.Reached _ ∧ _ :=
    Sample.reached_parked (fun _ _ => trivial) (fun _ _ => trivial) fun _ _ _ _ _ => trivial
  have hleft : Sample.Reached Sample.left :=
    hparked.tail (.closeSession 0xA4A4A4A4 1 none) trivial rfl
  have hend : ∃ slot ∈ Sample.left.engine.subs.publishQueue, ∃ request ∈ slot,
      (∀ session ∈ Sample.left.sessions, session.state = .closed) ∧
        Sample.left.engine.subs.countForSession request.sessionId = 0 := by
    decide +kernel
  obtain ⟨slot,hslot,request,rfl,hrest⟩ := hend
  exact ⟨_,hleft,request,hslot,hrest⟩

/-! ## Counts -/

section Counters

variable {count : UInt32} {n : Nat}

theorem toNat_counted (h : count.toNat = n) (hlt : n + 1 < 2 ^ 32) : (count + 1).toNat = n + 1 := by
  rw [UInt32.toNat_add,h]
  exact Nat.mod_eq_of_lt hlt

theorem toNat_uncounted (h : count.toNat = n + 1) :
    (if 0 < count then count - 1 else count).toNat = n := by
  have hpos : 0 < count := by
    rw [UInt32.lt_iff_toNat_lt,h]
    exact Nat.succ_pos n
  have hone : (1 : UInt32) ≤ count := by
    rw [UInt32.le_iff_toNat_le,h]
    exact Nat.le_add_left 1 n
  rw [if_pos hpos,UInt32.toNat_sub_of_le _ _ hone,h]
  rfl

end Counters

namespace Ledger

variable {P : Rules} {l l' : Ledger} {n : Nat}

def Rules.counted : Rules where
  park _ _ _ := True
  remove _ _ counted := counted = true

structure Tallied (n : Nat) (l : Ledger) : Prop where
  slots : l.owners.length = n
  count : l.subscriptionCount.toNat = l.owners.countP Option.isSome

theorem Step.sessionCount (h : Step P l l') : l'.sessionCount = l.sessionCount := by
  have hclear (l : Ledger) (sessionId : UInt32) :
      (l.clearIfUnowned sessionId).sessionCount = l.sessionCount := by
    unfold clearIfUnowned
    split <;> rfl
  cases h with
  | number | drop | answer | park | create => rfl
  | delete | transfer => exact hclear _ _
  | remove index sessionId counted => cases counted <;> rfl

theorem Tallied.clearIfUnowned (h : l.Tallied n) (sessionId : UInt32) :
    (l.clearIfUnowned sessionId).Tallied n := by
  unfold Ledger.clearIfUnowned
  split
  · exact h
  · exact ⟨h.slots,h.count⟩

theorem Tallied.subscriptionClosed (h : l.Tallied n) {index : Nat} {sessionId : UInt32}
    (howner : l.owners[index]? = some (some sessionId)) :
    (l.setOwner index none).subscriptionClosed.Tallied n := by
  refine ⟨List.length_set.trans h.slots,?_⟩
  have hcount := Slotwise.countP_set (b := none) howner Option.isSome
  exact toNat_uncounted (h.count.trans hcount.symm)

theorem Tallied.step (h : l.Tallied n) (hn : n < 2 ^ 32) (hstep : Step .counted l l') :
    l'.Tallied n := by
  cases hstep with
  | number | drop | answer | park => exact ⟨h.slots,h.count⟩
  | create index sessionId hfree =>
    have hcount := Slotwise.countP_set (b := some sessionId) hfree Option.isSome
    simp only [Option.isSome_some,Option.isSome_none,if_true,Bool.false_eq_true,if_false,
      Nat.add_zero] at hcount
    have hslots : (l.owners.set index (some sessionId)).length = n :=
      List.length_set.trans h.slots
    have hle := List.countP_le_length (p := Option.isSome) (l := l.owners.set index (some sessionId))
    refine ⟨hslots,?_⟩
    show (l.subscriptionCount + 1).toNat = (l.owners.set index (some sessionId)).countP _
    rw [hcount]
    exact toNat_counted h.count (by omega)
  | delete index sessionId howner => exact (h.subscriptionClosed howner).clearIfUnowned sessionId
  | transfer index sessionId newSessionId howner =>
    have hcount := Slotwise.countP_set (b := some newSessionId) howner Option.isSome
    simp only [Option.isSome_some,Nat.add_right_cancel_iff] at hcount
    have hmoved : (l.setOwner index (some newSessionId)).Tallied n :=
      ⟨List.length_set.trans h.slots,h.count.trans hcount.symm⟩
    exact hmoved.clearIfUnowned sessionId
  | remove index sessionId counted howner hremove =>
    have hcounted : counted = true := hremove
    rw [if_pos hcounted]
    exact h.subscriptionClosed howner

end Ledger

def Roll.Rules.counted (slots : Nat) : Roll.Rules where
  slots
  ledger _ := .counted
  ends _ _ := True
  accept r := (∀ session ∈ r.sessions, session.state = .closed) ∧
    ∀ owner ∈ r.ledger.owners, owner = none

structure Roll.Counted (maxSessions slots : Nat) (r : Roll) : Prop where
  sessionSlots : r.sessions.length = maxSessions
  sessions : r.ledger.sessionCount.toNat = liveCount r.sessions
  subscriptions : r.ledger.Tallied slots

section Counted

variable {maxSessions slots : Nat}

theorem liveCount_closed
    (h : ∀ session ∈ sessions, session.state = .closed) : liveCount sessions = 0 := by
  rw [liveCount,List.countP_eq_zero]
  intro session hsession
  simp [h session hsession]

theorem Ledger.owned_none {l : Ledger} (h : ∀ owner ∈ l.owners, owner = none) :
    l.owners.countP Option.isSome = 0 := by
  rw [List.countP_eq_zero]
  intro owner howner
  simp [h owner howner]

theorem Roll.Counted.step {r r' : Roll} (h : r.Counted maxSessions slots)
    (hsessions : maxSessions < 2 ^ 32) (hslots : slots < 2 ^ 32)
    (hstep : Step (.counted slots) r r') : r'.Counted maxSessions slots := by
  cases hstep with
  | entry l hentry =>
    refine ⟨h.sessionSlots,?_,h.subscriptions.step hslots hentry⟩
    rw [hentry.sessionCount]
    exact h.sessions
  | keeps sessions hsame =>
    exact ⟨hsame.length_eq.trans h.sessionSlots,h.sessions.trans (liveCount_sameLife hsame).symm,
      h.subscriptions⟩
  | begins i before after hslot hclosed hlive =>
    have hbegins := liveCount_begins hslot hclosed hlive
    have hlength : (r.sessions.set i after).length = maxSessions :=
      List.length_set.trans h.sessionSlots
    have hle : liveCount (r.sessions.set i after) ≤ maxSessions := hlength ▸ List.countP_le_length
    refine ⟨hlength,?_,h.subscriptions.slots,h.subscriptions.count⟩
    rw [hbegins]
    exact toNat_counted h.sessions (by omega)
  | ends i before after hslot hlive hclosed =>
    have hends := liveCount_ends hslot hlive hclosed
    exact ⟨List.length_set.trans h.sessionSlots,toNat_uncounted (h.sessions.trans hends.symm),
      h.subscriptions.slots,h.subscriptions.count⟩
  | accept l hnone howners _ hlength hcount hcount' =>
    refine ⟨(List.length_map _).trans h.sessionSlots,?_,hlength,?_⟩
    · rw [hcount,h.sessions,liveCount_closed hnone.1,liveCount_closed]
      intro session hsession
      obtain ⟨_,_,rfl⟩ := List.mem_map.mp hsession
      rfl
    · rw [hcount',h.subscriptions.count,Ledger.owned_none hnone.2,Ledger.owned_none howners]

end Counted

namespace Lifecycle

variable {cfg : EngineConfig ω κ} {entropy : EntropyAdapter ω} {maxSessions : Nat}
  {st : Lifecycle ω κ}

/-- The condition of `reachable_counted`: no subscription comes to the end of its lifetime, and a
new client finds no sessions and subscriptions of another. -/
def CountsEnds (st : Lifecycle ω κ) : LifecycleInput ω → Prop
  | .engine (.turn _ _ nowMs index) => ∀ sub, st.engine.subs.subscription? index = some sub →
      ¬ nowMs < sub.nextPublishMs → sub.Outlives
  | .accept => (∀ session ∈ st.sessions, session.state = .closed) ∧
      ∀ slot ∈ st.engine.subs.subscriptions, slot = none
  | _ => True

theorem CountsEnds.entered {input : LifecycleInput ω} (h : st.CountsEnds input) :
    input.Entered cfg (.counted cfg.caps.maxSubscriptions) st := by
  cases input with
  | closeSession | timeouts => exact fun _ _ _ _ _ => ⟨trivial,fun _ => rfl⟩
  | engine input =>
    intro hfor
    cases input with
    | call caller service body room => exact fun _ _ _ _ _ _ _ _ _ => trivial
    | turn sessions returnDiagnostics nowMs index =>
      exact fun sub hsub hdue hshort _ _ => absurd (h sub hsub hdue) hshort
    | sessionClosed | restart | elsewhere => exact hfor.elim
    | sample | event | semanticChange | resendData => trivial
  | accept =>
    refine ⟨h.1,fun owner howner => ?_⟩
    obtain ⟨slot,hslot,rfl⟩ := List.mem_map.mp howner
    rw [h.2 slot hslot]
    rfl
  | createSession | activateSession | request | elsewhere => trivial

theorem counted_start (cfg : EngineConfig ω κ) (maxSessions : Nat) (world : ω) :
    (start cfg maxSessions world).roll.Counted maxSessions cfg.caps.maxSubscriptions := by
  have hsessions : liveCount (List.replicate maxSessions Session.init) = 0 := by
    refine liveCount_closed fun session hsession => ?_
    rw [List.eq_of_mem_replicate hsession]
    rfl
  have howners : ∀ owner ∈ (start cfg maxSessions world).roll.ledger.owners, owner = none := by
    intro owner howner
    obtain ⟨slot,hslot,rfl⟩ := List.mem_map.mp howner
    rw [List.eq_of_mem_replicate hslot]
    rfl
  exact ⟨List.length_replicate,hsessions.symm,(List.length_map _).trans List.length_replicate,
    (Ledger.owned_none howners).symm⟩

/-- As long as no subscription comes to the end of its lifetime, and a new client of a server with
a single connection finds everything of the previous one closed, the diagnostics have the numbers of
sessions and subscriptions. -/
theorem reachable_counted (hsessions : maxSessions < 2 ^ 32)
    (hsubscriptions : cfg.caps.maxSubscriptions < 2 ^ 32)
    (h : ReachableIf cfg entropy maxSessions CountsEnds st) :
    st.engine.diag.currentSessionCount.toNat = liveCount st.sessions ∧
      st.engine.diag.currentSubscriptionCount.toNat =
        st.engine.subs.subscriptions.countP Option.isSome := by
  have hcounted : st.roll.Counted maxSessions cfg.caps.maxSubscriptions :=
    h.rolls rfl (fun _ _ hends => hends.entered) (Roll.Counted _ _) (counted_start cfg maxSessions)
      fun _ _ hinv hstep => hinv.step hsessions hsubscriptions hstep
  refine ⟨hcounted.sessions,hcounted.subscriptions.count.trans ?_⟩
  show (st.engine.subs.subscriptions.map _).countP _ = _
  rw [List.countP_map]
  refine List.countP_congr fun slot _ => ?_
  cases slot <;> rfl

end Lifecycle

/-- A session and a subscription, and the diagnostics have one of each. -/
theorem subscribed_counted : liveCount Sample.subscribed.sessions = 1 ∧
      Sample.subscribed.engine.diag.currentSessionCount.toNat =
        liveCount Sample.subscribed.sessions ∧
      Sample.subscribed.engine.diag.currentSubscriptionCount.toNat =
        Sample.subscribed.engine.subs.subscriptions.countP Option.isSome := by
  obtain ⟨-,hsubscribed,-⟩ : Sample.ReachedIf Lifecycle.CountsEnds _ ∧ _ :=
    Sample.reached_parked (fun _ _ => trivial) (fun _ _ => trivial) fun _ _ _ _ _ => trivial
  exact ⟨by decide +kernel,Lifecycle.reachable_counted (by decide) (by decide) hsubscribed⟩

/-- A new client leaves the session of the previous one counted, and a subscription is still counted
after the three turns of its lifetime. -/
theorem ends_not_counted : (∃ st, Sample.Reached st ∧ st.engine.diag.currentSessionCount = 1 ∧
        liveCount st.sessions = 0) ∧
      ∃ st, Sample.Reached st ∧ st.engine.diag.currentSubscriptionCount = 1 ∧
        st.engine.subs.subscriptions.countP Option.isSome = 0 := by
  obtain ⟨hactivated,hsubscribed,-⟩ : Sample.Reached _ ∧ _ :=
    Sample.reached_parked (fun _ _ => trivial) (fun _ _ => trivial) fun _ _ _ _ _ => trivial
  have haccepted : Sample.Reached (Sample.activated.accept Sample.config) :=
    hactivated.tail .accept trivial rfl
  have hturned {st : Lifecycle Unit Unit} (h : Sample.Reached st)
      (hsessions : Sample.activated.sessions = st.sessions) : Sample.Reached (Sample.turned st) :=
    Sample.reached_served h trivial hsessions
  have hexpired : Sample.Reached (Sample.turned (Sample.turned (Sample.turned Sample.subscribed))) :=
    hturned (hturned (hturned hsubscribed rfl) rfl) rfl
  exact ⟨⟨_,haccepted,by decide +kernel,by decide +kernel⟩,
    ⟨_,hexpired,by decide +kernel,by decide +kernel⟩⟩

end MucOpcua
