import MucOpcua.Server.Receive

/-!
# The receive buffer implements stream cutting

`poll_process_buffer` compacts only under some conditions, so the bytes of a message move about in
the buffer.
-/

namespace MucOpcua

variable {σ : Type}
variable {bs stream : List UInt8} {ep : Endpoint σ} {rx : RxBuffer} {size : Nat} {start : σ}

/-! ## The message format -/

theorem leGetU32_append {xs : List UInt8} (h : 4 ≤ xs.length) (ys : List UInt8) :
    leGetU32 (xs ++ ys) = leGetU32 xs := by
  simp (disch := omega) only [leGetU32,List.getD_append]

theorem leGetU32_take {xs : List UInt8} {n : Nat} (hn : 4 ≤ n) (h : 4 ≤ xs.length) :
    leGetU32 (xs.take n) = leGetU32 xs := by
  have hsplit : xs.take n ++ xs.drop n = xs := List.take_append_drop n xs
  conv_rhs => rw [← hsplit]
  rw [leGetU32_append]
  simp only [List.length_take]
  omega

theorem pollMsgSize_append (h : 8 ≤ bs.length) (cs : List UInt8) :
    pollMsgSize (bs ++ cs) 0 = pollMsgSize bs 0 := by
  have hdrop : (bs ++ cs).drop (0 + 4) = bs.drop (0 + 4) ++ cs :=
    List.drop_append_of_le_length (by omega)
  rw [pollMsgSize,hdrop,leGetU32_append (by simp; omega),pollMsgSize]

/-- What `poll_process_buffer` makes of the unconsumed bytes, for a buffer of `size` bytes. -/
def messageLook (size : Nat) (bs : List UInt8) : Framing.Look :=
  if bs.length < 8 then .more
  else if pollMsgSize bs 0 < 8 ∨ size < pollMsgSize bs 0 then .bad
  else if bs.length < pollMsgSize bs 0 then .more
  else .frame (pollMsgSize bs 0)

theorem messageLook_bad :
    messageLook size bs = .bad ↔
      8 ≤ bs.length ∧ (pollMsgSize bs 0 < 8 ∨ size < pollMsgSize bs 0) := by
  unfold messageLook
  split_ifs <;> simp <;> omega

theorem messageLook_frame {n : Nat} :
    messageLook size bs = .frame n ↔
      pollMsgSize bs 0 = n ∧ 8 ≤ n ∧ n ≤ size ∧ n ≤ bs.length := by
  unfold messageLook
  split_ifs <;> simp <;> omega

theorem messageLook_more :
    messageLook size bs = .more ↔
      bs.length < 8 ∨
        (8 ≤ pollMsgSize bs 0 ∧ pollMsgSize bs 0 ≤ size ∧ bs.length < pollMsgSize bs 0) := by
  unfold messageLook
  split_ifs <;> simp <;> omega

def messageFormat (size : Nat) : Framing.Format UInt8 where
  look := messageLook size
  frame_pos := by
    intro bs n h
    have hframe := messageLook_frame.mp h
    omega
  frame_le := by
    intro bs n h
    exact (messageLook_frame.mp h).2.2.2
  bad_append := by
    intro bs h cs
    obtain ⟨hlen, hsize⟩ := messageLook_bad.mp h
    apply messageLook_bad.mpr
    rw [pollMsgSize_append hlen]
    exact ⟨by simp; omega, hsize⟩
  frame_append := by
    intro bs n h cs
    obtain ⟨heq, hlow, hhigh, hlen⟩ := messageLook_frame.mp h
    apply messageLook_frame.mpr
    rw [pollMsgSize_append (by omega)]
    exact ⟨heq, hlow, hhigh, by simp; omega⟩

def Endpoint.consumer (ep : Endpoint σ) : Framing.Consumer UInt8 σ where
  step s msg := (ep.processMessage s msg).1
  live := ep.isOpen
  refuse := ep.close

/-! ## The buffer -/

/-- A buffer that a connection of `size` bytes can have. -/
def RxBuffer.Within (rx : RxBuffer) (size : Nat) : Prop :=
  rx.buffer.length = size ∧ rx.readPos + rx.rxLen ≤ size

theorem RxBuffer.length_pending (h : rx.Within size) : rx.pending.length = rx.rxLen :=
  Buffer.length_slice (by rw [h.1]; exact h.2)

theorem pollMsgSize_pending {consumed : Nat} (h : rx.Within size) (hlen : 8 ≤ rx.rxLen - consumed) :
    pollMsgSize rx.buffer (rx.readPos + consumed) =
      pollMsgSize (rx.pending.drop consumed) 0 := by
  obtain ⟨hsize,hbound⟩ := h
  have hdrop : (rx.pending.drop consumed).drop (0 + 4) =
      (rx.buffer.drop (rx.readPos + consumed + 4)).take (rx.rxLen - consumed - 4) := by
    rw [RxBuffer.pending,Buffer.slice_drop,Buffer.slice_drop,Buffer.slice]
  rw [pollMsgSize,pollMsgSize,hdrop,leGetU32_take (by omega)]
  simp only [List.length_drop]
  omega

/-! ## The loop -/

def LoopMatches (ep : Endpoint σ) (rx : RxBuffer) (out : RxBuffer × σ × Option Nat) :
    Framing.Link UInt8 σ → Prop
  | .up t bytes => ∃ rx' consumed, out = (rx', t, some consumed) ∧ ep.isOpen t = true ∧
      rx'.readPos = rx.readPos ∧ rx'.rxLen = rx.rxLen ∧ rx'.buffer.length = rx.buffer.length ∧
      consumed ≤ rx.rxLen ∧ rx'.pending.drop consumed = bytes
  | .down t => ∃ rx', out = (rx', t, none) ∧ ep.isOpen t = false ∧
      rx'.readPos = 0 ∧ rx'.rxLen = 0 ∧ rx'.buffer.length = rx.buffer.length

theorem pending_drop_overwrite {consumed n : Nat} {msg : List UInt8} (hmsg : msg.length = n) :
    ({ rx with buffer := Buffer.overwrite rx.buffer (rx.readPos + consumed) msg } : RxBuffer
      ).pending.drop (consumed + n) = (rx.pending.drop consumed).drop n := by
  simp only [RxBuffer.pending,Buffer.slice_drop]
  rw [Buffer.slice_overwrite_of_le (by omega),Nat.add_assoc,Nat.sub_sub]

theorem pollProcessLoop_matches (ep : Endpoint σ) (rx : RxBuffer) (s : σ)
    (consumed : Nat) (hwithin : rx.Within size) (hconsumed : consumed ≤ rx.rxLen)
    (hopen : ep.isOpen s = true) :
    LoopMatches ep rx (pollProcessLoop ep rx s consumed)
      (Framing.drain (messageFormat size) ep.consumer s (rx.pending.drop consumed)) := by
  -- The loop and `drain` both advance by one message, so the unconsumed length is the measure.
  induction hm : rx.rxLen - consumed using Nat.strongRecOn generalizing rx s consumed with
  | ind m ih =>
    have hlen : (rx.pending.drop consumed).length = rx.rxLen - consumed := by
      rw [List.length_drop,RxBuffer.length_pending hwithin]
    cases hlook : (messageFormat size).look (rx.pending.drop consumed) with
    | more =>
      rw [Framing.drain_more hlook,pollProcessLoop]
      refine ⟨rx,consumed,?_,hopen,rfl,rfl,rfl,hconsumed,rfl⟩
      rcases messageLook_more.mp hlook with hshort | ⟨hlow,hhigh,hpart⟩
      · rw [if_neg (by omega)]
      by_cases hheader : 8 ≤ rx.rxLen - consumed
      · have hmsg := pollMsgSize_pending hwithin hheader
        rw [if_pos ⟨hopen,hheader⟩]
        rw [if_neg (by rw [hwithin.1]; omega),if_pos (by omega)]
      · rw [if_neg (by omega)]
    | bad =>
      obtain ⟨hheader,hbad⟩ := messageLook_bad.mp hlook
      have hmsg := pollMsgSize_pending hwithin (by omega : 8 ≤ rx.rxLen - consumed)
      rw [Framing.drain_bad hlook,pollProcessLoop,if_pos ⟨hopen,by omega⟩]
      simp only [hmsg]
      rw [if_pos (by rw [hwithin.1]; exact hbad),pollCloseConnection,if_pos hopen]
      exact ⟨rx.clear,rfl,ep.isOpen_close s,rfl,rfl,rfl⟩
    | frame n =>
      obtain ⟨hsize,hlow,hhigh,hfits⟩ := messageLook_frame.mp hlook
      have hmsg := pollMsgSize_pending hwithin (by omega : 8 ≤ rx.rxLen - consumed)
      have htake : (rx.pending.drop consumed).take n =
          Buffer.slice rx.buffer (rx.readPos + consumed) n := by
        rw [RxBuffer.pending,Buffer.slice_drop,Buffer.slice_take (by omega)]
      have hslice : (Buffer.slice rx.buffer (rx.readPos + consumed) n).length = n := by
        apply Buffer.length_slice
        rw [hwithin.1]
        have hbound := hwithin.2
        omega
      rw [Framing.drain_frame hlook,htake,pollProcessLoop,if_pos ⟨hopen,by omega⟩]
      simp only [hmsg,hsize]
      rw [if_neg (by rw [hwithin.1]; omega),if_neg (by omega)]
      obtain ⟨t,msg,hprocess⟩ :
          ∃ t msg, ep.processMessage s (Buffer.slice rx.buffer (rx.readPos + consumed) n) =
            (t, msg) := ⟨_,_,rfl⟩
      have hmsglen : msg.length = n := by
        have hkept := ep.length_processMessage s (Buffer.slice rx.buffer (rx.readPos + consumed) n)
        rw [hprocess] at hkept
        exact hkept.trans hslice
      simp only [Endpoint.consumer,hprocess]
      cases hlive : ep.isOpen t with
      | false =>
        rw [if_neg (by simp)]
        exact ⟨_,rfl,hlive,rfl,rfl,by simp [RxBuffer.clear]⟩
      | true =>
        rw [← pending_drop_overwrite hmsglen]
        have hstep := ih (rx.rxLen - (consumed + n)) (by omega)
          { rx with buffer := Buffer.overwrite rx.buffer (rx.readPos + consumed) msg } t
          (consumed + n) ⟨by simpa using hwithin.1,hwithin.2⟩
          (by show consumed + n ≤ rx.rxLen; omega) hlive rfl
        revert hstep
        simp only [LoopMatches,Buffer.length_overwrite]
        exact id

/-! ## One poll -/

/-- The connection's buffer and the server state are those of a link: unconsumed bytes in the
buffer with room for the next read, or a closed connection with an empty buffer. -/
def Represents (ep : Endpoint σ) (size : Nat) (rx : RxBuffer) (s : σ) :
    Framing.Link UInt8 σ → Prop
  | .up t bytes => s = t ∧ ep.isOpen s = true ∧ rx.pending = bytes ∧ rx.buffer.length = size ∧
      rx.readPos + rx.rxLen < size
  | .down t => s = t ∧ ep.isOpen s = false ∧ rx.buffer.length = size ∧
      rx.readPos = 0 ∧ rx.rxLen = 0

theorem pending_pollCompact (h : rx.Within size) : (pollCompact rx).pending = rx.pending := by
  unfold pollCompact
  split_ifs with hzero hfull
  · simp [RxBuffer.pending,hzero,Buffer.slice]
  · have hlen := RxBuffer.length_pending h
    have hself : Buffer.slice (Buffer.overwrite rx.buffer 0 rx.pending) 0 rx.pending.length =
        rx.pending := by
      apply Buffer.slice_overwrite_self
      rw [h.1]
      have hbound := h.2
      omega
    rw [hlen] at hself
    exact hself
  · rfl

theorem pollCompact_room (h : rx.Within size) (hroom : rx.rxLen < size) :
    (pollCompact rx).buffer.length = size ∧
      (pollCompact rx).readPos + (pollCompact rx).rxLen < size := by
  obtain ⟨hsize,hbound⟩ := h
  unfold pollCompact
  split_ifs with hzero hfull
  · exact ⟨hsize,by simp only; omega⟩
  · exact ⟨by simpa using hsize,by simp only; omega⟩
  · exact ⟨hsize,by omega⟩

theorem pollProcessBuffer_represents (ep : Endpoint σ) {s : σ}
    (hsize : 8 ≤ size) (hwithin : rx.Within size) (hopen : ep.isOpen s = true) :
    Represents ep size (pollProcessBuffer ep rx s).1 (pollProcessBuffer ep rx s).2
      (Framing.drain (messageFormat size) ep.consumer s rx.pending) := by
  have hloop := pollProcessLoop_matches ep rx s 0 hwithin (Nat.zero_le _) hopen
  rw [List.drop_zero] at hloop
  cases hdrain : Framing.drain (messageFormat size) ep.consumer s rx.pending with
  | down t =>
    rw [hdrain] at hloop
    obtain ⟨rx',hout,hclosed,hpos,hlen,hbuf⟩ := hloop
    simp only [pollProcessBuffer,hout]
    exact ⟨rfl,hclosed,hbuf.trans hwithin.1,hpos,hlen⟩
  | up t bytes =>
    rw [hdrain] at hloop
    obtain ⟨rx',consumed,hout,hlive,hpos,hrx,hbuf,hconsumed,hrest⟩ := hloop
    simp only [pollProcessBuffer,hout]
    have hbound := hwithin.2
    have hlook := Framing.drain_up_look hdrain
    have hwithin' : RxBuffer.Within
        { rx' with rxLen := rx'.rxLen - consumed, readPos := rx'.readPos + consumed } size :=
      ⟨hbuf.trans hwithin.1,by simp only [hrx]; omega⟩
    have hpending : RxBuffer.pending
        { rx' with rxLen := rx'.rxLen - consumed, readPos := rx'.readPos + consumed } = bytes := by
      rw [← hrest,RxBuffer.pending,RxBuffer.pending,Buffer.slice_drop]
    have hlen : bytes.length = rx'.rxLen - consumed := by
      rw [← hpending]
      exact RxBuffer.length_pending hwithin'
    -- An incomplete message is shorter than its MessageSize, which the buffer can hold.
    have hroom : rx'.rxLen - consumed < size := by
      rcases messageLook_more.mp hlook with hshort | ⟨_,hhigh,hpart⟩ <;> omega
    obtain ⟨hcompact,hspace⟩ := pollCompact_room hwithin' hroom
    exact ⟨rfl,hlive,(pending_pollCompact hwithin').trans hpending,hcompact,hspace⟩

/-! ## Runs -/

def Endpoint.logging (ep : Endpoint σ) : Endpoint (σ × List (List UInt8)) where
  isOpen p := ep.isOpen p.1
  close p := (ep.close p.1, p.2)
  idleLimit p := ep.idleLimit p.1
  processMessage p msg :=
    (((ep.processMessage p.1 msg).1, p.2 ++ [msg]), (ep.processMessage p.1 msg).2)
  isOpen_close p := ep.isOpen_close p.1
  length_processMessage p msg := ep.length_processMessage p.1 msg

theorem consumer_logging (ep : Endpoint σ) : ep.logging.consumer = ep.consumer.logging := rfl

/-- A connection and what the network has not delivered to it yet. `lost` records that the adapter
or the idle timer ended it, and not what was received. -/
structure Reception (σ : Type) where
  unread : List UInt8
  rx : RxBuffer
  server : σ
  lastActivity : UInt64
  lost : Bool

/-- What the platform does at one poll: the tick it reports, and how the adapter's read ends, with
an error or with at most `amount` bytes. -/
structure PollInput where
  now : UInt64
  amount : Option Nat

namespace Reception

def accepted (buffer : List UInt8) (server : σ) (stream : List UInt8) (now : UInt64) :
    Reception σ :=
  { unread := stream, rx := RxBuffer.accepted buffer, server, lastActivity := now, lost := false }

def arriving (r : Reception σ) (i : PollInput) : List UInt8 :=
  r.unread.take (min (i.amount.getD 0) r.rx.offered)

def poll (ep : Endpoint σ) (r : Reception σ) (i : PollInput) : Reception σ :=
  let (rx, server, lastActivity) :=
    pollConnection ep r.rx r.server r.lastActivity i.now (i.amount.map fun _ => r.arriving i)
  if ¬ ep.isOpen r.server then
    { r with rx, server, lastActivity }
  else if idleExpired ep r.server r.lastActivity i.now ∨ i.amount = none then
    { unread := r.unread, rx, server, lastActivity, lost := true }
  else
    { r with unread := r.unread.drop (r.arriving i).length, rx, server, lastActivity }

def run (ep : Endpoint σ) (r : Reception σ) (inputs : List PollInput) : Reception σ :=
  inputs.foldl (poll ep) r

/-- The messages handed over are those of the bytes read so far, and the buffer holds what is left
of these bytes, with room for more. -/
def Sound (ep : Endpoint σ) (size : Nat) (start : σ) (stream : List UInt8)
    (r : Reception (σ × List (List UInt8))) : Prop :=
  ∃ got, stream = got ++ r.unread ∧
    r.server.2 = Framing.handed ep.consumer start ((messageFormat size).cut got) ∧
    if r.lost then
      ep.isOpen r.server.1 = false ∧ r.rx.buffer.length = size ∧ r.rx.readPos = 0 ∧ r.rx.rxLen = 0
    else
      Represents ep.logging size r.rx r.server
        (Framing.drain (messageFormat size) ep.logging.consumer (start, []) got)

end Reception

theorem pollReadData_some (ep : Endpoint σ) {bytes : List UInt8}
    (s : σ) (lastActivity now : UInt64) (hsize : rx.buffer.length = size)
    (hroom : rx.readPos + rx.rxLen < size) (hfits : bytes.length ≤ rx.offered) :
    ∃ rx' last, pollReadData ep rx s lastActivity now (some bytes) = (rx', s, last) ∧
      rx'.Within size ∧ rx'.pending = rx.pending ++ bytes := by
  rw [pollReadData,if_neg (by omega)]
  by_cases hnil : bytes.length = 0
  · have hempty : bytes = [] := List.length_eq_zero_iff.mp hnil
    simp only [if_pos hnil]
    exact ⟨rx,lastActivity,rfl,⟨hsize,Nat.le_of_lt hroom⟩,by rw [hempty,List.append_nil]⟩
  simp only [if_neg hnil]
  refine ⟨_,now,rfl,⟨by simpa using hsize,?_⟩,?_⟩
  · simp only [RxBuffer.offered] at hfits ⊢
    omega
  · rw [RxBuffer.pending,RxBuffer.pending,Buffer.slice_overwrite_append]
    simp only [RxBuffer.offered] at hfits
    omega

theorem Reception.arriving_append (r : Reception σ) (i : PollInput) :
    r.arriving i ++ r.unread.drop (r.arriving i).length = r.unread :=
  List.prefix_iff_eq_append.mp (List.take_prefix _ _)

theorem Reception.length_arriving_le (r : Reception σ) (i : PollInput) :
    (r.arriving i).length ≤ r.rx.offered := by
  simp only [Reception.arriving,List.length_take]
  omega

theorem Reception.poll_skip {r : Reception σ} (i : PollInput)
    (hclosed : ep.isOpen r.server = false) : r.poll ep i = r := by
  simp [Reception.poll,pollConnection,hclosed]

theorem Reception.poll_lost {r : Reception σ} {i : PollInput}
    (hopen : ep.isOpen r.server = true) (hroom : r.rx.readPos + r.rx.rxLen < r.rx.buffer.length)
    (hcause : idleExpired ep r.server r.lastActivity i.now ∨ i.amount = none) :
    r.poll ep i =
      { unread := r.unread, rx := r.rx.clear, server := ep.close r.server,
        lastActivity := r.lastActivity, lost := true } := by
  have hgap : ¬ r.rx.buffer.length ≤ r.rx.readPos + r.rx.rxLen := by omega
  by_cases hidle : idleExpired ep r.server r.lastActivity i.now
  · simp [Reception.poll,pollConnection,pollCloseConnection,hopen,hidle]
  have hnone : i.amount = none := hcause.resolve_left hidle
  simp [Reception.poll,pollConnection,pollConnReadAndProcess,pollReadData,pollCloseConnection,
    pollProcessBuffer,pollProcessLoop,pollCompact,RxBuffer.clear,hopen,hnone,hgap]

theorem Reception.poll_data {r : Reception σ} {i : PollInput}
    (hsize : 8 ≤ size) (hopen : ep.isOpen r.server = true) (hbuf : r.rx.buffer.length = size)
    (hroom : r.rx.readPos + r.rx.rxLen < size)
    (hcause : ¬ (idleExpired ep r.server r.lastActivity i.now ∨ i.amount = none)) :
    (r.poll ep i).unread = r.unread.drop (r.arriving i).length ∧
      (r.poll ep i).lost = r.lost ∧
      Represents ep size (r.poll ep i).rx (r.poll ep i).server
        (Framing.drain (messageFormat size) ep.consumer r.server
          (r.rx.pending ++ r.arriving i)) := by
  obtain ⟨hbusy,hsome⟩ := not_or.mp hcause
  obtain ⟨amount,hamount⟩ := Option.ne_none_iff_exists'.mp hsome
  obtain ⟨rx,last,hread,hwithin,hmore⟩ := pollReadData_some ep r.server r.lastActivity i.now
    hbuf hroom (r.length_arriving_le i)
  have hpoll : r.poll ep i =
      { r with
        unread := r.unread.drop (r.arriving i).length, rx := (pollProcessBuffer ep rx r.server).1,
        server := (pollProcessBuffer ep rx r.server).2, lastActivity := last } := by
    simp [Reception.poll,pollConnection,pollConnReadAndProcess,hopen,hbusy,hamount,hread]
  rw [hpoll,← hmore]
  exact ⟨rfl,rfl,pollProcessBuffer_represents ep hsize hwithin hopen⟩

theorem Represents.state_eq {s : σ}
    {l : Framing.Link UInt8 σ} (h : Represents ep size rx s l) : s = l.state := by
  cases l with
  | up t bytes => exact h.1
  | down t => exact h.1

variable {r : Reception (σ × List (List UInt8))}

theorem Reception.Sound.poll (hsize : 8 ≤ size)
    (h : r.Sound ep size start stream) (i : PollInput) :
    (r.poll ep.logging i).Sound ep size start stream := by
  cases hopen : ep.logging.isOpen r.server with
  | false =>
    rw [Reception.poll_skip i hopen]
    exact h
  | true =>
    obtain ⟨got,hstream,hlog,hrep⟩ := h
    have hopen' : ep.isOpen r.server.1 = true := hopen
    have hkept : r.lost = false := by
      cases hlost : r.lost with
      | false => rfl
      | true => simp [hlost,hopen'] at hrep
    rw [hkept] at hrep
    cases hdrain : Framing.drain (messageFormat size) ep.logging.consumer (start, []) got with
    | down t =>
      rw [hdrain] at hrep
      exact absurd hrep.2.1 (by simp [hopen])
    | up t bytes =>
      rw [hdrain] at hrep
      obtain ⟨hstate,_,hpending,hbuf,hroom⟩ := hrep
      by_cases hcause : idleExpired ep.logging r.server r.lastActivity i.now ∨ i.amount = none
      · rw [Reception.poll_lost hopen (by omega) hcause]
        exact ⟨got,hstream,hlog,ep.isOpen_close _,hbuf,rfl,rfl⟩
      obtain ⟨hunread,hlost,hrep'⟩ := Reception.poll_data hsize hopen hbuf hroom hcause
      -- What was pending and what arrives are together the bytes read so far.
      have habsorb : Framing.drain (messageFormat size) ep.logging.consumer r.server
          (r.rx.pending ++ r.arriving i) =
            Framing.drain (messageFormat size) ep.logging.consumer (start, [])
              (got ++ r.arriving i) := by
        rw [Framing.drain_append _ got,hdrain,Framing.absorb,hpending,hstate]
      rw [habsorb] at hrep'
      refine ⟨got ++ r.arriving i,?_,?_,?_⟩
      · rw [hunread,List.append_assoc,Reception.arriving_append,hstream]
      · rw [hrep'.state_eq,consumer_logging,Framing.drain_logging_log,List.nil_append]
      · rw [hlost,hkept]
        exact hrep'

theorem Reception.sound_accepted (ep : Endpoint σ) {buffer : List UInt8}
    (hsize : 8 ≤ buffer.length) (hopen : ep.isOpen start = true)
    (stream : List UInt8) (now : UInt64) :
    (Reception.accepted buffer (start, []) stream now).Sound ep buffer.length start stream := by
  have hlook : (messageFormat buffer.length).look [] = .more := by
    show messageLook buffer.length [] = .more
    exact messageLook_more.mpr (Or.inl (by decide))
  refine ⟨[],rfl,by rw [Framing.Format.cut_more hlook]; rfl,?_⟩
  rw [Framing.drain_more hlook]
  exact ⟨rfl,hopen,by simp [Reception.accepted,RxBuffer.accepted,RxBuffer.pending,
    Buffer.slice],rfl,by simp [Reception.accepted,RxBuffer.accepted]; omega⟩

theorem Reception.Sound.run
    (hsize : 8 ≤ size) (inputs : List PollInput)
    (h : r.Sound ep size start stream) : (r.run ep.logging inputs).Sound ep size start stream := by
  induction inputs generalizing r with
  | nil => exact h
  | cons i inputs ih => exact ih (h.poll hsize i)

theorem Reception.Sound.handed_stream
    (h : r.Sound ep size start stream) (hkept : r.lost = false)
    (hend : r.unread = [] ∨ ep.isOpen r.server.1 = false) :
    r.server.2 = Framing.handed ep.consumer start ((messageFormat size).cut stream) := by
  obtain ⟨got,hstream,hlog,hrep⟩ := h
  rcases hend with hread | hclosed
  · rw [hlog,hstream,hread,List.append_nil]
  rw [hkept,if_neg Bool.false_ne_true] at hrep
  have hall := Framing.drain_logging_log (messageFormat size) ep.consumer start [] stream
  rw [hstream,Framing.drain_append,← consumer_logging,List.nil_append] at hall
  rw [hstream,← hall]
  cases hdrain : Framing.drain (messageFormat size) ep.logging.consumer (start, []) got with
  | up t bytes =>
    rw [hdrain] at hrep
    have hopen : ep.isOpen r.server.1 = true := hrep.2.1
    rw [hclosed] at hopen
    cases hopen
  | down t =>
    rw [hdrain] at hrep
    exact congrArg Prod.snd hrep.state_eq

theorem Reception.Sound.room
    (hpos : 0 < size) (h : r.Sound ep size start stream) :
    r.rx.buffer.length = size ∧ r.rx.readPos + r.rx.rxLen < size := by
  obtain ⟨got,_,_,hrep⟩ := h
  split at hrep
  · obtain ⟨_,hbuf,hzero,hlen⟩ := hrep
    exact ⟨hbuf,by omega⟩
  cases hdrain : Framing.drain (messageFormat size) ep.logging.consumer (start, []) got with
  | up t bytes =>
    rw [hdrain] at hrep
    exact ⟨hrep.2.2.2.1,hrep.2.2.2.2⟩
  | down t =>
    rw [hdrain] at hrep
    obtain ⟨_,_,hbuf,hzero,hlen⟩ := hrep
    exact ⟨hbuf,by omega⟩

/-- For every stream and every way the adapter delivers it, the messages handed to the handler are
the successive cuts of what was read, up to the first invalid header or to the message at which the
handler closed the connection; the buffer never overflows and always has room for the next read. -/
theorem poll_run_hands_over_cut (ep : Endpoint σ) (buffer : List UInt8)
    (hsize : 8 ≤ buffer.length) (start : σ) (hopen : ep.isOpen start = true)
    (stream : List UInt8) (now : UInt64) (inputs : List PollInput) :
    let cut := (messageFormat buffer.length).cut
    let r := (Reception.accepted buffer (start, []) stream now).run ep.logging inputs
    (∃ got, stream = got ++ r.unread ∧ r.server.2 = Framing.handed ep.consumer start (cut got)) ∧
    (r.lost = false → r.unread = [] ∨ ep.isOpen r.server.1 = false →
      r.server.2 = Framing.handed ep.consumer start (cut stream) ∧
      ((∀ s msg, ep.isOpen (ep.processMessage s msg).1 = true) → r.server.2 = cut stream)) ∧
    r.rx.buffer.length = buffer.length ∧
    r.rx.readPos + r.rx.rxLen < buffer.length ∧
    ∀ bytes, bytes.length ≤ r.rx.offered → ∀ tick,
      let rx := (pollReadData ep.logging r.rx r.server r.lastActivity tick (some bytes)).1
      rx.readPos + rx.rxLen ≤ buffer.length := by
  intro cut r
  have hsound : r.Sound ep buffer.length start stream :=
    (Reception.sound_accepted ep hsize hopen stream now).run hsize inputs
  obtain ⟨hbuf,hroom⟩ := hsound.room (by omega)
  refine ⟨?_,?_,hbuf,hroom,?_⟩
  · obtain ⟨got,hstream,hlog,_⟩ := hsound
    exact ⟨got,hstream,hlog⟩
  · intro hkept hend
    have hall := hsound.handed_stream hkept hend
    exact ⟨hall,fun hlive => hall.trans (Framing.handed_of_live hlive _ _)⟩
  · intro bytes hfits tick
    obtain ⟨rx,last,hread,hwithin,_⟩ :=
      pollReadData_some ep.logging r.server r.lastActivity tick hbuf hroom hfits
    rw [hread]
    exact hwithin.2

def Endpoint.sink : Endpoint Bool where
  isOpen s := s
  close _ := false
  idleLimit _ := 30000
  processMessage s msg := (s, msg)
  isOpen_close _ := rfl
  length_processMessage _ _ := rfl

/-- Two messages arrive in three pieces. -/
theorem poll_run_hands_over_cut_sink :
    let stream : List UInt8 :=
      [0x48,0x45,0x4C,0x46,8,0,0,0] ++ [0x4D,0x53,0x47,0x46,9,0,0,0,0xAA]
    let r := (Reception.accepted (List.replicate 24 0) (true, []) stream 0).run Endpoint.sink.logging
      [⟨1,some 3⟩,⟨2,some 7⟩,⟨3,some 100⟩]
    r.server.2 = [stream.take 8, stream.drop 8] ∧ r.rx.readPos + r.rx.rxLen < 24 := by
  intro stream r
  obtain ⟨-,hall,-,hroom,-⟩ := poll_run_hands_over_cut Endpoint.sink (List.replicate 24 0)
    (by decide) true rfl stream 0 [⟨1,some 3⟩,⟨2,some 7⟩,⟨3,some 100⟩]
  have hread : r.lost = false ∧ r.unread = [] := by decide +kernel
  refine ⟨(hall hread.1 (.inl hread.2)).1.trans ?_,hroom⟩
  decide +kernel

end MucOpcua
