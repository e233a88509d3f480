import MucOpcua.Encoding.RoundTrip
import MucOpcua.Services.ServiceFault
import MucOpcua.Subscription.Publish

/-!
# The bytes of a Publish response

The encoder of a Publish response as leaves: it succeeds exactly if all of them are accepted and fit
into the buffer.
-/

namespace MucOpcua

open Sticky

variable {ω κ : Type}
variable {w w' : BinaryWriter} {world world' : ω} (cfg : EngineConfig ω κ) (sub : Subscription)
  (subs : Subs ω κ)

/-! ## Growing writers -/

structure BinaryWriter.Writable (w : BinaryWriter) : Prop where
  status : w.status = Status.good
  buffer : w.buffer.isSome = true
  fits : w.position ≤ w.length
  small : w.length ≤ 0x7FFFFFFF

def BinaryWriter.cells (w : BinaryWriter) : List UInt8 := w.buffer.getD []

/-- After `n` more bytes; what was in front of the cursor is there still. -/
structure Grown (w : BinaryWriter) (n : Nat) (w' : BinaryWriter) : Prop where
  writable : w'.Writable
  length : w'.length = w.length
  position : w'.position = w.position + n
  kept : w'.cells.take w.position = w.cells.take w.position

private theorem take_overwrite {buf : List UInt8} {n position : Nat} {bytes : List UInt8}
    (h : n ≤ position) : (Buffer.overwrite buf position bytes).take n = buf.take n := by
  have hslice : Buffer.slice (Buffer.overwrite buf position bytes) 0 n = Buffer.slice buf 0 n :=
    Buffer.slice_overwrite_of_ge (by omega)
  simpa [Buffer.slice] using hslice

namespace Grown

variable {w w₁ w₂ : BinaryWriter} {m n : Nat}

theorem refl (h : w.Writable) : Grown w 0 w := ⟨h,rfl,rfl,rfl⟩

theorem trans (h₁ : Grown w m w₁) (h₂ : Grown w₁ n w₂) : Grown w (m + n) w₂ := by
  refine ⟨h₂.writable,h₂.length.trans h₁.length,?_,?_⟩
  · rw [h₂.position,h₁.position,Nat.add_assoc]
  · have hle : w.position ≤ w₁.position := by
      rw [h₁.position]
      exact Nat.le_add_right _ _
    calc w₂.cells.take w.position
        = (w₂.cells.take w₁.position).take w.position := by rw [List.take_take,min_eq_left hle]
      _ = (w₁.cells.take w₁.position).take w.position := by rw [h₂.kept]
      _ = w₁.cells.take w.position := by rw [List.take_take,min_eq_left hle]
      _ = w.cells.take w.position := h₁.kept

theorem put (h : w.Writable) {bs : List UInt8} (hfit : w.position + bs.length ≤ w.length) :
    Grown w bs.length (w.put bs) := by
  obtain ⟨b,hb⟩ := Option.isSome_iff_exists.mp h.buffer
  refine ⟨⟨h.status,by simpa using h.buffer,hfit,h.small⟩,rfl,rfl,?_⟩
  simp only [BinaryWriter.cells,BinaryWriter.put,hb]
  exact take_overwrite le_rfl

theorem patch (h : Grown w n w₁) {position : Nat} (hpos : w.position ≤ position)
    (bytes : List UInt8) : Grown w n (w₁.patch position bytes) := by
  obtain ⟨b,hb⟩ := Option.isSome_iff_exists.mp h.writable.buffer
  refine ⟨⟨h.writable.status,?_,h.writable.fits,h.writable.small⟩,h.length,h.position,?_⟩
  · simp [BinaryWriter.patch,hb]
  · rw [← h.kept]
    simp only [BinaryWriter.cells,BinaryWriter.patch,hb]
    exact take_overwrite hpos

end Grown

/-! ## Encoders by their leaves -/

def Fills {α : Type} (m : RespondM ω α) (w : BinaryWriter) (world : ω) (leaves : List Leaf)
    (world' : ω) : Prop :=
  match w.scan leaves with
  | .done bs => ∃ a w', m (w, world) = .ok a (w', world') ∧ Grown w bs.length w'
  | .trip s | .refuse s => ∃ final, m (w, world) = .error s final

namespace Fills

variable {α β : Type} {w : BinaryWriter} {world world₁ world₂ : ω} {xs ys : List Leaf}

theorem pure (h : w.Writable) (a : α) : Fills (Pure.pure a) w world [] world :=
  ⟨a,w,rfl,Grown.refl h⟩

theorem put (h : w.Writable) {encode : WriteM Unit} (hemits : Emits encode xs) :
    Fills (RespondM.put encode) w world xs world := by
  have hmatch := hemits w h.status
  unfold Fills
  cases hscan : w.scan xs with
  | done bs =>
    rw [hscan] at hmatch
    obtain ⟨-,hfit⟩ := scan_done hscan
    refine ⟨(),w.put bs,RespondM.put_ok hmatch world,Grown.put h ?_⟩
    by_cases hnil : xs = []
    · subst hnil
      cases hscan
      exact h.fits
    · exact hfit hnil
  | trip s | refuse s =>
    rw [hscan] at hmatch
    obtain ⟨w',hrun,-⟩ := hmatch
    exact ⟨(w', world),by simp only [RespondM.put,hrun]⟩

theorem bind {m : RespondM ω α} {f : α → RespondM ω β} (h : w.Writable)
    (hm : Fills m w world xs world₁)
    (hf : ∀ a n w', Grown w n w' → Fills (f a) w' world₁ ys world₂) :
    Fills (m >>= f) w world (xs ++ ys) world₂ := by
  unfold Fills at hm ⊢
  unfold BinaryWriter.scan at hm ⊢
  rw [scan_append]
  cases hscan : scan w.buffer.isSome w.length w.position xs with
  | done bs =>
    rw [hscan] at hm
    obtain ⟨a,w',hrun,hgrown⟩ := hm
    have hrest := hf a bs.length w' hgrown
    unfold Fills BinaryWriter.scan at hrest
    rw [hgrown.writable.buffer,← h.buffer,hgrown.length,hgrown.position] at hrest
    rw [bind_ok hrun]
    simp only [WriteOutcome.andThen]
    cases hscan' : scan w.buffer.isSome w.length (w.position + bs.length) ys with
    | done cs =>
      rw [hscan'] at hrest
      obtain ⟨b,w'',hrun',hgrown'⟩ := hrest
      refine ⟨b,w'',hrun',?_⟩
      rw [List.length_append]
      exact hgrown.trans hgrown'
    | trip s | refuse s =>
      rw [hscan'] at hrest
      exact hrest
  | trip s | refuse s =>
    rw [hscan] at hm
    obtain ⟨final,hrun⟩ := hm
    exact ⟨final,bind_error hrun _⟩

theorem bind_patch {m : RespondM ω Nat} {lengthPosition : Nat} (hm : Fills m w world xs world₁)
    (hpos : w.position ≤ lengthPosition) :
    Fills (m >>= fun bodyStart => backpatchLength lengthPosition bodyStart) w world xs world₁ := by
  unfold Fills at hm ⊢
  cases hscan : w.scan xs with
  | done bs =>
    rw [hscan] at hm
    obtain ⟨bodyStart,w',hrun,hgrown⟩ := hm
    have hsmall : ¬ 0x7FFFFFFF < w'.position - bodyStart := by
      have := hgrown.writable.fits
      have := hgrown.writable.small
      omega
    refine ⟨(),w'.patch lengthPosition
      (lePutU32 (Int32.ofNat (w'.position - bodyStart)).toUInt32),?_,hgrown.patch hpos _⟩
    rw [bind_ok hrun]
    show (if 0x7FFFFFFF < w'.position - bodyStart then throw Status.badResponseTooLarge
      else RespondM.put (backpatchInt32 lengthPosition (Int32.ofNat (w'.position - bodyStart))) :
        RespondM ω Unit) (w', world₁) = _
    rw [if_neg hsmall]
    rfl
  | trip s | refuse s =>
    rw [hscan] at hm
    obtain ⟨final,hrun⟩ := hm
    exact ⟨final,bind_error hrun _⟩

theorem grown {m : RespondM ω α} (hm : Fills m w world xs world₁) {a : α}
    (hrun : m (w, world) = .ok a (w', world')) :
    ∃ bs, w.scan xs = .done bs ∧ Grown w bs.length w' ∧ world' = world₁ := by
  unfold Fills at hm
  cases hscan : w.scan xs with
  | done bs =>
    rw [hscan] at hm
    obtain ⟨a₁,w₁,hrun₁,hgrown⟩ := hm
    rw [hrun] at hrun₁
    cases hrun₁
    exact ⟨bs,rfl,hgrown,rfl⟩
  | trip s | refuse s =>
    rw [hscan] at hm
    obtain ⟨final,hrun₁⟩ := hm
    rw [hrun] at hrun₁
    cases hrun₁

end Fills

/-! ## NotificationData -/

def objectLeaves (typeId : UInt32) (body : List Leaf) : List Leaf :=
  nodeidLeaves (some (numericNodeId typeId)) ++ ([.field [1]] ++ ([.field (lePutU32 0)] ++ body))

theorem writeObject_fills {typeId : UInt32} {body : RespondM ω Unit}
    {leaves : List Leaf} (h : w.Writable)
    (hbody : ∀ n w', Grown w n w' → Fills body w' world leaves world') :
    Fills (writeObject typeId body) w world (objectLeaves typeId leaves) world' := by
  refine Fills.bind h (Fills.put h (binaryWriteNodeid_emits _)) fun _ _ w₁ h₁ => ?_
  refine Fills.bind h₁.writable (Fills.put h₁.writable (writeFixed_emits _)) fun _ _ w₂ h₂ => ?_
  have hparts : Fills (do
      RespondM.put (binaryWriteInt32 0)
      let bodyStart ← writerPosition
      body
      return bodyStart) w₂ world ([.field (lePutU32 0)] ++ leaves) world' := by
    refine Fills.bind h₂.writable (Fills.put h₂.writable (writeFixed_emits _)) fun _ _ w₃ h₃ => ?_
    have hrest : Fills (body >>= fun _ => pure w₃.position) w₃ world (leaves ++ []) world' :=
      Fills.bind h₃.writable (hbody _ w₃ ((h₁.trans h₂).trans h₃)) fun _ _ w₄ h₄ =>
        Fills.pure h₄.writable w₃.position
    rw [List.append_nil] at hrest
    exact hrest
  have hpatched := Fills.bind_patch hparts le_rfl
  simp only [bind_assoc] at hpatched
  exact hpatched

/-- What `write_dcn_item_value` writes. -/
def reportLeaves (now : Int64) (report : MonitoredItem ω κ × QueueEntry) : List Leaf :=
  [.field (lePutU32 report.1.clientHandle)] ++
    datavalueLeaves (some (notifiedValue report.1 report.2 now))

theorem writeDcnItemValue_emits (now : Int64) (report : MonitoredItem ω κ × QueueEntry) :
    Emits (writeDcnItemValue now report) (reportLeaves now report) :=
  (writeFixed_emits _).bind (binaryWriteDatavalue_emits _)

/-- What `write_data_change_notification` writes for the given entries. -/
def dataChangeLeaves (reports : List (MonitoredItem ω κ × QueueEntry)) (reportCount : Nat)
    (now : Int64) : List Leaf :=
  objectLeaves 811 ([.field (lePutU32 (Int32.ofNat reportCount).toUInt32)] ++
    (reports.flatMap (reportLeaves now) ++ [.field (lePutU32 0)]))

theorem writeDataChangeNotification_fills
    (sub : Subscription) (reportCount : Nat) (h : w.Writable) (world : ω) :
    Fills (writeDataChangeNotification cfg subs sub reportCount) w world
      (dataChangeLeaves (subs.entriesToReport cfg.caps sub reportCount) reportCount
        (cfg.timeAdapter.getTime world).1) (cfg.timeAdapter.getTime world).2 := by
  refine writeObject_fills h fun _ w₁ h₁ => ?_
  refine Fills.bind h₁.writable (Fills.put h₁.writable (writeFixed_emits _)) fun _ _ w₂ h₂ => ?_
  -- the clock is read here, and nothing is written
  show Fills (RespondM.put _ >>= fun _ => RespondM.put _) w₂ (cfg.timeAdapter.getTime world).2 _ _
  refine Fills.bind h₂.writable
    (Fills.put h₂.writable (Emits.writeMany (writeDcnItemValue_emits _) _)) fun _ _ w₃ h₃ => ?_
  exact Fills.put h₃.writable (writeFixed_emits _)

def statusChangeLeaves (status : StatusCode) : List Leaf :=
  objectLeaves 820 ([.field (lePutU32 status)] ++ [.field [0]])

theorem writeStatusChangeNotification_fills (status : StatusCode) (h : w.Writable) (world : ω) :
    Fills (writeStatusChangeNotification status) w world (statusChangeLeaves status) world := by
  refine writeObject_fills h fun _ w₁ h₁ => ?_
  exact Fills.bind h₁.writable (Fills.put h₁.writable (writeFixed_emits _)) fun _ _ w₂ h₂ =>
    Fills.put h₂.writable (writeFixed_emits _)

/-- What `write_event_notification_list` writes: the body is put together in a buffer of its own. -/
def eventLeaves (cfg : EngineConfig ω κ) (subs : Subs ω κ) (sub : Subscription) (world : ω) :
    List Leaf :=
  let items := subs.eventItems sub
  if items = [] then extensionObjectHeaderLeaves (some (numericNodeId 914)) 0
  else
    match writeEventFieldLists cfg world (items.flatMap fun item =>
        (sub.eventQueue.filter (cfg.whereClauseEval item.whereClause)).map (item, ·))
        (BinaryWriter.init (List.replicate 1024 0)) with
    | .error status _ => [.refusal status]
    | .ok _ body => extensionObjectHeaderLeaves (some (numericNodeId 914)) body.position ++
        [.block body.written Status.badOutOfMemory]

theorem writeEventNotificationList_emits (sub : Subscription) (world : ω) :
    Emits (writeEventNotificationList cfg subs sub world) (eventLeaves cfg subs sub world) := by
  unfold writeEventNotificationList eventLeaves
  simp only
  split
  · exact binaryWriteExtensionObjectHeader_emits _ _
  cases writeEventFieldLists cfg world ((subs.eventItems sub).flatMap fun item =>
      (sub.eventQueue.filter (cfg.whereClauseEval item.whereClause)).map (item, ·))
      (BinaryWriter.init (List.replicate 1024 0)) with
  | error status _ => exact Emits.throw status
  | ok _ body =>
    exact (binaryWriteExtensionObjectHeader_emits _ _).bind (writeBlock_emits _ _)

def queuedEventLeaves (cfg : EngineConfig ω κ) (subs : Subs ω κ) (sub : Subscription) (world : ω) :
    List Leaf :=
  if 0 < sub.eventQueue.length then eventLeaves cfg subs sub world else []

theorem writeQueuedEvents_fills (sub : Subscription) (h : w.Writable) (world : ω) :
    Fills (writeQueuedEvents cfg subs sub) w world (queuedEventLeaves cfg subs sub world) world := by
  have hfills : Fills (RespondM.put (writeIf (0 < sub.eventQueue.length)
      (writeEventNotificationList cfg subs sub world))) w world
      (queuedEventLeaves cfg subs sub world) world :=
    Fills.put h ((writeEventNotificationList_emits cfg subs sub world).writeIf _)
  unfold Fills at hfills ⊢
  rw [writeQueuedEvents]
  exact hfills

def notificationDataLeaves (cfg : EngineConfig ω κ) (subs : Subs ω κ) (sub : Subscription)
    (world : ω) : NotificationContent → List Leaf × ω
  | .keepAlive => ([], world)
  | .statusChange status => (statusChangeLeaves status, world)
  | .data reportCount =>
    let (dataChange, world) :=
      if 0 < reportCount then
        (dataChangeLeaves (subs.entriesToReport cfg.caps sub reportCount) reportCount
          (cfg.timeAdapter.getTime world).1, (cfg.timeAdapter.getTime world).2)
      else ([], world)
    (dataChange ++ queuedEventLeaves cfg subs sub world, world)

theorem writeNotificationData_fills (sub : Subscription)
    (content : NotificationContent) (h : w.Writable) (world : ω) :
    Fills (writeNotificationData cfg subs sub content) w world
      (notificationDataLeaves cfg subs sub world content).1
      (notificationDataLeaves cfg subs sub world content).2 := by
  cases content with
  | keepAlive => exact Fills.pure h ()
  | statusChange status => exact writeStatusChangeNotification_fills status h world
  | data reportCount =>
    by_cases hcount : 0 < reportCount
    · have hdata := Fills.bind h (writeDataChangeNotification_fills cfg subs sub reportCount h world)
        fun _ _ w' h' => writeQueuedEvents_fills cfg subs sub h'.writable
          (cfg.timeAdapter.getTime world).2
      simpa only [writeNotificationData,notificationDataLeaves,if_pos hcount] using hdata
    have hevents := writeQueuedEvents_fills cfg subs sub h world
    simpa only [writeNotificationData,notificationDataLeaves,if_neg hcount,List.nil_append]
      using hevents

/-! ## The response -/

def responseHeadLeaves (sub : Subscription) (requestHandle : UInt32)
    (content : NotificationContent) : List Leaf :=
  nodeidLeaves (some (numericNodeId 829)) ++
    (responseHeaderFields ⟨0, requestHandle, Status.good, 0⟩).map Leaf.field ++
    ([.field (lePutU32 sub.subscriptionId)] ++ ([.field (lePutU32 0)] ++
      [.field [booleanByte (match content with
        | .data _ => sub.moreNotifications
        | _ => false)]]))

def messageHead (sub : Subscription) (sequenceNumber : UInt32) (publishTime : Int64)
    (content : NotificationContent) : List (List UInt8) :=
  [lePutU32 sequenceNumber, lePutU64 publishTime.toUInt64,
    lePutU32 (notificationDataCount sub content).toUInt32]

def resultLeaves (request : PublishRequest) : List Leaf :=
  [.field (lePutU32 (Int32.ofNat request.ackResults.val.length).toUInt32)] ++
    (request.ackResults.val.flatMap (fun status => [.field (lePutU32 status)]) ++
      [.field (lePutU32 0)])

theorem writePublishResponseHeader_emits (requestHandle : UInt32) (content : NotificationContent) :
    Emits (writePublishResponseHeader sub requestHandle content)
      (responseHeadLeaves sub requestHandle content) :=
  ((binaryWriteNodeid_emits _).bind (responseHeaderEncode_emits _)).bind
    ((writeFixed_emits _).bind ((writeFixed_emits _).bind (writeFixed_emits _)))

variable (sequenceNumber : UInt32) (publishTime : Int64) (content : NotificationContent)

theorem writeNotificationHeader_emits :
    Emits (writeNotificationHeader sub sequenceNumber publishTime content)
      ((messageHead sub sequenceNumber publishTime content).map Leaf.field) :=
  (writeFixed_emits _).bind ((writeFixed_emits _).bind (writeFixed_emits _))

theorem writePublishResponseResults_emits (request : PublishRequest) :
    Emits (writePublishResponseResults request) (resultLeaves request) :=
  (writeFixed_emits _).bind ((Emits.writeMany (fun _ => writeFixed_emits _) _).bind
    (writeFixed_emits _))

def messageHeadBytes (sub : Subscription) (sequenceNumber : UInt32) (publishTime : Int64)
    (content : NotificationContent) : List UInt8 :=
  (messageHead sub sequenceNumber publishTime content).flatten

private theorem Grown.between {w₁ w₂ w₃ : BinaryWriter} {m n : Nat} (h₁ : Grown w₁ m w₂)
    (h₂ : Grown w₂ n w₃) : (w₃.written.drop w₁.position).take m = emitted w₁ w₂ := by
  have hle : w₂.position ≤ w₃.position := by
    rw [h₂.position]
    exact Nat.le_add_right _ _
  have hwritten : w₃.written.take w₂.position = w₂.written := by
    show (w₃.cells.take w₃.position).take w₂.position = w₂.cells.take w₂.position
    rw [List.take_take,min_eq_left hle,h₂.kept]
  rw [emitted,← hwritten,List.drop_take,h₁.position,Nat.add_sub_cancel_left]

theorem leafBytes_fields (fields : List (List UInt8)) :
    leafBytes (fields.map Leaf.field) = some fields.flatten := by
  induction fields with
  | nil => rfl
  | cons bs fields ih =>
    rw [List.map_cons,leafBytes,ih]
    rfl

private theorem grown_of_fields {encode : WriteM Unit} {fields : List (List UInt8)}
    (hemits : Emits encode (fields.map Leaf.field)) (h : w.Writable)
    (hrun : RespondM.put encode (w, world) = .ok () (w', world')) :
    Grown w fields.flatten.length w' ∧ emitted w w' = fields.flatten := by
  obtain ⟨bs,hscan,hgrown,-⟩ := (Fills.put h hemits).grown hrun
  have hbytes := (scan_done hscan).1
  rw [leafBytes_fields] at hbytes
  cases hbytes
  refine ⟨hgrown,?_⟩
  have hmatch := hemits w h.status
  rw [hscan] at hmatch
  rw [RespondM.put_ok hmatch] at hrun
  cases hrun
  exact emitted_put h.buffer fun _ => hgrown.writable.fits

theorem buildPublishResponse_message {cfg : EngineConfig ω κ} {subs : Subs ω κ} {sub : Subscription}
    {request : PublishRequest} {sequenceNumber : UInt32} {content : NotificationContent}
    {publishTime : Int64} {messageStart messageEnd : Nat} (h : w.Writable)
    (hrun : buildPublishResponse cfg subs sub request sequenceNumber content publishTime (w, world) =
      .ok (messageStart, messageEnd) (w', world')) :
    messageStart + 16 ≤ messageEnd ∧ messageEnd ≤ w'.written.length ∧
      (w'.written.drop messageStart).take 16 =
        messageHeadBytes sub sequenceNumber publishTime content := by
  obtain ⟨⟨⟩,⟨w₁,world₁⟩,hhead,hrun⟩ := ok_of_bind hrun
  obtain ⟨_,_,h₁,-⟩ := (Fills.put h (writePublishResponseHeader_emits _ _ _)).grown hhead
  replace hrun : (do
      RespondM.put (writeNotificationHeader sub sequenceNumber publishTime content)
      writeNotificationData cfg subs sub content
      let messageEnd ← writerPosition
      RespondM.put (writePublishResponseResults request)
      return (w₁.position, messageEnd)) (w₁, world₁) = .ok (messageStart, messageEnd) (w', world') :=
    hrun
  obtain ⟨⟨⟩,⟨w₂,world₂⟩,hmessage,hrun⟩ := ok_of_bind hrun
  obtain ⟨h₂,hbytes⟩ := grown_of_fields (writeNotificationHeader_emits _ _ _ _) h₁.writable hmessage
  obtain ⟨⟨⟩,⟨w₃,world₃⟩,hdata,hrun⟩ := ok_of_bind hrun
  obtain ⟨_,_,h₃,-⟩ :=
    (writeNotificationData_fills cfg subs sub content h₂.writable world₂).grown hdata
  replace hrun : (do
      RespondM.put (writePublishResponseResults request)
      return (w₁.position, w₃.position)) (w₃, world₃) = .ok (messageStart, messageEnd) (w', world') :=
    hrun
  obtain ⟨⟨⟩,⟨w₄,world₄⟩,hresults,hrun⟩ := ok_of_bind hrun
  obtain ⟨_,_,h₄,-⟩ :=
    (Fills.put h₃.writable (writePublishResponseResults_emits request)).grown hresults
  cases hrun
  have hend : w₃.position ≤ w'.written.length := by
    obtain ⟨b,hb⟩ := Option.isSome_iff_exists.mp h₄.writable.buffer
    have hlen := w'.sized b (by simp [hb])
    have hfits := h₄.writable.fits
    have hpos := h₄.position
    simp only [BinaryWriter.written,hb,Option.getD_some,List.length_take]
    omega
  refine ⟨?_,hend,?_⟩
  · rw [h₃.position,h₂.position]
    exact Nat.le_add_right _ _
  · exact (h₂.between (h₃.trans h₄)).trans hbytes

/-! ## What a client reads -/

def messageNumber (message : List UInt8) : UInt32 := leGetU32 message

def carriesData (message : List UInt8) : Bool := leGetU32 (message.drop 12) ≠ 0

theorem messageHeadBytes_append_number (rest : List UInt8) :
    messageNumber (messageHeadBytes sub sequenceNumber publishTime content ++ rest) =
      sequenceNumber := by
  exact leGetU32_lePutU32 _ _

theorem messageHeadBytes_append_carriesData (rest : List UInt8) :
    carriesData (messageHeadBytes sub sequenceNumber publishTime content ++ rest) =
      decide ((notificationDataCount sub content).toUInt32 ≠ 0) := by
  have hdrop : (messageHeadBytes sub sequenceNumber publishTime content ++ rest).drop 12 =
      lePutU32 (notificationDataCount sub content).toUInt32 ++ rest := rfl
  rw [carriesData,hdrop,leGetU32_lePutU32]

structure PublishResponse.Carries (response : PublishResponse) (sub : Subscription)
    (content : NotificationContent) : Prop where
  inBody : response.InBody
  number : messageNumber response.message = sub.sequenceNumber
  data : carriesData response.message = decide ((notificationDataCount sub content).toUInt32 ≠ 0)

/-- What `emitNotification` builds. -/
theorem buildPublishResponse_carries {cfg : EngineConfig ω κ} {subs : Subs ω κ} {sub : Subscription}
    {request : PublishRequest} {content : NotificationContent} {publishTime : Int64}
    {messageStart messageEnd : Nat} (h : w.Writable)
    (hrun : buildPublishResponse cfg subs sub request sub.sequenceNumber content publishTime
      (w, world) = .ok (messageStart, messageEnd) (w', world')) :
    PublishResponse.Carries ⟨w'.written, messageStart, messageEnd, publishTime⟩ sub content := by
  obtain ⟨hstart,hend,hhead⟩ := buildPublishResponse_message h hrun
  have hmessage : PublishResponse.message ⟨w'.written,messageStart,messageEnd,publishTime⟩ =
      messageHeadBytes sub sub.sequenceNumber publishTime content ++
        ((w'.written.drop messageStart).drop 16).take (messageEnd - messageStart - 16) := by
    show (w'.written.drop messageStart).take (messageEnd - messageStart) = _
    rw [← hhead,← List.take_add]
    congr 1
    omega
  refine ⟨⟨by show messageStart ≤ messageEnd; omega,hend⟩,?_,?_⟩
  · rw [hmessage,messageHeadBytes_append_number]
  · rw [hmessage,messageHeadBytes_append_carriesData]

end MucOpcua
