import AntSeed.Mux.ProxyMux

/-! # Acknowledgements of downloads

A chunk of a download waits for a frame with its id. The ids are counted in signed 32-bit numbers and
written as unsigned ones, so after 2 ^ 31 of them a chunk waits for an id that no frame has.
-/

namespace AntSeed.Mux.ProxyMux

open Protocol MessageType
open List

/-- The counter is the number of ids that were given out, as a signed 32-bit number. -/
def Counted (mux : ProxyMux) : Prop := mux.messageIdCounter = toInt32 mux.numbered

/-- A call that keeps the count and releases no chunk. -/
structure Steady (mux : ProxyMux) (turn : Turn) : Prop where
  counted : Counted mux → Counted turn.mux
  silent : ∀ ack, .released ack ∉ turn.effects

section Steady

variable {mux other : ProxyMux} {size : ℕ+} {turn : Turn}

theorem Steady.of_counted (steady : Steady other turn) (counted : Counted mux → Counted other) :
    Steady mux turn := ⟨steady.counted ∘ counted, steady.silent⟩

theorem Steady.throws (steady : Steady mux turn) (message : Option String) :
    Steady mux { turn with threw := message } := ⟨steady.counted, steady.silent⟩

theorem steady_nothing (threw : Option String) : Steady mux { mux, threw } := ⟨id, by simp⟩

theorem not_released_rejected (acks : List DownloadAck) (message : String) (ack : DownloadAck) :
    Effect.released ack ∉ acks.map (Effect.rejected · message) := by simp

theorem toInt32_succ (count : Nat) : toInt32 (toInt32 count + 1) = toInt32 (count + 1 : Nat) := by
  unfold toInt32
  omega

theorem counted_nextMessageId (counted : Counted mux) : Counted mux.nextMessageId.2 := by
  unfold Counted at counted ⊢
  unfold nextMessageId
  dsimp only
  rw [counted, toInt32_succ]

theorem steady_sendFrame (frame : FramedMessage) : Steady mux (mux.sendFrame frame) := by
  unfold sendFrame
  split
  · exact steady_nothing _
  · split
    · exact steady_nothing _
    · exact ⟨id, by simp⟩

theorem steady_post (type : Int) (payload : List UInt8) : Steady mux (mux.post type payload) :=
  (steady_sendFrame _).of_counted counted_nextMessageId

theorem steady_postAll (parts : List (Int × List UInt8)) : Steady mux (mux.postAll parts) := by
  induction parts generalizing mux with
  | nil => exact steady_nothing none
  | cons part parts ih =>
    have first := @steady_post mux part.1 part.2
    have second := @ih (mux.post part.1 part.2).mux
    unfold postAll
    dsimp only
    split
    · exact first
    · refine ⟨second.counted ∘ first.counted, fun ack here => ?_⟩
      cases mem_append.mp here with
      | inl early => exact first.silent ack early
      | inr late => exact second.silent ack late

theorem steady_safePost (type : Int) (payload : List UInt8) : Steady mux (mux.safePost type payload) := by
  unfold safePost
  dsimp only
  split
  · exact (steady_nothing _).of_counted counted_nextMessageId
  · refine ⟨counted_nextMessageId, fun ack here => ?_⟩
    split at here
    · cases here
    · simp at here

theorem steady_sendProxyRequest (request : SerializedHttpRequest) :
    Steady mux (mux.sendProxyRequest size request) := by
  unfold sendProxyRequest sendChunkedRequest
  dsimp only
  split
  · exact (steady_postAll _).of_counted id
  · exact (steady_postAll _).of_counted id

section

variable (requestId : String)

theorem steady_cancelProxyRequest : Steady mux (mux.cancelProxyRequest requestId) := by
  unfold cancelProxyRequest
  dsimp only
  split
  · exact (steady_safePost _ _).of_counted id
  · exact (steady_nothing none).of_counted id

theorem steady_finishDownload : Steady mux (mux.finishDownload requestId) := by
  refine ⟨id, fun ack => ?_⟩
  unfold finishDownload
  dsimp only
  split
  · exact not_released_rejected _ _ ack
  · exact not_mem_nil

theorem counted_forgetAck (counted : Counted mux) : Counted (mux.forgetAck requestId) :=
  counted

theorem steady_sendDownloadChunk (chunk : SerializedHttpResponseChunk) :
    Steady mux (mux.sendDownloadChunk chunk) := by
  unfold sendDownloadChunk
  split
  · exact steady_nothing _
  · split
    · exact steady_nothing _
    · split
      · exact steady_nothing _
      · dsimp only
        split
        · refine ⟨fun counted => counted_forgetAck _ ((steady_sendFrame _).counted ?_), by simp⟩
          exact counted_nextMessageId counted
        · exact (steady_sendFrame _).of_counted counted_nextMessageId

theorem steady_requestHandled : Steady mux (mux.requestHandled requestId) := by
  unfold requestHandled
  split
  · exact (steady_finishDownload _).of_counted id
  · exact steady_nothing none

theorem counted_consuming (consuming : Finset String) (counted : Counted mux) :
    Counted { mux with consumingDownloads := consuming } := counted

theorem steady_chunkHandled (chunk : SerializedHttpResponseChunk) (messageId : Int) (fulfilled : Bool) :
    Steady mux (mux.chunkHandled chunk messageId fulfilled) := by
  unfold chunkHandled
  dsimp only
  split
  · exact steady_nothing none
  · split
    · refine ⟨fun counted => counted_consuming _ ((steady_sendFrame _).counted ?_), (steady_sendFrame _).silent⟩
      exact counted
    · exact ⟨id, by simp⟩

theorem steady_endHandled (fulfilled : Bool) : Steady mux (mux.endHandled requestId fulfilled) := by
  unfold endHandled
  dsimp only
  split
  · exact steady_nothing none
  · split
    · exact ⟨id, by simp⟩
    · exact ⟨id, by simp⟩

theorem steady_abortUpload (statusCode : Int) (reason : String) :
    Steady mux (mux.abortUpload requestId statusCode reason) := by
  unfold abortUpload
  split
  · exact steady_nothing none
  · exact (steady_safePost _ _).of_counted id

end

theorem steady_uploadTimeout (timer : Nat) : Steady mux (mux.uploadTimeout timer) := by
  unfold uploadTimeout
  split
  · exact steady_nothing none
  · exact (steady_abortUpload _ _ _).of_counted id

theorem counted_startUpload (request : SerializedHttpRequest) (counted : Counted mux) :
    Counted (mux.startUpload request) := by
  unfold startUpload evictUpload
  dsimp only
  split
  · exact counted
  · exact counted

theorem steady_finishUpload (entry : PendingUpload) : Steady mux (mux.finishUpload entry) := by
  refine ⟨id, fun ack here => ?_⟩
  unfold finishUpload at here
  dsimp only at here
  split at here
  · simp at here
  · cases here

section

variable (payload : List UInt8)

theorem steady_receiveHttpRequest : Steady mux (mux.receiveHttpRequest payload) := by
  unfold receiveHttpRequest
  split
  · exact steady_nothing _
  · split
    · exact steady_nothing _
    · split
      · exact steady_nothing _
      · dsimp only
        split
        · exact ⟨fun counted => counted_startUpload _ counted, by simp⟩
        · split
          · exact ⟨id, by simp⟩
          · exact (steady_nothing none).of_counted id

theorem steady_receiveHttpRequestChunk : Steady mux (mux.receiveHttpRequestChunk payload) := by
  unfold receiveHttpRequestChunk
  split
  · exact steady_nothing _
  · split
    · exact steady_nothing none
    · split
      · exact steady_nothing none
      · split
        · exact steady_abortUpload _ _ _
        · exact ⟨id, by simp⟩

theorem steady_receiveHttpRequestEnd : Steady mux (mux.receiveHttpRequestEnd payload) := by
  unfold receiveHttpRequestEnd
  split
  · exact steady_nothing _
  · split
    · exact steady_nothing none
    · split
      · exact steady_finishUpload _
      · split
        · exact steady_abortUpload _ _ _
        · exact (steady_finishUpload _).of_counted id

theorem steady_receiveHttpResponse : Steady mux (mux.receiveHttpResponse payload) := by
  unfold receiveHttpResponse
  split
  · exact steady_nothing _
  · split
    · exact steady_nothing none
    · refine ⟨fun counted => ?_, by simp⟩
      dsimp only
      split
      · exact counted
      · exact counted

theorem steady_receiveHttpResponseChunk (frame : FramedMessage) :
    Steady mux (mux.receiveHttpResponseChunk frame) := by
  unfold receiveHttpResponseChunk
  split
  · exact steady_nothing _
  · split
    · exact steady_nothing none
    · split
      · exact ⟨id, by simp⟩
      · split
        · exact (steady_cancelProxyRequest _).throws _
        · exact ⟨id, by simp⟩

theorem steady_receiveHttpResponseEnd : Steady mux (mux.receiveHttpResponseEnd payload) := by
  unfold receiveHttpResponseEnd
  split
  · exact steady_nothing _
  · split
    · exact (steady_cancelProxyRequest _).throws _
    · split
      · exact steady_nothing none
      · exact ⟨id, by simp⟩

theorem steady_receiveHttpResponseError : Steady mux (mux.receiveHttpResponseError payload) := by
  unfold receiveHttpResponseError
  split
  · exact steady_nothing _
  · split
    · exact steady_nothing none
    · exact ⟨id, by simp⟩

theorem steady_receiveHttpRequestCancel : Steady mux (mux.receiveHttpRequestCancel payload) := by
  unfold receiveHttpRequestCancel
  split
  · exact steady_nothing _
  · exact steady_finishDownload _

end

theorem steady_routeFrame (other : frame.type ≠ HttpResponseAck) :
    Steady mux (mux.routeFrame frame) := by
  unfold routeFrame
  split
  · exact steady_receiveHttpRequest _
  · split
    · exact steady_receiveHttpRequestChunk _
    · split
      · exact steady_receiveHttpRequestEnd _
      · split
        · exact steady_receiveHttpResponse _
        · split
          · exact steady_receiveHttpResponseChunk _
          · split
            · exact steady_receiveHttpResponseEnd _
            · split
              · exact steady_receiveHttpResponseError _
              · split
                · exact steady_receiveHttpRequestCancel _
                · exact steady_nothing none

theorem routeFrame_ack (type : frame.type = HttpResponseAck) :
    mux.routeFrame frame = mux.receiveHttpResponseAck frame := by
  unfold routeFrame
  rw [type]
  rfl

theorem counted_receiveHttpResponseAck (counted : Counted mux) :
    Counted (mux.receiveHttpResponseAck frame).mux := by
  unfold receiveHttpResponseAck
  split
  · exact counted
  · split
    · exact counted
    · split
      · exact counted
      · exact counted

theorem steady_turn
    (other : ∀ frame, event = .handleFrame frame → frame.type ≠ HttpResponseAck) :
    Steady mux (mux.turn size event) := by
  cases event with
  | sendProxyRequest request => exact steady_sendProxyRequest request
  | cancelProxyRequest requestId => exact steady_cancelProxyRequest requestId
  | finishDownload requestId => exact steady_finishDownload requestId
  | sendDownloadChunk chunk => exact steady_sendDownloadChunk chunk
  | sendProxyError | sendProxyResponse | sendProxyChunk => exact steady_safePost _ _
  | onProxyRequest | connection => exact ⟨id, by simp [turn]⟩
  | handleFrame frame => exact (steady_routeFrame (other frame rfl)).throws _
  | abortPendingUploads | downloadTimeout => exact ⟨id, not_released_rejected _ _⟩
  | uploadTimeout timer => exact steady_uploadTimeout timer
  | requestHandled requestId => exact steady_requestHandled requestId
  | chunkHandled chunk messageId fulfilled => exact steady_chunkHandled chunk messageId fulfilled
  | endHandled requestId fulfilled => exact steady_endHandled requestId fulfilled

theorem counted_turn (event : Event) (counted : Counted mux) : Counted (mux.turn size event).mux := by
  by_cases other : ∀ frame, event = .handleFrame frame → frame.type ≠ HttpResponseAck
  · exact (steady_turn other).counted counted
  · simp only [not_forall, not_not] at other
    obtain ⟨frame, rfl, type⟩ := other
    change Counted (mux.routeFrame frame).mux
    rw [routeFrame_ack type]
    exact counted_receiveHttpResponseAck counted

theorem counted_fresh (limits : ProxyMuxUploadLimits) : Counted { limits } := by simp [Counted, toInt32]

theorem counted_run (counted : Counted mux) (events : List Event) : Counted ((machine size).run mux events) := by
  refine (machine size).run_invariant (fun mux event next counted taken => ?_) counted events
  cases taken
  exact counted_turn event counted

end Steady

section Releases

variable {mux : ProxyMux} {size : ℕ+} {event : Event} {pending : DownloadAck}
  {chunk : SerializedHttpResponseChunk} {frame onWire : FramedMessage}

def Acknowledges (requestId : String) (messageId : Int) (event : Event) : Prop :=
  ∃ frame chunk, event = .handleFrame frame ∧ frame.type = HttpResponseAck ∧
    decodeHttpResponseChunk frame.payload = some chunk ∧ chunk.requestId = requestId ∧
    frame.messageId = messageId

/-- A chunk that waits is released by an acknowledgement with the id it is compared with, and by nothing
    else. -/
theorem releases_iff (waits : mux.downloadAck pending.requestId = some pending) :
    .released pending ∈ (mux.turn size event).effects
      ↔ Acknowledges pending.requestId pending.messageId event := by
  by_cases other : ∀ frame, event = .handleFrame frame → frame.type ≠ HttpResponseAck
  · refine ⟨fun released => absurd released ((steady_turn other).silent pending), ?_⟩
    rintro ⟨frame, chunk, rfl, type, -⟩
    exact absurd type (other frame rfl)
  · simp only [not_forall, not_not] at other
    obtain ⟨frame, rfl, type⟩ := other
    change .released pending ∈ (mux.routeFrame frame).effects ↔ _
    rw [routeFrame_ack type]
    have read : Acknowledges pending.requestId pending.messageId (.handleFrame frame)
        ↔ ∃ chunk, decodeHttpResponseChunk frame.payload = some chunk ∧ chunk.requestId = pending.requestId ∧
            frame.messageId = pending.messageId := by
      constructor
      · rintro ⟨_, chunk, same, -, rest⟩
        cases same
        exact ⟨chunk, rest⟩
      · rintro ⟨chunk, rest⟩
        exact ⟨frame, chunk, rfl, type, rest⟩
    rw [read]
    unfold receiveHttpResponseAck
    cases decoded : decodeHttpResponseChunk frame.payload with
    | none => simp
    | some chunk =>
      simp only [Option.some.injEq, exists_eq_left']
      cases known : mux.downloadAck chunk.requestId with
      | none =>
        refine ⟨fun released => absurd released not_mem_nil, ?_⟩
        rintro ⟨named, -⟩
        rw [named, waits] at known
        cases known
      | some found =>
        have named : found.requestId = chunk.requestId := (Keyed.mem_of_get known).2
        dsimp only
        split
        next same =>
          refine mem_singleton.trans ⟨fun alike => ?_, fun ⟨alike, _⟩ => ?_⟩
          · cases alike
            exact ⟨named.symm, same.symm⟩
          · rw [alike, waits] at known
            cases known
            rfl
        next differs =>
          refine ⟨fun released => absurd released not_mem_nil, ?_⟩
          rintro ⟨alike, same⟩
          rw [alike, waits] at known
          cases known
          exact absurd same.symm differs

theorem messageId_of_sent (counted : Counted mux)
    (sent : .sent frame ∈ (mux.turn size (.sendDownloadChunk chunk)).effects) :
    frame.messageId = toInt32 mux.numbered := by
  change .sent frame ∈ (mux.sendDownloadChunk chunk).effects at sent
  unfold sendDownloadChunk sendFrame at sent
  split at sent
  · cases sent
  · split at sent
    · cases sent
    · split at sent
      · cases sent
      · dsimp only at sent
        split at sent
        · simp at sent
        · split at sent
          · cases sent
          · split at sent
            · cases sent
            · cases mem_singleton.mp sent
              exact counted

theorem toInt32_unsigned_iff (count : Nat) :
    toInt32 count = toInt32 count % 2 ^ 32 ↔ count % 2 ^ 32 < 2 ^ 31 := by
  unfold toInt32
  omega

/-- While a chunk waits, the id it is compared with is the one that its frame arrived with, and it is
    released by an acknowledgement of that id and by nothing else, exactly if less than 2 ^ 31 ids were
    given out before it, modulo 2 ^ 32. -/
theorem downloads_released_iff (size : ℕ+) (limits : ProxyMuxUploadLimits) (events later : List Event)
    (chunk : SerializedHttpResponseChunk) (frame onWire : FramedMessage) (bytes : List UInt8) (taken : Nat)
    (sent : .sent frame ∈ (((machine size).run { limits } events).turn size (.sendDownloadChunk chunk)).effects)
    (encoded : encodeFrame frame = .ok bytes) (arrived : decodeFrame bytes = .ok (some (onWire, taken)))
    (waits : ((machine size).run { limits } (events ++ .sendDownloadChunk chunk :: later)).downloadAck
      chunk.requestId = some { requestId := chunk.requestId, messageId := frame.messageId }) :
    (frame.messageId = onWire.messageId ∧
      ∀ event,
        .released { requestId := chunk.requestId, messageId := frame.messageId }
            ∈ (((machine size).run { limits } (events ++ .sendDownloadChunk chunk :: later)).turn size event).effects
          ↔ Acknowledges chunk.requestId onWire.messageId event)
      ↔ ((machine size).run { limits } events).numbered % 2 ^ 32 < 2 ^ 31 := by
  have counted : Counted ((machine size).run { limits } events) := counted_run (counted_fresh limits) events
  have given := messageId_of_sent counted sent
  have found := @decodeFrame_encodeFrame frame bytes [] encoded
  rw [append_nil, arrived] at found
  cases found
  have wire : frame.received.messageId = frame.messageId % 2 ^ 32 := rfl
  rw [← toInt32_unsigned_iff, ← given, wire]
  refine ⟨And.left, fun same => ⟨same, fun event => ?_⟩⟩
  rw [← same]
  exact @releases_iff _ size event { requestId := chunk.requestId, messageId := frame.messageId } waits

end Releases

def downloadFrame : FramedMessage where
  type := HttpRequest
  messageId := 0
  payload := encodeHttpRequest
    { requestId := "1"
      method := "POST"
      path := "/"
      headers := ⟨[(VIDEO_DOWNLOAD_STREAM_HEADER, VIDEO_DOWNLOAD_STREAM_VERSION)], nodup_singleton _⟩
      body := [] }

def downloadChunk : SerializedHttpResponseChunk := ⟨"1", [7], false⟩

def chunkFrame (messageId : Int) : FramedMessage :=
  ⟨HttpResponseChunk, messageId, encodeHttpResponseChunk downloadChunk⟩

/-- The first chunk of a connection is released by the acknowledgement of its id. -/
theorem firstDownload_released :
    ((chunkFrame 0).messageId = (chunkFrame 0).messageId ∧
      ∀ event,
        .released { requestId := "1", messageId := 0 }
            ∈ (((machine ANTSEED_UPLOAD_CHUNK_SIZE).run { limits := {} }
              ([.handleFrame downloadFrame] ++ [.sendDownloadChunk downloadChunk])).turn
                ANTSEED_UPLOAD_CHUNK_SIZE event).effects
          ↔ Acknowledges "1" (chunkFrame 0).messageId event)
      ↔ ((machine ANTSEED_UPLOAD_CHUNK_SIZE).run { limits := {} } [.handleFrame downloadFrame]).numbered % 2 ^ 32
          < 2 ^ 31 :=
  downloads_released_iff ANTSEED_UPLOAD_CHUNK_SIZE {} [.handleFrame downloadFrame] [] downloadChunk
    (chunkFrame 0) (chunkFrame 0) _ 18 (by decide +kernel) rfl (by decide +kernel) (by decide +kernel)

/-- A connection with a download and any number of errors. -/
def agedMux (count : Nat) : ProxyMux :=
  { downloadControllers := {"1"}, messageIdCounter := toInt32 count, numbered := count }

theorem run_sendProxyError (count : Nat) :
    (machine ANTSEED_UPLOAD_CHUNK_SIZE).run (agedMux 0) (replicate count (.sendProxyError "1"))
      = agedMux count := by
  induction count with
  | zero => rfl
  | succ count ih =>
    have once : ((agedMux count).sendProxyError "1").mux = agedMux (count + 1) := by
      unfold sendProxyError safePost agedMux nextMessageId
      dsimp only
      rw [toInt32_succ]
      rfl
    rw [replicate_succ', Machine.run_concat, ih]
    exact once

/-- After 2 ^ 31 frames a chunk is sent with an id that arrives as another one, and the acknowledgement
    of what arrived does not release it. -/
theorem agedDownload_stalls :
    let mux := (machine ANTSEED_UPLOAD_CHUNK_SIZE).run { limits := {} }
      (.handleFrame downloadFrame :: replicate (2 ^ 31) (.sendProxyError "1"))
    let sent := mux.turn ANTSEED_UPLOAD_CHUNK_SIZE (.sendDownloadChunk downloadChunk)
    sent.effects = [.sent (chunkFrame (-2 ^ 31))] ∧
      (∃ bytes, encodeFrame (chunkFrame (-2 ^ 31)) = .ok bytes ∧
        decodeFrame bytes = .ok (some (chunkFrame (2 ^ 31), 18))) ∧
      (sent.mux.turn ANTSEED_UPLOAD_CHUNK_SIZE (.handleFrame
        ⟨MessageType.HttpResponseAck, 2 ^ 31, encodeHttpResponseChunk { downloadChunk with data := [] }⟩)).effects
          = [] := by
  have start : (machine ANTSEED_UPLOAD_CHUNK_SIZE).exec { limits := {} } (.handleFrame downloadFrame) = agedMux 0 := by
    decide +kernel
  rw [Machine.run_cons, start, run_sendProxyError]
  exact ⟨by decide +kernel, ⟨_, rfl, by decide +kernel⟩, by decide +kernel⟩

end AntSeed.Mux.ProxyMux
