import AntSeed.Lib.Machine
import AntSeed.Protocol.Framing
import AntSeed.Protocol.RequestCodec
import Mathlib.Data.Finset.Basic
import Mathlib.Data.PNat.Basic

/-! # The proxy multiplexer

Two peers have one connection for all requests between them. A large request goes as a start frame
without a body and then its body in slices, which the other side keeps, within limits, until the last
one is there. A download comes in chunks, each of which waits for its acknowledgement.

The calls below run until their end or their first await. What happens then is an event of its own.
-/

namespace AntSeed.Mux

open Protocol

namespace MessageType

def HttpRequest : Int := 0x20
def HttpResponse : Int := 0x21
def HttpResponseChunk : Int := 0x22
def HttpResponseEnd : Int := 0x23
def HttpResponseError : Int := 0x24
def HttpRequestChunk : Int := 0x25
def HttpRequestEnd : Int := 0x26
def HttpResponseAck : Int := 0x27
def HttpRequestCancel : Int := 0x28

end MessageType

def ANTSEED_STREAMING_RESPONSE_HEADER : String := "x-antseed-streaming"
def ANTSEED_UPLOAD_CHUNK_HEADER : String := "x-antseed-upload"
def ANTSEED_UPLOAD_THRESHOLD_BYTES : Nat := 240 * 1024
def ANTSEED_UPLOAD_CHUNK_SIZE : ℕ+ := ⟨8 * 1024, by decide⟩
def VIDEO_DOWNLOAD_STREAM_HEADER : String := "x-antseed-video-download"
def VIDEO_DOWNLOAD_STREAM_VERSION : String := "video-stream-v1"
def VIDEO_DOWNLOAD_CHUNK_BYTES : Nat := 64 * 1024
def DEFAULT_MAX_UPLOAD_BODY_BYTES : Nat := 64 * 1024 * 1024
def DEFAULT_MAX_TOTAL_PENDING_BYTES : Nat := 256 * 1024 * 1024

structure ProxyMuxUploadLimits where
  maxUploadBodyBytes : Nat := DEFAULT_MAX_UPLOAD_BODY_BYTES
  uploadThresholdBytes : Nat := ANTSEED_UPLOAD_THRESHOLD_BYTES
  maxTotalPendingUploadBytes : Nat := DEFAULT_MAX_TOTAL_PENDING_BYTES
  deriving DecidableEq

/-- An upload and the name under which the map has it. -/
structure PendingUpload where
  requestId : String
  headerReq : SerializedHttpRequest
  chunks : List (List UInt8)
  byteCount : Nat
  timer : Nat
  deriving DecidableEq

/-- An upload of which only the start is there. -/
def PendingUpload.new (request : SerializedHttpRequest) (timer : Nat) : PendingUpload :=
  { requestId := request.requestId, headerReq := request, chunks := [], byteCount := 0, timer }

def PendingUpload.push (entry : PendingUpload) (data : List UInt8) : PendingUpload :=
  { entry with chunks := entry.chunks ++ [data], byteCount := entry.byteCount + data.length }

def PendingUpload.request (entry : PendingUpload) : SerializedHttpRequest :=
  { entry.headerReq with
    headers := entry.headerReq.headers.erase ANTSEED_UPLOAD_CHUNK_HEADER
    body := entry.chunks.flatten }

/-- A chunk of a download that waits for its acknowledgement. -/
structure DownloadAck where
  requestId : String
  messageId : Int
  deriving DecidableEq

structure ProxyMux where
  limits : ProxyMuxUploadLimits := {}
  /-- What `send` of the connection throws at the moment. -/
  connectionFailure : Option String := none
  messageIdCounter : Int := 0
  /-- How many ids it has given out. Nothing reads it. -/
  numbered : Nat := 0
  responseHandlers : Finset String := ∅
  chunkHandlers : Finset String := ∅
  downloads : Finset String := ∅
  consumingDownloads : Finset String := ∅
  downloadControllers : Finset String := ∅
  downloadAcks : List DownloadAck := []
  requestHandler : Bool := false
  pendingUploads : List PendingUpload := []
  totalPendingUploadBytes : Int := 0
  /-- The armed timers of uploads, each with the request it is for. -/
  uploadTimers : List (Nat × String) := []
  nextTimer : Nat := 0
  /-- Requests that came in one frame and whose handler has not settled. -/
  handling : List String := []
  /-- Chunks of downloads whose handler has not settled, with the ids of their frames. -/
  consuming : List (SerializedHttpResponseChunk × Int) := []
  /-- Ends of streams whose handler has not settled. -/
  ending : List String := []
  deriving DecidableEq

/-- What others notice of a call. -/
inductive Effect where
  | sent (frame : FramedMessage)
  | requested (request : SerializedHttpRequest)
  | responded (response : SerializedHttpResponse) (streamingStart : Bool)
  | chunked (chunk : SerializedHttpResponseChunk)
  /-- The promise of `sendDownloadChunk` is fulfilled, or it is rejected. -/
  | released (ack : DownloadAck)
  | rejected (ack : DownloadAck) (message : String)
  deriving DecidableEq

/-- What a call has done, and what it threw at its end. -/
structure Turn where
  mux : ProxyMux
  effects : List Effect := []
  threw : Option String := none
  deriving DecidableEq

/-- What a `DataView` throws. -/
def OUT_OF_BOUNDS : String := "Offset is outside the bounds of the DataView"

def framingText : FramingError → String
  | .payloadTooLarge length => "Payload too large: " ++ toString length ++ " > " ++ toString MAX_PAYLOAD_SIZE
  | .payloadLengthExceeds length =>
    "Payload length " ++ toString length ++ " exceeds maximum " ++ toString MAX_PAYLOAD_SIZE

/-- The value of `value & 0xFFFFFFFF`. -/
def toInt32 (value : Int) : Int := (value + 2 ^ 31) % 2 ^ 32 - 2 ^ 31

/-- The slices of a body, each with whether it is the last one. -/
def slices (size : ℕ+) (body : List UInt8) : List (List UInt8 × Bool) :=
  if _ends : body = [] then []
  else (body.take size, body.length ≤ size) :: slices size (body.drop size)
termination_by body.length
decreasing_by
  have some_ := List.length_pos_of_ne_nil _ends
  have positive := size.pos
  rw [List.length_drop]
  omega

section

variable (request : SerializedHttpRequest)

/-- The request in the start frame of an upload. -/
def headerRequest : SerializedHttpRequest :=
  { request with headers := request.headers.set ANTSEED_UPLOAD_CHUNK_HEADER "chunked", body := [] }

/-- Type and payload of the frames of a body. -/
def bodyParts (size : ℕ+) (requestId : String) (body : List UInt8) : List (Int × List UInt8) :=
  (slices size body).map fun (data, done) =>
    (if done then MessageType.HttpRequestEnd else MessageType.HttpRequestChunk,
      encodeHttpRequestChunk { requestId, data, done })

/-- Type and payload of the frames of an upload. -/
def uploadParts (size : ℕ+) (request : SerializedHttpRequest) : List (Int × List UInt8) :=
  (MessageType.HttpRequest, encodeHttpRequest (headerRequest request)) ::
    bodyParts size request.requestId request.body

def isDownload : Bool :=
  request.headers.get VIDEO_DOWNLOAD_STREAM_HEADER = some VIDEO_DOWNLOAD_STREAM_VERSION

def isUpload : Bool :=
  request.headers.get ANTSEED_UPLOAD_CHUNK_HEADER = some "chunked"

/-- What a download has to look like: a small body, and no upload marker other than an empty one. -/
def isValidDownload : Bool :=
  request.method = "POST" ∧ request.body.length ≤ 4096 ∧
    ((request.headers.get ANTSEED_UPLOAD_CHUNK_HEADER).getD "") = ""

end

namespace ProxyMux

section

variable (mux : ProxyMux)

def nextMessageId : Int × ProxyMux :=
  (mux.messageIdCounter,
    { mux with messageIdCounter := toInt32 (mux.messageIdCounter + 1), numbered := mux.numbered + 1 })

/-- `connection.send(encodeFrame(frame))` -/
def sendFrame (frame : FramedMessage) : Turn :=
  match encodeFrame frame with
  | .error error => { mux, threw := some (framingText error) }
  | .ok _ =>
    match mux.connectionFailure with
    | some failure => { mux, threw := some failure }
    | none => { mux, effects := [.sent frame] }

def post (type : Int) (payload : List UInt8) : Turn :=
  let (messageId, mux) := mux.nextMessageId
  mux.sendFrame { type, messageId, payload }

/-- Frames with the next ids, as long as nothing throws. -/
def postAll (mux : ProxyMux) : List (Int × List UInt8) → Turn
  | [] => { mux }
  | (type, payload) :: parts =>
    let sent := mux.post type payload
    if sent.threw.isSome then sent
    else
      let later := sent.mux.postAll parts
      { later with effects := sent.effects ++ later.effects }

/-- `_safeSendFrame` of a frame with the next id: it is encoded before, and dropped if the connection
    does not take it. -/
def safePost (type : Int) (payload : List UInt8) : Turn :=
  let (messageId, mux) := mux.nextMessageId
  let frame := { type, messageId, payload }
  match encodeFrame frame with
  | .error error => { mux, threw := some (framingText error) }
  | .ok _ => { mux, effects := if mux.connectionFailure.isSome then [] else [.sent frame] }

def sendChunkedRequest (size : ℕ+) (request : SerializedHttpRequest) : Turn :=
  mux.postAll (uploadParts size request)

def sendProxyRequest (size : ℕ+) (request : SerializedHttpRequest) : Turn :=
  let useChunkedUpload := request.body.length > mux.limits.uploadThresholdBytes
  let mux :=
    { mux with
      responseHandlers := insert request.requestId mux.responseHandlers
      chunkHandlers := insert request.requestId mux.chunkHandlers
      downloads := if isDownload request then insert request.requestId mux.downloads else mux.downloads }
  if useChunkedUpload then mux.sendChunkedRequest size request
  else mux.postAll [(MessageType.HttpRequest, encodeHttpRequest request)]

section

variable (requestId : String)

def forgetHandlers : ProxyMux :=
  { mux with
    responseHandlers := mux.responseHandlers.erase requestId
    chunkHandlers := mux.chunkHandlers.erase requestId }

def forgetDownload : ProxyMux :=
  { mux with downloads := mux.downloads.erase requestId }

def cancelProxyRequest : Turn :=
  let forgotten := mux.forgetHandlers requestId
  if requestId ∈ forgotten.downloads then
    (forgotten.forgetDownload requestId).safePost MessageType.HttpRequestCancel
      (encodeHttpResponseChunk { requestId, data := [], done := false })
  else { mux := forgotten }

def downloadAck : Option DownloadAck :=
  Keyed.get DownloadAck.requestId requestId mux.downloadAcks

def forgetAck : ProxyMux :=
  { mux with downloadAcks := Keyed.erase DownloadAck.requestId requestId mux.downloadAcks }

/-- Its controller aborts the chunk that waits. -/
def finishDownload : Turn :=
  { mux :=
      { mux.forgetAck requestId with downloadControllers := mux.downloadControllers.erase requestId }
    effects :=
      if requestId ∈ mux.downloadControllers then
        (mux.downloadAck requestId).toList.map (.rejected · "Download cancelled")
      else [] }

end

def sendDownloadChunk (chunk : SerializedHttpResponseChunk) : Turn :=
  if chunk.requestId ∉ mux.downloadControllers then { mux, threw := some "Download cancelled" }
  else if chunk.data.length > VIDEO_DOWNLOAD_CHUNK_BYTES ∨ chunk.done then
    { mux, threw := some "Invalid download chunk" }
  else if (mux.downloadAck chunk.requestId).isSome then
    { mux, threw := some "Previous download chunk not acknowledged" }
  else
    let (messageId, mux) := mux.nextMessageId
    let ack := { requestId := chunk.requestId, messageId }
    let waiting := { mux with downloadAcks := Keyed.set DownloadAck.requestId ack mux.downloadAcks }
    let sent := waiting.sendFrame
      { type := MessageType.HttpResponseChunk, messageId, payload := encodeHttpResponseChunk chunk }
    match sent.threw with
    | some message => { mux := sent.mux.forgetAck chunk.requestId, effects := [.rejected ack message] }
    | none => sent

section

variable (requestId : String)

/-- No acknowledgement for thirty seconds. -/
def downloadTimeout : Turn :=
  { mux := mux.forgetAck requestId
    effects := (mux.downloadAck requestId).toList.map (.rejected · "Download consumer timed out") }

def sendProxyError : Turn :=
  mux.safePost MessageType.HttpResponseError
    (encodeHttpResponse { requestId, statusCode := 502, headers := .empty, body := [], streamedBody := none })

def onProxyRequest : ProxyMux := { mux with requestHandler := true }

def sendProxyResponse (response : SerializedHttpResponse) : Turn :=
  mux.safePost MessageType.HttpResponse (encodeHttpResponse response)

def sendProxyChunk (chunk : SerializedHttpResponseChunk) : Turn :=
  mux.safePost (if chunk.done then MessageType.HttpResponseEnd else MessageType.HttpResponseChunk)
    (encodeHttpResponseChunk chunk)

def pendingUpload : Option PendingUpload :=
  Keyed.get PendingUpload.requestId requestId mux.pendingUploads

def clearTimeout (timer : Nat) : ProxyMux :=
  { mux with uploadTimers := mux.uploadTimers.filter (·.1 ≠ timer) }

def dropUpload (entry : PendingUpload) : ProxyMux :=
  { mux.clearTimeout entry.timer with
    pendingUploads := Keyed.erase PendingUpload.requestId entry.requestId mux.pendingUploads
    totalPendingUploadBytes := mux.totalPendingUploadBytes - entry.byteCount }

def abortHeaders (limits : ProxyMuxUploadLimits) (statusCode : Int) : Record :=
  let headers := Record.empty.set "content-type" "text/plain"
  if statusCode = 413 then
    headers.set "x-antseed-max-upload-body-bytes" (toString limits.maxUploadBodyBytes)
  else headers

def abortUpload (statusCode : Int) (reason : String) : Turn :=
  match mux.pendingUpload requestId with
  | none => { mux }
  | some entry =>
    (mux.dropUpload entry).sendProxyResponse
      { requestId
        statusCode
        headers := abortHeaders mux.limits statusCode
        body := Utf8.encode reason
        streamedBody := none }

end

/-- A timer that is armed goes off. -/
def uploadTimeout (timer : Nat) : Turn :=
  match mux.uploadTimers.find? (·.1 = timer) with
  | none => { mux }
  | some (_, requestId) => (mux.clearTimeout timer).abortUpload requestId 408 "Upload timed out"

/-- An upload loses its timer and its bytes, but not its place in the map. -/
def evictUpload (requestId : String) : ProxyMux :=
  match mux.pendingUpload requestId with
  | none => mux
  | some existing =>
    { mux.clearTimeout existing.timer with
      totalPendingUploadBytes := mux.totalPendingUploadBytes - existing.byteCount }

/-- An upload begins, with a timer. One of the same request is evicted. -/
def startUpload (request : SerializedHttpRequest) : ProxyMux :=
  let evicted := mux.evictUpload request.requestId
  { evicted with
    pendingUploads :=
      Keyed.set PendingUpload.requestId (.new request evicted.nextTimer) evicted.pendingUploads
    uploadTimers := (evicted.nextTimer, request.requestId) :: evicted.uploadTimers
    nextTimer := evicted.nextTimer + 1 }

/-- Why a chunk is too much for an upload, or for all of them. -/
def refusal (entry : PendingUpload) (data : List UInt8) : Option String :=
  if entry.byteCount + data.length > mux.limits.maxUploadBodyBytes then
    some "Upload body exceeds per-request limit"
  else if mux.totalPendingUploadBytes + data.length > mux.limits.maxTotalPendingUploadBytes then
    some "Server upload capacity exceeded"
  else none

def keepChunk (entry : PendingUpload) (data : List UInt8) : ProxyMux :=
  { mux with
    pendingUploads := Keyed.set PendingUpload.requestId (entry.push data) mux.pendingUploads
    totalPendingUploadBytes := mux.totalPendingUploadBytes + data.length }

def finishUpload (entry : PendingUpload) : Turn :=
  { mux := mux.dropUpload entry
    effects := if mux.requestHandler then [.requested entry.request] else [] }

def receiveHttpRequest (payload : List UInt8) : Turn :=
  match decodeHttpRequest payload with
  | none => { mux, threw := some OUT_OF_BOUNDS }
  | some request =>
    if isDownload request ∧ ¬ isValidDownload request then { mux, threw := some "Invalid download request" }
    else if isDownload request ∧ request.requestId ∈ mux.downloadControllers then
      { mux, threw := some "Duplicate download request" }
    else
      let mux :=
        { mux with
          downloadControllers :=
            if isDownload request then insert request.requestId mux.downloadControllers
            else mux.downloadControllers }
      if isUpload request then { mux := mux.startUpload request }
      else if mux.requestHandler then
        { mux := { mux with handling := request.requestId :: mux.handling }, effects := [.requested request] }
      else { mux }

def requestHandled (requestId : String) : Turn :=
  if requestId ∈ mux.handling then
    { mux with handling := mux.handling.erase requestId }.finishDownload requestId
  else { mux }

def receiveHttpRequestChunk (payload : List UInt8) : Turn :=
  match decodeHttpRequestChunk payload with
  | none => { mux, threw := some OUT_OF_BOUNDS }
  | some chunk =>
    match mux.pendingUpload chunk.requestId with
    | none => { mux }
    | some entry =>
      if chunk.data = [] then { mux }
      else
        match mux.refusal entry chunk.data with
        | some reason => mux.abortUpload chunk.requestId 413 reason
        | none => { mux := mux.keepChunk entry chunk.data }

def receiveHttpRequestEnd (payload : List UInt8) : Turn :=
  match decodeHttpRequestChunk payload with
  | none => { mux, threw := some OUT_OF_BOUNDS }
  | some chunk =>
    match mux.pendingUpload chunk.requestId with
    | none => { mux }
    | some entry =>
      if chunk.data = [] then mux.finishUpload entry
      else
        match mux.refusal entry chunk.data with
        | some reason => mux.abortUpload chunk.requestId 413 reason
        | none => (mux.keepChunk entry chunk.data).finishUpload (entry.push chunk.data)

def receiveHttpResponse (payload : List UInt8) : Turn :=
  match decodeHttpResponse payload with
  | none => { mux, threw := some OUT_OF_BOUNDS }
  | some response =>
    if response.requestId ∉ mux.responseHandlers then { mux }
    else
      let streamingStart := response.headers.get ANTSEED_STREAMING_RESPONSE_HEADER = some "1"
      { mux :=
          if streamingStart then mux
          else (mux.forgetDownload response.requestId).forgetHandlers response.requestId
        effects := [.responded response streamingStart] }

def receiveHttpResponseChunk (frame : FramedMessage) : Turn :=
  match decodeHttpResponseChunk frame.payload with
  | none => { mux, threw := some OUT_OF_BOUNDS }
  | some chunk =>
    if chunk.requestId ∉ mux.chunkHandlers then { mux }
    else if chunk.requestId ∉ mux.downloads then { mux, effects := [.chunked chunk] }
    else if chunk.done ∨ chunk.data.length > VIDEO_DOWNLOAD_CHUNK_BYTES
        ∨ chunk.requestId ∈ mux.consumingDownloads then
      let cancelled := mux.cancelProxyRequest chunk.requestId
      { cancelled with threw := some (cancelled.threw.getD "Invalid download flow control") }
    else
      { mux :=
          { mux with
            consumingDownloads := insert chunk.requestId mux.consumingDownloads
            consuming := (chunk, frame.messageId) :: mux.consuming }
        effects := [.chunked chunk] }

/-- The handler of a download's chunk has settled. It is acknowledged under the id it came with. -/
def chunkHandled (chunk : SerializedHttpResponseChunk) (messageId : Int)
    (fulfilled : Bool) : Turn :=
  if (chunk, messageId) ∉ mux.consuming then { mux }
  else
    let settled := { mux with consuming := mux.consuming.erase (chunk, messageId) }
    let acknowledged :=
      if fulfilled ∧ chunk.requestId ∈ settled.downloads then
        settled.sendFrame
          { type := MessageType.HttpResponseAck
            messageId
            payload := encodeHttpResponseChunk { chunk with data := [] } }
      else { mux := settled }
    { acknowledged with
      mux :=
        { acknowledged.mux with
          consumingDownloads := acknowledged.mux.consumingDownloads.erase chunk.requestId } }

def receiveHttpResponseEnd (payload : List UInt8) : Turn :=
  match decodeHttpResponseChunk payload with
  | none => { mux, threw := some OUT_OF_BOUNDS }
  | some chunk =>
    if chunk.requestId ∈ mux.downloads ∧ (chunk.data ≠ [] ∨ chunk.requestId ∈ mux.consumingDownloads) then
      let cancelled := mux.cancelProxyRequest chunk.requestId
      { cancelled with threw := some (cancelled.threw.getD "Invalid download end") }
    else if chunk.requestId ∉ mux.chunkHandlers then { mux }
    else { mux := { mux with ending := chunk.requestId :: mux.ending }, effects := [.chunked chunk] }

/-- The handler of a stream's end has settled. -/
def endHandled (requestId : String) (fulfilled : Bool) : Turn :=
  if requestId ∉ mux.ending then { mux }
  else
    let settled := { mux with ending := mux.ending.erase requestId }
    { mux := if fulfilled then (settled.forgetDownload requestId).forgetHandlers requestId else settled }

def receiveHttpResponseError (payload : List UInt8) : Turn :=
  match decodeHttpResponse payload with
  | none => { mux, threw := some OUT_OF_BOUNDS }
  | some response =>
    if response.requestId ∉ mux.responseHandlers then { mux }
    else
      { mux := (mux.forgetHandlers response.requestId).forgetDownload response.requestId
        effects := [.responded response false] }

def receiveHttpResponseAck (frame : FramedMessage) : Turn :=
  match decodeHttpResponseChunk frame.payload with
  | none => { mux, threw := some OUT_OF_BOUNDS }
  | some chunk =>
    match mux.downloadAck chunk.requestId with
    | none => { mux }
    | some pending =>
      if pending.messageId = frame.messageId then
        { mux := mux.forgetAck chunk.requestId, effects := [.released pending] }
      else { mux }

def receiveHttpRequestCancel (payload : List UInt8) : Turn :=
  match decodeHttpResponseChunk payload with
  | none => { mux, threw := some OUT_OF_BOUNDS }
  | some chunk => mux.finishDownload chunk.requestId

/-- The branches of `handleFrame`. -/
def routeFrame (frame : FramedMessage) : Turn :=
  if frame.type = MessageType.HttpRequest then mux.receiveHttpRequest frame.payload
  else if frame.type = MessageType.HttpRequestChunk then mux.receiveHttpRequestChunk frame.payload
  else if frame.type = MessageType.HttpRequestEnd then mux.receiveHttpRequestEnd frame.payload
  else if frame.type = MessageType.HttpResponse then mux.receiveHttpResponse frame.payload
  else if frame.type = MessageType.HttpResponseChunk then mux.receiveHttpResponseChunk frame
  else if frame.type = MessageType.HttpResponseEnd then mux.receiveHttpResponseEnd frame.payload
  else if frame.type = MessageType.HttpResponseError then mux.receiveHttpResponseError frame.payload
  else if frame.type = MessageType.HttpResponseAck then mux.receiveHttpResponseAck frame
  else if frame.type = MessageType.HttpRequestCancel then mux.receiveHttpRequestCancel frame.payload
  else { mux }

def handleFrame (frame : FramedMessage) : Turn :=
  let routed := mux.routeFrame frame
  { routed with
    threw := routed.threw.map fun message =>
      "Failed to handle proxy frame type " ++ toString frame.type ++ ": " ++ message }

/-- All downloads are finished and all uploads dropped. -/
def abortPendingUploads : Turn :=
  { mux :=
      { mux with
        downloadControllers := ∅
        downloadAcks := mux.downloadAcks.filter (·.requestId ∉ mux.downloadControllers)
        uploadTimers := mux.uploadTimers.filter fun (timer, _) => timer ∉ mux.pendingUploads.map (·.timer)
        pendingUploads := []
        totalPendingUploadBytes := 0 }
    effects := (mux.downloadAcks.filter (·.requestId ∈ mux.downloadControllers)).map
      (.rejected · "Download cancelled") }

end

inductive Event where
  | sendProxyRequest (request : SerializedHttpRequest)
  | cancelProxyRequest (requestId : String)
  | finishDownload (requestId : String)
  | sendDownloadChunk (chunk : SerializedHttpResponseChunk)
  | sendProxyError (requestId : String)
  | onProxyRequest
  | sendProxyResponse (response : SerializedHttpResponse)
  | sendProxyChunk (chunk : SerializedHttpResponseChunk)
  | handleFrame (frame : FramedMessage)
  | abortPendingUploads
  | connection (failure : Option String)
  | uploadTimeout (timer : Nat)
  | downloadTimeout (requestId : String)
  | requestHandled (requestId : String)
  | chunkHandled (chunk : SerializedHttpResponseChunk) (messageId : Int) (fulfilled : Bool)
  | endHandled (requestId : String) (fulfilled : Bool)
  deriving DecidableEq

def turn (size : ℕ+) (mux : ProxyMux) : Event → Turn
  | .sendProxyRequest request => mux.sendProxyRequest size request
  | .cancelProxyRequest requestId => mux.cancelProxyRequest requestId
  | .finishDownload requestId => mux.finishDownload requestId
  | .sendDownloadChunk chunk => mux.sendDownloadChunk chunk
  | .sendProxyError requestId => mux.sendProxyError requestId
  | .onProxyRequest => { mux := mux.onProxyRequest }
  | .sendProxyResponse response => mux.sendProxyResponse response
  | .sendProxyChunk chunk => mux.sendProxyChunk chunk
  | .handleFrame frame => mux.handleFrame frame
  | .abortPendingUploads => mux.abortPendingUploads
  | .connection failure => { mux := { mux with connectionFailure := failure } }
  | .uploadTimeout timer => mux.uploadTimeout timer
  | .downloadTimeout requestId => mux.downloadTimeout requestId
  | .requestHandled requestId => mux.requestHandled requestId
  | .chunkHandled chunk messageId fulfilled => mux.chunkHandled chunk messageId fulfilled
  | .endHandled requestId fulfilled => mux.endHandled requestId fulfilled

/-- A multiplexer and what happens to it. A call that throws keeps what it has done before. -/
def machine (size : ℕ+) : Machine ProxyMux Event Empty where
  step mux event := .ok (mux.turn size event).mux

end ProxyMux

end AntSeed.Mux
