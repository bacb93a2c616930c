import AntSeed.Mux.ProxyMux
import Mathlib.Algebra.Order.BigOperators.Group.List

/-! # What uploads take up

Every call leaves the uploads alone or does one of a few things to them. Whatever is called, the
total is what the pending uploads have, and it stays within its limit.
-/

namespace AntSeed.Mux.ProxyMux

open Protocol MessageType
open Keyed PendingUpload

/-- The part of a multiplexer that is about uploads. -/
structure Uploads where
  limits : ProxyMuxUploadLimits
  requestHandler : Bool
  pendingUploads : List PendingUpload
  totalPendingUploadBytes : Int
  uploadTimers : List (Nat × String)
  nextTimer : Nat

def uploads (mux : ProxyMux) : Uploads where
  limits := mux.limits
  requestHandler := mux.requestHandler
  pendingUploads := mux.pendingUploads
  totalPendingUploadBytes := mux.totalPendingUploadBytes
  uploadTimers := mux.uploadTimers
  nextTimer := mux.nextTimer

/-- The requests that are given to the handler. -/
def requested (effects : List Effect) : List SerializedHttpRequest :=
  effects.filterMap fun
    | .requested request => some request
    | _ => none

/-- A call that leaves the uploads alone and gives nothing to the handler. -/
structure Leaves (mux : ProxyMux) (turn : Turn) : Prop where
  uploads : turn.mux.uploads = mux.uploads
  requested : requested turn.effects = []

section Leaves

variable {mux other : ProxyMux} {size : ℕ+} {turn : Turn}

theorem Leaves.of_uploads (left : Leaves other turn) (same : other.uploads = mux.uploads) : Leaves mux turn :=
  ⟨left.uploads.trans same, left.requested⟩

theorem Leaves.throws (left : Leaves mux turn) (message : Option String) :
    Leaves mux { turn with threw := message } := ⟨left.uploads, left.requested⟩

theorem requested_rejected (acks : List DownloadAck) (message : String) :
    requested (acks.map (.rejected · message)) = [] := by
  simp [requested, List.filterMap_map]

theorem leaves_nothing (threw : Option String) : Leaves mux { mux, threw } := ⟨rfl, rfl⟩

theorem leaves_sendFrame (frame : FramedMessage) : Leaves mux (mux.sendFrame frame) := by
  unfold sendFrame
  split
  · exact leaves_nothing _
  · split
    · exact leaves_nothing _
    · exact ⟨rfl, rfl⟩

theorem leaves_post (type : Int) (payload : List UInt8) : Leaves mux (mux.post type payload) :=
  (leaves_sendFrame _).of_uploads rfl

theorem leaves_postAll (parts : List (Int × List UInt8)) : Leaves mux (mux.postAll parts) := by
  induction parts generalizing mux with
  | nil => exact leaves_nothing none
  | cons part parts ih =>
    have first := @leaves_post mux part.1 part.2
    unfold postAll
    dsimp only
    split
    · exact first
    · refine ⟨ih.uploads.trans first.uploads, ?_⟩
      have second := (@ih (mux.post part.1 part.2).mux).requested
      unfold requested at second ⊢
      rw [List.filterMap_append, second, List.append_nil]
      exact first.requested

theorem leaves_safePost (type : Int) (payload : List UInt8) : Leaves mux (mux.safePost type payload) := by
  unfold safePost
  dsimp only
  split
  · exact (leaves_nothing _).of_uploads rfl
  · refine ⟨rfl, ?_⟩
    split
    · rfl
    · rfl

theorem leaves_sendProxyRequest (request : SerializedHttpRequest) :
    Leaves mux (mux.sendProxyRequest size request) := by
  unfold sendProxyRequest sendChunkedRequest
  dsimp only
  split
  · exact (leaves_postAll _).of_uploads rfl
  · exact (leaves_postAll _).of_uploads rfl

theorem leaves_cancelProxyRequest (requestId : String) : Leaves mux (mux.cancelProxyRequest requestId) := by
  unfold cancelProxyRequest
  dsimp only
  split
  · exact (leaves_safePost _ _).of_uploads rfl
  · exact (leaves_nothing none).of_uploads rfl

theorem leaves_finishDownload (requestId : String) : Leaves mux (mux.finishDownload requestId) := by
  refine ⟨rfl, ?_⟩
  unfold finishDownload
  dsimp only
  split
  · exact requested_rejected _ _
  · rfl

theorem uploads_forgetAck (mux : ProxyMux) (requestId : String) :
    (mux.forgetAck requestId).uploads = mux.uploads := rfl

theorem leaves_sendDownloadChunk (chunk : SerializedHttpResponseChunk) :
    Leaves mux (mux.sendDownloadChunk chunk) := by
  unfold sendDownloadChunk
  split
  · exact leaves_nothing _
  · split
    · exact leaves_nothing _
    · split
      · exact leaves_nothing _
      · dsimp only
        split
        · exact ⟨(uploads_forgetAck _ _).trans (leaves_sendFrame _).uploads, rfl⟩
        · exact (leaves_sendFrame _).of_uploads rfl

theorem leaves_downloadTimeout (requestId : String) : Leaves mux (mux.downloadTimeout requestId) :=
  ⟨rfl, requested_rejected _ _⟩

theorem leaves_requestHandled (requestId : String) : Leaves mux (mux.requestHandled requestId) := by
  unfold requestHandled
  split
  · exact (leaves_finishDownload _).of_uploads rfl
  · exact leaves_nothing none

theorem leaves_chunkHandled (chunk : SerializedHttpResponseChunk) (messageId : Int) (fulfilled : Bool) :
    Leaves mux (mux.chunkHandled chunk messageId fulfilled) := by
  unfold chunkHandled
  split
  · exact leaves_nothing none
  · extract_lets settled acknowledged
    have left : Leaves mux acknowledged := by
      unfold acknowledged
      split
      · exact (leaves_sendFrame _).of_uploads rfl
      · exact (leaves_nothing none).of_uploads rfl
    exact ⟨left.uploads, left.requested⟩

theorem leaves_endHandled (requestId : String) (fulfilled : Bool) :
    Leaves mux (mux.endHandled requestId fulfilled) := by
  unfold endHandled
  dsimp only
  split
  · exact leaves_nothing none
  · split
    · exact ⟨rfl, rfl⟩
    · exact ⟨rfl, rfl⟩

/-- The frames that a seller gets of a request and its body. -/
def isUploadType (type : Int) : Bool :=
  type = HttpRequest ∨ type = HttpRequestChunk ∨ type = HttpRequestEnd

theorem leaves_receiveHttpResponse (payload : List UInt8) : Leaves mux (mux.receiveHttpResponse payload) := by
  unfold receiveHttpResponse
  split
  · exact leaves_nothing _
  · split
    · exact leaves_nothing none
    · refine ⟨?_, rfl⟩
      dsimp only
      split
      · rfl
      · rfl

theorem leaves_receiveHttpResponseChunk (frame : FramedMessage) :
    Leaves mux (mux.receiveHttpResponseChunk frame) := by
  unfold receiveHttpResponseChunk
  split
  · exact leaves_nothing _
  · split
    · exact leaves_nothing none
    · split
      · exact ⟨rfl, rfl⟩
      · split
        · exact (leaves_cancelProxyRequest _).throws _
        · exact ⟨rfl, rfl⟩

theorem leaves_receiveHttpResponseEnd (payload : List UInt8) :
    Leaves mux (mux.receiveHttpResponseEnd payload) := by
  unfold receiveHttpResponseEnd
  split
  · exact leaves_nothing _
  · split
    · exact (leaves_cancelProxyRequest _).throws _
    · split
      · exact leaves_nothing none
      · exact ⟨rfl, rfl⟩

theorem leaves_receiveHttpResponseError (payload : List UInt8) :
    Leaves mux (mux.receiveHttpResponseError payload) := by
  unfold receiveHttpResponseError
  split
  · exact leaves_nothing _
  · split
    · exact leaves_nothing none
    · exact ⟨rfl, rfl⟩

theorem leaves_receiveHttpResponseAck (frame : FramedMessage) :
    Leaves mux (mux.receiveHttpResponseAck frame) := by
  unfold receiveHttpResponseAck
  split
  · exact leaves_nothing _
  · split
    · exact leaves_nothing none
    · split
      · exact ⟨rfl, rfl⟩
      · exact leaves_nothing none

theorem leaves_receiveHttpRequestCancel (payload : List UInt8) :
    Leaves mux (mux.receiveHttpRequestCancel payload) := by
  unfold receiveHttpRequestCancel
  split
  · exact leaves_nothing _
  · exact leaves_finishDownload _

theorem leaves_handleFrame (other : isUploadType frame.type = false) :
    Leaves mux (mux.handleFrame frame) := by
  simp only [isUploadType, decide_eq_false_iff_not, not_or] at other
  refine Leaves.throws ?_ _
  unfold routeFrame
  rw [if_neg other.1, if_neg other.2.1, if_neg other.2.2]
  split
  · exact leaves_receiveHttpResponse _
  · split
    · exact leaves_receiveHttpResponseChunk _
    · split
      · exact leaves_receiveHttpResponseEnd _
      · split
        · exact leaves_receiveHttpResponseError _
        · split
          · exact leaves_receiveHttpResponseAck _
          · split
            · exact leaves_receiveHttpRequestCancel _
            · exact leaves_nothing none

/-- The events that do something to uploads. -/
def Event.concernsUploads : Event → Bool
  | .handleFrame frame => isUploadType frame.type
  | .onProxyRequest | .abortPendingUploads | .uploadTimeout _ => true
  | _ => false

theorem leaves_turn (other : event.concernsUploads = false) :
    Leaves mux (mux.turn size event) := by
  cases event with
  | sendProxyRequest request => exact leaves_sendProxyRequest request
  | cancelProxyRequest requestId => exact leaves_cancelProxyRequest requestId
  | finishDownload requestId => exact leaves_finishDownload requestId
  | sendDownloadChunk chunk => exact leaves_sendDownloadChunk chunk
  | sendProxyError | sendProxyResponse | sendProxyChunk => exact leaves_safePost _ _
  | onProxyRequest | abortPendingUploads | uploadTimeout => cases other
  | handleFrame => exact leaves_handleFrame other
  | connection => exact ⟨rfl, rfl⟩
  | downloadTimeout requestId => exact leaves_downloadTimeout requestId
  | requestHandled requestId => exact leaves_requestHandled requestId
  | chunkHandled chunk messageId fulfilled => exact leaves_chunkHandled chunk messageId fulfilled
  | endHandled requestId fulfilled => exact leaves_endHandled requestId fulfilled

end Leaves

/-! ## What the other events do -/

section Changes

variable {mux : ProxyMux} {payload : List UInt8} {request : SerializedHttpRequest}
  {chunk : SerializedHttpRequestChunk} {entry : PendingUpload} {reason : String}

theorem uploads_abortUpload (known : mux.pendingUpload entry.requestId = some entry) (statusCode : Int) :
    (mux.abortUpload entry.requestId statusCode reason).mux.uploads = (mux.dropUpload entry).uploads ∧
      requested (mux.abortUpload entry.requestId statusCode reason).effects = [] := by
  have sent := @leaves_safePost (mux.dropUpload entry) HttpResponse (encodeHttpResponse
    { requestId := entry.requestId
      statusCode
      headers := abortHeaders mux.limits statusCode
      body := Utf8.encode reason
      streamedBody := none })
  unfold abortUpload
  rw [known]
  exact ⟨sent.uploads, sent.requested⟩

theorem uploads_startUpload (controllers : Finset String) :
    ({ mux with downloadControllers := controllers }.startUpload request).uploads
      = (mux.startUpload request).uploads := by
  have same : { mux with downloadControllers := controllers }.pendingUpload request.requestId
      = mux.pendingUpload request.requestId := rfl
  unfold startUpload evictUpload
  rw [same]
  cases mux.pendingUpload request.requestId with
  | none | some => rfl

/-- A request either is refused as a download, or begins an upload, or is given to the handler. -/
inductive ReceivesRequest (mux : ProxyMux) (request : SerializedHttpRequest) (turn : Turn) : Prop where
  | refused (download : isDownload request) (threw : turn.threw ≠ none) (leaves : Leaves mux turn)
  | began (marked : isUpload request) (accepted : turn.threw = none)
      (uploads : turn.mux.uploads = (mux.startUpload request).uploads) (requested : requested turn.effects = [])
  | came (unmarked : isUpload request = false) (accepted : turn.threw = none)
      (uploads : turn.mux.uploads = mux.uploads)
      (requested : requested turn.effects = if mux.requestHandler then [request] else [])

theorem receivesRequest (decoded : decodeHttpRequest payload = some request) :
    ReceivesRequest mux request (mux.receiveHttpRequest payload) := by
  unfold receiveHttpRequest
  rw [decoded]
  dsimp only
  split
  next bad => exact .refused bad.1 (Option.some_ne_none _) (leaves_nothing _)
  · split
    next twice => exact .refused twice.1 (Option.some_ne_none _) (leaves_nothing _)
    · split
      next marked => exact .began marked rfl (uploads_startUpload _) rfl
      next unmarked =>
        split
        next handles => exact .came (eq_false_of_ne_true unmarked) rfl rfl (by rw [if_pos handles]; rfl)
        next deaf => exact .came (eq_false_of_ne_true unmarked) rfl rfl (by rw [if_neg deaf]; rfl)

/-- A chunk is of no upload, or too much, or it is kept. -/
inductive ReceivesChunk (mux : ProxyMux) (chunk : SerializedHttpRequestChunk) (turn : Turn) : Prop where
  | stray (unknown : mux.pendingUpload chunk.requestId = none) (leaves : Leaves mux turn)
  | empty (nothing : chunk.data = []) (leaves : Leaves mux turn)
  | refused (entry : PendingUpload) (known : mux.pendingUpload chunk.requestId = some entry)
      (proper : chunk.data ≠ []) (refused : mux.refusal entry chunk.data ≠ none)
      (uploads : turn.mux.uploads = (mux.dropUpload entry).uploads) (requested : requested turn.effects = [])
  | kept (entry : PendingUpload) (known : mux.pendingUpload chunk.requestId = some entry)
      (proper : chunk.data ≠ []) (fits : mux.refusal entry chunk.data = none)
      (uploads : turn.mux.uploads = (mux.keepChunk entry chunk.data).uploads)
      (requested : requested turn.effects = [])

theorem named_of_pendingUpload {requestId : String} (known : mux.pendingUpload requestId = some entry) :
    entry ∈ mux.pendingUploads ∧ entry.requestId = requestId := mem_of_get known

theorem receivesChunk (decoded : decodeHttpRequestChunk payload = some chunk) :
    ReceivesChunk mux chunk (mux.receiveHttpRequestChunk payload) := by
  unfold receiveHttpRequestChunk
  rw [decoded]
  dsimp only
  split
  next unknown => exact .stray unknown (leaves_nothing none)
  next entry known =>
    have named := (named_of_pendingUpload known).2
    split
    next nothing => exact .empty nothing (leaves_nothing none)
    next proper =>
      split
      next reason refused =>
        have aborted := @uploads_abortUpload mux entry reason (named ▸ known) 413
        rw [named] at aborted
        exact .refused entry known proper (by simp [refused]) aborted.1 aborted.2
      next fits => exact .kept entry known proper fits rfl rfl

/-- What the handler gets of an upload that is complete. -/
def handed (mux : ProxyMux) (entry : PendingUpload) : List SerializedHttpRequest :=
  if mux.requestHandler then [entry.request] else []

theorem requested_finishUpload : requested (mux.finishUpload entry).effects = mux.handed entry := by
  unfold finishUpload handed
  dsimp only
  split
  · rfl
  · rfl

/-- An end is of no upload, or too much, or the upload is complete. -/
inductive ReceivesEnd (mux : ProxyMux) (chunk : SerializedHttpRequestChunk) (turn : Turn) : Prop where
  | stray (unknown : mux.pendingUpload chunk.requestId = none) (leaves : Leaves mux turn)
  | refused (entry : PendingUpload) (known : mux.pendingUpload chunk.requestId = some entry)
      (proper : chunk.data ≠ []) (refused : mux.refusal entry chunk.data ≠ none)
      (uploads : turn.mux.uploads = (mux.dropUpload entry).uploads) (requested : requested turn.effects = [])
  | empty (entry : PendingUpload) (known : mux.pendingUpload chunk.requestId = some entry)
      (nothing : chunk.data = []) (uploads : turn.mux.uploads = (mux.dropUpload entry).uploads)
      (requested : requested turn.effects = mux.handed entry)
  | complete (entry : PendingUpload) (known : mux.pendingUpload chunk.requestId = some entry)
      (proper : chunk.data ≠ []) (fits : mux.refusal entry chunk.data = none)
      (uploads : turn.mux.uploads = ((mux.keepChunk entry chunk.data).dropUpload (entry.push chunk.data)).uploads)
      (requested : requested turn.effects = mux.handed (entry.push chunk.data))

theorem receivesEnd (decoded : decodeHttpRequestChunk payload = some chunk) :
    ReceivesEnd mux chunk (mux.receiveHttpRequestEnd payload) := by
  unfold receiveHttpRequestEnd
  rw [decoded]
  dsimp only
  split
  next unknown => exact .stray unknown (leaves_nothing none)
  next entry known =>
    have named := (named_of_pendingUpload known).2
    split
    next nothing => exact .empty entry known nothing rfl requested_finishUpload
    next proper =>
      split
      next reason refused =>
        have aborted := @uploads_abortUpload mux entry reason (named ▸ known) 413
        rw [named] at aborted
        exact .refused entry known proper (by simp [refused]) aborted.1 aborted.2
      next fits => exact .complete entry known proper fits rfl requested_finishUpload

end Changes

/-! ## The invariant -/

structure Accounted (mux : ProxyMux) : Prop where
  distinct : (mux.pendingUploads.map requestId).Nodup
  total : mux.totalPendingUploadBytes = (mux.pendingUploads.map fun entry => (entry.byteCount : Int)).sum
  within : mux.totalPendingUploadBytes ≤ mux.limits.maxTotalPendingUploadBytes
  counted : ∀ entry ∈ mux.pendingUploads, entry.byteCount = entry.chunks.flatten.length
  armed : ∀ entry ∈ mux.pendingUploads, (entry.timer, entry.requestId) ∈ mux.uploadTimers
  owned : ∀ timer ∈ mux.uploadTimers,
    ∃ entry ∈ mux.pendingUploads, entry.timer = timer.1 ∧ entry.requestId = timer.2
  apart : (mux.uploadTimers.map Prod.fst).Nodup
  fresh : ∀ timer ∈ mux.uploadTimers, timer.1 < mux.nextTimer

section Invariant

variable {mux next : ProxyMux} {entry other : PendingUpload} {request : SerializedHttpRequest}
  {data : List UInt8} {size : ℕ+}

theorem Accounted.congr (accounted : Accounted mux) (same : next.uploads = mux.uploads) : Accounted next := by
  have pending : next.pendingUploads = mux.pendingUploads := congrArg Uploads.pendingUploads same
  have total : next.totalPendingUploadBytes = mux.totalPendingUploadBytes :=
    congrArg Uploads.totalPendingUploadBytes same
  have limits : next.limits = mux.limits := congrArg Uploads.limits same
  have timers : next.uploadTimers = mux.uploadTimers := congrArg Uploads.uploadTimers same
  have nextTimer : next.nextTimer = mux.nextTimer := congrArg Uploads.nextTimer same
  constructor
  · exact pending ▸ accounted.distinct
  · rw [total, pending]
    exact accounted.total
  · rw [total, limits]
    exact accounted.within
  · exact pending ▸ accounted.counted
  · rw [pending, timers]
    exact accounted.armed
  · rw [pending, timers]
    exact accounted.owned
  · exact timers ▸ accounted.apart
  · rw [timers, nextTimer]
    exact accounted.fresh

theorem Accounted.nonneg (accounted : Accounted mux) : 0 ≤ mux.totalPendingUploadBytes := by
  rw [accounted.total]
  exact List.sum_nonneg (by simp)

theorem accounted_fresh (limits : ProxyMuxUploadLimits) (requestHandler : Bool) :
    Accounted { limits, requestHandler } where
  distinct := .nil
  total := rfl
  within := Int.natCast_nonneg _
  counted _ here := absurd here List.not_mem_nil
  armed _ here := absurd here List.not_mem_nil
  owned _ here := absurd here List.not_mem_nil
  apart := .nil
  fresh _ here := absurd here List.not_mem_nil

theorem Accounted.timer_inj (accounted : Accounted mux) (here : entry ∈ mux.pendingUploads)
    (there : other ∈ mux.pendingUploads) (same : entry.timer = other.timer) : entry = other := by
  have one := accounted.armed entry here
  have two := accounted.armed other there
  have pair := List.inj_on_of_nodup_map accounted.apart one two same
  exact List.inj_on_of_nodup_map accounted.distinct here there (Prod.mk.inj pair).2

theorem mem_dropUpload : other ∈ (mux.dropUpload entry).pendingUploads
    ↔ other ∈ mux.pendingUploads ∧ other.requestId ≠ entry.requestId := by
  simp [dropUpload, erase]

section

variable (accounted : Accounted mux) (known : mux.pendingUpload entry.requestId = some entry)

include accounted known

theorem accounted_dropUpload : Accounted (mux.dropUpload entry) := by
  have here := (named_of_pendingUpload known).1
  constructor
  · exact nodup_keys_erase accounted.distinct
  · have sum := @Keyed.sum_erase _ _ _ requestId mux.pendingUploads entry.requestId _ _
      (fun entry => (entry.byteCount : Int)) accounted.distinct
    change _ + (mux.pendingUpload entry.requestId).elim 0 _ = _ at sum
    rw [known] at sum
    change mux.totalPendingUploadBytes - entry.byteCount = _
    rw [accounted.total, ← sum]
    exact Int.add_sub_cancel _ _
  · exact (Int.sub_le_self _ (Int.natCast_nonneg _)).trans accounted.within
  · exact fun other there => accounted.counted other (mem_dropUpload.mp there).1
  · intro other there
    obtain ⟨there, differs⟩ := mem_dropUpload.mp there
    have apart : other.timer ≠ entry.timer := fun same =>
      differs (congrArg _ (accounted.timer_inj there here same))
    exact List.mem_filter.mpr ⟨accounted.armed other there, by simpa using apart⟩
  · intro timer there
    obtain ⟨there, differs⟩ := List.mem_filter.mp there
    obtain ⟨other, member, timed, named⟩ := accounted.owned timer there
    refine ⟨other, mem_dropUpload.mpr ⟨member, fun same => ?_⟩, timed, named⟩
    have alike := List.inj_on_of_nodup_map accounted.distinct member here same
    rw [← timed, alike] at differs
    simp at differs
  · exact accounted.apart.sublist (List.filter_sublist.map _)
  · exact fun timer there => accounted.fresh timer (List.mem_filter.mp there).1

theorem accounted_keepChunk
    (fits : mux.refusal entry data = none) :
    Accounted (mux.keepChunk entry data) := by
  have here := (named_of_pendingUpload known).1
  have arise : ∀ {other}, other ∈ (mux.keepChunk entry data).pendingUploads →
      other = entry.push data ∨ other ∈ mux.pendingUploads := mem_of_mem_set
  constructor
  · exact nodup_keys_set accounted.distinct
  · have sum := @Keyed.sum_set _ _ _ requestId (entry.push data) mux.pendingUploads _ _
      (fun entry => (entry.byteCount : Int))
    change _ + (mux.pendingUpload entry.requestId).elim 0 _ = _ at sum
    rw [known, ← accounted.total] at sum
    change _ + (entry.byteCount : Int) = mux.totalPendingUploadBytes + ((entry.byteCount + data.length : Nat) : Int)
      at sum
    change mux.totalPendingUploadBytes + data.length = (List.map _ (set _ _ _)).sum
    omega
  · unfold refusal at fits
    split at fits
    · cases fits
    · split at fits
      · cases fits
      next within => exact not_lt.mp within
  · intro other there
    rcases arise there with rfl | there
    · have before := accounted.counted entry here
      simp [push, before]
    · exact accounted.counted other there
  · intro other there
    rcases arise there with rfl | there
    · exact accounted.armed entry here
    · exact accounted.armed other there
  · intro timer there
    obtain ⟨other, member, timed, named⟩ := accounted.owned timer there
    by_cases same : other.requestId = entry.requestId
    · have alike := List.inj_on_of_nodup_map accounted.distinct member here same
      exact ⟨entry.push data, mem_set_self, alike ▸ timed, alike ▸ named⟩
    · exact ⟨other, mem_set_of_ne member same, timed, named⟩
  · exact accounted.apart
  · exact accounted.fresh

end

/-- What an eviction leaves. -/
structure Evicts (mux : ProxyMux) (requestId : String) (evicted : ProxyMux) : Prop where
  pendingUploads : evicted.pendingUploads = mux.pendingUploads
  total : evicted.totalPendingUploadBytes
    + ((mux.pendingUpload requestId).elim 0 fun entry => (entry.byteCount : Int)) = mux.totalPendingUploadBytes
  limits : evicted.limits = mux.limits
  timers : ∀ timer, timer ∈ evicted.uploadTimers ↔ timer ∈ mux.uploadTimers ∧ timer.2 ≠ requestId
  fewer : evicted.uploadTimers.Sublist mux.uploadTimers
  nextTimer : evicted.nextTimer = mux.nextTimer

theorem evicts_evictUpload (accounted : Accounted mux) (requestId : String) :
    Evicts mux requestId (mux.evictUpload requestId) := by
  unfold evictUpload
  cases known : mux.pendingUpload requestId with
  | none =>
    refine ⟨rfl, by simp [known], rfl, ?_, List.Sublist.refl _, rfl⟩
    intro timer
    refine ⟨fun there => ⟨there, fun same => ?_⟩, And.left⟩
    obtain ⟨entry, here, -, named⟩ := accounted.owned timer there
    rw [pendingUpload, get_eq_none_iff] at known
    exact known (same ▸ named ▸ List.mem_map_of_mem here)
  | some existing =>
    obtain ⟨here, named⟩ := named_of_pendingUpload known
    refine ⟨rfl, by simp [known], rfl, ?_, List.filter_sublist, rfl⟩
    intro timer
    have mine : timer ∈ mux.uploadTimers → (timer.1 = existing.timer ↔ timer.2 = requestId) := by
      intro there
      obtain ⟨entry, member, timed, owner⟩ := accounted.owned timer there
      constructor
      · intro same
        have alike := accounted.timer_inj member here (timed.trans same)
        rw [← owner, alike, named]
      · intro same
        have alike := List.inj_on_of_nodup_map accounted.distinct member here (by rw [owner, same, named])
        rw [← timed, alike]
    dsimp only [clearTimeout]
    rw [List.mem_filter, decide_eq_true_iff]
    exact and_congr_right fun there => not_congr (mine there)

theorem accounted_startUpload (accounted : Accounted mux) : Accounted (mux.startUpload request) := by
  obtain ⟨pending, total, limits, timers, fewer, nextTimer⟩ := evicts_evictUpload accounted request.requestId
  unfold startUpload
  dsimp only
  rw [pending, nextTimer]
  have distinct := @Keyed.nodup_keys_set _ _ _ requestId (.new request mux.nextTimer) _
    accounted.distinct
  -- an upload of another request was there before
  have before : ∀ {other}, other ∈ set requestId (.new request mux.nextTimer)
      mux.pendingUploads → other = .new request mux.nextTimer
        ∨ other ∈ mux.pendingUploads ∧ other.requestId ≠ request.requestId := by
    intro other there
    by_cases same : other.requestId = request.requestId
    · exact .inl (List.inj_on_of_nodup_map distinct there mem_set_self same)
    · rcases mem_of_mem_set there with rfl | there
      · exact absurd rfl same
      · exact .inr ⟨there, same⟩
  constructor
  · exact distinct
  · have sum := @Keyed.sum_set _ _ _ requestId (.new request mux.nextTimer)
      mux.pendingUploads _ _ (fun entry => (entry.byteCount : Int))
    rw [← accounted.total, ← total] at sum
    change _ + (mux.pendingUpload request.requestId).elim 0 _ = _ + 0 at sum
    dsimp only
    omega
  · have within := accounted.within
    have least : 0 ≤ (mux.pendingUpload request.requestId).elim 0 fun entry => (entry.byteCount : Int) := by
      cases mux.pendingUpload request.requestId with
      | none => exact le_rfl
      | some => exact Int.natCast_nonneg _
    dsimp only
    rw [limits]
    omega
  · intro other there
    rcases before there with rfl | ⟨there, -⟩
    · rfl
    · exact accounted.counted other there
  · intro other there
    rcases before there with rfl | ⟨there, differs⟩
    · exact List.mem_cons_self
    · exact List.mem_cons_of_mem _ ((timers _).mpr ⟨accounted.armed other there, differs⟩)
  · intro timer there
    rcases List.mem_cons.mp there with rfl | there
    · exact ⟨_, mem_set_self, rfl, rfl⟩
    · obtain ⟨there, differs⟩ := (timers timer).mp there
      obtain ⟨other, member, timed, named⟩ := accounted.owned timer there
      exact ⟨other, mem_set_of_ne member (named ▸ differs), timed, named⟩
  · refine List.nodup_cons.mpr ⟨fun there => ?_, accounted.apart.sublist (fewer.map _)⟩
    obtain ⟨timer, there, same⟩ := List.mem_map.mp there
    exact absurd (accounted.fresh timer (fewer.subset there)) (not_lt.mpr same.ge)
  · intro timer there
    rcases List.mem_cons.mp there with rfl | there
    · exact Nat.lt_succ_self _
    · exact (accounted.fresh timer (fewer.subset there)).trans (Nat.lt_succ_self _)

end Invariant

/-! ## Finding an upload -/

section Finding

variable {mux next : ProxyMux} {entry : PendingUpload} {request : SerializedHttpRequest} {data : List UInt8}
  {requestId : String}

theorem pendingUpload_congr (same : next.uploads = mux.uploads) (requestId : String) :
    next.pendingUpload requestId = mux.pendingUpload requestId :=
  congrArg (Keyed.get PendingUpload.requestId requestId) (congrArg Uploads.pendingUploads same)

theorem pendingUpload_dropUpload : (mux.dropUpload entry).pendingUpload requestId
    = if requestId = entry.requestId then none else mux.pendingUpload requestId := get_erase

theorem pendingUpload_keepChunk : (mux.keepChunk entry data).pendingUpload requestId
    = if requestId = entry.requestId then some (entry.push data) else mux.pendingUpload requestId :=
  get_set

theorem pendingUploads_evictUpload : (mux.evictUpload requestId).pendingUploads = mux.pendingUploads := by
  unfold evictUpload
  split
  · rfl
  · rfl

theorem pendingUpload_startUpload : (mux.startUpload request).pendingUpload requestId
    = if requestId = request.requestId then
        some (.new request (mux.evictUpload request.requestId).nextTimer)
      else mux.pendingUpload requestId := by
  unfold startUpload pendingUpload
  dsimp only
  rw [get_set, pendingUploads_evictUpload]
  rfl

theorem pendingUpload_of_mem (accounted : Accounted mux) (here : entry ∈ mux.pendingUploads) :
    mux.pendingUpload entry.requestId = some entry := get_of_mem accounted.distinct here

end Finding

/-! ## Runs -/

variable {mux : ProxyMux} {size : ℕ+} {event : Event} {timer : Nat} {requestId : String} {frame : FramedMessage}

/-- A timer that goes off drops the upload it was set for. -/
inductive TimesOut (mux : ProxyMux) (timer : Nat) (turn : Turn) : Prop where
  | idle (unarmed : ∀ requestId, (timer, requestId) ∉ mux.uploadTimers) (leaves : Leaves mux turn)
  | dropped (entry : PendingUpload) (known : mux.pendingUpload entry.requestId = some entry)
      (timed : entry.timer = timer) (uploads : turn.mux.uploads = (mux.dropUpload entry).uploads)
      (requested : requested turn.effects = [])

theorem timesOut (accounted : Accounted mux) (timer : Nat) : TimesOut mux timer (mux.uploadTimeout timer) := by
  unfold uploadTimeout
  split
  next unarmed =>
    refine .idle (fun requestId armed => ?_) (leaves_nothing none)
    have differs := List.find?_eq_none.mp unarmed _ armed
    simp at differs
  next number requestId found =>
    have same : number = timer := by simpa using List.find?_some found
    obtain ⟨entry, here, timed, rfl⟩ := accounted.owned _ (List.mem_of_find?_eq_some found)
    have known := pendingUpload_of_mem accounted here
    have aborted := @uploads_abortUpload (mux.clearTimeout timer) entry "Upload timed out" known 408
    refine .dropped entry known (timed.trans same) (aborted.1.trans ?_) aborted.2
    have once : ((mux.clearTimeout timer).clearTimeout entry.timer).uploadTimers
        = (mux.clearTimeout entry.timer).uploadTimers := by
      rw [show entry.timer = timer from timed.trans same]
      simp [clearTimeout, List.filter_filter]
    simp only [uploads, dropUpload, once]
    rfl

theorem leaves_undecoded (undecoded : decodeHttpRequest frame.payload = none) :
    Leaves mux (mux.receiveHttpRequest frame.payload) := by
  unfold receiveHttpRequest
  rw [undecoded]
  exact leaves_nothing _

theorem leaves_undecoded_chunk (undecoded : decodeHttpRequestChunk frame.payload = none) :
    Leaves mux (mux.receiveHttpRequestChunk frame.payload) ∧
      Leaves mux (mux.receiveHttpRequestEnd frame.payload) := by
  unfold receiveHttpRequestChunk receiveHttpRequestEnd
  rw [undecoded]
  exact ⟨leaves_nothing _, leaves_nothing _⟩

theorem routeFrame_request (type : frame.type = HttpRequest) :
    mux.routeFrame frame = mux.receiveHttpRequest frame.payload := if_pos type

theorem routeFrame_chunk (type : frame.type = HttpRequestChunk) :
    mux.routeFrame frame = mux.receiveHttpRequestChunk frame.payload := by
  rw [routeFrame, if_neg (by rw [type]; decide), if_pos type]

theorem routeFrame_end (type : frame.type = HttpRequestEnd) :
    mux.routeFrame frame = mux.receiveHttpRequestEnd frame.payload := by
  rw [routeFrame, if_neg (by rw [type]; decide), if_neg (by rw [type]; decide), if_pos type]

/-- An upload begins with a frame that is read as a request of its name. -/
def Begins (requestId : String) (event : Event) : Prop :=
  ∃ frame request, event = .handleFrame frame ∧ frame.type = HttpRequest ∧
    decodeHttpRequest frame.payload = some request ∧ request.requestId = requestId

/-- Everything that an event can do to the uploads. -/
inductive Uploaded (mux : ProxyMux) (event : Event) (next : ProxyMux) : Prop where
  | same (uploads : next.uploads = mux.uploads)
  | started (request : SerializedHttpRequest) (begins : Begins request.requestId event)
      (uploads : next.uploads = (mux.startUpload request).uploads)
  | dropped (entry : PendingUpload) (known : mux.pendingUpload entry.requestId = some entry)
      (uploads : next.uploads = (mux.dropUpload entry).uploads)
  | kept (entry : PendingUpload) (data : List UInt8) (known : mux.pendingUpload entry.requestId = some entry)
      (fits : mux.refusal entry data = none) (uploads : next.uploads = (mux.keepChunk entry data).uploads)
  | completed (entry : PendingUpload) (data : List UInt8)
      (known : mux.pendingUpload entry.requestId = some entry) (fits : mux.refusal entry data = none)
      (uploads : next.uploads = ((mux.keepChunk entry data).dropUpload (entry.push data)).uploads)
  | registered (uploads : next.uploads = mux.onProxyRequest.uploads)
  | reset (uploads : next.uploads = mux.abortPendingUploads.mux.uploads)

theorem uploaded_request (type : frame.type = HttpRequest) :
    Uploaded mux (.handleFrame frame) (mux.receiveHttpRequest frame.payload).mux := by
  cases decoded : decodeHttpRequest frame.payload with
  | none => exact .same (leaves_undecoded decoded).uploads
  | some request =>
    cases @receivesRequest mux _ _ decoded with
    | refused _ _ leaves => exact .same leaves.uploads
    | began _ _ uploads => exact .started request ⟨frame, request, rfl, type, decoded, rfl⟩ uploads
    | came _ _ uploads => exact .same uploads

theorem uploaded_chunk (frame : FramedMessage) :
    Uploaded mux (.handleFrame frame) (mux.receiveHttpRequestChunk frame.payload).mux := by
  cases decoded : decodeHttpRequestChunk frame.payload with
  | none => exact .same (leaves_undecoded_chunk decoded).1.uploads
  | some =>
    cases @receivesChunk mux _ _ decoded with
    | stray _ leaves => exact .same leaves.uploads
    | empty _ leaves => exact .same leaves.uploads
    | refused entry known _ _ uploads =>
      exact .dropped entry ((named_of_pendingUpload known).2 ▸ known) uploads
    | kept entry known _ fits uploads =>
      exact .kept entry _ ((named_of_pendingUpload known).2 ▸ known) fits uploads

theorem uploaded_end (frame : FramedMessage) :
    Uploaded mux (.handleFrame frame) (mux.receiveHttpRequestEnd frame.payload).mux := by
  cases decoded : decodeHttpRequestChunk frame.payload with
  | none => exact .same (leaves_undecoded_chunk decoded).2.uploads
  | some =>
    cases @receivesEnd mux _ _ decoded with
    | stray _ leaves => exact .same leaves.uploads
    | refused entry known _ _ uploads =>
      exact .dropped entry ((named_of_pendingUpload known).2 ▸ known) uploads
    | empty entry known _ uploads =>
      exact .dropped entry ((named_of_pendingUpload known).2 ▸ known) uploads
    | complete entry known _ fits uploads =>
      exact .completed entry _ ((named_of_pendingUpload known).2 ▸ known) fits uploads

theorem uploaded_handleFrame (frame : FramedMessage) :
    Uploaded mux (.handleFrame frame) (mux.handleFrame frame).mux := by
  change Uploaded mux (.handleFrame frame) (mux.routeFrame frame).mux
  by_cases request : frame.type = HttpRequest
  · rw [routeFrame_request request]
    exact uploaded_request request
  · by_cases chunk : frame.type = HttpRequestChunk
    · rw [routeFrame_chunk chunk]
      exact uploaded_chunk frame
    · by_cases last : frame.type = HttpRequestEnd
      · rw [routeFrame_end last]
        exact uploaded_end frame
      · have other : isUploadType frame.type = false := by simp [isUploadType, request, chunk, last]
        exact .same (leaves_handleFrame other).uploads

theorem uploaded_turn (accounted : Accounted mux) (event : Event) :
    Uploaded mux event (mux.turn size event).mux := by
  cases event with
  | handleFrame frame => exact uploaded_handleFrame frame
  | onProxyRequest => exact .registered rfl
  | abortPendingUploads => exact .reset rfl
  | uploadTimeout timer =>
    cases timesOut accounted timer with
    | idle _ leaves => exact .same leaves.uploads
    | dropped entry known _ uploads => exact .dropped entry known uploads
  | _ => exact .same (leaves_turn rfl).uploads

theorem accounted_turn (accounted : Accounted mux) (event : Event) : Accounted (mux.turn size event).mux := by
  cases @uploaded_turn mux size accounted event with
  | same uploads => exact accounted.congr uploads
  | started request _ uploads => exact (accounted_startUpload accounted).congr uploads
  | dropped entry known uploads => exact (accounted_dropUpload accounted known).congr uploads
  | kept entry data known fits uploads => exact (accounted_keepChunk accounted known fits).congr uploads
  | completed entry data known fits uploads =>
    have kept := accounted_keepChunk accounted known fits
    exact (accounted_dropUpload kept (pendingUpload_keepChunk.trans (if_pos rfl))).congr uploads
  | registered uploads =>
    have same : Accounted mux.onProxyRequest :=
      ⟨accounted.distinct, accounted.total, accounted.within, accounted.counted, accounted.armed,
        accounted.owned, accounted.apart, accounted.fresh⟩
    exact same.congr uploads
  | reset uploads =>
    have none_left : Accounted mux.abortPendingUploads.mux := by
      refine ⟨.nil, rfl, Int.natCast_nonneg _, ?_, ?_, ?_, ?_, ?_⟩
      · exact fun _ there => absurd there List.not_mem_nil
      · exact fun _ there => absurd there List.not_mem_nil
      · intro timer there
        obtain ⟨there, unowned⟩ := List.mem_filter.mp there
        obtain ⟨entry, here, timed, -⟩ := accounted.owned timer there
        exact absurd (List.mem_map.mpr ⟨entry, here, timed⟩) (by simpa using unowned)
      · exact accounted.apart.sublist (List.filter_sublist.map _)
      · exact fun timer there => accounted.fresh timer (List.mem_filter.mp there).1
    exact none_left.congr uploads

theorem limits_startUpload (request : SerializedHttpRequest) : (mux.startUpload request).limits = mux.limits := by
  unfold startUpload evictUpload
  dsimp only
  split
  · rfl
  · rfl

theorem limits_turn (accounted : Accounted mux) (event : Event) :
    (mux.turn size event).mux.limits = mux.limits := by
  have limits : ∀ {one other : ProxyMux}, one.uploads = other.uploads → one.limits = other.limits :=
    congrArg Uploads.limits
  cases @uploaded_turn mux size accounted event with
  | same uploads => exact (limits uploads).trans rfl
  | started request _ uploads => exact (limits uploads).trans (limits_startUpload request)
  | dropped entry known uploads => exact (limits uploads).trans rfl
  | kept entry data known fits uploads => exact (limits uploads).trans rfl
  | completed entry data known fits uploads => exact (limits uploads).trans rfl
  | registered uploads => exact (limits uploads).trans rfl
  | reset uploads => exact (limits uploads).trans rfl

theorem accounted_run (accounted : Accounted mux) (events : List Event) :
    Accounted ((machine size).run mux events) ∧ ((machine size).run mux events).limits = mux.limits := by
  refine (machine size).run_invariant (I := fun next => Accounted next ∧ next.limits = mux.limits)
    (fun mux event next both taken => ?_) ⟨accounted, rfl⟩ events
  cases taken
  exact ⟨accounted_turn both.1 event, (limits_turn both.1 event).trans both.2⟩

/-- An upload ends with its last frame, with a chunk that is too much, with its timer or with the
    connection. -/
inductive Ends (mux : ProxyMux) (requestId : String) : Event → Prop where
  | finished (frame : FramedMessage) (chunk : SerializedHttpRequestChunk)
      (type : frame.type = HttpRequestEnd)
      (decoded : decodeHttpRequestChunk frame.payload = some chunk) (named : chunk.requestId = requestId) :
      Ends mux requestId (.handleFrame frame)
  | exceeded (frame : FramedMessage) (chunk : SerializedHttpRequestChunk) (entry : PendingUpload)
      (type : frame.type = HttpRequestChunk)
      (decoded : decodeHttpRequestChunk frame.payload = some chunk) (named : chunk.requestId = requestId)
      (known : mux.pendingUpload requestId = some entry) (proper : chunk.data ≠ [])
      (refused : mux.refusal entry chunk.data ≠ none) : Ends mux requestId (.handleFrame frame)
  | timedOut (timer : Nat) (armed : (timer, requestId) ∈ mux.uploadTimers) :
      Ends mux requestId (.uploadTimeout timer)
  | reset : Ends mux requestId .abortPendingUploads

theorem gone_of_ends (accounted : Accounted mux) (ends : Ends mux requestId event) :
    (mux.turn size event).mux.pendingUpload requestId = none := by
  cases ends with
  | finished frame chunk type decoded named =>
    change (mux.routeFrame frame).mux.pendingUpload requestId = none
    rw [routeFrame_end type]
    subst named
    cases @receivesEnd mux _ _ decoded with
    | stray unknown leaves => rw [pendingUpload_congr leaves.uploads, unknown]
    | refused entry known _ _ uploads =>
      rw [pendingUpload_congr uploads, pendingUpload_dropUpload, if_pos (named_of_pendingUpload known).2.symm]
    | empty entry known _ uploads =>
      rw [pendingUpload_congr uploads, pendingUpload_dropUpload, if_pos (named_of_pendingUpload known).2.symm]
    | complete entry known _ _ uploads =>
      exact (pendingUpload_congr uploads _).trans
        (pendingUpload_dropUpload.trans (if_pos (named_of_pendingUpload known).2.symm))
  | exceeded frame chunk entry type decoded named known proper refused =>
    change (mux.routeFrame frame).mux.pendingUpload requestId = none
    rw [routeFrame_chunk type]
    subst named
    cases @receivesChunk mux _ _ decoded with
    | stray unknown leaves => rw [pendingUpload_congr leaves.uploads, unknown]
    | empty nothing => exact absurd nothing proper
    | refused entry known _ _ uploads =>
      rw [pendingUpload_congr uploads, pendingUpload_dropUpload, if_pos (named_of_pendingUpload known).2.symm]
    | kept entry' known' _ fits =>
      rw [known] at known'
      cases known'
      exact absurd fits refused
  | timedOut timer armed =>
    change (mux.uploadTimeout timer).mux.pendingUpload requestId = none
    cases timesOut accounted timer with
    | idle unarmed => exact absurd armed (unarmed requestId)
    | dropped entry known timed uploads =>
      obtain ⟨other, here, timed', named⟩ := accounted.owned _ armed
      have same := accounted.timer_inj here (named_of_pendingUpload known).1 (timed'.trans timed.symm)
      rw [pendingUpload_congr uploads, pendingUpload_dropUpload, if_pos (by rw [← same, named])]
  | reset => rfl

theorem gone_turn (accounted : Accounted mux) (gone : mux.pendingUpload requestId = none)
    (other : ¬ Begins requestId event) : (mux.turn size event).mux.pendingUpload requestId = none := by
  have kept : ∀ {entry : PendingUpload} {data}, mux.pendingUpload entry.requestId = some entry →
      (mux.keepChunk entry data).pendingUpload requestId = none := by
    intro entry data known
    rw [pendingUpload_keepChunk, if_neg, gone]
    rintro rfl
    rw [gone] at known
    cases known
  cases @uploaded_turn mux size accounted event with
  | same uploads => rw [pendingUpload_congr uploads, gone]
  | started request begins uploads =>
    rw [pendingUpload_congr uploads, pendingUpload_startUpload, if_neg, gone]
    rintro rfl
    exact other begins
  | dropped entry known uploads => rw [pendingUpload_congr uploads, pendingUpload_dropUpload, gone, ite_self]
  | kept entry data known fits uploads => rw [pendingUpload_congr uploads, kept known]
  | completed entry data known fits uploads =>
    rw [pendingUpload_congr uploads, pendingUpload_dropUpload, kept known, ite_self]
  | registered uploads => exact (pendingUpload_congr uploads requestId).trans gone
  | reset uploads => exact pendingUpload_congr uploads requestId

theorem gone_run (accounted : Accounted mux) (gone : mux.pendingUpload requestId = none) {events : List Event}
    (others : ∀ event ∈ events, ¬ Begins requestId event) :
    ((machine size).run mux events).pendingUpload requestId = none := by
  have both : Accounted ((machine size).run mux events) ∧ _ :=
    (machine size).run_invariant_on (I := fun mux => Accounted mux ∧ mux.pendingUpload requestId = none)
      (P := fun event => ¬ Begins requestId event)
      (fun mux event next other both taken => by
        cases taken
        exact ⟨accounted_turn both.1 event, gone_turn both.1 both.2 other⟩) ⟨accounted, gone⟩ others
  exact both.2

/-- Whatever is called and whatever comes: the total is what the pending uploads have, it is never
    negative nor above its limit, every upload counts its chunks, and none is pending after its end
    unless it is started again. -/
theorem uploads_accounted (size : ℕ+) (limits : ProxyMuxUploadLimits) (events : List Event) :
    let mux := (machine size).run { limits } events
    mux.totalPendingUploadBytes = (mux.pendingUploads.map fun entry => (entry.byteCount : Int)).sum ∧
      0 ≤ mux.totalPendingUploadBytes ∧
      mux.totalPendingUploadBytes ≤ limits.maxTotalPendingUploadBytes ∧
      (∀ entry ∈ mux.pendingUploads, entry.byteCount = entry.chunks.flatten.length) ∧
      ∀ requestId event, Ends mux requestId event →
        ∀ later : List Event, (∀ other ∈ later, ¬ Begins requestId other) →
          ((machine size).run mux (event :: later)).pendingUpload requestId = none := by
  intro mux
  obtain ⟨accounted, kept⟩ : Accounted mux ∧ mux.limits = limits := accounted_run (accounted_fresh limits false) events
  refine ⟨accounted.total, accounted.nonneg, kept ▸ accounted.within, accounted.counted, ?_⟩
  intro requestId event ends later others
  exact gone_run (accounted_turn accounted event) (gone_of_ends accounted ends) others

end AntSeed.Mux.ProxyMux
