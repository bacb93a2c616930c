import AntSeed.Lib.Interleaving
import AntSeed.Mux.UploadAccounting

/-! # Uploads are put together again

The frames of every request come in their order, whatever comes between them. The handler gets a
request once, as it was, if all its frames came and nothing dropped it, and otherwise never.
-/

namespace AntSeed.Mux.ProxyMux

open Protocol MessageType
open List

/-! ## What becomes of requests -/

inductive Note where
  | called (request : SerializedHttpRequest)
  | dropped (requestId : String)
  deriving DecidableEq

def Note.requestId : Note → String
  | .called request => request.requestId
  | .dropped requestId => requestId

/-- The requests that an event aborts, times out, refuses or fails to take. -/
def drops (mux : ProxyMux) : Event → List String
  | .uploadTimeout timer => (mux.pendingUploads.filter (·.timer = timer)).map (·.requestId)
  | .abortPendingUploads => mux.pendingUploads.map (·.requestId)
  | .handleFrame frame =>
    if frame.type = HttpRequest then
      match decodeHttpRequest frame.payload with
      | none => []
      | some request => if (mux.receiveHttpRequest frame.payload).threw = none then [] else [request.requestId]
    else if frame.type = HttpRequestChunk ∨ frame.type = HttpRequestEnd then
      match decodeHttpRequestChunk frame.payload with
      | none => []
      | some chunk =>
        match mux.pendingUpload chunk.requestId with
        | none => []
        | some entry =>
          if chunk.data = [] ∨ mux.refusal entry chunk.data = none then [] else [chunk.requestId]
    else []
  | _ => []

def notesAt (size : ℕ+) (mux : ProxyMux) (event : Event) : List Note :=
  (requested (mux.turn size event).effects).map .called ++ (mux.drops event).map .dropped

def notes (size : ℕ+) (mux : ProxyMux) (events : List Event) : List Note :=
  (machine size).log (notesAt size) mux events

def about (requestId : String) (notes : List Note) : List Note := notes.filter (·.requestId = requestId)

/-- A request as the handler gets it. -/
def delivered (request : SerializedHttpRequest) : SerializedHttpRequest :=
  { request with headers := request.headers.erase ANTSEED_UPLOAD_CHUNK_HEADER }

/-! ## What is sent -/

def partOf (frame : FramedMessage) : Int × List UInt8 := (frame.type, frame.payload)

def sentFrames (effects : List Effect) : List FramedMessage :=
  effects.filterMap fun
    | .sent frame => some frame
    | _ => none

/-- The frames that have been sent of some parts: all of them exactly if nothing failed. -/
structure Sends (parts : List (Int × List UInt8)) (complete : Prop) (frames : List FramedMessage) : Prop where
  front : frames.map partOf <+: parts
  whole : complete ↔ frames.map partOf = parts
  small : ∀ frame ∈ frames, frame.payload.length ≤ MAX_PAYLOAD_SIZE

section Sending

variable {mux : ProxyMux} {parts : List (Int × List UInt8)} {part : Int × List UInt8} {complete : Prop}
  {frames : List FramedMessage} {frame : FramedMessage} {size : ℕ+} {request : SerializedHttpRequest}

theorem Sends.cons (sends : Sends parts complete (frame :: frames)) :
    ∃ more, parts = partOf frame :: more ∧ Sends more complete frames := by
  obtain ⟨more, rfl⟩ := sends.front
  refine ⟨frames.map partOf ++ more, rfl, prefix_append _ _, ?_, ?_⟩
  · rw [sends.whole, map_cons, cons_append, cons.injEq]
    exact and_iff_right rfl
  · exact fun other there => sends.small other (mem_cons_of_mem _ there)

theorem Sends.nil (sends : Sends [] complete frames) : frames = [] ∧ complete := by
  have none_left := map_eq_nil_iff.mp (prefix_nil.mp sends.front)
  exact ⟨none_left, sends.whole.mpr (by rw [none_left]; rfl)⟩

theorem sends_post (type : Int) (payload : List UInt8) :
    ((mux.post type payload).threw = none ∧ ∃ frame, (mux.post type payload).effects = [.sent frame] ∧
        partOf frame = (type, payload) ∧ payload.length ≤ MAX_PAYLOAD_SIZE) ∨
      ((mux.post type payload).threw ≠ none ∧ (mux.post type payload).effects = []) := by
  unfold post sendFrame
  dsimp only
  split
  · exact .inr ⟨Option.some_ne_none _, rfl⟩
  next encoded =>
    split
    · exact .inr ⟨Option.some_ne_none _, rfl⟩
    · exact .inl ⟨rfl, _, rfl, rfl, (encodeFrame_ok encoded).1⟩

theorem sends_postAll (parts : List (Int × List UInt8)) :
    Sends parts ((mux.postAll parts).threw = none) (sentFrames (mux.postAll parts).effects) := by
  induction parts generalizing mux with
  | nil => exact ⟨ nil_prefix, by simp [postAll, sentFrames], by simp [postAll, sentFrames]⟩
  | cons part parts ih =>
    unfold postAll
    dsimp only
    rcases @sends_post mux part.1 part.2 with ⟨took, frame, sent, same, small⟩ | ⟨threw, nothing⟩
    · have later := @ih (mux.post part.1 part.2).mux
      have first : sentFrames ([Effect.sent frame] ++ ((mux.post part.1 part.2).mux.postAll parts).effects)
          = frame :: sentFrames ((mux.post part.1 part.2).mux.postAll parts).effects := rfl
      rw [took, sent, if_neg (by simp)]
      dsimp only
      rw [first]
      refine ⟨?_, ?_, ?_⟩
      · rw [map_cons, same]
        exact cons_prefix_cons.mpr ⟨rfl, later.front⟩
      · rw [map_cons, same, later.whole, cons.injEq]
        exact (and_iff_right rfl).symm
      · intro other there
        rcases mem_cons.mp there with rfl | there
        · rwa [show other.payload = part.2 from congrArg Prod.snd same]
        · exact later.small other there
    · rw [if_pos (Option.isSome_iff_ne_none.mpr threw), nothing]
      exact ⟨ nil_prefix, by simp [threw, sentFrames], by simp [sentFrames]⟩

theorem Sends.received (sends : Sends parts complete frames) (types : ∀ part ∈ parts, part.1 % 256 = part.1) :
    Sends parts complete (frames.map FramedMessage.received) := by
  have same : (frames.map FramedMessage.received).map partOf = frames.map partOf := by
    rw [map_map]
    refine map_congr_left fun frame there => ?_
    have type := types _ (sends.front.subset (mem_map_of_mem there))
    exact Prod.ext type rfl
  refine ⟨same ▸ sends.front, same ▸ sends.whole, ?_⟩
  intro frame there
  obtain ⟨origin, member, rfl⟩ := mem_map.mp there
  exact sends.small origin member

/-- Type and payload of the frames of a request. -/
def requestParts (size : ℕ+) (limits : ProxyMuxUploadLimits) (request : SerializedHttpRequest) :
    List (Int × List UInt8) :=
  if request.body.length > limits.uploadThresholdBytes then uploadParts size request
  else [(HttpRequest, encodeHttpRequest request)]

def arriving (size : ℕ+) (sender : ProxyMux) (request : SerializedHttpRequest) : List FramedMessage :=
  (sentFrames (sender.sendProxyRequest size request).effects).map FramedMessage.received

variable {body : List UInt8}

theorem type_bodyParts (here : part ∈ bodyParts size requestId body) :
    part.1 % 256 = part.1 := by
  obtain ⟨⟨data, done⟩, -, rfl⟩ := mem_map.mp here
  cases done with
  | true | false => rfl

theorem sends_request (sender : ProxyMux) :
    Sends (requestParts size sender.limits request) ((sender.sendProxyRequest size request).threw = none)
      (arriving size sender request) := by
  refine Sends.received ?_ ?_
  · unfold sendProxyRequest sendChunkedRequest requestParts
    dsimp only
    split
    · exact sends_postAll _
    · exact sends_postAll _
  · intro part here
    unfold requestParts uploadParts at here
    split at here
    · rcases mem_cons.mp here with rfl | here
      · rfl
      · exact type_bodyParts here
    · rw [mem_singleton.mp here]
      rfl

theorem slices_some (nonempty : body ≠ []) :
    slices size body = (body.take size, decide (body.length ≤ size)) :: slices size (body.drop size) := by
  rw [slices, dif_neg nonempty]

theorem bodyParts_nil {requestId : String} : bodyParts size requestId [] = [] := by
  rw [bodyParts, slices, dif_pos rfl, map_nil]

theorem bodyParts_some (nonempty : body ≠ []) :
    bodyParts size requestId body =
      (if body.length ≤ size then HttpRequestEnd else HttpRequestChunk,
        encodeHttpRequestChunk { requestId, data := body.take size, done := body.length ≤ size })
      :: bodyParts size requestId (body.drop size) := by
  rw [bodyParts, slices_some nonempty, map_cons, ← bodyParts]
  simp

theorem decodes_chunk (fits : FitsIn 2 chunk.requestId)
    (small : (encodeHttpRequestChunk chunk).length ≤ MAX_PAYLOAD_SIZE) :
    decodeHttpRequestChunk (encodeHttpRequestChunk chunk) = some chunk := by
  refine requestChunk_roundTrip fits ?_
  simp only [encodeHttpRequestChunk, writeBytes, length_append, MAX_PAYLOAD_SIZE] at small
  omega

end Sending

/-! ## What one frame does -/

section Steps

variable {mux : ProxyMux} {size : ℕ+} {event : Event} {frame : FramedMessage} {requestId : String}
  {request : SerializedHttpRequest} {chunk : SerializedHttpRequestChunk}

/-- Nothing has happened to a request. -/
structure Quiet (size : ℕ+) (mux : ProxyMux) (event : Event) (requestId : String) : Prop where
  silent : about requestId (notesAt size mux event) = []
  kept : (mux.turn size event).mux.pendingUpload requestId = mux.pendingUpload requestId

structure Loses (size : ℕ+) (mux : ProxyMux) (event : Event) (requestId : String) : Prop where
  noted : about requestId (notesAt size mux event) = [.dropped requestId]
  gone : (mux.turn size event).mux.pendingUpload requestId = none

theorem about_append (one other : List Note) :
    about requestId (one ++ other) = about requestId one ++ about requestId other := filter_append ..

theorem about_dropped (names : List String) :
    about requestId (names.map .dropped) = (names.filter (· = requestId)).map .dropped := by
  rw [about, filter_map]
  rfl

theorem about_notesAt {turn : Turn} (leaves : requested turn.effects = []) (same : mux.turn size event = turn) :
    about requestId (notesAt size mux event) = ((mux.drops event).filter (· = requestId)).map .dropped := by
  rw [notesAt, same, leaves, map_nil, nil_append, about_dropped]

theorem drops_eq_nil (other : event.concernsUploads = false) : mux.drops event = [] := by
  cases event with
  | handleFrame =>
    simp only [Event.concernsUploads, isUploadType, decide_eq_false_iff_not, not_or] at other
    rw [drops, if_neg other.1, if_neg (not_or.mpr other.2)]
  | onProxyRequest | abortPendingUploads | uploadTimeout => cases other
  | _ => rfl

theorem quiet_turn (other : event.concernsUploads = false) (requestId : String) :
    Quiet size mux event requestId := by
  have leaves := @leaves_turn mux size event other
  refine ⟨?_, pendingUpload_congr leaves.uploads requestId⟩
  rw [about_notesAt leaves.requested rfl, drops_eq_nil other]
  rfl

theorem filter_names_of_pending (accounted : Accounted mux) (kept : PendingUpload → Bool) :
    ((mux.pendingUploads.filter kept).map PendingUpload.requestId).filter (· = requestId)
      = match mux.pendingUpload requestId with
        | some entry => if kept entry then [requestId] else []
        | none => [] := by
  have distinct := accounted.distinct
  unfold pendingUpload Keyed.get
  generalize mux.pendingUploads = pending at distinct
  induction pending with
  | nil => rfl
  | cons first rest ih =>
    rw [map_cons, nodup_cons] at distinct
    by_cases named : first.requestId = requestId
    · have absent : ((rest.filter kept).map PendingUpload.requestId).filter (· = requestId) = [] := by
        rw [filter_eq_nil_iff]
        intro name there same
        obtain ⟨other, member, rfl⟩ := mem_map.mp there
        have alike : other.requestId = first.requestId := (of_decide_eq_true same).trans named.symm
        exact distinct.1 (alike ▸ mem_map_of_mem (mem_filter.mp member).1)
      rw [find?_cons_of_pos (by simpa using named)]
      by_cases keeps : kept first = true
      · simp [keeps, named, absent]
      · simp [keeps, absent]
    · rw [find?_cons_of_neg (by simpa using named), ← ih distinct.2]
      by_cases keeps : kept first = true
      · simp [keeps, named]
      · simp [keeps]

theorem quiet_or_loses (accounted : Accounted mux)
    (foreign : ∀ frame, event = .handleFrame frame → isUploadType frame.type = false) (requestId : String) :
    Quiet size mux event requestId ∨ mux.pendingUpload requestId ≠ none ∧ Loses size mux event requestId := by
  by_cases other : event.concernsUploads = false
  · exact .inl (quiet_turn other requestId)
  cases event with
  | handleFrame frame => exact absurd (foreign frame rfl) other
  | onProxyRequest => exact .inl ⟨rfl, rfl⟩
  | abortPendingUploads =>
    have noted : about requestId (notesAt size mux .abortPendingUploads) = _ :=
      about_notesAt (requested_rejected _ _) rfl
    have names := @filter_names_of_pending mux requestId accounted fun _ => true
    rw [filter_eq_self.mpr fun _ _ => rfl] at names
    rw [drops, names] at noted
    cases known : mux.pendingUpload requestId with
    | none => exact .inl ⟨by rw [noted, known]; rfl, known.symm⟩
    | some => exact .inr ⟨Option.some_ne_none _, by rw [noted, known]; rfl, rfl⟩
  | uploadTimeout timer =>
    cases timesOut accounted timer with
    | idle unarmed leaves =>
      refine .inl ⟨?_, pendingUpload_congr leaves.uploads requestId⟩
      have nothing : mux.pendingUploads.filter (·.timer = timer) = [] := by
        rw [filter_eq_nil_iff]
        intro entry here same
        exact unarmed entry.requestId ((of_decide_eq_true same) ▸ accounted.armed entry here)
      rw [about_notesAt leaves.requested rfl, drops, nothing]
      rfl
    | dropped entry known timed uploads silent =>
      have gone : (mux.turn size (.uploadTimeout timer)).mux.pendingUpload requestId = _ :=
        (pendingUpload_congr uploads requestId).trans pendingUpload_dropUpload
      have noted : about requestId (notesAt size mux (.uploadTimeout timer)) = _ := about_notesAt silent rfl
      rw [drops, filter_names_of_pending accounted] at noted
      by_cases named : requestId = entry.requestId
      · subst named
        rw [known] at noted
        exact .inr ⟨known ▸ Option.some_ne_none _, by simpa [timed] using noted, by rw [gone, if_pos rfl]⟩
      · refine .inl ⟨?_, by rw [gone, if_neg named]⟩
        rw [noted]
        cases other : mux.pendingUpload requestId with
        | none => rfl
        | some found =>
          obtain ⟨member, rfl⟩ := named_of_pendingUpload other
          have differs : found.timer ≠ timer := fun same => named (congrArg _
            (accounted.timer_inj member (named_of_pendingUpload known).1 (same.trans timed.symm)))
          simp [differs]
  | _ => exact absurd rfl other

structure Moves (size : ℕ+) (mux : ProxyMux) (frame : FramedMessage) (requestId : String) (notes : List Note)
    (found : Option PendingUpload) : Prop where
  noted : notesAt size mux (.handleFrame frame) = notes
  moved : ∀ other, (mux.handleFrame frame).mux.pendingUpload other
    = if other = requestId then found else mux.pendingUpload other

theorem Moves.of_uploads {next : ProxyMux} {notes : List Note} {found : Option PendingUpload}
    (noted : notesAt size mux (.handleFrame frame) = notes)
    (uploads : (mux.routeFrame frame).mux.uploads = next.uploads)
    (moved : ∀ other, next.pendingUpload other = if other = requestId then found else mux.pendingUpload other) :
    Moves size mux frame requestId notes found :=
  ⟨noted, fun other => (pendingUpload_congr uploads other).trans (moved other)⟩

theorem Moves.of_same {notes : List Note} (noted : notesAt size mux (.handleFrame frame) = notes)
    (uploads : (mux.routeFrame frame).mux.uploads = mux.uploads) (requestId : String) :
    Moves size mux frame requestId notes (mux.pendingUpload requestId) := by
  refine .of_uploads noted uploads fun other => ?_
  split
  next same => rw [same]
  · rfl

theorem moves_request (handles : mux.requestHandler = true) (type : frame.type = HttpRequest)
    (decoded : decodeHttpRequest frame.payload = some request) :
    Moves size mux frame request.requestId [.dropped request.requestId] (mux.pendingUpload request.requestId) ∨
      (isUpload request = true ∧
        ∃ timer, Moves size mux frame request.requestId [] (some (.new request timer))) ∨
      (isUpload request = false ∧
        Moves size mux frame request.requestId [.called request] (mux.pendingUpload request.requestId)) := by
  have routed : (mux.routeFrame frame).mux = (mux.receiveHttpRequest frame.payload).mux :=
    congrArg Turn.mux (routeFrame_request type)
  have noted : notesAt size mux (.handleFrame frame)
      = (requested (mux.receiveHttpRequest frame.payload).effects).map .called
        ++ (if (mux.receiveHttpRequest frame.payload).threw = none then [] else [request.requestId]).map .dropped := by
    rw [notesAt, drops, if_pos type, decoded]
    change (requested (mux.routeFrame frame).effects).map _ ++ _ = _
    rw [routeFrame_request type]
  cases @receivesRequest mux _ _ decoded with
  | refused download threw leaves =>
    rw [leaves.requested, if_neg threw] at noted
    exact .inl (.of_same noted (routed ▸ leaves.uploads) _)
  | began marked accepted uploads silent =>
    rw [silent, if_pos accepted] at noted
    exact .inr (.inl ⟨marked, _, .of_uploads noted (routed ▸ uploads) fun _ => pendingUpload_startUpload⟩)
  | came unmarked accepted uploads given =>
    rw [given, if_pos handles, if_pos accepted] at noted
    exact .inr (.inr ⟨unmarked, .of_same noted (routed ▸ uploads) _⟩)

theorem notesAt_body {turn : Turn} (type : frame.type = HttpRequestChunk ∨
      frame.type = HttpRequestEnd)
    (decoded : decodeHttpRequestChunk frame.payload = some chunk) (routed : mux.routeFrame frame = turn) :
    notesAt size mux (.handleFrame frame) = (requested turn.effects).map .called ++
      (match mux.pendingUpload chunk.requestId with
        | none => []
        | some entry =>
          if chunk.data = [] ∨ mux.refusal entry chunk.data = none then [] else [chunk.requestId]).map .dropped := by
  have other : frame.type ≠ HttpRequest := by
    rcases type with type | type
    · rw [type]; decide
    · rw [type]; decide
  rw [notesAt, drops, if_neg other, if_pos type, decoded, ← routed]
  rfl

theorem moves_stray (type : frame.type = HttpRequestChunk ∨ frame.type = HttpRequestEnd)
    (decoded : decodeHttpRequestChunk frame.payload = some chunk)
    (unknown : mux.pendingUpload chunk.requestId = none) :
    Moves size mux frame chunk.requestId [] none := by
  have leaves : Leaves mux (mux.routeFrame frame) := by
    rcases type with type | type
    · rw [routeFrame_chunk type]
      cases @receivesChunk mux _ _ decoded with
      | stray _ leaves => exact leaves
      | empty _ leaves => exact leaves
      | refused entry known => exact absurd known (by simp [unknown])
      | kept entry known => exact absurd known (by simp [unknown])
    · rw [routeFrame_end type]
      cases @receivesEnd mux _ _ decoded with
      | stray _ leaves => exact leaves
      | refused entry known => exact absurd known (by simp [unknown])
      | empty entry known => exact absurd known (by simp [unknown])
      | complete entry known => exact absurd known (by simp [unknown])
  have noted := @notesAt_body mux size frame chunk _ type decoded rfl
  rw [leaves.requested, unknown] at noted
  exact unknown ▸ .of_same noted leaves.uploads _

variable {entry : PendingUpload}

theorem moves_chunk (type : frame.type = HttpRequestChunk)
    (decoded : decodeHttpRequestChunk frame.payload = some chunk) (proper : chunk.data ≠ [])
    (known : mux.pendingUpload chunk.requestId = some entry) :
    Moves size mux frame chunk.requestId [.dropped chunk.requestId] none ∨
      Moves size mux frame chunk.requestId [] (some (entry.push chunk.data)) := by
  have routed : (mux.routeFrame frame).mux = (mux.receiveHttpRequestChunk frame.payload).mux :=
    congrArg Turn.mux (routeFrame_chunk type)
  have noted := @notesAt_body mux size frame chunk _ (.inl type) decoded (routeFrame_chunk type)
  have named := (named_of_pendingUpload known).2
  rw [known] at noted
  cases @receivesChunk mux _ _ decoded with
  | stray unknown => exact absurd known (by simp [unknown])
  | empty nothing => exact absurd nothing proper
  | refused entry' known' _ refused uploads silent =>
    rw [known] at known'
    cases known'
    rw [silent] at noted
    dsimp only at noted
    rw [if_neg (not_or.mpr ⟨proper, refused⟩)] at noted
    exact .inl (.of_uploads noted (routed ▸ uploads) fun _ => named ▸ pendingUpload_dropUpload)
  | kept entry' known' _ fits uploads silent =>
    rw [known] at known'
    cases known'
    rw [silent] at noted
    dsimp only at noted
    rw [if_pos (.inr fits)] at noted
    exact .inr (.of_uploads noted (routed ▸ uploads) fun _ => named ▸ pendingUpload_keepChunk)

theorem moves_end (handles : mux.requestHandler = true) (type : frame.type = HttpRequestEnd)
    (decoded : decodeHttpRequestChunk frame.payload = some chunk) (proper : chunk.data ≠ [])
    (known : mux.pendingUpload chunk.requestId = some entry) :
    Moves size mux frame chunk.requestId [.dropped chunk.requestId] none ∨
      Moves size mux frame chunk.requestId [.called (entry.push chunk.data).request] none := by
  have routed : (mux.routeFrame frame).mux = (mux.receiveHttpRequestEnd frame.payload).mux :=
    congrArg Turn.mux (routeFrame_end type)
  have noted := @notesAt_body mux size frame chunk _ (.inr type) decoded (routeFrame_end type)
  have named := (named_of_pendingUpload known).2
  rw [known] at noted
  cases @receivesEnd mux _ _ decoded with
  | stray unknown => exact absurd known (by simp [unknown])
  | empty _ _ nothing => exact absurd nothing proper
  | refused entry' known' _ refused uploads silent =>
    rw [known] at known'
    cases known'
    rw [silent] at noted
    dsimp only at noted
    rw [if_neg (not_or.mpr ⟨proper, refused⟩)] at noted
    exact .inl (.of_uploads noted (routed ▸ uploads) fun _ => named ▸ pendingUpload_dropUpload)
  | complete entry' known' _ fits uploads given =>
    rw [known] at known'
    cases known'
    rw [given, handed, if_pos handles] at noted
    dsimp only at noted
    rw [if_pos (.inr fits)] at noted
    refine .inr (.of_uploads noted (routed ▸ uploads) fun other => ?_)
    have pushed : (entry.push chunk.data).requestId = entry.requestId := rfl
    rw [pendingUpload_dropUpload, pendingUpload_keepChunk, pushed, ← named]
    by_cases same : other = entry.requestId
    · rw [if_pos same, if_pos same]
    · rw [if_neg same, if_neg same, if_neg same]

theorem Moves.quiet {notes : List Note} {found : Option PendingUpload} {other : String}
    (moves : Moves size mux frame requestId notes found) (mine : ∀ note ∈ notes, note.requestId = requestId)
    (differs : other ≠ requestId) : Quiet size mux (.handleFrame frame) other := by
  refine ⟨?_, (moves.moved other).trans (if_neg differs)⟩
  rw [moves.noted, about, filter_eq_nil_iff]
  intro note here same
  exact differs ((of_decide_eq_true same).symm.trans (mine note here))

theorem Moves.after {notes earlier : List Note} {found : Option PendingUpload}
    (moves : Moves size mux frame requestId notes found) (mine : ∀ note ∈ notes, note.requestId = requestId) :
    about requestId (earlier ++ notesAt size mux (.handleFrame frame)) = about requestId earlier ++ notes := by
  have all : about requestId notes = notes :=
    filter_eq_self.mpr fun note here => decide_eq_true (mine note here)
  rw [about_append, moves.noted, all]

theorem Moves.found {notes : List Note} {found : Option PendingUpload}
    (moves : Moves size mux frame requestId notes found) :
    (mux.turn size (.handleFrame frame)).mux.pendingUpload requestId = found :=
  (moves.moved requestId).trans (if_pos rfl)

end Steps

/-! ## How far a request is -/

/-- A request that survives its encoding. What goes in one frame has no marker of its own. -/
structure Carried (limits : ProxyMuxUploadLimits) (request : SerializedHttpRequest) : Prop where
  fits : (if request.body.length > limits.uploadThresholdBytes then headerRequest request else request).Fits
  unmarked : request.body.length ≤ limits.uploadThresholdBytes →
    request.headers.get ANTSEED_UPLOAD_CHUNK_HEADER = none

/-- What is still to come of a request, what is noted about it and what the multiplexer has of it. -/
inductive Progress (size : ℕ+) (limits : ProxyMuxUploadLimits) (request : SerializedHttpRequest)
    (complete : Prop) (coming : List FramedMessage) (notes : List Note) (mux : ProxyMux) : Prop where
  | waiting (sends : Sends (requestParts size limits request) complete coming)
      (absent : mux.pendingUpload request.requestId = none) (silent : about request.requestId notes = [])
  | going (entry : PendingUpload) (body : List UInt8) (nonempty : body ≠ [])
      (sends : Sends (bodyParts size request.requestId body) complete coming)
      (known : mux.pendingUpload request.requestId = some entry)
      (header : entry.headerReq = headerRequest request)
      (collected : entry.chunks.flatten ++ body = request.body) (silent : about request.requestId notes = [])
  | dropped (body : List UInt8) (sends : Sends (bodyParts size request.requestId body) complete coming)
      (absent : mux.pendingUpload request.requestId = none)
      (noted : about request.requestId notes = [.dropped request.requestId])
  | delivered (ended : coming = []) (whole : complete)
      (absent : mux.pendingUpload request.requestId = none)
      (noted : about request.requestId notes = [.called (delivered request)])

section Progress

variable {size : ℕ+} {limits : ProxyMuxUploadLimits} {request : SerializedHttpRequest} {complete : Prop}
  {coming rest : List FramedMessage} {noted : List Note} {mux : ProxyMux} {event : Event}
  {frame : FramedMessage}

theorem Carried.id_fits (carried : Carried limits request) : FitsIn 2 request.requestId := by
  have fits := carried.fits.requestId
  split at fits
  · exact fits
  · exact fits

theorem isUpload_headerRequest : isUpload (headerRequest request) = true := by
  unfold isUpload headerRequest
  rw [decide_eq_true_iff]
  exact (Record.get_set (by decide)).trans (if_pos rfl)

theorem isUpload_of_unmarked (unmarked : request.headers.get ANTSEED_UPLOAD_CHUNK_HEADER = none) :
    isUpload request = false := by
  rw [isUpload, unmarked]
  rfl

variable {entry : PendingUpload} {body : List UInt8}

theorem request_of_collected (header : entry.headerReq = headerRequest request)
    (collected : entry.chunks.flatten = request.body) : entry.request = delivered request := by
  unfold PendingUpload.request delivered
  rw [header, collected]
  have unmarked : (headerRequest request).headers.erase ANTSEED_UPLOAD_CHUNK_HEADER
      = request.headers.erase ANTSEED_UPLOAD_CHUNK_HEADER := Record.erase_set (by decide)
  rw [unmarked]
  rfl

theorem Progress.quiet (progress : Progress size limits request complete coming noted mux)
    (quiet : Quiet size mux event request.requestId) :
    Progress size limits request complete coming (noted ++ notesAt size mux event) (mux.turn size event).mux := by
  have same : about request.requestId (noted ++ notesAt size mux event) = about request.requestId noted := by
    rw [about_append, quiet.silent, append_nil]
  cases progress with
  | waiting sends absent silent => exact .waiting sends (quiet.kept.trans absent) (same.trans silent)
  | going entry body nonempty sends known header collected silent =>
    exact .going entry body nonempty sends (quiet.kept.trans known) header collected (same.trans silent)
  | dropped body sends absent noted => exact .dropped body sends (quiet.kept.trans absent) (same.trans noted)
  | delivered ended whole absent noted => exact .delivered ended whole (quiet.kept.trans absent) (same.trans noted)

theorem Progress.loses (progress : Progress size limits request complete coming noted mux)
    (pending : mux.pendingUpload request.requestId ≠ none) (loses : Loses size mux event request.requestId) :
    Progress size limits request complete coming (noted ++ notesAt size mux event) (mux.turn size event).mux := by
  cases progress with
  | going entry body nonempty sends known header collected silent =>
    exact .dropped body sends loses.gone (by rw [about_append, silent, loses.noted]; rfl)
  | waiting sends absent => exact absurd absent pending
  | dropped body sends absent => exact absurd absent pending
  | delivered ended whole absent => exact absurd absent pending

theorem arrives_waiting (carried : Carried limits request) (handles : mux.requestHandler = true)
    (sends : Sends (requestParts size limits request) complete (frame :: rest))
    (absent : mux.pendingUpload request.requestId = none) (silent : about request.requestId noted = []) :
    Progress size limits request complete rest (noted ++ notesAt size mux (.handleFrame frame))
        (mux.turn size (.handleFrame frame)).mux ∧
      ∀ other ≠ request.requestId, Quiet size mux (.handleFrame frame) other := by
  have fits := carried.fits
  obtain ⟨more, parts, later⟩ := sends.cons
  unfold requestParts at parts
  by_cases large : request.body.length > limits.uploadThresholdBytes
  · rw [if_pos large] at parts fits
    obtain ⟨first, rfl⟩ := cons.inj parts
    obtain ⟨type, payload⟩ := Prod.mk.inj first
    have decoded : decodeHttpRequest frame.payload = some (headerRequest request) := by
      rw [← payload]
      exact request_roundTrip_iff.mpr fits
    have nonempty : request.body ≠ [] := by
      rintro empty
      rw [empty] at large
      exact absurd large (Nat.not_lt_zero _)
    have named : (headerRequest request).requestId = request.requestId := rfl
    rcases @moves_request mux size frame _ handles type.symm decoded with moves | ⟨-, timer, moves⟩ | ⟨unmarked, -⟩
    · rw [named] at moves
      have mine : ∀ note ∈ [Note.dropped request.requestId], note.requestId = request.requestId := by
        simp [Note.requestId]
      exact ⟨.dropped request.body later (moves.found.trans absent) (by rw [moves.after mine, silent]; rfl),
        fun other => moves.quiet mine⟩
    · rw [named] at moves
      have mine : ∀ note ∈ ([] : List Note), note.requestId = request.requestId := by simp
      exact ⟨.going _ request.body nonempty later moves.found rfl rfl (by rw [moves.after mine, silent]; rfl),
        fun other => moves.quiet mine⟩
    · rw [isUpload_headerRequest] at unmarked
      cases unmarked
  · rw [if_neg large] at parts fits
    obtain ⟨first, rfl⟩ := cons.inj parts
    obtain ⟨type, payload⟩ := Prod.mk.inj first
    have decoded : decodeHttpRequest frame.payload = some request := by
      rw [← payload]
      exact request_roundTrip_iff.mpr fits
    have bare := carried.unmarked (not_lt.mp large)
    obtain ⟨ended, whole⟩ := later.nil
    rcases @moves_request mux size frame _ handles type.symm decoded with moves | ⟨marked, -⟩ | ⟨-, moves⟩
    · have mine : ∀ note ∈ [Note.dropped request.requestId], note.requestId = request.requestId := by
        simp [Note.requestId]
      exact ⟨.dropped [] (bodyParts_nil ▸ later) (moves.found.trans absent)
        (by rw [moves.after mine, silent]; rfl), fun other => moves.quiet mine⟩
    · rw [isUpload_of_unmarked bare] at marked
      cases marked
    · have mine : ∀ note ∈ [Note.called request], note.requestId = request.requestId := by simp [Note.requestId]
      have same : delivered request = request := by rw [delivered, Record.erase_of_get_none bare]
      exact ⟨.delivered ended whole (moves.found.trans absent)
        (by rw [moves.after mine, silent, same]; rfl), fun other => moves.quiet mine⟩

theorem read_of_bodyParts {requestId : String} (fits : FitsIn 2 requestId)
    (sends : Sends (bodyParts size requestId body) complete (frame :: rest)) :
    body ≠ [] ∧ Sends (bodyParts size requestId (body.drop size)) complete rest ∧
      frame.type = (if body.length ≤ size then HttpRequestEnd else HttpRequestChunk) ∧
      decodeHttpRequestChunk frame.payload
        = some { requestId, data := body.take size, done := body.length ≤ size } := by
  have nonempty : body ≠ [] := by
    rintro rfl
    rw [bodyParts_nil] at sends
    cases sends.nil.1
  obtain ⟨more, parts, later⟩ := sends.cons
  rw [bodyParts_some nonempty] at parts
  obtain ⟨first, rfl⟩ := cons.inj parts
  obtain ⟨type, payload⟩ := Prod.mk.inj first
  refine ⟨nonempty, later, type.symm, ?_⟩
  have small := sends.small frame mem_cons_self
  rw [← payload] at small ⊢
  exact decodes_chunk fits small

theorem arrives_going (carried : Carried limits request) (handles : mux.requestHandler = true)
    (sends : Sends (bodyParts size request.requestId body) complete (frame :: rest))
    (known : mux.pendingUpload request.requestId = some entry)
    (header : entry.headerReq = headerRequest request)
    (collected : entry.chunks.flatten ++ body = request.body)
    (silent : about request.requestId noted = []) :
    Progress size limits request complete rest (noted ++ notesAt size mux (.handleFrame frame))
        (mux.turn size (.handleFrame frame)).mux ∧
      ∀ other ≠ request.requestId, Quiet size mux (.handleFrame frame) other := by
  obtain ⟨nonempty, later, type, decoded⟩ := read_of_bodyParts carried.id_fits sends
  have proper : body.take size ≠ [] := by
    simp [take_eq_nil_iff, nonempty]
  have pushed : (entry.push (body.take size)).chunks.flatten ++ body.drop size = request.body := by
    rw [← collected, ← take_append_drop size body]
    simp [PendingUpload.push]
  have lost : Moves size mux frame request.requestId [.dropped request.requestId] none →
      Progress size limits request complete rest (noted ++ notesAt size mux (.handleFrame frame))
          (mux.turn size (.handleFrame frame)).mux ∧
        ∀ other ≠ request.requestId, Quiet size mux (.handleFrame frame) other := by
    intro moves
    have mine : ∀ note ∈ [Note.dropped request.requestId], note.requestId = request.requestId := by
      simp [Note.requestId]
    exact ⟨.dropped _ later moves.found (by rw [moves.after mine, silent]; rfl), fun other => moves.quiet mine⟩
  by_cases last : body.length ≤ size
  · rw [if_pos last] at type
    have done : body.drop size = [] := drop_eq_nil_iff.mpr last
    rw [done, append_nil] at pushed
    rw [done, bodyParts_nil] at later
    obtain ⟨ended, whole⟩ := later.nil
    rcases @moves_end mux size frame _ entry handles type decoded proper known with moves | moves
    · exact lost moves
    · have same : (entry.push (body.take size)).request = delivered request := request_of_collected header pushed
      rw [same] at moves
      have mine : ∀ note ∈ [Note.called (delivered request)], note.requestId = request.requestId := by
        simp [Note.requestId, delivered]
      exact ⟨.delivered ended whole moves.found (by rw [moves.after mine, silent]; rfl),
        fun other => moves.quiet mine⟩
  · rw [if_neg last] at type
    have more : body.drop size ≠ [] := drop_eq_nil_iff.not.mpr last
    rcases @moves_chunk mux size frame _ entry type decoded proper known with moves | moves
    · exact lost moves
    · have mine : ∀ note ∈ ([] : List Note), note.requestId = request.requestId := by simp
      exact ⟨.going _ _ more later moves.found header pushed (by rw [moves.after mine, silent]; rfl),
        fun other => moves.quiet mine⟩

theorem Progress.arrives (progress : Progress size limits request complete (frame :: rest) noted mux)
    (carried : Carried limits request) (handles : mux.requestHandler = true) :
    Progress size limits request complete rest (noted ++ notesAt size mux (.handleFrame frame))
        (mux.turn size (.handleFrame frame)).mux ∧
      ∀ other ≠ request.requestId, Quiet size mux (.handleFrame frame) other := by
  cases progress with
  | waiting sends absent silent => exact arrives_waiting carried handles sends absent silent
  | going entry body nonempty sends known header collected silent =>
    exact arrives_going carried handles sends known header collected silent
  | dropped body sends absent noted =>
    obtain ⟨-, later, type, decoded⟩ := read_of_bodyParts carried.id_fits sends
    have either : frame.type = HttpRequestChunk ∨ frame.type = HttpRequestEnd := by
      rw [type]
      split
      · exact .inr rfl
      · exact .inl rfl
    have moves := @moves_stray mux size frame _ either decoded absent
    have mine : ∀ note ∈ ([] : List Note), note.requestId = request.requestId := by simp
    exact ⟨.dropped _ later moves.found (by rw [moves.after mine, noted]; rfl), fun other => moves.quiet mine⟩
  | delivered ended => cases ended

end Progress

/-! ## Runs -/

section Runs

variable {size : ℕ+} {requests : List SerializedHttpRequest} {senders : SerializedHttpRequest → ProxyMux}
  {request : SerializedHttpRequest} {limits : ProxyMuxUploadLimits} {events : List Event}
  {left : String → List Event} {requestId : String}

/-- The frames of all requests, by their names. -/
def lanes (size : ℕ+) (senders : SerializedHttpRequest → ProxyMux) (requests : List SerializedHttpRequest)
    (requestId : String) : List Event :=
  match requests.find? (·.requestId = requestId) with
  | none => []
  | some request => (arriving size (senders request) request).map .handleFrame

/-- Everything that is no frame of a request or its body. -/
def IsForeign (event : Event) : Prop := ∀ frame, event = .handleFrame frame → isUploadType frame.type = false

/-- Nothing failed while the request was sent. -/
def IsSent (size : ℕ+) (sender : ProxyMux) (request : SerializedHttpRequest) : Prop :=
  (sender.sendProxyRequest size request).threw = none

instance {sender : ProxyMux} : Decidable (IsSent size sender request) :=
  inferInstanceAs (Decidable (_ = none))

/-- The requests given to the handler. -/
def calls (notes : List Note) : List SerializedHttpRequest :=
  notes.filterMap fun
    | .called request => some request
    | .dropped _ => none

/-- Every request has come as far as its frames, and there are no others. -/
structure Reassembles (size : ℕ+) (senders : SerializedHttpRequest → ProxyMux)
    (requests : List SerializedHttpRequest) (coming : String → List Event) (noted : List Note)
    (mux : ProxyMux) : Prop where
  accounted : Accounted mux
  handles : mux.requestHandler = true
  progress : ∀ request ∈ requests, ∃ frames, coming request.requestId = frames.map .handleFrame ∧
    Progress size (senders request).limits request (IsSent size (senders request) request) frames noted mux
  others : ∀ requestId, requestId ∉ requests.map (·.requestId) →
    coming requestId = [] ∧ mux.pendingUpload requestId = none ∧ about requestId noted = []

variable {event : Event} {mux : ProxyMux} {coming : String → List Event} {noted : List Note}

theorem requestHandler_turn (accounted : Accounted mux) (handles : mux.requestHandler = true) :
    (mux.turn size event).mux.requestHandler = true := by
  have same : ∀ {one other : ProxyMux}, one.uploads = other.uploads → one.requestHandler = other.requestHandler :=
    congrArg Uploads.requestHandler
  cases @uploaded_turn mux size accounted event with
  | same uploads => exact (same uploads).trans handles
  | started request _ uploads =>
    refine (same uploads).trans ?_
    unfold startUpload evictUpload
    dsimp only
    split
    · exact handles
    · exact handles
  | dropped entry known uploads => exact (same uploads).trans handles
  | kept entry data known fits uploads => exact (same uploads).trans handles
  | completed entry data known fits uploads => exact (same uploads).trans handles
  | registered uploads => exact same uploads
  | reset uploads => exact (same uploads).trans handles

theorem find_request (distinct : (requests.map (·.requestId)).Nodup) (here : request ∈ requests) :
    requests.find? (·.requestId = request.requestId) = some request :=
  @Keyed.get_of_mem _ _ _ SerializedHttpRequest.requestId _ _ distinct here

theorem reassembles_fresh (distinct : (requests.map (·.requestId)).Nodup) :
    Reassembles size senders requests (lanes size senders requests) [] { limits, requestHandler := true } where
  accounted := accounted_fresh limits true
  handles := rfl
  progress request here := by
    refine ⟨arriving size (senders request) request, ?_, .waiting (sends_request _) rfl rfl⟩
    rw [lanes, find_request distinct here]
  others requestId absent := by
    have missing : requests.find? (·.requestId = requestId) = none :=
      (@Keyed.get_eq_none_iff _ _ _ SerializedHttpRequest.requestId requests requestId).mpr absent
    exact ⟨by rw [lanes, missing], rfl, rfl⟩

theorem reassembles_foreign (reassembles : Reassembles size senders requests coming noted mux)
    (foreign : IsForeign event) :
    Reassembles size senders requests coming (noted ++ notesAt size mux event) (mux.turn size event).mux where
  accounted := accounted_turn reassembles.accounted event
  handles := requestHandler_turn reassembles.accounted reassembles.handles
  progress request here := by
    obtain ⟨frames, same, progress⟩ := reassembles.progress request here
    refine ⟨frames, same, ?_⟩
    rcases quiet_or_loses reassembles.accounted foreign request.requestId with quiet | ⟨pending, loses⟩
    · exact progress.quiet quiet
    · exact progress.loses pending loses
  others requestId absent := by
    obtain ⟨nothing, gone, silent⟩ := reassembles.others requestId absent
    rcases @quiet_or_loses mux size event reassembles.accounted foreign requestId with quiet | ⟨pending, -⟩
    · exact ⟨nothing, quiet.kept.trans gone, by rw [about_append, silent, quiet.silent]; rfl⟩
    · exact absurd gone pending

section

variable (distinct : (requests.map (·.requestId)).Nodup)
  (carried : ∀ request ∈ requests, Carried (senders request).limits request)

include distinct carried

theorem reassembles_arrives
    (reassembles : Reassembles size senders requests coming noted mux)
    (next : coming requestId = event :: rest) :
    Reassembles size senders requests (Function.update coming requestId rest)
      (noted ++ notesAt size mux event) (mux.turn size event).mux := by
  -- the lane is one of the requests'
  have named : requestId ∈ requests.map (·.requestId) := by
    by_contra absent
    rw [(reassembles.others requestId absent).1] at next
    cases next
  obtain ⟨request, here, rfl⟩ := mem_map.mp named
  obtain ⟨frames, same, progress⟩ := reassembles.progress request here
  rw [next] at same
  cases frames with
  | nil => cases same
  | cons frame frames =>
    obtain ⟨rfl, rfl⟩ := cons.inj same
    obtain ⟨moved, quiet⟩ := progress.arrives (carried request here) reassembles.handles
    refine ⟨accounted_turn reassembles.accounted _,
      requestHandler_turn reassembles.accounted reassembles.handles, ?_, ?_⟩
    · intro other there
      by_cases alike : other.requestId = request.requestId
      · have equal := inj_on_of_nodup_map distinct there here alike
        subst equal
        exact ⟨frames, Function.update_self .., moved⟩
      · obtain ⟨others, along, kept⟩ := reassembles.progress other there
        exact ⟨others, (Function.update_of_ne alike ..).trans along, kept.quiet (quiet _ alike)⟩
    · intro other absent
      have differs : other ≠ request.requestId := fun alike => absent (alike ▸ mem_map_of_mem here)
      obtain ⟨nothing, gone, silent⟩ := reassembles.others other absent
      have hushed := quiet other differs
      exact ⟨(Function.update_of_ne differs ..).trans nothing, hushed.kept.trans gone,
        by rw [about_append, silent, hushed.silent]; rfl⟩

theorem reassembles_run
    (interleaved : Interleaved IsForeign (lanes size senders requests) events left) :
    Reassembles size senders requests left (notes size { limits, requestHandler := true } events)
      ((machine size).run { limits, requestHandler := true } events) := by
  refine interleaved.run_invariant_log (machine size) (I := Reassembles size senders requests)
    (fun coming noted mux lane event rest next first reassembles taken => ?_)
    (fun coming noted mux event next foreign reassembles taken => ?_)
    (fun mux event => ⟨_, rfl⟩) (reassembles_fresh distinct)
  · cases taken
    exact reassembles_arrives distinct carried reassembles first
  · cases taken
    exact reassembles_foreign reassembles foreign

end

theorem calls_about (noted : List Note) :
    (calls noted).filter (·.requestId = requestId) = calls (about requestId noted) := by
  unfold calls about
  rw [filter_filterMap, filterMap_filter]
  refine congrArg (fun pick => noted.filterMap pick) (funext fun note => ?_)
  cases note with
  | called => rfl
  | dropped => exact (ite_self none).symm

theorem dropped_mem_about : .dropped requestId ∈ noted ↔ .dropped requestId ∈ about requestId noted := by
  simp [about, Note.requestId]

theorem requestParts_ne_nil : requestParts size limits request ≠ [] := by
  unfold requestParts uploadParts
  split
  · exact cons_ne_nil _ _
  · exact cons_ne_nil _ _

theorem calls_of_progress {frames : List FramedMessage} {complete : Prop} [Decidable complete]
    (progress : Progress size limits request complete frames noted mux) :
    calls (about request.requestId noted)
      = if frames = [] ∧ complete ∧ Note.dropped request.requestId ∉ about request.requestId noted then
          [delivered request]
        else [] := by
  cases progress with
  | waiting sends absent silent =>
    rw [if_neg, silent]
    · rfl
    · rintro ⟨rfl, complete, -⟩
      exact requestParts_ne_nil (sends.whole.mp complete).symm
  | going entry body nonempty sends known header collected silent =>
    rw [if_neg, silent]
    · rfl
    · rintro ⟨rfl, complete, -⟩
      have parts := sends.whole.mp complete
      rw [bodyParts_some nonempty] at parts
      cases parts
  | dropped body sends absent noted =>
    rw [noted, if_neg]
    · rfl
    · simp
  | delivered ended whole absent noted =>
    rw [noted, if_pos ⟨ended, whole, by simp⟩]
    rfl

/-- However the frames of some requests are interleaved, with each other and with anything else: the
    handler gets a request exactly once, as it was, if all its frames were sent and came and its upload
    was not dropped. Otherwise it never gets it, and it gets nothing else. -/
theorem uploads_reassembled (size : ℕ+) (requests : List SerializedHttpRequest)
    (senders : SerializedHttpRequest → ProxyMux) (limits : ProxyMuxUploadLimits) (events : List Event)
    (left : String → List Event) (distinct : (requests.map (·.requestId)).Nodup)
    (carried : ∀ request ∈ requests, Carried (senders request).limits request)
    (interleaved : Interleaved IsForeign (lanes size senders requests) events left) :
    let noted := notes size { limits, requestHandler := true } events
    (∀ call ∈ calls noted, ∃ request ∈ requests, call = delivered request) ∧
      ∀ request ∈ requests, (calls noted).filter (·.requestId = request.requestId)
        = if left request.requestId = [] ∧ IsSent size (senders request) request ∧
            Note.dropped request.requestId ∉ noted then
            [delivered request]
          else [] := by
  intro noted
  have reassembles : Reassembles size senders requests left noted _ :=
    reassembles_run distinct carried interleaved
  have each : ∀ request ∈ requests, (calls noted).filter (·.requestId = request.requestId)
      = if left request.requestId = [] ∧ IsSent size (senders request) request ∧
          Note.dropped request.requestId ∉ noted then
          [delivered request]
        else [] := by
    intro request here
    obtain ⟨frames, same, progress⟩ := reassembles.progress request here
    rw [calls_about, calls_of_progress progress, same]
    simp only [map_eq_nil_iff, ← dropped_mem_about]
  refine ⟨fun call here => ?_, each⟩
  have mine : call ∈ (calls noted).filter (·.requestId = call.requestId) :=
    mem_filter.mpr ⟨here, decide_eq_true rfl⟩
  by_cases named : call.requestId ∈ requests.map (·.requestId)
  · obtain ⟨request, there, same⟩ := mem_map.mp named
    rw [← same, each request there] at mine
    split at mine
    · exact ⟨request, there, mem_singleton.mp mine⟩
    · cases mine
  · rw [calls_about, (reassembles.others _ named).2.2] at mine
    cases mine

end Runs

/-! ### An upload, and a request that looks like one -/

def bigRequest : SerializedHttpRequest where
  requestId := "2"
  method := "POST"
  path := "/"
  headers := ⟨[("a", "b")], nodup_singleton _⟩
  body := [1, 2, 3, 4, 5]

def smallThreshold : ProxyMux := { limits := { uploadThresholdBytes := 4 } }

def bigRun : List Event := (arriving 2 smallThreshold bigRequest).map .handleFrame

theorem carried_bigRequest : Carried smallThreshold.limits bigRequest := by
  refine ⟨?_, by decide⟩
  rw [if_pos (by decide)]
  exact ⟨by decide +kernel, by decide +kernel, by decide +kernel,
    ⟨by decide +kernel, by decide +kernel⟩, by decide⟩

theorem bigRequest_reassembled :
    (calls (notes 2 { requestHandler := true } bigRun)).filter (·.requestId = bigRequest.requestId)
      = [delivered bigRequest] := by
  have run := @Interleaved.append String Event _ IsForeign (lanes 2 (fun _ => smallThreshold) [bigRequest]) _ [] []
    bigRun bigRequest.requestId (by decide +kernel) (.done _)
  rw [append_nil] at run
  have all := (uploads_reassembled 2 [bigRequest] (fun _ => smallThreshold) {} bigRun _ (by decide)
    (fun request here => by
      rw [mem_singleton.mp here]
      exact carried_bigRequest) run).2 bigRequest mem_cons_self
  rwa [if_pos ⟨by rw [Function.update_self], by decide +kernel, by decide +kernel⟩] at all

/-- A small request whose own headers have the marker. -/
def markedRequest : SerializedHttpRequest where
  requestId := "1"
  method := "GET"
  path := "/"
  headers := ⟨[(ANTSEED_UPLOAD_CHUNK_HEADER, "chunked")], nodup_singleton _⟩
  body := []

/-- It is sent in one frame, which comes and is taken, but the handler never gets it. -/
theorem markedRequest_is_lost :
    IsSent ANTSEED_UPLOAD_CHUNK_SIZE {} markedRequest ∧
      (arriving ANTSEED_UPLOAD_CHUNK_SIZE {} markedRequest).length = 1 ∧
      notes ANTSEED_UPLOAD_CHUNK_SIZE { requestHandler := true }
        ((arriving ANTSEED_UPLOAD_CHUNK_SIZE {} markedRequest).map .handleFrame) = [] := by
  decide +kernel

end AntSeed.Mux.ProxyMux
