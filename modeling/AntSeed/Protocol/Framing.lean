import AntSeed.Lib.Bytes
import AntSeed.Lib.Streaming

/-! # Frames

A connection carries frames: a type, a message id and the payload's length in
nine bytes, and then the payload. A decoder buffers what it is fed until a frame
is complete. A length beyond the limit throws, and the buffer is given up with
the frames that the same call had found before.
-/

namespace AntSeed.Protocol

open Streaming List
open Bytes

def FRAME_HEADER_SIZE : Nat := 9
def MAX_PAYLOAD_SIZE : Nat := 64 * 1024 * 1024

/-- The type and the id are numbers of the language. -/
structure FramedMessage where
  type : Int
  messageId : Int
  payload : List UInt8
  deriving DecidableEq, Repr

open FramedMessage

inductive FramingError where
  | payloadTooLarge (length : Nat)
  | payloadLengthExceeds (payloadLength : Nat)
  deriving DecidableEq, Repr

def encodeFrame (msg : FramedMessage) : Except FramingError (List UInt8) :=
  if msg.payload.length > MAX_PAYLOAD_SIZE then .error (.payloadTooLarge msg.payload.length)
  else
    .ok (ofInt 1 msg.type ++ ofInt 4 msg.messageId ++ ofInt 4 msg.payload.length
      ++ msg.payload)

/-- The first frame of some data, with the bytes it takes up, if it is complete. -/
def decodeFrame (data : List UInt8) : Except FramingError (Option (FramedMessage × Nat)) :=
  if data.length < FRAME_HEADER_SIZE then .ok none
  else
    let payloadLength := numberAt data 5 4
    let totalLength := FRAME_HEADER_SIZE + payloadLength
    if payloadLength > MAX_PAYLOAD_SIZE then .error (.payloadLengthExceeds payloadLength)
    else if data.length < totalLength then .ok none
    else
      .ok (some ({ type := numberAt data 0 1
                   messageId := numberAt data 1 4
                   payload := (data.drop FRAME_HEADER_SIZE).take payloadLength }, totalLength))

/-- The bytes a frame takes up. -/
def FramedMessage.size (msg : FramedMessage) : Nat := FRAME_HEADER_SIZE + msg.payload.length

section Decoding

variable {data more : List UInt8} {msg : FramedMessage} {n : Nat} {error : FramingError}

theorem numberAt_extended (inside : offset + width ≤ data.length) :
    numberAt (data ++ more) offset width = numberAt data offset width := by
  unfold numberAt
  rw [drop_append_of_le_length (by omega), take_append_of_le_length]
  rw [length_drop]
  omega

theorem decodeFrame_takes (finds : decodeFrame data = .ok (some (msg, n))) :
    n = msg.size ∧ 0 < n ∧ n ≤ data.length := by
  unfold decodeFrame at finds
  dsimp only at finds
  split at finds
  · cases finds
  · split at finds
    · cases finds
    · split at finds
      · cases finds
      next enough =>
        cases finds
        have length : ((data.drop FRAME_HEADER_SIZE).take (numberAt data 5 4)).length
            = numberAt data 5 4 := by
          rw [length_take, length_drop]
          omega
        refine ⟨by rw [size, length], ?_, by omega⟩
        unfold FRAME_HEADER_SIZE
        omega

theorem decodeFrame_found (more : List UInt8) (finds : decodeFrame data = .ok (some (msg, n))) :
    decodeFrame (data ++ more) = .ok (some (msg, n)) := by
  unfold decodeFrame at finds ⊢
  dsimp only at finds ⊢
  split at finds
  · cases finds
  next header =>
    have inside : 9 ≤ data.length := not_lt.mp header
    rw [numberAt_extended (by omega), numberAt_extended (by omega), numberAt_extended (by omega),
      length_append, if_neg (by omega)]
    split at finds
    · cases finds
    next small =>
      rw [if_neg small]
      split at finds
      · cases finds
      · have header' : FRAME_HEADER_SIZE ≤ data.length := inside
        rw [if_neg (by omega), drop_append_of_le_length header', take_append_of_le_length]
        · exact finds
        · rw [length_drop]
          omega

theorem decodeFrame_failed (more : List UInt8) (fails : decodeFrame data = .error error) :
    decodeFrame (data ++ more) = .error error := by
  unfold decodeFrame at fails ⊢
  dsimp only at fails ⊢
  split at fails
  · cases fails
  next header =>
    have inside : 9 ≤ data.length := not_lt.mp header
    rw [numberAt_extended (by omega), length_append, if_neg (by omega)]
    split at fails
    next large =>
      rw [if_pos large]
      exact fails
    · split at fails <;> cases fails

/-- Frames are decoded from the front of a buffer, and more bytes do not change what was found. -/
def frames : Decoder UInt8 FramedMessage FramingError where
  decode := decodeFrame
  size := size
  takes := decodeFrame_takes
  found := decodeFrame_found
  failed := decodeFrame_failed

end Decoding

structure FrameDecoder where
  buffer : List UInt8 := []
  deriving DecidableEq, Repr

namespace FrameDecoder

/-- The complete frames; if a header is bad, neither they nor the buffer are kept. -/
def feed (decoder : FrameDecoder) (chunk : List UInt8) :
    Except FramingError (List FramedMessage) × FrameDecoder :=
  match frames.drain (decoder.buffer ++ chunk) with
  | (messages, .ok rest) => (.ok messages, ⟨rest⟩)
  | (_, .error error) => (.error error, ⟨[]⟩)

/-- A connection: the frames that are delivered until a call of `feed` throws. -/
def feeds (decoder : FrameDecoder) :
    List (List UInt8) → List FramedMessage × Except FramingError FrameDecoder
  | [] => ([], .ok decoder)
  | chunk :: chunks =>
    match decoder.feed chunk with
    | (.error error, _) => ([], .error error)
    | (.ok messages, next) =>
      let (more, outcome) := next.feeds chunks
      (messages ++ more, outcome)

theorem feeds_eq {buffer : List UInt8} {chunks : List (List UInt8)} :
    feeds ⟨buffer⟩ chunks =
      ((frames.feedAll buffer chunks).1, (frames.feedAll buffer chunks).2.map FrameDecoder.mk) := by
  induction chunks generalizing buffer with
  | nil => rfl
  | cons chunk chunks ih =>
    unfold feeds feed Decoder.feedAll
    cases drained : frames.drain (buffer ++ chunk) with
    | mk messages outcome =>
      cases outcome with
      | error => rfl
      | ok =>
        dsimp only
        rw [ih]

end FrameDecoder

structure FramedMessage.Fits (msg : FramedMessage) : Prop where
  type : 0 ≤ msg.type ∧ msg.type < 256
  messageId : 0 ≤ msg.messageId ∧ msg.messageId < 2 ^ 32

/-- What arrives of a frame. -/
def FramedMessage.received (msg : FramedMessage) : FramedMessage :=
  { msg with type := msg.type % 256, messageId := msg.messageId % 2 ^ 32 }

section RoundTrip

variable {msg : FramedMessage} {messages : List FramedMessage} {bytes more : List UInt8}
  {encoded : List (List UInt8)}

theorem received_eq_self_iff : msg.received = msg ↔ msg.Fits := by
  constructor
  · intro same
    have types : msg.type % 256 = msg.type := congrArg type same
    have ids : msg.messageId % 2 ^ 32 = msg.messageId := congrArg messageId same
    exact ⟨by omega, by omega⟩
  · rintro ⟨type, messageId⟩
    unfold received
    rw [Int.emod_eq_of_lt type.1 type.2, Int.emod_eq_of_lt messageId.1 messageId.2]

section

variable (accepted : encodeFrame msg = .ok bytes)

include accepted

theorem encodeFrame_ok :
    msg.payload.length ≤ MAX_PAYLOAD_SIZE ∧
      bytes = ofInt 1 msg.type ++ ofInt 4 msg.messageId
        ++ ofInt 4 msg.payload.length ++ msg.payload := by
  unfold encodeFrame at accepted
  split at accepted
  · cases accepted
  next small =>
    cases accepted
    exact ⟨not_lt.mp small, rfl⟩

theorem length_encodeFrame : bytes.length = msg.size := by
  obtain ⟨-, rfl⟩ := encodeFrame_ok accepted
  simp only [length_append, length_ofInt, size, FRAME_HEADER_SIZE]

theorem decodeFrame_encodeFrame :
    decodeFrame (bytes ++ more) = .ok (some (msg.received, msg.size)) := by
  have length := length_encodeFrame accepted
  obtain ⟨small, rfl⟩ := encodeFrame_ok accepted
  have type : (numberAt (ofInt 1 msg.type ++ ofInt 4 msg.messageId
      ++ ofInt 4 msg.payload.length ++ msg.payload ++ more) 0 1 : Int) = msg.type % 256 := by
    simpa using @Bytes.numberAt_append [] (ofInt 4 msg.messageId
      ++ (ofInt 4 msg.payload.length ++ (msg.payload ++ more))) 0 1 msg.type rfl
  have messageId : (numberAt (ofInt 1 msg.type ++ ofInt 4 msg.messageId
      ++ ofInt 4 msg.payload.length ++ msg.payload ++ more) 1 4 : Int) = msg.messageId % 2 ^ 32 := by
    simpa using @Bytes.numberAt_append (ofInt 1 msg.type)
      (ofInt 4 msg.payload.length ++ (msg.payload ++ more)) 1 4 msg.messageId length_ofInt
  have payloadLength : numberAt (ofInt 1 msg.type ++ ofInt 4 msg.messageId
      ++ ofInt 4 msg.payload.length ++ msg.payload ++ more) 5 4 = msg.payload.length := by
    have read := @Bytes.numberAt_append (ofInt 1 msg.type ++ ofInt 4 msg.messageId)
      (msg.payload ++ more) 5 4 msg.payload.length (by simp)
    unfold MAX_PAYLOAD_SIZE at small
    simp only [← append_assoc] at read
    omega
  unfold decodeFrame
  dsimp only
  rw [type, messageId, payloadLength, if_neg, if_neg (not_lt.mpr small), if_neg]
  · have payload : ((ofInt 1 msg.type ++ ofInt 4 msg.messageId
        ++ ofInt 4 msg.payload.length ++ msg.payload ++ more).drop FRAME_HEADER_SIZE).take
          msg.payload.length = msg.payload := by
      rw [append_assoc _ msg.payload, drop_left' (by simp [FRAME_HEADER_SIZE]), take_left]
    rw [payload]
    rfl
  · rw [length_append, length, size]
    omega
  · rw [length_append, length, size]
    omega

end

theorem drain_encoded (accepted : messages.map encodeFrame = encoded.map .ok) :
    frames.drain (encoded.flatten ++ more) =
      (messages.map received ++ (frames.drain more).1, (frames.drain more).2) := by
  induction messages generalizing encoded with
  | nil =>
    rw [map_nil, eq_comm, map_eq_nil_iff] at accepted
    subst accepted
    rfl
  | cons msg messages ih =>
    cases encoded with
    | nil => cases accepted
    | cons bytes encoded =>
      obtain ⟨first, accepted⟩ := cons.inj accepted
      have found := @decodeFrame_encodeFrame msg bytes (encoded.flatten ++ more) first
      rw [flatten_cons, append_assoc, frames.drain_found found,
        ← length_encodeFrame first, drop_left, ih accepted]
      rfl

theorem drain_nil : frames.drain [] = ([], .ok []) := Decoder.drain_waiting rfl

theorem map_received_eq_self_iff : messages.map received = messages ↔ ∀ msg ∈ messages, msg.Fits := by
  nth_rewrite 2 [← map_id messages]
  simp only [map_inj_left, id_eq, received_eq_self_iff]

/-- Whatever pieces encoded frames come in, what arrives of them is delivered, with nothing left over. -/
theorem feeds_encoded (accepted : messages.map encodeFrame = encoded.map .ok)
    (split : chunks.flatten = encoded.flatten) :
    FrameDecoder.feeds {} chunks = (messages.map received, .ok {}) := by
  have all := @drain_encoded messages [] encoded accepted
  rw [append_nil, drain_nil, append_nil] at all
  have drained : frames.drain ([] ++ chunks.flatten) = (messages.map received, .ok []) := by
    rw [nil_append, split, all]
  rw [FrameDecoder.feeds_eq, Decoder.feedAll_of_drain drain_nil drained]
  rfl

/-- Whatever pieces encoded frames come in, they are delivered as they were, with nothing left over,
    exactly if their types and ids fit. -/
theorem feeds_encoded_iff (messages : List FramedMessage) (encoded chunks : List (List UInt8))
    (accepted : messages.map encodeFrame = encoded.map .ok) (split : chunks.flatten = encoded.flatten) :
    FrameDecoder.feeds {} chunks = (messages, .ok {}) ↔ ∀ msg ∈ messages, msg.Fits := by
  rw [feeds_encoded accepted split, Prod.mk.injEq, map_received_eq_self_iff]
  exact and_iff_left rfl

end RoundTrip

/-! ### An id beyond its field

The connections count their messages in signed 32-bit numbers, so after 2 ^ 31 of
them the ids are negative.
-/

section Example

def acknowledgement : FramedMessage := ⟨0x27, 7, []⟩

def wrappedId : FramedMessage := { acknowledgement with messageId := -2 ^ 31 }

def acknowledgementBytes : List UInt8 := [0x27, 0, 0, 0, 7, 0, 0, 0, 0]

theorem acknowledgement_encoded : [acknowledgement].map encodeFrame = [acknowledgementBytes].map .ok := by
  decide

theorem feeds_acknowledgement :
    FrameDecoder.feeds {} [[0x27, 0], [], [0, 0, 7, 0, 0, 0, 0]] = ([acknowledgement], .ok {}) :=
  (feeds_encoded_iff [acknowledgement] [acknowledgementBytes] [[0x27, 0], [], [0, 0, 7, 0, 0, 0, 0]]
    acknowledgement_encoded rfl).mpr fun msg member => by
      rw [List.mem_singleton.mp member]
      exact ⟨by decide, by decide⟩

/-- A frame with a negative id is accepted and arrives with another one. -/
theorem wrappedId_is_lost :
    encodeFrame wrappedId = .ok [0x27, 128, 0, 0, 0, 0, 0, 0, 0] ∧
      FrameDecoder.feeds {} [[0x27, 128, 0, 0, 0, 0, 0, 0, 0]] =
        ([{ wrappedId with messageId := 2 ^ 31 }], .ok {}) ∧
      { wrappedId with messageId := 2 ^ 31 } ≠ wrappedId := by
  refine ⟨by decide, ?_, by decide⟩
  exact @feeds_encoded [wrappedId] [[0x27, 128, 0, 0, 0, 0, 0, 0, 0]] _ (by decide) rfl

end Example

section Bad

variable {messages : List FramedMessage} {encoded chunks : List (List UInt8)}
  {header more : List UInt8}

/-- A header that announces more than any frame may carry. -/
structure IsBadHeader (header : List UInt8) : Prop where
  length : header.length = FRAME_HEADER_SIZE
  exceeds : MAX_PAYLOAD_SIZE < numberAt header 5 4

/-- What throws. -/
def badHeader (header : List UInt8) : FramingError := .payloadLengthExceeds (numberAt header 5 4)

theorem decodeFrame_bad (bad : IsBadHeader header) : decodeFrame header = .error (badHeader header) := by
  unfold decodeFrame
  dsimp only
  rw [if_neg (by rw [bad.length]; exact lt_irrefl _), if_pos bad.exceeds]
  rfl

section

variable (accepted : messages.map encodeFrame = encoded.map .ok)

include accepted

theorem drain_bad (bad : IsBadHeader header) : frames.drain (encoded.flatten ++ (header ++ more)) =
      (messages.map received, .error (badHeader header)) := by
  have fails := decodeFrame_failed more (decodeFrame_bad bad)
  rw [drain_encoded accepted, Decoder.drain_failed fails, append_nil]

theorem drain_unfinished (short : more.length < FRAME_HEADER_SIZE) :
    frames.drain (encoded.flatten ++ more) = (messages.map received, .ok more) := by
  have waits : decodeFrame more = .ok none := if_pos short
  rw [drain_encoded accepted, Decoder.drain_waiting waits, append_nil]

theorem sum_size : ((messages.map received).map size).sum = encoded.flatten.length := by
  induction messages generalizing encoded with
  | nil =>
    rw [map_nil, eq_comm, map_eq_nil_iff] at accepted
    subst accepted
    rfl
  | cons msg messages ih =>
    cases encoded with
    | nil => cases accepted
    | cons =>
      obtain ⟨first, accepted⟩ := cons.inj accepted
      rw [map_cons, map_cons, sum_cons, ih accepted, flatten_cons,
        length_append, length_encodeFrame first]
      rfl

end

/-- Some call of `feed` ends with the last good frame, or inside the bad header. -/
def EndsBefore (chunks : List (List UInt8)) (good : Nat) : Prop :=
  ∃ before, before <+: chunks ∧ good ≤ before.flatten.length ∧
    before.flatten.length < good + FRAME_HEADER_SIZE

section Split

variable {before after : List (List UInt8)} {chunk rest : List UInt8} {handed : List FramedMessage}
  (accepted : messages.map encodeFrame = encoded.map .ok) (bad : IsBadHeader header)
  (split : (before ++ chunk :: after).flatten = encoded.flatten ++ (header ++ more))
  (early : frames.drain before.flatten = (handed, .ok rest))

include accepted bad split early

theorem endsBefore_of_handed (same : handed = messages.map received) :
    EndsBefore (before ++ chunk :: after) encoded.flatten.length := by
  refine ⟨before, prefix_append _ _, ?_, ?_⟩
  · have taken := Decoder.length_drain early
    rw [same] at taken
    rw [taken]
    exact (sum_size accepted).ge.trans (Nat.le_add_right _ _)
  · by_contra beyond
    have part : before.flatten <+: encoded.flatten ++ (header ++ more) := by
      rw [← split, flatten_append]
      exact prefix_append _ _
    have through : encoded.flatten ++ header <+: encoded.flatten ++ (header ++ more) := by
      rw [← append_assoc]
      exact prefix_append _ _
    have long : (encoded.flatten ++ header).length ≤ before.flatten.length := by
      rw [length_append, bad.length]
      exact not_lt.mp beyond
    obtain ⟨tail, whole⟩ := prefix_of_prefix_length_le through part long
    rw [← whole, append_assoc, drain_bad accepted bad] at early
    cases early

omit bad in
/-- If a call ends between them and the end of the bad header, all good frames came with it or before
    it, and before the call that fails. -/
theorem handed_of_endsBefore
    (late : frames.drain (before.flatten ++ chunk) = (messages.map received, .error error))
    (ends : EndsBefore (before ++ chunk :: after) encoded.flatten.length) :
    handed = messages.map received := by
  obtain ⟨shorter, piece, least, most⟩ := ends
  have part : shorter.flatten <+: encoded.flatten ++ (header ++ more) := by
    obtain ⟨tail, whole⟩ := piece
    rw [← split, ← whole, flatten_append]
    exact prefix_append _ _
  obtain ⟨left, cut⟩ : encoded.flatten <+: shorter.flatten :=
    prefix_of_prefix_length_le (prefix_append _ _) part least
  rw [← cut, length_append] at most
  have found : frames.drain shorter.flatten = (messages.map received, .ok left) := by
    rw [← cut]
    exact drain_unfinished accepted (by omega)
  -- it is not the call that fails, or a later one
  have inside : shorter <+: before := by
    have failing : before ++ [chunk] <+: before ++ chunk :: after := ⟨after, by simp⟩
    rcases prefix_or_prefix_of_prefix failing piece with longer | within
    · obtain ⟨tail, whole⟩ := longer
      rw [← whole, flatten_append, flatten_append, flatten_singleton,
        Decoder.drain_append_error late] at found
      cases found
    · rcases prefix_concat_iff.mp within with same | inside
      · rw [same, flatten_append, flatten_singleton, late] at found
        cases found
      · exact inside
  obtain ⟨tail, whole⟩ := inside
  have first := @Decoder.drain_append _ _ _ frames _ tail.flatten _ _ found
  rw [← flatten_append, whole, early] at first
  have next := @Decoder.drain_append _ _ _ frames _ chunk _ _ early
  rw [late] at next
  have handedAll := (Prod.mk.inj first).1
  have allHanded := (Prod.mk.inj next).1
  have lengths := congrArg length handedAll
  have lengths' := congrArg length allHanded
  rw [length_append] at lengths lengths'
  have nothing : (frames.drain (left ++ tail.flatten)).1 = [] := length_eq_zero_iff.mp (by omega)
  rw [nothing, append_nil] at handedAll
  exact handedAll

end Split

/-- A bad header is reported, and all frames before it are delivered exactly if some call of `feed` ends
    with the last of them or inside the bad header. -/
theorem feeds_bad (messages : List FramedMessage) (encoded chunks : List (List UInt8))
    (header more : List UInt8) (accepted : messages.map encodeFrame = encoded.map .ok)
    (bad : IsBadHeader header) (split : chunks.flatten = encoded.flatten ++ (header ++ more)) :
    (FrameDecoder.feeds {} chunks).2 = .error (badHeader header) ∧
      ((FrameDecoder.feeds {} chunks).1 = messages.map received ↔
        messages = [] ∨ EndsBefore chunks encoded.flatten.length) := by
  have drained : frames.drain ([] ++ chunks.flatten)
      = (messages.map received, .error (badHeader header)) := by
    rw [List.nil_append, split, drain_bad accepted bad]
  obtain ⟨before, chunk, after, handed, rest, rfl, early, late, fed⟩ :=
    Decoder.feedAll_of_error drain_nil drained
  rw [List.nil_append] at early late
  rw [FrameDecoder.feeds_eq, fed]
  refine ⟨rfl, fun same => .inr (endsBefore_of_handed accepted bad split early same), ?_⟩
  rintro (rfl | ends)
  · have next := @Decoder.drain_append _ _ _ frames _ chunk _ _ early
    rw [late] at next
    exact (List.append_eq_nil_iff.mp (Prod.mk.inj next).1.symm).1
  · exact handed_of_endsBefore accepted split early late ends

end Bad

/-- It announces 4294967295 bytes. -/
def hugeHeader : List UInt8 := [0x27, 0, 0, 0, 8, 255, 255, 255, 255]

theorem hugeHeader_bad : IsBadHeader hugeHeader := ⟨rfl, by decide⟩

theorem feeds_bad_hugeHeader :
    (FrameDecoder.feeds {} [acknowledgementBytes, hugeHeader]).2 = .error (badHeader hugeHeader) ∧
      ((FrameDecoder.feeds {} [acknowledgementBytes, hugeHeader]).1 = [acknowledgement].map received ↔
        [acknowledgement] = [] ∨ EndsBefore [acknowledgementBytes, hugeHeader] 9) :=
  feeds_bad [acknowledgement] [acknowledgementBytes] [acknowledgementBytes, hugeHeader] hugeHeader []
    acknowledgement_encoded hugeHeader_bad rfl

/-- A good frame is delivered if it comes alone, and lost if the bad header comes with it. -/
theorem delivery_depends_on_chunks :
    (FrameDecoder.feeds {} [acknowledgementBytes, hugeHeader]).1 = [acknowledgement] ∧
      (FrameDecoder.feeds {} [acknowledgementBytes ++ hugeHeader]).1 = [] := by
  have alone : frames.drain acknowledgementBytes = ([acknowledgement], .ok []) :=
    @drain_unfinished [acknowledgement] [acknowledgementBytes] [] acknowledgement_encoded (by decide)
  have header : frames.drain hugeHeader = ([], .error (badHeader hugeHeader)) :=
    @drain_bad [] [] hugeHeader [] rfl hugeHeader_bad
  have both : frames.drain (acknowledgementBytes ++ hugeHeader)
      = ([acknowledgement], .error (badHeader hugeHeader)) :=
    @drain_bad [acknowledgement] [acknowledgementBytes] hugeHeader [] acknowledgement_encoded hugeHeader_bad
  simp [FrameDecoder.feeds, FrameDecoder.feed, alone, header, both]

end AntSeed.Protocol
