import AntSeed.P2p.SecureChannel

/-! # An encrypted connection delivers a prefix

The counters of the two sides number the same frames. A body that opens under the receiver's counter was
sealed under it, so it is the frame whose turn it is, whatever bytes came and however they were cut.
-/

namespace AntSeed.P2p

open List SealedFrame

section Openings

variable {aead : Aead} {key iv : List UInt8} {decryptor last : FrameDecryptor} {frame : SealedFrame}
  {sent delivered rest : List SealedFrame} {messages all : List (List UInt8)} {plaintext later : List UInt8}
  {bodyLength : Nat}

/-- A decryptor that has opened the first frames of those that were sent. -/
structure Opened (key : List UInt8) (sent delivered : List SealedFrame) (decryptor : FrameDecryptor) : Prop where
  key : decryptor.key = key
  counter : decryptor.counter = delivered.length
  start : delivered <+: sent

theorem opened_next (ideal : aead.Ideal key sent) (consecutive : Consecutive aead key 0 sent)
    (opened : Opened key sent delivered decryptor)
    (opens : decryptor.openFrame aead bodyLength = (.ok plaintext, last)) :
    ∃ frame, plaintext = frame.plaintext ∧ Opened key sent (delivered ++ [frame]) last := by
  unfold FrameDecryptor.openFrame at opens
  dsimp only at opens
  split at opens
  · simp at opens
  next iv counted =>
    split at opens
    · simp at opens
    next plaintext' deciphered =>
      simp only [Prod.mk.injEq, Except.ok.injEq] at opens
      obtain ⟨rfl, rfl⟩ := opens
      rw [opened.key] at deciphered
      obtain ⟨frame, member, same, ciphered⟩ := ideal.only _ _ _ _ deciphered
      have plain := ideal.opens frame member
      rw [ciphered, same, deciphered, Option.some.injEq] at plain
      obtain ⟨before, after, sent_eq, counted'⟩ := frame_of_iv consecutive member
      have turn : delivered.length = before.length := by
        have equal := counterIv_inj counted (same ▸ counted')
        rw [opened.counter] at equal
        omega
      have front : delivered = before := by
        obtain ⟨remaining, split_⟩ := opened.start
        exact (append_inj (split_.trans sent_eq) turn).1
      subst front
      exact ⟨frame, plain, opened.key, by simp [opened.counter], after, by simp [sent_eq]⟩

/-- Whether the buffer holds a frame that is not too long or short, and all of it. -/
def Ready (decryptor : FrameDecryptor) (bodyLength : Nat) : Prop :=
  FRAME_HEADER_BYTES ≤ decryptor.buffer.length
    ∧ bodyLength = Bytes.numberAt decryptor.buffer 0 FRAME_HEADER_BYTES
    ∧ ¬ (bodyLength < AEAD_TAG_BYTES ∨ bodyLength > MAX_FRAME_PLAINTEXT_BYTES + AEAD_TAG_BYTES)
    ∧ FRAME_HEADER_BYTES + bodyLength ≤ decryptor.buffer.length

theorem openFrames_opened (ready : Ready decryptor bodyLength)
    (opens : decryptor.openFrame aead bodyLength = (.ok plaintext, last)) :
    decryptor.openFrames aead messages = last.openFrames aead (messages ++ [plaintext]) := by
  obtain ⟨header, rfl, good, complete⟩ := ready
  rw [FrameDecryptor.openFrames]
  simp only [header, ↓reduceDIte, good, ↓reduceIte, Nat.not_lt.mpr complete]
  split
  next opens' => simp [opens] at opens'
  next plaintext' next_ opens' =>
    rw [opens, Prod.mk.injEq, Except.ok.injEq] at opens'
    rw [opens'.1, opens'.2]

theorem openFrames_waiting (waiting : decryptor.buffer.length < FRAME_HEADER_BYTES) :
    decryptor.openFrames aead messages = (.ok messages, decryptor) := by
  rw [FrameDecryptor.openFrames]
  simp [Nat.not_le.mpr waiting]

theorem openFrames_cases (aead : Aead) (decryptor : FrameDecryptor) (messages : List (List UInt8)) :
    decryptor.openFrames aead messages = (.ok messages, decryptor)
      ∨ (∃ message last, decryptor.openFrames aead messages = (.error message, last))
      ∨ ∃ bodyLength plaintext last, Ready decryptor bodyLength
        ∧ decryptor.openFrame aead bodyLength = (.ok plaintext, last) := by
  cases Nat.lt_or_ge decryptor.buffer.length FRAME_HEADER_BYTES with
  | inl waiting => exact .inl (openFrames_waiting waiting)
  | inr header =>
    rw [FrameDecryptor.openFrames]
    simp only [header, ↓reduceDIte]
    split
    · exact .inr (.inl ⟨_, _, rfl⟩)
    next good =>
      split
      · exact .inl rfl
      next complete =>
        split
        · exact .inr (.inl ⟨_, _, rfl⟩)
        next opens =>
          exact .inr (.inr ⟨_, _, _, ⟨header, rfl, good, Nat.not_lt.mp complete⟩, opens⟩)

section

variable (ideal : aead.Ideal key sent) (consecutive : Consecutive aead key 0 sent)
  (opened : Opened key sent delivered decryptor)

include ideal consecutive opened

theorem openFrames_delivers
    (opens : decryptor.openFrames aead messages = (.ok all, last)) :
    ∃ more, all = messages ++ more.map SealedFrame.plaintext ∧ Opened key sent (delivered ++ more) last := by
  induction size : decryptor.buffer.length using Nat.strong_induction_on
    generalizing decryptor messages delivered with
  | h size_ ih =>
    cases openFrames_cases aead decryptor messages with
    | inl waits =>
      rw [waits, Prod.mk.injEq, Except.ok.injEq] at opens
      exact ⟨[], by simp [opens.1], by simpa [← opens.2] using opened⟩
    | inr goes =>
      cases goes with
      | inl fails =>
        obtain ⟨message, left, fails⟩ := fails
        simp [fails] at opens
      | inr ready =>
        obtain ⟨bodyLength, plaintext, next_, ready, first⟩ := ready
        obtain ⟨frame, rfl, opened'⟩ := opened_next ideal consecutive opened first
        rw [openFrames_opened ready first] at opens
        have shorter : next_.buffer.length < size_ := by
          have left := congrArg (fun opened => opened.2.buffer.length) first
          simp only [FrameDecryptor.openFrame_buffer, List.length_drop] at left
          have header := ready.1
          simp only [FRAME_HEADER_BYTES] at header left
          omega
        obtain ⟨more, rfl, opened''⟩ := ih _ shorter opened' opens rfl
        exact ⟨frame :: more, by simp, by simpa using opened''⟩

theorem pushAll_delivers
    (chunks : List (List UInt8)) :
    ∃ more, (decryptor.pushAll aead chunks).1 = more.map SealedFrame.plaintext ∧ delivered ++ more <+: sent := by
  induction chunks generalizing decryptor delivered with
  | nil => exact ⟨[], rfl, by simpa using opened.start⟩
  | cons chunk chunks ih =>
    rw [FrameDecryptor.pushAll]
    cases pushed : decryptor.push aead chunk with
    | mk outcome =>
      cases outcome with
      | error => exact ⟨[], rfl, by simpa using opened.start⟩
      | ok =>
        have buffered : Opened key sent delivered { decryptor with buffer := decryptor.buffer ++ chunk } :=
          ⟨opened.key, opened.counter, opened.start⟩
        obtain ⟨more, rfl, opened'⟩ := openFrames_delivers ideal consecutive buffered pushed
        obtain ⟨others, returned, start⟩ := ih opened'
        exact ⟨more ++ others, by simp [returned], by simpa using start⟩

end

theorem frameOf_eq : frameOf aead key iv plaintext
    = Bytes.ofNat FRAME_HEADER_BYTES ((aead.cipher key iv plaintext).1 ++ (aead.cipher key iv plaintext).2).length
      ++ ((aead.cipher key iv plaintext).1 ++ (aead.cipher key iv plaintext).2) := rfl

section

variable (lengths : aead.KeepsLengths)

include lengths

theorem length_frameOf :
    (frameOf aead key iv plaintext).length = FRAME_HEADER_BYTES + (plaintext.length + AEAD_TAG_BYTES) := by
  have parts := lengths key iv plaintext
  simp [frameOf, parts.1, parts.2]

theorem header_frameOf (short : plaintext.length ≤ MAX_FRAME_PLAINTEXT_BYTES)
    (header : FRAME_HEADER_BYTES ≤ buffer.length)
    (stream : buffer ++ later = frameOf aead key iv plaintext ++ more) :
    Bytes.numberAt buffer 0 FRAME_HEADER_BYTES = plaintext.length + AEAD_TAG_BYTES := by
  have parts := lengths key iv plaintext
  have front : buffer.take FRAME_HEADER_BYTES
      = Bytes.ofNat FRAME_HEADER_BYTES (plaintext.length + AEAD_TAG_BYTES) := by
    have same := congrArg (List.take FRAME_HEADER_BYTES) stream
    rw [List.take_append_of_le_length header] at same
    rw [same]
    simp [frameOf, parts.1, parts.2]
  rw [Bytes.numberAt, List.drop_zero, front, Bytes.toNat_ofNat]
  refine Nat.mod_eq_of_lt ?_
  simp only [MAX_FRAME_PLAINTEXT_BYTES, AEAD_TAG_BYTES, FRAME_HEADER_BYTES] at *
  omega

theorem openFrames_incomplete (short : plaintext.length ≤ MAX_FRAME_PLAINTEXT_BYTES)
    (stream : decryptor.buffer ++ later = frameOf aead key iv plaintext ++ more)
    (incomplete : decryptor.buffer.length < (frameOf aead key iv plaintext).length) :
    decryptor.openFrames aead messages = (.ok messages, decryptor) := by
  cases Nat.lt_or_ge decryptor.buffer.length FRAME_HEADER_BYTES with
  | inl waiting => exact openFrames_waiting waiting
  | inr header =>
    rw [length_frameOf lengths] at incomplete
    have told := header_frameOf lengths short header stream
    have good : ¬ (plaintext.length + AEAD_TAG_BYTES < AEAD_TAG_BYTES
        ∨ plaintext.length + AEAD_TAG_BYTES > MAX_FRAME_PLAINTEXT_BYTES + AEAD_TAG_BYTES) := by
      omega
    rw [FrameDecryptor.openFrames]
    simp only [header, ↓reduceDIte, told, good, ↓reduceIte, incomplete]

theorem openFrame_honest
    (opens : aead.decipher decryptor.key iv (aead.cipher decryptor.key iv plaintext).1
      (aead.cipher decryptor.key iv plaintext).2 = some plaintext)
    (counted : counterIv decryptor.counter = .ok iv)
    (stream : decryptor.buffer = frameOf aead decryptor.key iv plaintext ++ more) :
    decryptor.openFrame aead (plaintext.length + AEAD_TAG_BYTES)
      = (.ok plaintext, { decryptor with counter := decryptor.counter + 1, buffer := more }) := by
  have parts := lengths decryptor.key iv plaintext
  have body : (decryptor.buffer.drop FRAME_HEADER_BYTES).take (plaintext.length + AEAD_TAG_BYTES)
      = (aead.cipher decryptor.key iv plaintext).1 ++ (aead.cipher decryptor.key iv plaintext).2 := by
    rw [stream, frameOf_eq, append_assoc, drop_left' Bytes.length_ofNat]
    exact take_left' (by rw [length_append, parts.1, parts.2])
  have left : decryptor.buffer.drop (FRAME_HEADER_BYTES + (plaintext.length + AEAD_TAG_BYTES)) = more := by
    rw [stream, ← length_frameOf lengths, drop_left]
  have front : ((aead.cipher decryptor.key iv plaintext).1 ++ (aead.cipher decryptor.key iv plaintext).2).length
      - AEAD_TAG_BYTES = (aead.cipher decryptor.key iv plaintext).1.length := by
    rw [length_append, parts.2, Nat.add_sub_cancel]
  simp only [FrameDecryptor.openFrame, body, left, counted, front, take_left, drop_left, opens]

end

/-- A decryptor whose buffer is the beginning of the frames that it has not opened. -/
structure InStep (aead : Aead) (key : List UInt8) (sent delivered rest : List SealedFrame) (decryptor : FrameDecryptor)
    (later : List UInt8) : Prop where
  opened : Opened key sent delivered decryptor
  all : sent = delivered ++ rest
  stream : decryptor.buffer ++ later = (rest.map SealedFrame.frame).flatten

theorem openFrames_honest (messages : List (List UInt8)) (lengths : aead.KeepsLengths) (ideal : aead.Ideal key sent)
    (consecutive : Consecutive aead key 0 sent) (inStep : InStep aead key sent delivered rest decryptor later) :
    ∃ more rest' last, decryptor.openFrames aead messages = (.ok (messages ++ more.map SealedFrame.plaintext), last)
      ∧ InStep aead key sent (delivered ++ more) rest' last later ∧ (later = [] → rest' = []) := by
  induction rest generalizing decryptor messages delivered with
  | nil =>
    have nothing : decryptor.buffer = [] := (List.append_eq_nil_iff.mp inStep.stream).1
    refine ⟨[], [], decryptor, ?_, by simpa using inStep, fun _ => rfl⟩
    rw [openFrames_waiting (by simp [nothing, FRAME_HEADER_BYTES])]
    simp
  | cons frame rest ih =>
    have numbered := consecutive
    rw [inStep.all, consecutive_append, Nat.zero_add, ← inStep.opened.counter, ← inStep.opened.key] at numbered
    obtain ⟨counted, short, framed⟩ := numbered.2.1
    have stream := inStep.stream
    rw [List.map_cons, List.flatten_cons, framed] at stream
    cases Nat.lt_or_ge decryptor.buffer.length (frameOf aead decryptor.key frame.iv frame.plaintext).length with
    | inl incomplete =>
      refine ⟨[], frame :: rest, decryptor, ?_, by simpa using inStep, ?_⟩
      · rw [openFrames_incomplete lengths short stream incomplete]
        simp
      · rintro rfl
        have size := congrArg List.length stream
        simp only [List.append_nil, List.length_append] at size
        omega
    | inr complete =>
      obtain ⟨others, split_, remaining⟩ : ∃ others,
          decryptor.buffer = frameOf aead decryptor.key frame.iv frame.plaintext ++ others
            ∧ others ++ later = (rest.map SealedFrame.frame).flatten := by
        cases List.append_eq_append_iff.mp stream with
        | inl shorter =>
          obtain ⟨gap, whole, rest_⟩ := shorter
          have empty : gap = [] := by
            have size := congrArg List.length whole
            simp only [List.length_append] at size
            exact List.length_eq_zero_iff.mp (by omega)
          subst empty
          exact ⟨[], by simpa using whole.symm, by simpa using rest_⟩
        | inr longer =>
          obtain ⟨others, whole, rest_⟩ := longer
          exact ⟨others, whole, rest_.symm⟩
      have member : frame ∈ sent := inStep.all ▸ List.mem_append_right delivered List.mem_cons_self
      have first := openFrame_honest lengths (inStep.opened.key ▸ ideal.opens frame member) counted split_
      have header : FRAME_HEADER_BYTES ≤ decryptor.buffer.length := by
        rw [length_frameOf lengths] at complete
        omega
      have told := header_frameOf lengths short header stream
      have ready : Ready decryptor (frame.plaintext.length + AEAD_TAG_BYTES) := by
        refine ⟨header, told.symm, by omega, ?_⟩
        rwa [length_frameOf lengths] at complete
      have next_ : InStep aead key sent (delivered ++ [frame]) rest
          { decryptor with counter := decryptor.counter + 1, buffer := others } later :=
        { opened :=
            ⟨inStep.opened.key, by simp [inStep.opened.counter], rest, by simp [inStep.all]⟩
          all := by simp [inStep.all]
          stream := remaining }
      obtain ⟨more, rest', last, opens, inStep', whole⟩ := ih (messages ++ [frame.plaintext]) next_
      refine ⟨frame :: more, rest', last, ?_, by simpa using inStep', whole⟩
      rw [openFrames_opened ready first, opens]
      simp

theorem decryptor_done (inStep : InStep aead key sent delivered [] decryptor []) :
    decryptor = { key, counter := sent.length } := by
  have nothing : decryptor.buffer = [] := (List.append_eq_nil_iff.mp inStep.stream).1
  cases decryptor with
  | mk key' counter =>
    have counted : counter = delivered.length := inStep.opened.counter
    have same : key' = key := inStep.opened.key
    simp_all [inStep.all]

theorem pushAll_honest (lengths : aead.KeepsLengths) (ideal : aead.Ideal key sent)
    (consecutive : Consecutive aead key 0 sent)
    (inStep : InStep aead key sent delivered rest decryptor chunks.flatten) (open_ : chunks.flatten = [] → rest = []) :
    decryptor.pushAll aead chunks
      = (rest.map SealedFrame.plaintext, .ok { key, counter := sent.length, buffer := [] }) := by
  induction chunks generalizing decryptor delivered rest with
  | nil =>
    have none_ := open_ rfl
    subst none_
    rw [FrameDecryptor.pushAll, decryptor_done inStep]
    rfl
  | cons chunk chunks ih =>
    have buffered : InStep aead key sent delivered rest { decryptor with buffer := decryptor.buffer ++ chunk }
        chunks.flatten :=
      { opened := ⟨inStep.opened.key, inStep.opened.counter, inStep.opened.start⟩
        all := inStep.all
        stream := by simpa using inStep.stream }
    obtain ⟨more, rest', last, opens, inStep', whole⟩ :=
      openFrames_honest [] lengths ideal consecutive buffered
    have split_ : rest = more ++ rest' := by
      have both := inStep.all.symm.trans inStep'.all
      rw [List.append_assoc] at both
      exact List.append_cancel_left both
    rw [FrameDecryptor.pushAll, FrameDecryptor.push, opens]
    simp only [ih inStep' whole, split_, List.map_append, List.nil_append]

theorem flatten_frames (lengths : aead.KeepsLengths) (consecutive : Consecutive aead key counter rest)
    (nothing : (rest.map SealedFrame.frame).flatten = []) : rest = [] := by
  cases rest with
  | nil => rfl
  | cons =>
    have first := consecutive.1.2.2
    rw [List.map_cons, List.flatten_cons, List.append_eq_nil_iff, first] at nothing
    have size := congrArg List.length nothing.1
    rw [length_frameOf lengths] at size
    simp [FRAME_HEADER_BYTES] at size

end Openings

/-- Whatever bytes come, in whatever pieces, the messages that are returned before the first error are the
    first of those that were sealed; the honest stream returns them all and leaves nothing; and no two
    frames have the same nonce. -/
theorem channel_delivers_in_order (aead : Aead) (key : List UInt8) (plaintexts : List (List UInt8))
    (lengths : aead.KeepsLengths) (ideal : aead.Ideal key (sealed aead { key } plaintexts)) :
    (∀ chunks, (FrameDecryptor.pushAll aead { key } chunks).1
      <+: (sealed aead { key } plaintexts).map SealedFrame.plaintext)
    ∧ (∀ chunks, chunks.flatten = ((sealed aead { key } plaintexts).map SealedFrame.frame).flatten →
      FrameDecryptor.pushAll aead { key } chunks
        = ((sealed aead { key } plaintexts).map SealedFrame.plaintext,
          .ok { key, counter := (sealed aead { key } plaintexts).length, buffer := [] }))
    ∧ ((sealed aead { key } plaintexts).map SealedFrame.iv).Nodup := by
  have consecutive := @consecutive_sealed aead { key } plaintexts
  have fresh : Opened key (sealed aead { key } plaintexts) [] { key } := ⟨rfl, rfl, List.nil_prefix⟩
  refine ⟨?_, ?_, ivs_distinct consecutive⟩
  · intro chunks
    obtain ⟨more, returned, start⟩ := pushAll_delivers ideal consecutive fresh chunks
    rw [returned]
    exact start.map SealedFrame.plaintext
  · intro chunks honest
    refine pushAll_honest lengths ideal consecutive ⟨fresh, rfl, honest⟩ ?_
    intro nothing
    exact flatten_frames lengths consecutive (honest.symm.trans nothing)

def knownKey : List UInt8 := (range 32).map UInt8.ofNat

/-- What two messages are enciphered to under one key. -/
def knownSeals : List (List UInt8 × List UInt8 × List UInt8 × List UInt8) :=
  [([0, 0, 0, 0, 0, 0, 0, 0, 0, 0, 0, 0], [104, 105],
      [102, 213], [30, 195, 146, 80, 234, 146, 3, 182, 225, 230, 120, 155, 122, 15, 48, 130]),
    ([0, 0, 0, 0, 0, 0, 0, 0, 0, 0, 0, 1], [],
      [], [54, 126, 248, 40, 136, 49, 85, 116, 8, 225, 2, 149, 10, 22, 226, 106])]

def knownAead : Aead where
  cipher key iv plaintext :=
    match knownSeals.find? fun known => key = knownKey ∧ known.1 = iv ∧ known.2.1 = plaintext with
    | some known => known.2.2
    | none => (plaintext, replicate AEAD_TAG_BYTES 0)
  decipher key iv ciphertext tag :=
    (knownSeals.find? fun known => key = knownKey ∧ known.1 = iv ∧ known.2.2 = (ciphertext, tag)).map (·.2.1)

def knownMessages : List (List UInt8) := [[104, 105], []]

theorem knownAead_keepsLengths : knownAead.KeepsLengths := by
  intro key iv plaintext
  have known_ : ∀ known ∈ knownSeals,
      known.2.2.1.length = known.2.1.length ∧ known.2.2.2.length = AEAD_TAG_BYTES := by decide
  simp only [knownAead]
  split
  next known found =>
    have named := find?_some found
    simp only [decide_eq_true_eq] at named
    rw [← named.2.2]
    exact known_ known (mem_of_find?_eq_some found)
  · exact ⟨rfl, length_replicate⟩

theorem knownAead_ideal : knownAead.Ideal knownKey (sealed knownAead { key := knownKey } knownMessages) where
  opens := by decide +kernel
  only := by
    intro iv ciphertext tag plaintext deciphered
    have known_ : ∀ known ∈ knownSeals, ∃ frame ∈ sealed knownAead { key := knownKey } knownMessages,
        frame.iv = known.1 ∧ knownAead.cipher knownKey frame.iv frame.plaintext = known.2.2 := by decide +kernel
    simp only [knownAead, Option.map_eq_some_iff] at deciphered
    obtain ⟨known, found, -⟩ := deciphered
    have named := find?_some found
    simp only [decide_eq_true_eq] at named
    rw [← named.2.1, ← named.2.2]
    exact known_ known (mem_of_find?_eq_some found)

/-- Two messages, whatever comes of their frames. -/
theorem knownMessages_delivered :
    (sealed knownAead { key := knownKey } knownMessages).map plaintext = knownMessages
    ∧ (∀ chunks, (FrameDecryptor.pushAll knownAead { key := knownKey } chunks).1
      <+: (sealed knownAead { key := knownKey } knownMessages).map plaintext) :=
  ⟨by decide +kernel,
    (channel_delivers_in_order knownAead knownKey knownMessages knownAead_keepsLengths knownAead_ideal).1⟩

end AntSeed.P2p
