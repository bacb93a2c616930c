import AntSeed.Lib.Bytes
import AntSeed.Lib.Machine

/-! # Frames of an encrypted connection

A message is sealed under a key for its direction and a counter that forms the nonce, and sent with its
length in front. The receiver puts the pieces of the stream together and opens frame after frame under a
counter of its own; the first frame that does not open ends the connection.
-/

namespace AntSeed.P2p

def AEAD_TAG_BYTES : Nat := 16
def FRAME_HEADER_BYTES : Nat := 4
def MAX_FRAME_PLAINTEXT_BYTES : Nat := 16 * 1024 * 1024

/-- The cipher, which is not in the repository. -/
structure Aead where
  /-- What a plaintext is enciphered to, with the tag. -/
  cipher : (key iv plaintext : List UInt8) → List UInt8 × List UInt8
  /-- The plaintext, if the tag is right. -/
  decipher : (key iv ciphertext tag : List UInt8) → Option (List UInt8)

def counterIv (counter : Nat) : Except String (List UInt8) :=
  if counter < 2 ^ 64 then .ok (List.replicate 4 0 ++ Bytes.ofNat 8 counter)
  else .error "The value of \"value\" is out of range"

structure FrameEncryptor where
  key : List UInt8
  counter : Nat := 0

section

variable (aead : Aead)

/-- The bytes of a frame. -/
def frameOf (key iv plaintext : List UInt8) : List UInt8 :=
  let (ciphertext, tag) := aead.cipher key iv plaintext
  let body := ciphertext ++ tag
  Bytes.ofNat FRAME_HEADER_BYTES body.length ++ body

def FrameEncryptor.encrypt (encryptor : FrameEncryptor) (plaintext : List UInt8) :
    Except String (List UInt8 × FrameEncryptor) :=
  if plaintext.length > MAX_FRAME_PLAINTEXT_BYTES then
    .error s!"Frame plaintext exceeds {MAX_FRAME_PLAINTEXT_BYTES} bytes"
  else
    match counterIv encryptor.counter with
    | .error message => .error message
    | .ok iv =>
      .ok (frameOf aead encryptor.key iv plaintext, { encryptor with counter := encryptor.counter + 1 })

/-- An encryptor and the messages that it is given. -/
def encrypting : Machine FrameEncryptor (List UInt8) String where
  step encryptor plaintext := (encryptor.encrypt aead plaintext).map Prod.snd

structure SealedFrame where
  iv : List UInt8
  plaintext : List UInt8
  frame : List UInt8
  deriving DecidableEq

/-- The frames that an encryptor returns for some messages, with what they were sealed from. -/
def sealed (encryptor : FrameEncryptor) (plaintexts : List (List UInt8)) : List SealedFrame :=
  (encrypting aead).log
    (fun encryptor plaintext =>
      match counterIv encryptor.counter, encryptor.encrypt aead plaintext with
      | .ok iv, .ok (frame, _) => [{ iv, plaintext, frame }]
      | _, _ => [])
    encryptor plaintexts

structure FrameDecryptor where
  key : List UInt8
  counter : Nat := 0
  buffer : List UInt8 := []
  deriving DecidableEq

/-- The frame at the front of the buffer, which is all there, is taken off and opened. -/
def FrameDecryptor.openFrame (decryptor : FrameDecryptor) (bodyLength : Nat) :
    Except String (List UInt8) × FrameDecryptor :=
  let body := (decryptor.buffer.drop FRAME_HEADER_BYTES).take bodyLength
  let decryptor := { decryptor with buffer := decryptor.buffer.drop (FRAME_HEADER_BYTES + bodyLength) }
  match counterIv decryptor.counter with
  | .error message => (.error message, decryptor)
  | .ok iv =>
    let decryptor := { decryptor with counter := decryptor.counter + 1 }
    let tag := body.drop (body.length - AEAD_TAG_BYTES)
    match aead.decipher decryptor.key iv (body.take (body.length - AEAD_TAG_BYTES)) tag with
    | none => (.error "Unsupported state or unable to authenticate data", decryptor)
    | some plaintext => (.ok plaintext, decryptor)

theorem FrameDecryptor.openFrame_buffer {aead : Aead} {decryptor : FrameDecryptor} {bodyLength : Nat} :
    (decryptor.openFrame aead bodyLength).2.buffer
      = decryptor.buffer.drop (FRAME_HEADER_BYTES + bodyLength) := by
  unfold openFrame
  dsimp only
  split
  · rfl
  · split
    · rfl
    · rfl

def FrameDecryptor.openFrames (aead : Aead) (decryptor : FrameDecryptor) (messages : List (List UInt8)) :
    Except String (List (List UInt8)) × FrameDecryptor :=
  if _complete : FRAME_HEADER_BYTES ≤ decryptor.buffer.length then
    let bodyLength := Bytes.numberAt decryptor.buffer 0 FRAME_HEADER_BYTES
    if bodyLength < AEAD_TAG_BYTES ∨ bodyLength > MAX_FRAME_PLAINTEXT_BYTES + AEAD_TAG_BYTES then
      (.error s!"Invalid encrypted frame length {bodyLength}", decryptor)
    else if decryptor.buffer.length < FRAME_HEADER_BYTES + bodyLength then (.ok messages, decryptor)
    else
      match _opens : decryptor.openFrame aead bodyLength with
      | (.error message, decryptor) => (.error message, decryptor)
      | (.ok plaintext, decryptor) => decryptor.openFrames aead (messages ++ [plaintext])
  else (.ok messages, decryptor)
termination_by decryptor.buffer.length
decreasing_by
  have shorter := congrArg (fun opened => opened.2.buffer) _opens
  dsimp only at shorter
  rw [openFrame_buffer] at shorter
  rw [← shorter, List.length_drop]
  simp only [FRAME_HEADER_BYTES] at *
  omega

def FrameDecryptor.push (decryptor : FrameDecryptor) (chunk : List UInt8) :
    Except String (List (List UInt8)) × FrameDecryptor :=
  { decryptor with buffer := decryptor.buffer ++ chunk }.openFrames aead []

/-- The messages that are returned until a piece of the stream is an error. -/
def FrameDecryptor.pushAll (aead : Aead) (decryptor : FrameDecryptor) :
    List (List UInt8) → List (List UInt8) × Except String FrameDecryptor
  | [] => ([], .ok decryptor)
  | chunk :: chunks =>
    match decryptor.push aead chunk with
    | (.error message, _) => ([], .error message)
    | (.ok messages, decryptor) =>
      let (more, outcome) := decryptor.pushAll aead chunks
      (messages ++ more, outcome)

def Aead.KeepsLengths : Prop :=
  ∀ key iv plaintext, (aead.cipher key iv plaintext).1.length = plaintext.length
    ∧ (aead.cipher key iv plaintext).2.length = AEAD_TAG_BYTES

end

/-- What was sealed under a key opens to what it was sealed from, and nothing else opens under that key. -/
structure Aead.Ideal (aead : Aead) (key : List UInt8) (frames : List SealedFrame) : Prop where
  opens : ∀ frame ∈ frames,
    aead.decipher key frame.iv (aead.cipher key frame.iv frame.plaintext).1
      (aead.cipher key frame.iv frame.plaintext).2 = some frame.plaintext
  only : ∀ iv ciphertext tag plaintext, aead.decipher key iv ciphertext tag = some plaintext →
    ∃ frame ∈ frames, frame.iv = iv ∧ aead.cipher key frame.iv frame.plaintext = (ciphertext, tag)

variable {aead : Aead} {encryptor : FrameEncryptor} {plaintexts : List (List UInt8)} {counter other : Nat}
  {iv key : List UInt8} {frame : SealedFrame} {frames before after : List SealedFrame}

theorem counterIv_inj (one : counterIv counter = .ok iv) (another : counterIv other = .ok iv) : counter = other := by
  unfold counterIv at one another
  split at one
  next fits =>
    split at another
    next fits' =>
      cases one
      have same := congrArg Bytes.toNat (List.append_cancel_left (Except.ok.inj another))
      simp only [Bytes.toNat_ofNat] at same
      rw [Nat.mod_eq_of_lt (by simpa using fits'), Nat.mod_eq_of_lt (by simpa using fits)] at same
      exact same.symm
    · cases another
  · cases one

def Consecutive (aead : Aead) (key : List UInt8) : Nat → List SealedFrame → Prop
  | _, [] => True
  | counter, frame :: frames =>
    (counterIv counter = .ok frame.iv ∧ frame.plaintext.length ≤ MAX_FRAME_PLAINTEXT_BYTES
      ∧ frame.frame = frameOf aead key frame.iv frame.plaintext)
    ∧ Consecutive aead key (counter + 1) frames

theorem encrypt_cases (aead : Aead) (encryptor : FrameEncryptor) (plaintext : List UInt8) :
    (∃ message, encryptor.encrypt aead plaintext = .error message)
      ∨ ∃ iv, counterIv encryptor.counter = .ok iv ∧ plaintext.length ≤ MAX_FRAME_PLAINTEXT_BYTES
        ∧ encryptor.encrypt aead plaintext
          = .ok (frameOf aead encryptor.key iv plaintext, { encryptor with counter := encryptor.counter + 1 }) := by
  unfold FrameEncryptor.encrypt
  split
  · exact .inl ⟨_, rfl⟩
  next short =>
    cases counterIv encryptor.counter with
    | error message => exact .inl ⟨message, rfl⟩
    | ok iv => exact .inr ⟨iv, rfl, Nat.not_lt.mp short, rfl⟩

theorem consecutive_sealed :
    Consecutive aead encryptor.key encryptor.counter (sealed aead encryptor plaintexts) := by
  induction plaintexts generalizing encryptor with
  | nil => trivial
  | cons plaintext plaintexts ih =>
    unfold sealed at ih ⊢
    rw [Machine.log]
    cases encrypt_cases aead encryptor plaintext with
    | inl refused =>
      obtain ⟨message, refused⟩ := refused
      simp only [encrypting, refused, Except.map]
      exact ih
    | inr accepted =>
      obtain ⟨iv, counted, short, accepted⟩ := accepted
      simp only [encrypting, accepted, Except.map, counted, List.singleton_append]
      exact ⟨⟨counted, short, rfl⟩, @ih { encryptor with counter := encryptor.counter + 1 }⟩

theorem consecutive_append : Consecutive aead key counter (before ++ after) ↔
    Consecutive aead key counter before ∧ Consecutive aead key (counter + before.length) after := by
  induction before generalizing counter with
  | nil => simp [Consecutive]
  | cons frame before ih => simp [Consecutive, ih, and_assoc, Nat.add_comm, Nat.add_left_comm]

theorem frame_of_iv (consecutive : Consecutive aead key counter frames) (here : frame ∈ frames) :
    ∃ before after, frames = before ++ frame :: after ∧ counterIv (counter + before.length) = .ok frame.iv := by
  obtain ⟨before, after, rfl⟩ := List.append_of_mem here
  exact ⟨before, after, rfl, (consecutive_append.mp consecutive).2.1.1⟩

theorem ivs_distinct (consecutive : Consecutive aead key counter frames) :
    (frames.map SealedFrame.iv).Nodup := by
  induction frames generalizing counter with
  | nil => exact List.nodup_nil
  | cons frame frames ih =>
    rw [List.map_cons, List.nodup_cons]
    refine ⟨?_, ih consecutive.2⟩
    intro again
    obtain ⟨other, here, same⟩ := List.mem_map.mp again
    obtain ⟨before, after, _, counted⟩ := frame_of_iv consecutive.2 here
    have equal := counterIv_inj consecutive.1.1 (same ▸ counted)
    omega

end AntSeed.P2p
