import AntSeed.Lib.Reading
import AntSeed.Protocol.RequestCodec

/-! # Messages that are cut off

A decoder throws where a number is incomplete. A text that is cut off leaves nothing for
the number after it, but nothing comes after the body.
-/

namespace AntSeed.Protocol

open Reading Language
open Bytes
open List

/-- Bytes of a certain number. -/
def Fixed (width : Nat) : Language UInt8 := {word | word.length = width}

/-- A length and then as many bytes. -/
def Field (width : Nat) : Language UInt8 :=
  {word | ∃ length bytes, length.length = width ∧ toNat length = bytes.length ∧ word = length ++ bytes}

/-- A number and then as many headers. -/
def HeaderBlock : Language UInt8 :=
  {word | ∃ count, count.length = 2 ∧ ∃ headers ∈ (Field 2 * Field 2) ^ Bytes.toNat count,
    word = count ++ headers}

/-- A message up to its body, the body's length included. -/
def RequestHead : Language UInt8 := Field 2 * (Field 1 * (Field 2 * (HeaderBlock * Fixed 4)))
def ResponseHead : Language UInt8 := Field 2 * (Fixed 2 * (HeaderBlock * Fixed 4))
def ChunkHead : Language UInt8 := Field 2 * (Fixed 1 * Fixed 4)

section Readers

variable {width : Nat} {data rest : List UInt8} {n : Nat}

theorem getUint_eq_some (reads : getUint width data = some (n, rest)) :
    ∃ number, number.length = width ∧ toNat number = n ∧ data = number ++ rest := by
  unfold getUint at reads
  split at reads
  · cases reads
  next enough =>
    cases reads
    exact ⟨data.take width, length_take_of_le (not_lt.mp enough), rfl,
      (take_append_drop width data).symm⟩

theorem getUint_append (whole : number.length = width) :
    getUint width (number ++ rest) = some (toNat number, rest) := by
  rw [getUint, if_neg (by simp [whole]), take_left' whole, drop_left' whole]

theorem recognises_getUint (width : Nat) : Recognises (getUint width) (Fixed width) where
  reads here := ⟨_, fun _ => getUint_append here⟩
  begins reads _ := by
    obtain ⟨number, whole, _, same⟩ := getUint_eq_some reads
    exact ⟨number, whole, same⟩

theorem recognises_readBytes (width : Nat) : Recognises (readBytes width) (Field width) where
  reads := by
    rintro word ⟨length, bytes, whole, same, rfl⟩
    refine ⟨bytes, fun rest => ?_⟩
    rw [readBytes, append_assoc, getUint_append whole, same, Option.bind_eq_bind, Option.bind_some]
    dsimp only
    rw [take_left, drop_left, Option.pure_def]
  begins := by
    intro data bytes rest reads more
    obtain ⟨⟨n, remaining⟩, counted, same⟩ := Option.bind_eq_some_iff.mp reads
    cases same
    obtain ⟨length, whole, rfl, rfl⟩ := getUint_eq_some counted
    have inside : toNat length < remaining.length := by
      rw [← drop_eq_nil_iff.not.trans not_le]
      exact more
    refine ⟨length ++ remaining.take (toNat length), ⟨length, _, whole, ?_, rfl⟩, ?_⟩
    · rw [length_take_of_le inside.le]
    · rw [append_assoc, take_append_drop]

theorem recognises_readText (width : Nat) : Recognises (readText width) (Field width) :=
  (recognises_readBytes width).map Utf8.decode

theorem recognises_readHeaders (count : Nat) (known : Record) :
    Recognises (readHeaders count known) ((Field 2 * Field 2) ^ count) := by
  induction count generalizing known with
  | zero =>
    rw [pow_zero]
    exact ⟨fun here => ⟨known, fun rest => by cases here; rfl⟩,
      fun reads _ => ⟨[], rfl, by cases reads; rfl⟩⟩
  | succ count ih =>
    rw [pow_succ', mul_assoc]
    exact (recognises_readText 2).bind fun key => (recognises_readText 2).bind fun val =>
      ih (known.set key val)

theorem recognises_readHeaderBlock : Recognises readHeaderBlock HeaderBlock where
  reads := by
    rintro word ⟨count, whole, headers, here, rfl⟩
    obtain ⟨record, reads⟩ := (recognises_readHeaders _ .empty).reads here
    refine ⟨record, fun rest => ?_⟩
    rw [readHeaderBlock, append_assoc, getUint_append whole]
    exact reads rest
  begins := by
    intro data record rest reads more
    obtain ⟨⟨n, remaining⟩, counted, others⟩ := Option.bind_eq_some_iff.mp reads
    obtain ⟨count, whole, rfl, rfl⟩ := getUint_eq_some counted
    obtain ⟨headers, here, rfl⟩ := (recognises_readHeaders _ _).begins others more
    exact ⟨count ++ headers, ⟨count, whole, headers, here, rfl⟩, (append_assoc _ _ _).symm⟩

theorem accepts_body {γ : Type} (build : List UInt8 → γ) :
    Accepts (fun data => (readBytes 4 data).bind fun found => some (build found.1)) (Fixed 4) := by
  intro data
  constructor
  · rintro ⟨value, decoded⟩
    obtain ⟨⟨body, last⟩, reads, -⟩ := Option.bind_eq_some_iff.mp decoded
    obtain ⟨⟨n, remaining⟩, counted, -⟩ := Option.bind_eq_some_iff.mp reads
    obtain ⟨length, whole, -, rfl⟩ := getUint_eq_some counted
    exact ⟨length, whole, prefix_append _ _⟩
  · rintro ⟨length, whole, rest, rfl⟩
    refine ⟨build (rest.take (toNat length)), ?_⟩
    simp only [readBytes, getUint_append whole]
    rfl

theorem nil_not_mem_mul {words others : Language UInt8} (proper : [] ∉ others) : [] ∉ words * others := by
  rintro ⟨front, _, back, there, same⟩
  exact proper ((append_eq_nil_iff.mp same).2 ▸ there)

theorem nil_not_mem_fixed : [] ∉ Fixed 4 := by
  intro here
  cases here

theorem accepts_decodeHttpRequest : Accepts decodeHttpRequest RequestHead := by
  have proper := @nil_not_mem_mul HeaderBlock _ nil_not_mem_fixed
  have proper_ := @nil_not_mem_mul (Field 2) _ proper
  exact (recognises_readText 2).accepts (fun requestId => (recognises_readText 1).accepts
    (fun method => (recognises_readText 2).accepts (fun path => recognises_readHeaderBlock.accepts
      (fun headers => accepts_body (SerializedHttpRequest.mk requestId method path headers))
      nil_not_mem_fixed) proper) proper_) (nil_not_mem_mul proper_)

theorem accepts_decodeHttpResponse : Accepts decodeHttpResponse ResponseHead := by
  have proper := @nil_not_mem_mul HeaderBlock _ nil_not_mem_fixed
  exact (recognises_readText 2).accepts (fun requestId => (recognises_getUint 2).accepts
    (fun statusCode => recognises_readHeaderBlock.accepts
      (fun headers => accepts_body fun body => SerializedHttpResponse.mk requestId statusCode headers body none)
      nil_not_mem_fixed) proper) (nil_not_mem_mul proper)

theorem accepts_decodeHttpResponseChunk : Accepts decodeHttpResponseChunk ChunkHead :=
  (recognises_readText 2).accepts (fun requestId => (recognises_getUint 1).accepts
    (fun done => accepts_body fun data => SerializedHttpResponseChunk.mk requestId data (done = 1)) nil_not_mem_fixed)
    (nil_not_mem_mul nil_not_mem_fixed)

end Readers

def LengthFits (width : Nat) (text : String) : Prop := (Utf8.encode text).length < 256 ^ width

instance {width : Nat} {text : String} : Decidable (LengthFits width text) :=
  inferInstanceAs (Decidable (_ < _))

structure Record.LengthsFit (headers : Record) : Prop where
  count : headers.entries.length < 256 ^ 2
  each : ∀ header ∈ headers.entries, LengthFits 2 header.1 ∧ LengthFits 2 header.2

structure SerializedHttpRequest.LengthsFit (req : SerializedHttpRequest) : Prop where
  requestId : LengthFits 2 req.requestId
  method : LengthFits 1 req.method
  path : LengthFits 2 req.path
  headers : req.headers.LengthsFit

structure SerializedHttpResponse.LengthsFit (resp : SerializedHttpResponse) : Prop where
  requestId : LengthFits 2 resp.requestId
  headers : resp.headers.LengthsFit

section Heads

variable {width : Nat} {text : String}

theorem delimited_fixed (width : Nat) : Delimited (Fixed width) := (recognises_getUint width).delimited

theorem delimited_field (width : Nat) : Delimited (Field width) := (recognises_readText width).delimited

theorem delimited_requestHead : Delimited RequestHead :=
  (delimited_field 2).mul ((delimited_field 1).mul ((delimited_field 2).mul
    (recognises_readHeaderBlock.delimited.mul (delimited_fixed 4))))

theorem delimited_responseHead : Delimited ResponseHead :=
  (delimited_field 2).mul ((delimited_fixed 2).mul
    (recognises_readHeaderBlock.delimited.mul (delimited_fixed 4)))

theorem delimited_chunkHead : Delimited ChunkHead :=
  (delimited_field 2).mul ((delimited_fixed 1).mul (delimited_fixed 4))

theorem toNat_ofInt_fitting {n : Nat} (fits : n < 256 ^ width) : toNat (ofInt width n) = n := by
  have back := @Bytes.toNat_ofInt width n
  rw [Int.emod_eq_of_lt (Int.natCast_nonneg n) (by exact_mod_cast fits)] at back
  exact_mod_cast back

theorem ofInt_mem (width : Nat) (value : Int) : ofInt width value ∈ Fixed width := length_ofInt

theorem writeText_mem (fits : LengthFits width text) : writeText width text ∈ Field width :=
  ⟨_, _, length_ofInt, toNat_ofInt_fitting fits, rfl⟩

theorem flatMap_writeHeader_mem {entries : List (String × String)}
    (fits : ∀ header ∈ entries, LengthFits 2 header.1 ∧ LengthFits 2 header.2) :
    entries.flatMap writeHeader ∈ (Field 2 * Field 2) ^ entries.length := by
  induction entries with
  | nil => rfl
  | cons header entries ih =>
    have first := fits header mem_cons_self
    rw [length_cons, pow_succ', flatMap_cons]
    exact append_mem_mul (append_mem_mul (writeText_mem first.1) (writeText_mem first.2))
      (ih fun other later => fits other (mem_cons_of_mem _ later))

theorem writeHeaders_mem {headers : Record} (fits : headers.LengthsFit) :
    writeHeaders headers ∈ HeaderBlock := by
  refine ⟨_, length_ofInt, _, ?_, rfl⟩
  rw [toNat_ofInt_fitting fits.count]
  exact flatMap_writeHeader_mem fits.each

theorem request_cut_iff {data : List UInt8} (fits : req.LengthsFit)
    (cut : data <+: encodeHttpRequest req) :
    decodeHttpRequest data = none ↔ data.length + req.body.length < (encodeHttpRequest req).length := by
  have head := append_mem_mul (writeText_mem fits.requestId)
    (append_mem_mul (writeText_mem fits.method) (append_mem_mul (writeText_mem fits.path)
      (append_mem_mul (writeHeaders_mem fits.headers) (ofInt_mem 4 req.body.length))))
  have whole : encodeHttpRequest req = writeText 2 req.requestId ++ (writeText 1 req.method ++
      (writeText 2 req.path ++ (writeHeaders req.headers ++ ofInt 4 req.body.length))) ++ req.body := by
    simp [encodeHttpRequest, writeBytes]
  rw [whole] at cut ⊢
  rw [accepts_decodeHttpRequest.eq_none_iff delimited_requestHead head cut]

theorem response_cut_iff (fits : resp.LengthsFit)
    (cut : data <+: encodeHttpResponse resp) :
    decodeHttpResponse data = none ↔ data.length + resp.body.length < (encodeHttpResponse resp).length := by
  have head := append_mem_mul (writeText_mem fits.requestId)
    (append_mem_mul (ofInt_mem 2 resp.statusCode)
      (append_mem_mul (writeHeaders_mem fits.headers) (ofInt_mem 4 resp.body.length)))
  have whole : encodeHttpResponse resp = writeText 2 resp.requestId ++ (ofInt 2 resp.statusCode ++
      (writeHeaders resp.headers ++ ofInt 4 resp.body.length)) ++ resp.body := by
    simp [encodeHttpResponse, writeBytes]
  rw [whole] at cut ⊢
  rw [accepts_decodeHttpResponse.eq_none_iff delimited_responseHead head cut]

theorem chunk_cut_iff
    (fits : LengthFits 2 chunk.requestId) (cut : data <+: encodeHttpResponseChunk chunk) :
    decodeHttpResponseChunk data = none
      ↔ data.length + chunk.data.length < (encodeHttpResponseChunk chunk).length := by
  have head := append_mem_mul (writeText_mem fits)
    (append_mem_mul (ofInt_mem 1 (if chunk.done then 1 else 0)) (ofInt_mem 4 chunk.data.length))
  have whole : encodeHttpResponseChunk chunk = writeText 2 chunk.requestId ++
      (ofInt 1 (if chunk.done then 1 else 0) ++ ofInt 4 chunk.data.length) ++ chunk.data := by
    simp [encodeHttpResponseChunk, writeBytes]
  rw [whole] at cut ⊢
  rw [accepts_decodeHttpResponseChunk.eq_none_iff delimited_chunkHead head cut]

end Heads

/-- A decoder throws exactly on data without a whole head; if a message's lengths fit, on what ends
    before its body begins. -/
theorem cut_messages_rejected_iff (req : SerializedHttpRequest) (resp : SerializedHttpResponse)
    (chunk : SerializedHttpResponseChunk) (data : List UInt8) :
    (decodeHttpRequest data = none ↔ ¬ ∃ head ∈ RequestHead, head <+: data) ∧
      (decodeHttpResponse data = none ↔ ¬ ∃ head ∈ ResponseHead, head <+: data) ∧
      (decodeHttpResponseChunk data = none ↔ ¬ ∃ head ∈ ChunkHead, head <+: data) ∧
      (req.LengthsFit → data <+: encodeHttpRequest req →
        (decodeHttpRequest data = none ↔ data.length + req.body.length < (encodeHttpRequest req).length)) ∧
      (resp.LengthsFit → data <+: encodeHttpResponse resp →
        (decodeHttpResponse data = none
          ↔ data.length + resp.body.length < (encodeHttpResponse resp).length)) ∧
      (LengthFits 2 chunk.requestId → data <+: encodeHttpResponseChunk chunk →
        (decodeHttpResponseChunk data = none
          ↔ data.length + chunk.data.length < (encodeHttpResponseChunk chunk).length)) :=
  ⟨accepts_decodeHttpRequest.none_iff, accepts_decodeHttpResponse.none_iff,
    accepts_decodeHttpResponseChunk.none_iff, request_cut_iff, response_cut_iff, chunk_cut_iff⟩

/-- A chunk with two bytes of data, without the last of them. -/
theorem cut_chunk_is_accepted :
    decodeHttpResponseChunk (encodeHttpResponseChunk ⟨"1", [104, 105], true⟩).dropLast
      = some ⟨"1", [104], true⟩ := by
  decide +kernel

end AntSeed.Protocol
