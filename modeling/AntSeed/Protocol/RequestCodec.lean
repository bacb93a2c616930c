import AntSeed.Lib.Bytes
import AntSeed.Lib.Keyed
import AntSeed.Lib.Utf8

/-! # HTTP messages as bytes

Every text of a message, and its body, follows its own length, which is written in one
byte, two or four. What is too long for that is cut off without notice, and what the
bytes announce is sliced as far as there are bytes.
-/

namespace AntSeed.Protocol

open Option Bytes Utf8 List

/-- An object that is used as a map: its names, in the order in which they were set. -/
@[ext]
structure Record where
  entries : List (String × String)
  distinct : (entries.map Prod.fst).Nodup
  deriving DecidableEq

namespace Record

def empty : Record := ⟨[], .nil⟩

/-- `record[name] = text`. The language takes no text for `__proto__`. -/
def set (record : Record) (name text : String) : Record :=
  if name = "__proto__" then record
  else ⟨Keyed.set Prod.fst (name, text) record.entries, Keyed.nodup_keys_set record.distinct⟩

/-- `record[name]`, for a name that is no member of every object. -/
def get (record : Record) (name : String) : Option String :=
  (Keyed.get Prod.fst name record.entries).map Prod.snd

/-- What remains of a record when one of its names is taken out. -/
def erase (record : Record) (name : String) : Record :=
  ⟨Keyed.erase Prod.fst name record.entries, Keyed.nodup_keys_erase record.distinct⟩

variable {record : Record} {name text : String}

theorem get_set (proper : name ≠ "__proto__") :
    (record.set name text).get other = if other = name then some text else record.get other := by
  rw [set, if_neg proper, get, Keyed.get_set]
  split
  · rfl
  · rfl

theorem erase_set (proper : name ≠ "__proto__") :
    (record.set name text).erase name = record.erase name := by
  rw [set, if_neg proper]
  exact Record.ext (@Keyed.erase_set _ _ _ Prod.fst (name, text) _)

theorem erase_of_get_none (absent : record.get name = none) : record.erase name = record := by
  refine Record.ext (Keyed.erase_absent ?_)
  rwa [get, Option.map_eq_none_iff, Keyed.get_eq_none_iff] at absent

theorem length_set : (record.set name text).entries.length ≤ record.entries.length + 1 := by
  unfold set
  split
  · omega
  · rw [Keyed.length_set]
    split <;> omega

theorem set_absent (proper : name ≠ "__proto__") (absent : name ∉ record.entries.map Prod.fst) :
    (record.set name text).entries = record.entries ++ [(name, text)] := by
  rw [set, if_neg proper]
  exact Keyed.set_absent absent

theorem set_grows (grows : record.entries.length < (record.set name text).entries.length) :
    name ≠ "__proto__" ∧ (record.set name text).entries = record.entries ++ [(name, text)] := by
  by_cases proper : name = "__proto__"
  · rw [set, if_pos proper] at grows
    omega
  · have absent : name ∉ record.entries.map Prod.fst := by
      intro present
      rw [set, if_neg proper] at grows
      rw [Keyed.length_set, if_pos present] at grows
      omega
    exact ⟨proper, set_absent proper absent⟩

end Record

/-- What remains of the data after a number of some width. -/
def getUint (width : Nat) (data : List UInt8) : Option (Nat × List UInt8) :=
  if data.length < width then none else some (toNat (data.take width), data.drop width)

/-- A length and then as many bytes. A slice ends where the data end. -/
def readBytes (width : Nat) (data : List UInt8) : Option (List UInt8 × List UInt8) := do
  let (length, data) ← getUint width data
  return (data.take length, data.drop length)

def readText (width : Nat) (data : List UInt8) : Option (String × List UInt8) := do
  let (bytes, data) ← readBytes width data
  return (decode bytes, data)

/-- The loop over the headers. -/
def readHeaders : Nat → Record → List UInt8 → Option (Record × List UInt8)
  | 0, headers, data => some (headers, data)
  | count + 1, headers, data => do
      let (key, data) ← readText 2 data
      let (val, data) ← readText 2 data
      readHeaders count (headers.set key val) data

def readHeaderBlock (data : List UInt8) : Option (Record × List UInt8) := do
  let (headerCount, data) ← getUint 2 data
  readHeaders headerCount .empty data

def writeBytes (width : Nat) (bytes : List UInt8) : List UInt8 :=
  ofInt width bytes.length ++ bytes

def writeText (width : Nat) (text : String) : List UInt8 := writeBytes width (encode text)

def writeHeader (header : String × String) : List UInt8 := writeText 2 header.1 ++ writeText 2 header.2

def writeHeaders (headers : Record) : List UInt8 :=
  ofInt 2 headers.entries.length ++ headers.entries.flatMap writeHeader

structure SerializedHttpRequest where
  requestId : String
  method : String
  path : String
  headers : Record
  body : List UInt8
  deriving DecidableEq

structure StreamedBody where
  byteLength : Int
  responseHash : String
  videoDurationMs : Option Int
  deriving DecidableEq

structure SerializedHttpResponse where
  requestId : String
  statusCode : Int
  headers : Record
  body : List UInt8
  streamedBody : Option StreamedBody
  deriving DecidableEq

structure SerializedHttpResponseChunk where
  requestId : String
  data : List UInt8
  done : Bool
  deriving DecidableEq

structure SerializedHttpRequestChunk where
  requestId : String
  data : List UInt8
  done : Bool
  deriving DecidableEq

def encodeHttpRequest (req : SerializedHttpRequest) : List UInt8 :=
  writeText 2 req.requestId ++ writeText 1 req.method ++ writeText 2 req.path ++ writeHeaders req.headers
    ++ writeBytes 4 req.body

def decodeHttpRequest (data : List UInt8) : Option SerializedHttpRequest := do
  let (requestId, data) ← readText 2 data
  let (method, data) ← readText 1 data
  let (path, data) ← readText 2 data
  let (headers, data) ← readHeaderBlock data
  let (body, _) ← readBytes 4 data
  return { requestId, method, path, headers, body }

def encodeHttpResponse (resp : SerializedHttpResponse) : List UInt8 :=
  writeText 2 resp.requestId ++ ofInt 2 resp.statusCode ++ writeHeaders resp.headers
    ++ writeBytes 4 resp.body

def encodeHttpResponsePrefix (resp : SerializedHttpResponse) (bodyLength : Rat) : Option (List UInt8) :=
  if bodyLength.isInt = false ∨ bodyLength < 0 ∨ bodyLength > 0xffffffff then none
  else
    let encoded := encodeHttpResponse { resp with body := [] }
    some (encoded.take (encoded.length - 4) ++ ofInt 4 bodyLength.num)

def decodeHttpResponse (data : List UInt8) : Option SerializedHttpResponse := do
  let (requestId, data) ← readText 2 data
  let (statusCode, data) ← getUint 2 data
  let (headers, data) ← readHeaderBlock data
  let (body, _) ← readBytes 4 data
  return { requestId, statusCode, headers, body, streamedBody := none }

def encodeHttpResponseChunk (chunk : SerializedHttpResponseChunk) : List UInt8 :=
  writeText 2 chunk.requestId ++ ofInt 1 (if chunk.done then 1 else 0) ++ writeBytes 4 chunk.data

def decodeHttpResponseChunk (data : List UInt8) : Option SerializedHttpResponseChunk := do
  let (requestId, data) ← readText 2 data
  let (done, data) ← getUint 1 data
  let (chunkData, _) ← readBytes 4 data
  return { requestId, data := chunkData, done := done = 1 }

/-- As the chunk of a response. -/
def encodeHttpRequestChunk (chunk : SerializedHttpRequestChunk) : List UInt8 :=
  writeText 2 chunk.requestId ++ ofInt 1 (if chunk.done then 1 else 0) ++ writeBytes 4 chunk.data

def decodeHttpRequestChunk (data : List UInt8) : Option SerializedHttpRequestChunk := do
  let (requestId, data) ← readText 2 data
  let (done, data) ← getUint 1 data
  let (chunkData, _) ← readBytes 4 data
  return { requestId, data := chunkData, done := done = 1 }

/-- A text is read back if its length fits and it does not begin with a byte order mark. -/
def FitsIn (width : Nat) (text : String) : Prop :=
  (encode text).length < 256 ^ width ∧ ¬ Utf8.IsMarked text

instance {width : Nat} {text : String} : Decidable (FitsIn width text) :=
  inferInstanceAs (Decidable (_ ∧ _))

def FitsHeader (header : String × String) : Prop :=
  header.1 ≠ "__proto__" ∧ FitsIn 2 header.1 ∧ FitsIn 2 header.2

instance {header : String × String} : Decidable (FitsHeader header) := inferInstanceAs (Decidable (_ ∧ _))

/-- Every header fits, and so does their number. -/
structure Record.Fits (headers : Record) : Prop where
  count : headers.entries.length < 256 ^ 2
  each : ∀ header ∈ headers.entries, FitsHeader header

structure SerializedHttpRequest.Fits (req : SerializedHttpRequest) : Prop where
  requestId : FitsIn 2 req.requestId
  method : FitsIn 1 req.method
  path : FitsIn 2 req.path
  headers : req.headers.Fits
  body : req.body.length < 256 ^ 4

structure SerializedHttpResponse.Fits (resp : SerializedHttpResponse) : Prop where
  requestId : FitsIn 2 resp.requestId
  statusCode : 0 ≤ resp.statusCode ∧ resp.statusCode < 256 ^ 2
  headers : resp.headers.Fits
  body : resp.body.length < 256 ^ 4
  /-- The field about a streamed body is not sent. -/
  streamedBody : resp.streamedBody = none

section Fields

variable {width length : Nat} {value : Int} {bytes rest remaining : List UInt8} {text : String}

@[simp] theorem getUint_ofInt :
    getUint width (ofInt width value ++ rest) = some ((value % 256 ^ width).toNat, rest) := by
  have back := @Bytes.toNat_ofInt width value
  rw [getUint, if_neg (by simp), take_left' length_ofInt, drop_left' length_ofInt,
    ← back, Int.toNat_natCast]

theorem getUint_length :
    getUint width (ofInt width length ++ rest) = some (length % 256 ^ width, rest) := by
  have same : ((length : Int) % 256 ^ width).toNat = length % 256 ^ width := by
    rw [← Int.toNat_natCast (length % 256 ^ width)]
    push_cast
    rfl
  rw [getUint_ofInt, same]

theorem readBytes_writeBytes : readBytes width (writeBytes width bytes ++ rest)
    = some (bytes.take (bytes.length % 256 ^ width), bytes.drop (bytes.length % 256 ^ width) ++ rest) := by
  have few := Nat.mod_le bytes.length (256 ^ width)
  rw [readBytes, writeBytes, List.append_assoc, getUint_length]
  dsimp only [Option.bind_eq_bind, Option.bind_some, Option.pure_def]
  rw [List.take_append_of_le_length few, List.drop_append_of_le_length few]

theorem readBytes_fitting (fits : bytes.length < 256 ^ width) :
    readBytes width (writeBytes width bytes ++ rest) = some (bytes, rest) := by
  rw [readBytes_writeBytes, Nat.mod_eq_of_lt fits, take_length, drop_length, nil_append]

theorem readBytes_whole_iff :
    readBytes width (writeBytes width bytes ++ rest) = some (bytes, remaining)
      ↔ bytes.length < 256 ^ width ∧ remaining = rest := by
  constructor
  · intro read
    rw [readBytes_writeBytes, some.injEq, Prod.mk.injEq] at read
    have all := congrArg length read.1
    rw [length_take] at all
    have fits : bytes.length < 256 ^ width := by omega
    rw [Nat.mod_eq_of_lt fits, drop_length, nil_append] at read
    exact ⟨fits, read.2.symm⟩
  · rintro ⟨fits, rfl⟩
    exact readBytes_fitting fits

theorem length_lt_of_decode (wide : 0 < width)
    (read : decode ((encode text).take ((encode text).length % 256 ^ width)) = text) :
    (encode text).length < 256 ^ width := by
  have close := length_of_decode_take read
  have step := Nat.div_add_mod (encode text).length (256 ^ width)
  have large : 256 ^ 1 ≤ 256 ^ width := Nat.pow_le_pow_right (by omega) wide
  by_contra long
  have once : 1 ≤ (encode text).length / 256 ^ width :=
    (Nat.one_le_div_iff (by omega)).mpr (not_lt.mp long)
  have most := Nat.mul_le_mul_left (256 ^ width) once
  omega

theorem readText_whole_iff (wide : 0 < width) :
    readText width (writeText width text ++ rest) = some (text, remaining)
      ↔ FitsIn width text ∧ remaining = rest := by
  rw [readText, writeText, readBytes_writeBytes]
  dsimp only [Option.bind_eq_bind, Option.bind_some, Option.pure_def]
  rw [Option.some.injEq, Prod.mk.injEq]
  constructor
  · rintro ⟨read, rfl⟩
    have fits := length_lt_of_decode wide read
    rw [Nat.mod_eq_of_lt fits, take_length] at read
    rw [Nat.mod_eq_of_lt fits, drop_length]
    exact ⟨⟨fits, fun marked => decode_encode_marked marked read⟩, rfl⟩
  · rintro ⟨⟨fits, unmarked⟩, rfl⟩
    rw [Nat.mod_eq_of_lt fits, take_length, drop_length]
    exact ⟨decode_encode unmarked, rfl⟩

theorem readText_fitting (wide : 0 < width) (fits : FitsIn width text) :
    readText width (writeText width text ++ rest) = some (text, rest) :=
  (readText_whole_iff wide).mpr ⟨fits, rfl⟩

end Fields

section Headers

variable {count : Nat} {known headers : Record} {others : List (String × String)}
  {data rest remaining : List UInt8}

theorem readHeaders_succ (read : readHeaders (count + 1) known data = some (headers, remaining)) :
    ∃ key val later last, readText 2 data = some (key, later) ∧ readText 2 later = some (val, last) ∧
      readHeaders count (known.set key val) last = some (headers, remaining) := by
  simp only [readHeaders, bind_eq_bind, bind_eq_some_iff] at read
  obtain ⟨⟨key, later⟩, readKey, ⟨val, last⟩, readVal, others⟩ := read
  exact ⟨key, val, later, last, readKey, readVal, others⟩

theorem length_readHeaders (read : readHeaders count known data = some (headers, remaining)) :
    headers.entries.length ≤ known.entries.length + count := by
  induction count generalizing known data with
  | zero => cases read; exact le_rfl
  | succ count ih =>
    obtain ⟨key, val, later, last, _, _, others⟩ := readHeaders_succ read
    have most := ih others
    have once := @Record.length_set known key val
    omega

theorem isPrefix_readHeaders (read : readHeaders count known data = some (headers, remaining))
    (all : headers.entries.length = known.entries.length + count) :
    known.entries <+: headers.entries := by
  induction count generalizing known data with
  | zero => cases read; exact prefix_rfl
  | succ count ih =>
    obtain ⟨key, val, later, last, _, _, others⟩ := readHeaders_succ read
    have most := length_readHeaders others
    have once := @Record.length_set known key val
    have grown := (Record.set_grows (by omega : _ < (known.set key val).entries.length)).2
    have front := ih others (by omega)
    rw [grown] at front
    exact (prefix_append _ _).trans front

theorem readHeaders_fitting (whole : headers.entries = known.entries ++ others)
    (fits : ∀ header ∈ others, FitsHeader header) :
    readHeaders others.length known (others.flatMap writeHeader ++ rest) = some (headers, rest) := by
  induction others generalizing known with
  | nil =>
    have same : headers = known := Record.ext (by rw [whole, append_nil])
    rw [same]
    rfl
  | cons header others ih =>
    obtain ⟨proper, key, val⟩ := fits header mem_cons_self
    have absent : header.1 ∉ known.entries.map Prod.fst := by
      intro present
      have distinct := headers.distinct
      rw [whole, map_append, nodup_append] at distinct
      exact distinct.2.2 _ present _ (by simp) rfl
    rw [length_cons, flatMap_cons, readHeaders, writeHeader, append_assoc, append_assoc,
      readText_fitting (by omega) key, bind_eq_bind, bind_some]
    dsimp only
    rw [readText_fitting (by omega) val, bind_some]
    apply ih
    · rw [Record.set_absent proper absent, whole, append_assoc]
      rfl
    · exact fun other later => fits other (mem_cons_of_mem _ later)

theorem fits_of_readHeaders (whole : headers.entries = known.entries ++ others)
    (read : readHeaders others.length known (others.flatMap writeHeader ++ rest)
      = some (headers, remaining)) :
    (∀ header ∈ others, FitsHeader header) ∧ remaining = rest := by
  induction others generalizing known with
  | nil => cases read; simp
  | cons header others ih =>
    obtain ⟨key, val, later, last, readKey, readVal, readOthers⟩ := readHeaders_succ read
    -- every header is new, so the first that was read is the first that was written
    have most := length_readHeaders readOthers
    have once := @Record.length_set known key val
    have all := congrArg length whole
    rw [length_append, length_cons] at all
    have grown := Record.set_grows (by omega : _ < (known.set key val).entries.length)
    have front := isPrefix_readHeaders readOthers (by omega)
    have first : (key, val) = header := by
      rw [grown.2, whole, prefix_append_right_inj] at front
      exact (cons_prefix_cons.mp front).1
    cases first
    rw [flatMap_cons, writeHeader, append_assoc, append_assoc] at readKey
    obtain ⟨fitsKey, rfl⟩ := (readText_whole_iff (by omega)).mp readKey
    obtain ⟨fitsVal, rfl⟩ := (readText_whole_iff (by omega)).mp readVal
    have after := ih (by rw [grown.2, whole, append_assoc]; rfl) readOthers
    refine ⟨?_, after.2⟩
    intro other here
    cases mem_cons.mp here with
    | inl same => exact same ▸ ⟨grown.1, fitsKey, fitsVal⟩
    | inr later => exact after.1 other later

theorem headers_whole_iff : readHeaderBlock (writeHeaders headers ++ rest) = some (headers, remaining)
    ↔ headers.Fits ∧ remaining = rest := by
  rw [readHeaderBlock, writeHeaders, append_assoc, getUint_length, bind_eq_bind,
    bind_some]
  constructor
  · intro read
    have most := length_readHeaders read
    have few : headers.entries.length < 256 ^ 2 := by
      simp only [Record.empty, length_nil] at most
      omega
    rw [Nat.mod_eq_of_lt few] at read
    have each := fits_of_readHeaders (rfl : headers.entries = Record.empty.entries ++ headers.entries) read
    exact ⟨⟨few, each.1⟩, each.2⟩
  · rintro ⟨fits, rfl⟩
    rw [Nat.mod_eq_of_lt fits.count]
    exact readHeaders_fitting (rfl : headers.entries = Record.empty.entries ++ headers.entries) fits.each

end Headers

variable {req : SerializedHttpRequest} {resp : SerializedHttpResponse}

variable {data : List UInt8}

theorem decodeHttpRequest_eq_some_iff : decodeHttpRequest data = some req
    ↔ ∃ afterId afterMethod afterPath afterHeaders last,
        readText 2 data = some (req.requestId, afterId) ∧
        readText 1 afterId = some (req.method, afterMethod) ∧
        readText 2 afterMethod = some (req.path, afterPath) ∧
        readHeaderBlock afterPath = some (req.headers, afterHeaders) ∧
        readBytes 4 afterHeaders = some (req.body, last) := by
  simp only [decodeHttpRequest, Option.bind_eq_bind, Option.bind_eq_some_iff, Option.pure_def,
    Option.some.injEq]
  constructor
  · rintro ⟨⟨_, _⟩, id, ⟨_, _⟩, method, ⟨_, _⟩, path, ⟨_, _⟩, headers, ⟨_, _⟩, body, rfl⟩
    exact ⟨_, _, _, _, _, id, method, path, headers, body⟩
  · rintro ⟨_, _, _, _, _, id, method, path, headers, body⟩
    exact ⟨_, id, _, method, _, path, _, headers, _, body, rfl⟩

theorem request_roundTrip_iff : decodeHttpRequest (encodeHttpRequest req) = some req ↔ req.Fits := by
  rw [decodeHttpRequest_eq_some_iff, encodeHttpRequest, ← append_nil (writeBytes 4 req.body)]
  simp only [append_assoc]
  constructor
  · rintro ⟨_, _, _, _, _, id, method, path, headers, body⟩
    obtain ⟨fitsId, rfl⟩ := (readText_whole_iff (by omega)).mp id
    obtain ⟨fitsMethod, rfl⟩ := (readText_whole_iff (by omega)).mp method
    obtain ⟨fitsPath, rfl⟩ := (readText_whole_iff (by omega)).mp path
    obtain ⟨fitsHeaders, rfl⟩ := headers_whole_iff.mp headers
    exact ⟨fitsId, fitsMethod, fitsPath, fitsHeaders, (readBytes_whole_iff.mp body).1⟩
  · intro fits
    exact ⟨_, _, _, _, _, readText_fitting (by omega) fits.requestId,
      readText_fitting (by omega) fits.method, readText_fitting (by omega) fits.path,
      headers_whole_iff.mpr ⟨fits.headers, rfl⟩, readBytes_fitting fits.body⟩

theorem decodeHttpResponse_eq_some_iff : decodeHttpResponse data = some resp
    ↔ resp.streamedBody = none ∧ ∃ afterId statusCode afterStatus afterHeaders last,
        readText 2 data = some (resp.requestId, afterId) ∧
        getUint 2 afterId = some (statusCode, afterStatus) ∧ resp.statusCode = statusCode ∧
        readHeaderBlock afterStatus = some (resp.headers, afterHeaders) ∧
        readBytes 4 afterHeaders = some (resp.body, last) := by
  simp only [decodeHttpResponse, Option.bind_eq_bind, Option.bind_eq_some_iff, Option.pure_def,
    Option.some.injEq]
  constructor
  · rintro ⟨⟨_, _⟩, id, ⟨_, _⟩, status, ⟨_, _⟩, headers, ⟨_, _⟩, body, rfl⟩
    exact ⟨rfl, _, _, _, _, _, id, status, rfl, headers, body⟩
  · rintro ⟨unstreamed, _, _, _, _, _, id, status, same, headers, body⟩
    refine ⟨_, id, _, status, _, headers, _, body, ?_⟩
    rw [← same, ← unstreamed]

theorem status_kept_iff {status : Int} : status = ((status % 256 ^ 2).toNat : Nat)
    ↔ 0 ≤ status ∧ status < 256 ^ 2 := by
  omega

theorem response_roundTrip_iff : decodeHttpResponse (encodeHttpResponse resp) = some resp ↔ resp.Fits := by
  rw [decodeHttpResponse_eq_some_iff, encodeHttpResponse, ← append_nil (writeBytes 4 resp.body)]
  simp only [append_assoc]
  constructor
  · rintro ⟨unstreamed, _, _, _, _, _, id, status, same, headers, body⟩
    obtain ⟨fitsId, rfl⟩ := (readText_whole_iff (by omega)).mp id
    cases getUint_ofInt.symm.trans status
    obtain ⟨fitsHeaders, rfl⟩ := headers_whole_iff.mp headers
    exact ⟨fitsId, status_kept_iff.mp same, fitsHeaders, (readBytes_whole_iff.mp body).1, unstreamed⟩
  · intro fits
    exact ⟨fits.streamedBody, _, _, _, _, _, readText_fitting (by omega) fits.requestId, getUint_ofInt,
      status_kept_iff.mpr fits.statusCode, headers_whole_iff.mpr ⟨fits.headers, rfl⟩,
      readBytes_fitting fits.body⟩

theorem encodeHttpResponsePrefix_eq (body : List UInt8) : encodeHttpResponsePrefix resp body.length
    = if body.length < 256 ^ 4 then
        some (writeText 2 resp.requestId ++ ofInt 2 resp.statusCode ++ writeHeaders resp.headers
          ++ ofInt 4 body.length)
      else none := by
  have whole : ((body.length : Rat).isInt) = true := rfl
  have large : (body.length : Rat) > 0xffffffff ↔ ¬ body.length < 256 ^ 4 := by
    have same : (0xffffffff : Rat) = ((0xffffffff : Nat) : Rat) := rfl
    rw [same, gt_iff_lt, Rat.natCast_lt_natCast]
    omega
  have refused : (((body.length : Rat).isInt = false ∨ (body.length : Rat) < 0 ∨ (body.length : Rat) > 0xffffffff)
      ↔ ¬ body.length < 256 ^ 4) := by
    have least : ¬ (body.length : Rat) < 0 := Rat.not_lt.mpr Rat.natCast_nonneg
    rw [whole, large]
    simp [least]
  by_cases small : body.length < 256 ^ 4
  · rw [encodeHttpResponsePrefix, if_neg (refused.not.mpr (not_not.mpr small)), if_pos small]
    have front : encodeHttpResponse { resp with body := [] }
        = (writeText 2 resp.requestId ++ ofInt 2 resp.statusCode ++ writeHeaders resp.headers)
          ++ ofInt 4 0 := rfl
    dsimp only
    rw [front, List.length_append, Bytes.length_ofInt, Nat.add_sub_cancel, List.take_left]
    rfl
  · rw [encodeHttpResponsePrefix, if_pos (refused.mpr small), if_neg small]

theorem requestChunk_roundTrip (fits : FitsIn 2 chunk.requestId)
    (small : chunk.data.length < 256 ^ 4) :
    decodeHttpRequestChunk (encodeHttpRequestChunk chunk) = some chunk := by
  rw [decodeHttpRequestChunk, encodeHttpRequestChunk, append_assoc, readText_fitting (by omega) fits,
    bind_eq_bind, bind_some]
  dsimp only
  rw [getUint_ofInt, bind_eq_bind, bind_some]
  rw [← append_nil (writeBytes 4 chunk.data), readBytes_fitting small, bind_eq_bind,
    bind_some]
  cases chunk with
  | mk requestId data done => cases done <;> rfl

/-- Messages are read back exactly if they fit. A response's bytes do not depend on whether its body
    is encoded with it or appended. -/
theorem messages_roundTrip_iff (req : SerializedHttpRequest) (resp : SerializedHttpResponse)
    (body : List UInt8) :
    (decodeHttpRequest (encodeHttpRequest req) = some req ↔ req.Fits) ∧
      (decodeHttpResponse (encodeHttpResponse resp) = some resp ↔ resp.Fits) ∧
      match encodeHttpResponsePrefix resp body.length with
      | some front => front ++ body = encodeHttpResponse { resp with body }
      | none => 256 ^ 4 ≤ body.length := by
  refine ⟨request_roundTrip_iff, response_roundTrip_iff, ?_⟩
  rw [encodeHttpResponsePrefix_eq]
  split_ifs with small
  · simp [encodeHttpResponse, writeBytes]
  · exact not_lt.mp small

def longHeader : SerializedHttpRequest where
  requestId := "1"
  method := "GET"
  path := "/"
  headers := ⟨[("a", String.ofList (replicate (256 ^ 2) 'a'))], nodup_singleton _⟩
  body := []

theorem longHeader_is_lost : decodeHttpRequest (encodeHttpRequest longHeader) ≠ some longHeader := by
  intro kept
  have short := ((request_roundTrip_iff.mp kept).headers.each _ mem_cons_self).2.2.1
  have letters : ∀ n, (encodeChars (replicate n 'a')).length = n := by
    intro n
    have letter : 'a'.utf8Size = 1 := by decide
    simp [encodeChars, letter]
  rw [encode, String.toList_ofList, letters] at short
  exact absurd short (lt_irrefl _)

end AntSeed.Protocol
