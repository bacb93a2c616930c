import AntSeed.Protocol.Truncation

/-! # What the bytes of a message determine

While lengths fit their fields the bytes tell where every field ends, and with it what it
holds. A body that comes last ends with the bytes, so its length need not be told.
-/

namespace AntSeed.Protocol

open Bytes

section Fields

variable {width : Nat} {text other : String} {rest rest' : List UInt8}

theorem append_inj_of_fixed {number number' : List UInt8} (whole : number.length = width)
    (whole' : number'.length = width) (same : number ++ rest = number' ++ rest') :
    number = number' ∧ rest = rest' :=
  List.append_inj same (whole.trans whole'.symm)

theorem writeText_append_inj (fits : LengthFits width text) (fits' : LengthFits width other)
    (same : writeText width text ++ rest = writeText width other ++ rest') : text = other ∧ rest = rest' := by
  have texts : writeText width text = writeText width other :=
    delimited_field width _ _ _ (writeText_mem fits) (writeText_mem fits') ⟨rest, rfl⟩ ⟨rest', same.symm⟩
  have bytes := append_inj_of_fixed length_ofInt length_ofInt texts
  rw [texts] at same
  exact ⟨Utf8.encode_inj.mp bytes.2, List.append_cancel_left same⟩

theorem writeHeader_append_inj {header header' : String × String}
    (fits : LengthFits 2 header.1 ∧ LengthFits 2 header.2)
    (fits' : LengthFits 2 header'.1 ∧ LengthFits 2 header'.2)
    (same : writeHeader header ++ rest = writeHeader header' ++ rest') : header = header' ∧ rest = rest' := by
  unfold writeHeader at same
  rw [List.append_assoc, List.append_assoc] at same
  obtain ⟨key, later⟩ := writeText_append_inj fits.1 fits'.1 same
  obtain ⟨val, after⟩ := writeText_append_inj fits.2 fits'.2 later
  exact ⟨Prod.ext key val, after⟩

theorem flatMap_append_inj {α : Type} {write : α → List UInt8} {Fits : α → Prop}
    (each : ∀ {x y rest rest'}, Fits x → Fits y → write x ++ rest = write y ++ rest' → x = y ∧ rest = rest')
    {xs ys : List α} (fits : ∀ x ∈ xs, Fits x) (fits' : ∀ y ∈ ys, Fits y) (count : xs.length = ys.length)
    (same : xs.flatMap write ++ rest = ys.flatMap write ++ rest') : xs = ys ∧ rest = rest' := by
  induction xs generalizing ys with
  | nil =>
    cases ys with
    | nil => exact ⟨rfl, same⟩
    | cons => cases count
  | cons x xs ih =>
    cases ys with
    | nil => cases count
    | cons y =>
      rw [List.flatMap_cons, List.flatMap_cons, List.append_assoc, List.append_assoc] at same
      obtain ⟨first, later⟩ := each (fits x List.mem_cons_self) (fits' y List.mem_cons_self) same
      obtain ⟨others, after⟩ := ih (fun z member => fits z (List.mem_cons_of_mem _ member))
        (fun z member => fits' z (List.mem_cons_of_mem _ member)) (Nat.succ.inj count) later
      exact ⟨first ▸ others ▸ rfl, after⟩

theorem writeHeaders_append_inj {headers headers' : Record} (fits : headers.LengthsFit)
    (fits' : headers'.LengthsFit) (same : writeHeaders headers ++ rest = writeHeaders headers' ++ rest') :
    headers = headers' ∧ rest = rest' := by
  unfold writeHeaders at same
  rw [List.append_assoc, List.append_assoc] at same
  obtain ⟨counts, later⟩ := append_inj_of_fixed length_ofInt length_ofInt same
  have count : headers.entries.length = headers'.entries.length := by
    have numbers := congrArg toNat counts
    rwa [toNat_ofInt_fitting fits.count, toNat_ofInt_fitting fits'.count] at numbers
  obtain ⟨entries, after⟩ := flatMap_append_inj writeHeader_append_inj fits.each fits'.each count later
  exact ⟨Record.ext entries, after⟩

end Fields

variable {req req' : SerializedHttpRequest} {resp resp' : SerializedHttpResponse}

theorem encodeHttpRequest_inj (fits : req.LengthsFit) (fits' : req'.LengthsFit)
    (same : encodeHttpRequest req = encodeHttpRequest req') : req = req' := by
  unfold encodeHttpRequest at same
  simp only [List.append_assoc] at same
  obtain ⟨requestId, same⟩ := writeText_append_inj fits.requestId fits'.requestId same
  obtain ⟨method, same⟩ := writeText_append_inj fits.method fits'.method same
  obtain ⟨path, same⟩ := writeText_append_inj fits.path fits'.path same
  obtain ⟨headers, same⟩ := writeHeaders_append_inj fits.headers fits'.headers same
  obtain ⟨-, body⟩ := append_inj_of_fixed length_ofInt length_ofInt same
  cases req
  cases req'
  simp_all only

/-- A response up to the length of its body. -/
def responseFields (resp : SerializedHttpResponse) : List UInt8 :=
  writeText 2 resp.requestId ++ ofInt 2 resp.statusCode ++ writeHeaders resp.headers

/-- Whatever is told about their lengths, responses with bodies of the same bytes are the same but for
    the bits of the status that are cut off. -/
theorem responseFields_append_inj (fits : resp.LengthsFit)
    (fits' : resp'.LengthsFit) (same : responseFields resp ++ Bytes.ofInt 4 length ++ body
      = responseFields resp' ++ Bytes.ofInt 4 length' ++ body') :
    resp.requestId = resp'.requestId ∧ resp.headers = resp'.headers ∧ body = body' := by
  unfold responseFields at same
  simp only [List.append_assoc] at same
  obtain ⟨requestId, same⟩ := writeText_append_inj fits.requestId fits'.requestId same
  obtain ⟨-, same⟩ := append_inj_of_fixed Bytes.length_ofInt Bytes.length_ofInt same
  obtain ⟨headers, same⟩ := writeHeaders_append_inj fits.headers fits'.headers same
  obtain ⟨-, body⟩ := append_inj_of_fixed Bytes.length_ofInt Bytes.length_ofInt same
  exact ⟨requestId, headers, body⟩

end AntSeed.Protocol
