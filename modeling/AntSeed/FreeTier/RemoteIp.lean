import AntSeed.Lib.JsString
import Mathlib

/-! # The address that a connection comes from

A limit counts by remote address. One that maps an IPv4 address counts as that, and IPv6 addresses count
by their first four groups.
-/

namespace AntSeed.FreeTier

open List Option

/-- What `trim` takes off the ends of a text. -/
def isSpace (char : Char) : Bool :=
  char.toNat ∈ [9, 10, 11, 12, 13, 32, 160, 5760, 8232, 8233, 8239, 8287, 12288, 65279]
    ∨ 8192 ≤ char.toNat ∧ char.toNat ≤ 8202

def trim (text : List Char) : List Char := ((text.dropWhile isSpace).reverse.dropWhile isSpace).reverse

/-- `split('::')`. -/
def splitDouble : List Char → List (List Char)
  | [] => [[]]
  | ':' :: ':' :: rest => [] :: splitDouble rest
  | char :: rest => (splitDouble rest).modifyHead (char :: ·)

def padStart (length : Nat) (part : List Char) : List Char := replicate (length - part.length) '0' ++ part

/-- Four groups of up to three digits. -/
def isDotted (text : List Char) : Bool :=
  let parts := text.splitOn '.'
  parts.length = 4 ∧ parts.all fun part => 1 ≤ part.length ∧ part.length ≤ 3 ∧ part.all Char.isDigit

/-- The IPv4 address that an IPv6 address maps. -/
def mappedIpv4 (ip : List Char) : Option (List Char) :=
  if (ip.take 7).map Char.toLower = "::ffff:".toList ∧ isDotted (ip.drop 7) then some (ip.drop 7) else none

/-- The groups on one side of the zeros that are left out. -/
def groups (side : List Char) : List (List Char) := if side = [] then [] else side.splitOn ':'

def expandIpv6 (ip : List Char) : Option (List (List Char)) :=
  match splitDouble (ip.map Char.toLower) with
  | head :: tail :: _ =>
    let given := (groups head).length + (groups tail).length
    if 8 < given then none
    else some ((groups head ++ replicate (8 - given) ['0'] ++ groups tail).map (padStart 4))
  | [head] => if (groups head).length ≠ 8 then none else some ((groups head).map (padStart 4))
  | [] => none

/-- The address without the brackets and the zone of an IPv6 address, as IPv4 if it maps that. -/
def bareIp (remoteIp : List Char) : List Char :=
  let ip := trim remoteIp
  let ip := if ip.head? = some '[' ∧ ip.getLast? = some ']' then ip.tail.dropLast else ip
  let ip := ip.takeWhile (· ≠ '%')
  (mappedIpv4 ip).getD ip

/-- The key that a remote address counts under. `isIP` is not in the repository. -/
def normalizeRemoteIp (isIP : String → Nat) (remoteIp : Option String) : Option String :=
  match remoteIp with
  | none => none
  | some remoteIp =>
    if remoteIp = "" then none
    else
      let ip := bareIp remoteIp.toList
      match isIP (String.ofList ip) with
      | 4 => some (String.ofList ip)
      | 6 =>
        (expandIpv6 ip).map fun expanded =>
          String.ofList ([':'].intercalate (expanded.take 4) ++ "::/64".toList)
      | _ => none

variable {ip : List Char} {pieces : List (List Char)}

/-- No piece of a text has a bar in it. -/
def Barless (pieces : List (List Char)) : Prop := ∀ piece ∈ pieces, '|' ∉ piece

theorem Barless.cons (clear : '|' ≠ char) (barless : Barless pieces) :
    Barless (pieces.modifyHead (char :: ·)) := by
  cases pieces with
  | nil => exact barless
  | cons =>
    rw [Barless, forall_mem_cons] at barless
    rw [modifyHead_cons, Barless, forall_mem_cons, mem_cons, not_or]
    exact ⟨⟨clear, barless.1⟩, barless.2⟩

theorem barless_splitOn (clear : '|' ∉ ip) : Barless (ip.splitOn separator) := by
  induction ip with
  | nil => simp [Barless, splitOn_nil]
  | cons char rest ih =>
    rw [mem_cons, not_or] at clear
    rw [splitOn_cons_eq_if_modifyHead]
    split
    · simpa [Barless] using ih clear.2
    · exact (ih clear.2).cons clear.1

theorem barless_splitDouble (clear : '|' ∉ ip) : Barless (splitDouble ip) := by
  induction ip using splitDouble.induct with
  | case1 => simp [splitDouble, Barless]
  | case2 rest ih =>
    have later := ih fun bar => clear (mem_cons_of_mem _ (mem_cons_of_mem _ bar))
    simpa [splitDouble, Barless] using later
  | case3 char rest other ih =>
    rw [mem_cons, not_or] at clear
    rw [splitDouble]
    · exact (ih clear.2).cons clear.1
    · exact other

theorem toLower_ne_bar (clear : '|' ≠ char) : '|' ≠ char.toLower := by
  intro same
  delta Char.toLower at same
  split at same
  next capital =>
    -- The capitals and what they become lie on either side of it.
    have low : char.val.toNat ≤ 90 := UInt32.le_iff_toNat_le.mp capital.2
    have code := congrArg (fun char => char.val.toNat) same
    simp only [UInt32.toNat_add] at code
    have bar : ('|' : Char).val.toNat = 124 := rfl
    have shift : ('a'.val - 'A'.val).toNat = 32 := rfl
    rw [bar, shift, Nat.mod_eq_of_lt (by omega)] at code
    omega
  · exact clear same

theorem barless_groups (clear : '|' ∉ side) : Barless (groups side) := by
  unfold groups
  split
  · simp [Barless]
  · exact barless_splitOn clear

theorem barless_padded (barless : Barless pieces) : Barless (pieces.map (padStart 4)) := by
  intro piece here
  obtain ⟨part, member, rfl⟩ := mem_map.mp here
  simp [padStart, barless part member]

theorem barless_expandIpv6 (clear : '|' ∉ ip) (expanded : expandIpv6 ip = some pieces) : Barless pieces := by
  have lowered : '|' ∉ ip.map Char.toLower := by
    intro bar
    obtain ⟨char, here, same⟩ := mem_map.mp bar
    exact toLower_ne_bar (fun bar => clear (bar ▸ here)) same.symm
  have sides := barless_splitDouble lowered
  unfold expandIpv6 at expanded
  split at expanded
  next head tail _ split_ =>
    rw [split_] at sides
    have head_ := barless_groups (sides head (by simp))
    have tail_ := barless_groups (sides tail (by simp))
    simp only [ite_none_left_eq_some, some.injEq] at expanded
    rw [← expanded.2]
    refine barless_padded fun part member => ?_
    rw [mem_append, mem_append] at member
    rcases member with (inHead | zero) | inTail
    · exact head_ part inHead
    · rw [eq_of_mem_replicate zero]
      decide
    · exact tail_ part inTail
  next head split_ =>
    rw [split_] at sides
    simp only [ite_none_left_eq_some, some.injEq] at expanded
    rw [← expanded.2]
    exact barless_padded (barless_groups (sides head (by simp)))
  · cases expanded

theorem intercalate_barless (barless : Barless pieces) : '|' ∉ [':'].intercalate pieces := by
  induction pieces with
  | nil => simp
  | cons piece pieces ih =>
    rw [Barless, forall_mem_cons] at barless
    cases pieces with
    | nil => simpa using barless.1
    | cons =>
      rw [intercalate_cons_cons]
      simpa [barless.1] using ih barless.2

theorem normalizeRemoteIp_barless (proper : ∀ ip, isIP ip ≠ 0 → '|' ∉ ip.toList)
    (normalized : normalizeRemoteIp isIP remoteIp = some key) :
    '|' ∉ key.toList := by
  unfold normalizeRemoteIp at normalized
  cases remoteIp with
  | none => cases normalized
  | some =>
    simp only [ite_none_left_eq_some] at normalized
    obtain ⟨-, normalized⟩ := normalized
    split at normalized
    next four =>
      cases normalized
      exact proper _ (by simp [four])
    next six =>
      have clear := proper _ (by rw [six]; decide)
      rw [String.toList_ofList] at clear
      obtain ⟨expanded, found, rfl⟩ := map_eq_some_iff.mp normalized
      have front : Barless (expanded.take 4) :=
        fun piece here => barless_expandIpv6 clear found piece (mem_of_mem_take here)
      rw [String.toList_ofList, mem_append, not_or]
      exact ⟨intercalate_barless front, by decide⟩
    · cases normalized

theorem normalizeRemoteIp_ne_empty (empty : isIP "" = 0) :
    normalizeRemoteIp isIP remoteIp ≠ some "" := by
  intro normalized
  unfold normalizeRemoteIp at normalized
  cases remoteIp with
  | none => cases normalized
  | some =>
    simp only [ite_none_left_eq_some] at normalized
    obtain ⟨-, normalized⟩ := normalized
    split at normalized
    next four =>
      rw [some.inj normalized, empty] at four
      cases four
    · obtain ⟨expanded, found, same⟩ := map_eq_some_iff.mp normalized
      simpa using congrArg String.toList same
    · cases normalized

theorem toLower_text (text : String) : text.toLower.toLower = text.toLower := by
  rw [← String.toList_inj]
  delta String.toLower
  simp

theorem toLower_barless {text : String} (clear : '|' ∉ text.toList) : '|' ∉ text.toLower.toList := by
  delta String.toLower
  rw [String.toList_map]
  intro bar
  obtain ⟨char, here, same⟩ := mem_map.mp bar
  exact toLower_ne_bar (fun bar => clear (bar ▸ here)) same.symm

end AntSeed.FreeTier
