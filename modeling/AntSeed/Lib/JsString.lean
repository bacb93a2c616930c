import Mathlib.Data.List.Basic

/-! # Texts of the language, and how JSON quotes them

A text is a list of UTF-16 code units, in which surrogates need not come in pairs. Quoted
text is written in characters: a surrogate without its partner is escaped.
-/

/-- The code units of a text. -/
abbrev JsString := List UInt16

namespace JsString

open List

def isHigh (unit : UInt16) : Bool := 0xD800 ≤ unit.toNat ∧ unit.toNat < 0xDC00
def isLow (unit : UInt16) : Bool := 0xDC00 ≤ unit.toNat ∧ unit.toNat < 0xE000

/-- The character that two surrogates stand for. -/
def paired (high low : UInt16) : Char :=
  Char.ofNat (0x10000 + (high.toNat - 0xD800) * 0x400 + (low.toNat - 0xDC00))

/-- The code units of a character. -/
def units (char : Char) : JsString :=
  if char.toNat < 0x10000 then [UInt16.ofNat char.toNat]
  else [UInt16.ofNat (0xD800 + (char.toNat - 0x10000) / 0x400), UInt16.ofNat (0xDC00 + (char.toNat - 0x10000) % 0x400)]

def ofString (text : String) : JsString := text.toList.flatMap units

theorem toNat_ofNat (valid : n < 0xD800 ∨ 0xDFFF < n ∧ n < 0x110000) : (Char.ofNat n).toNat = n := by
  rw [Char.ofNat, dif_pos (show n.isValidChar from valid)]
  rfl

theorem units_append
    (same : units char ++ rest = units other ++ rest_) : char = other ∧ rest = rest_ := by
  have valid : char.toNat < 0xD800 ∨ 0xDFFF < char.toNat ∧ char.toNat < 0x110000 := char.valid
  have valid_ : other.toNat < 0xD800 ∨ 0xDFFF < other.toNat ∧ other.toNat < 0x110000 := other.valid
  have unit : ∀ n m, n < 0x10000 → m < 0x10000 → UInt16.ofNat n = UInt16.ofNat m → n = m := by
    intro n m small small_ equal
    have equal := congrArg UInt16.toNat equal
    rwa [UInt16.toNat_ofNat_of_lt' small, UInt16.toNat_ofNat_of_lt' small_] at equal
  unfold units at same
  split at same
  · split at same
    · obtain ⟨first, rest⟩ := cons.inj same
      exact ⟨Char.toNat_inj.mp (unit _ _ (by omega) (by omega) first), rest⟩
    · have first := unit _ _ (by omega) (by omega) (cons.inj same).1
      omega
  · split at same
    · have first := unit _ _ (by omega) (by omega) (cons.inj same).1
      omega
    · obtain ⟨first, later⟩ := cons.inj same
      obtain ⟨second, rest⟩ := cons.inj later
      have high := unit _ _ (by omega) (by omega) first
      have low := unit _ _ (by omega) (by omega) second
      exact ⟨Char.toNat_inj.mp (by omega), rest⟩

theorem ofString_inj : ofString text = ofString other ↔ text = other := by
  constructor
  · intro same
    rw [← String.toList_inj]
    unfold ofString at same
    generalize text.toList = chars at same
    generalize other.toList = others at same
    have some_ : ∀ char, units char ≠ [] := by
      intro char
      unfold units
      split <;> simp
    induction chars generalizing others with
    | nil =>
      cases others with
      | nil => rfl
      | cons other => exact absurd (append_eq_nil_iff.mp same.symm).1 (some_ other)
    | cons char chars ih =>
      cases others with
      | nil => exact absurd (append_eq_nil_iff.mp same).1 (some_ char)
      | cons other others =>
        obtain ⟨first, later⟩ := units_append same
        rw [first, ih others later]
  · rintro rfl
    rfl

def hexDigit (n : Nat) : Char := Char.ofNat (if n < 10 then 0x30 + n else 0x61 + (n - 10))

def hexValue (char : Char) : Option Nat :=
  if '0' ≤ char ∧ char ≤ '9' then some (char.toNat - 0x30)
  else if 'a' ≤ char ∧ char ≤ 'f' then some (char.toNat - 0x61 + 10)
  else if 'A' ≤ char ∧ char ≤ 'F' then some (char.toNat - 0x41 + 10)
  else none

def hexEscape (unit : UInt16) : List Char :=
  let n := unit.toNat
  ['\\', 'u', hexDigit (n / 0x1000), hexDigit (n / 0x100 % 0x10), hexDigit (n / 0x10 % 0x10), hexDigit (n % 0x10)]

/-- The letter after the backslash, for the units that have one. -/
def shortEscape (unit : UInt16) : Option Char :=
  if unit = 0x08 then some 'b'
  else if unit = 0x09 then some 't'
  else if unit = 0x0A then some 'n'
  else if unit = 0x0C then some 'f'
  else if unit = 0x0D then some 'r'
  else if unit = 0x22 then some '"'
  else if unit = 0x5C then some '\\'
  else none

/-- A unit that stands for itself, or its escape. -/
def quoteUnit (unit : UInt16) : List Char :=
  match shortEscape unit with
  | some letter => ['\\', letter]
  | none => if unit < 0x20 ∨ isHigh unit ∨ isLow unit then hexEscape unit else [Char.ofNat unit.toNat]

def quoteUnits : JsString → List Char
  | [] => []
  | [unit] => quoteUnit unit
  | unit :: next :: rest =>
    if isHigh unit ∧ isLow next then paired unit next :: quoteUnits rest
    else quoteUnit unit ++ quoteUnits (next :: rest)

/-- The unit that a letter after a backslash stands for. -/
def unescape (letter : Char) : Option UInt16 :=
  if letter = 'b' then some 0x08
  else if letter = 't' then some 0x09
  else if letter = 'n' then some 0x0A
  else if letter = 'f' then some 0x0C
  else if letter = 'r' then some 0x0D
  else if letter = '"' ∨ letter = '\\' ∨ letter = '/' then some (UInt16.ofNat letter.toNat)
  else none

/-- A text up to its closing quote. -/
def unquote : List Char → Option (JsString × List Char)
  | [] => none
  | '"' :: rest => some ([], rest)
  | '\\' :: 'u' :: a :: b :: c :: d :: rest => do
      let a ← hexValue a
      let b ← hexValue b
      let c ← hexValue c
      let d ← hexValue d
      let (units, rest) ← unquote rest
      return (UInt16.ofNat (((a * 0x10 + b) * 0x10 + c) * 0x10 + d) :: units, rest)
  | '\\' :: letter :: rest => do
      let unit ← unescape letter
      let (units, rest) ← unquote rest
      return (unit :: units, rest)
  | char :: rest =>
    if char.toNat < 0x20 ∨ char = '\\' then none
    else do
      let (units', rest) ← unquote rest
      return (units char ++ units', rest)

variable {unit high low : UInt16} {text : JsString} {rest : List Char}

theorem hexValue_hexDigit : ∀ n < 16, hexValue (hexDigit n) = some n := by decide

theorem shortEscape_spec : ∀ unit letter, shortEscape unit = some letter →
    unescape letter = some unit ∧ letter ≠ 'u' := by
  intro unit letter short
  unfold shortEscape at short
  split_ifs at short <;> cases short <;> subst_vars <;> decide

theorem of_shortEscape_none : shortEscape unit = none → unit ≠ 0x22 ∧ unit ≠ 0x5C := by
  intro plain
  constructor
  · rintro rfl
    cases plain
  · rintro rfl
    cases plain

/-- A text that begins with a unit. -/
def prepend (unit : UInt16) (read : Option (JsString × List Char)) : Option (JsString × List Char) :=
  read.map fun found => (unit :: found.1, found.2)

variable {more : List Char}

theorem unquote_plain (printed : ¬ char.toNat < 0x20) (notQuote : char ≠ '"')
    (notBackslash : char ≠ '\\') :
    unquote (char :: more) = (unquote more).map fun found => (units char ++ found.1, found.2) := by
  rw [unquote.eq_def]
  split
  next same => cases same
  next same => exact absurd (cons.inj same).1 notQuote
  next same => exact absurd (cons.inj same).1 notBackslash
  next same => exact absurd (cons.inj same).1 notBackslash
  next same =>
    cases same
    rw [if_neg (by simp [printed, notBackslash])]
    cases unquote more <;> rfl

theorem unquote_hexEscape : unquote (hexEscape unit ++ more) = prepend unit (unquote more) := by
  have small := unit.toNat_lt
  have back : ((unit.toNat / 0x1000 * 0x10 + unit.toNat / 0x100 % 0x10) * 0x10 + unit.toNat / 0x10 % 0x10) * 0x10
      + unit.toNat % 0x10 = unit.toNat := by omega
  simp only [hexEscape, cons_append, nil_append, unquote]
  rw [hexValue_hexDigit _ (by omega), hexValue_hexDigit _ (by omega), hexValue_hexDigit _ (by omega),
    hexValue_hexDigit _ (by omega)]
  dsimp only [Option.bind_eq_bind, Option.bind_some]
  rw [back, UInt16.ofNat_toNat]
  cases unquote more <;> rfl

theorem unquote_short (short : shortEscape unit = some letter) :
    unquote ('\\' :: letter :: more) = prepend unit (unquote more) := by
  obtain ⟨back, notHex⟩ := shortEscape_spec unit letter short
  rw [unquote.eq_def]
  split
  next same => cases same
  next same => cases same
  next same => cases same; exact absurd rfl notHex
  next same =>
    cases same
    rw [back]
    cases unquote more <;> rfl
  next apart same => cases same; exact absurd rfl (apart _ _ rfl)

theorem unquote_quoteUnit : unquote (quoteUnit unit ++ more) = prepend unit (unquote more) := by
  unfold quoteUnit
  split
  next letter short => exact unquote_short short
  next plain =>
    split
    · exact unquote_hexEscape
    next itself =>
      simp only [isHigh, isLow, not_or, decide_eq_true_eq] at itself
      obtain ⟨printed, notHigh, notLow⟩ := itself
      have small := unit.toNat_lt
      have large : ¬ unit.toNat < 0x20 := printed
      have code := toNat_ofNat (by omega : unit.toNat < 0xD800 ∨ 0xDFFF < unit.toNat ∧ unit.toNat < 0x110000)
      obtain ⟨notQuote, notBackslash⟩ := of_shortEscape_none plain
      rw [cons_append, nil_append, unquote_plain]
      · rw [units, code, if_pos small, UInt16.ofNat_toNat]
        rfl
      · omega
      · intro same
        rw [same] at code
        exact notQuote (UInt16.toNat_inj.mp code.symm)
      · intro same
        rw [same] at code
        exact notBackslash (UInt16.toNat_inj.mp code.symm)

theorem unquote_paired (isHigh_ : isHigh high) (isLow_ : isLow low) :
    unquote (paired high low :: more) = prepend high (prepend low (unquote more)) := by
  simp only [isHigh, isLow, decide_eq_true_eq] at isHigh_ isLow_
  have code : (paired high low).toNat = _ := toNat_ofNat (by omega)
  have apart : ∀ {char : Char}, char.toNat < 0x10000 → paired high low ≠ char := by
    rintro char small same
    rw [← same, code] at small
    omega
  have first : 0xD800 + ((paired high low).toNat - 0x10000) / 0x400 = high.toNat := by omega
  have second : 0xDC00 + ((paired high low).toNat - 0x10000) % 0x400 = low.toNat := by omega
  rw [unquote_plain (by omega) (apart (by decide)) (apart (by decide)), units, if_neg (by omega), first, second,
    UInt16.ofNat_toNat, UInt16.ofNat_toNat]
  cases unquote more <;> rfl

theorem unquote_quoteUnits : unquote (quoteUnits text ++ '"' :: rest) = some (text, rest) := by
  induction text using quoteUnits.induct with
  | case1 => rfl
  | case2 => rw [quoteUnits, unquote_quoteUnit]; rfl
  | case3 unit next others pair ih =>
    rw [quoteUnits, if_pos pair, cons_append, unquote_paired pair.1 pair.2, ih]
    rfl
  | case4 unit next others single ih =>
    rw [quoteUnits, if_neg single, append_assoc, unquote_quoteUnit, ih]
    rfl

end JsString
