import AntSeed.Lib.JsString
import AntSeed.Lib.Keyed

/-! # JSON

`JSON.stringify` and `JSON.parse`. How the language writes its numbers and reads them is
left open but for one law: a finite number is written as a literal that reads back as it.
-/

namespace Json

def isDigit (char : Char) : Bool := '0' ≤ char ∧ char ≤ '9'

/-- The characters of number literals. -/
def isNumeric (char : Char) : Bool :=
  isDigit char ∨ char = '-' ∨ char = '+' ∨ char = '.' ∨ char = 'e' ∨ char = 'E'

def isDigits (chars : List Char) : Bool := chars ≠ [] ∧ chars.all isDigit

def isExponent : List Char → Bool
  | [] => true
  | 'e' :: '+' :: rest | 'e' :: '-' :: rest | 'E' :: '+' :: rest | 'E' :: '-' :: rest => isDigits rest
  | 'e' :: rest | 'E' :: rest => isDigits rest
  | _ => false

def isFraction : List Char → Bool
  | '.' :: char :: rest => isDigit char ∧ isExponent (rest.dropWhile isDigit)
  | rest => isExponent rest

def isUnsigned : List Char → Bool
  | '0' :: rest => isFraction rest
  | char :: rest => isDigit char ∧ isFraction (rest.dropWhile isDigit)
  | [] => false

def isLiteral : List Char → Bool
  | '-' :: rest => isUnsigned rest
  | rest => isUnsigned rest

end Json

/-- The numbers of the language. Zero has no sign here, as for `===`. -/
structure JsNumbers (ν : Type) where
  /-- the text of a number that is finite -/
  text : ν → Option (List Char)
  ofLiteral : List Char → ν
  /-- `Number(text)` -/
  ofText : JsString → ν
  one : ν
  isLiteral_text : ∀ {x chars}, text x = some chars → Json.isLiteral chars
  ofLiteral_text : ∀ {x chars}, text x = some chars → ofLiteral chars = x
  text_one : text one = some ['1']

/-- Numbers of which only one is finite. -/
def JsNumbers.oneNumber : JsNumbers Unit :=
  ⟨fun _ => some ['1'], fun _ => (), fun _ => (), (), by rintro _ _ ⟨⟩; rfl, fun _ => rfl, rfl⟩

def JsNumbers.isFinite {ν : Type} (numbers : JsNumbers ν) (x : ν) : Bool := (numbers.text x).isSome

inductive Json (ν : Type) where
  | null
  | boolean (value : Bool)
  | number (value : ν)
  | string (text : JsString)
  | array (items : List (Json ν))
  | object (members : List (JsString × Json ν))

namespace Json

variable {ν : Type}

/-- What a number is written as: one that is not finite is lost. -/
def ofNumber (numbers : JsNumbers ν) (x : ν) : Json ν := if numbers.isFinite x then .number x else .null

/-- The members of an object that are not `undefined`. -/
def present (fields : List (String × Option (Json ν))) : List (JsString × Json ν) :=
  fields.filterMap fun field => field.2.map (JsString.ofString field.1, ·)

/-- `obj[name]`; a name that is not there gives `undefined`. -/
def get (name : String) (members : List (JsString × Json ν)) : Option (Json ν) :=
  (Keyed.get Prod.fst (JsString.ofString name) members).map Prod.snd

def quote (text : JsString) : List Char := '"' :: (JsString.quoteUnits text ++ ['"'])

section Stringify

variable (numbers : JsNumbers ν)

mutual

def stringify : Json ν → List Char
  | .null => ['n', 'u', 'l', 'l']
  | .boolean true => ['t', 'r', 'u', 'e']
  | .boolean false => ['f', 'a', 'l', 's', 'e']
  | .number value => (numbers.text value).getD ['n', 'u', 'l', 'l']
  | .string text => quote text
  | .array items => '[' :: stringifyItems items
  | .object members => '{' :: stringifyMembers members

/-- The items up to the closing bracket. -/
def stringifyItems : List (Json ν) → List Char
  | [] => [']']
  | [item] => stringify item ++ [']']
  | item :: next :: rest => stringify item ++ ',' :: stringifyItems (next :: rest)

def stringifyMembers : List (JsString × Json ν) → List Char
  | [] => ['}']
  | [(name, value)] => quote name ++ ':' :: (stringify value ++ ['}'])
  | (name, value) :: next :: rest =>
    quote name ++ ':' :: (stringify value ++ ',' :: stringifyMembers (next :: rest))

end

end Stringify

def isSpace (char : Char) : Bool := char = ' ' ∨ char = '\t' ∨ char = '\n' ∨ char = '\r'

def skipSpace (chars : List Char) : List Char := chars.dropWhile isSpace

section Parse

variable (numbers : JsNumbers ν)

/-- The longest run of characters that occur in numbers has to be a number. -/
def parseNumber (chars : List Char) : Option (Json ν × List Char) :=
  if isLiteral (chars.takeWhile isNumeric) then
    some (.number (numbers.ofLiteral (chars.takeWhile isNumeric)), chars.dropWhile isNumeric)
  else none

mutual

/-- One value, with as much fuel as there are characters. -/
def parseValue : Nat → List Char → Option (Json ν × List Char)
  | 0, _ => none
  | fuel + 1, chars =>
    match skipSpace chars with
    | '{' :: rest =>
      match skipSpace rest with
      | '}' :: rest => some (.object [], rest)
      | rest => do
          let (members, rest) ← parseMembers fuel [] rest
          return (.object members, rest)
    | '[' :: rest =>
      match skipSpace rest with
      | ']' :: rest => some (.array [], rest)
      | rest => do
          let (items, rest) ← parseItems fuel rest
          return (.array items, rest)
    | '"' :: rest => do
        let (text, rest) ← JsString.unquote rest
        return (.string text, rest)
    | 'n' :: 'u' :: 'l' :: 'l' :: rest => some (.null, rest)
    | 't' :: 'r' :: 'u' :: 'e' :: rest => some (.boolean true, rest)
    | 'f' :: 'a' :: 'l' :: 's' :: 'e' :: rest => some (.boolean false, rest)
    | chars => parseNumber numbers chars

/-- Items up to the closing bracket. -/
def parseItems : Nat → List Char → Option (List (Json ν) × List Char)
  | 0, _ => none
  | fuel + 1, chars => do
      let (item, rest) ← parseValue fuel chars
      match skipSpace rest with
      | ',' :: rest => do
          let (items, rest) ← parseItems fuel rest
          return (item :: items, rest)
      | ']' :: rest => some ([item], rest)
      | _ => none

/-- Members up to the closing brace. A name that occurs again replaces its value. -/
def parseMembers : Nat → List (JsString × Json ν) → List Char →
    Option (List (JsString × Json ν) × List Char)
  | 0, _, _ => none
  | fuel + 1, known, chars =>
    match skipSpace chars with
    | '"' :: rest => do
        let (name, rest) ← JsString.unquote rest
        match skipSpace rest with
        | ':' :: rest => do
            let (value, rest) ← parseValue fuel rest
            let known := Keyed.set Prod.fst (name, value) known
            match skipSpace rest with
            | ',' :: rest => parseMembers fuel known rest
            | '}' :: rest => some (known, rest)
            | _ => none
        | _ => none
    | _ => none

end

def parse (chars : List Char) : Option (Json ν) := do
  let (value, rest) ← parseValue numbers (chars.length + 1) chars
  if skipSpace rest = [] then some value else none

end Parse

section Fields

variable {name : String} {fields : List (String × Option (Json ν))}

/-- The value of a field. -/
def lookup (name : String) (fields : List (String × Option (Json ν))) : Option (Json ν) :=
  (fields.find? fun field => field.1 = name).bind Prod.snd

theorem mem_present : member ∈ present fields ↔
    ∃ name value, (name, some value) ∈ fields ∧ member = (JsString.ofString name, value) := by
  simp only [present, List.mem_filterMap, Option.map_eq_some_iff, Prod.exists]
  constructor
  · rintro ⟨name, _, here, value, rfl, rfl⟩
    exact ⟨name, value, here, rfl⟩
  · rintro ⟨name, value, here, rfl⟩
    exact ⟨name, some value, here, value, rfl, rfl⟩

theorem absent_present (absent : name ∉ fields.map Prod.fst) :
    JsString.ofString name ∉ (present fields).map Prod.fst := by
  intro again
  obtain ⟨member, here, same⟩ := List.mem_map.mp again
  obtain ⟨other, value, there, rfl⟩ := mem_present.mp here
  exact absent (List.mem_map.mpr ⟨_, there, JsString.ofString_inj.mp same⟩)

theorem nodup_present (distinct : (fields.map Prod.fst).Nodup) : ((present fields).map Prod.fst).Nodup := by
  induction fields with
  | nil => exact List.nodup_nil
  | cons field fields ih =>
    obtain ⟨name, value⟩ := field
    rw [List.map_cons, List.nodup_cons] at distinct
    cases value with
    | none => exact ih distinct.2
    | some => exact List.nodup_cons.mpr ⟨absent_present distinct.1, ih distinct.2⟩

theorem get_present (distinct : (fields.map Prod.fst).Nodup) : get name (present fields) = lookup name fields := by
  induction fields with
  | nil => rfl
  | cons field fields ih =>
    obtain ⟨other, value⟩ := field
    rw [List.map_cons, List.nodup_cons] at distinct
    rw [lookup, List.find?_cons]
    cases value with
    | none =>
      split
      next same =>
        have same : other = name := by simpa using same
        rw [← same]
        change Option.map _ (Keyed.get _ _ (present fields)) = _
        rw [Keyed.get_eq_none_iff.mpr (absent_present distinct.1)]
        rfl
      · exact ih distinct.2
    | some value =>
      change Option.map _ (Keyed.get _ _ ((JsString.ofString other, value) :: present fields)) = _
      rw [Keyed.get, List.find?_cons]
      by_cases same : other = name
      · simp [same]
      · simp only [same, JsString.ofString_inj, decide_false]
        exact ih distinct.2

end Fields

section Literals

variable {chars rest : List Char}

theorem isNumeric_of_isDigit (digit : isDigit char) : isNumeric char := by
  simp [isNumeric, digit]

theorem all_takeWhile : ∀ char ∈ chars.takeWhile p, p char :=
  List.all_eq_true.mp List.all_takeWhile

theorem numeric_of_dropWhile (later : ∀ char ∈ rest.dropWhile isDigit, isNumeric char) :
    ∀ char ∈ rest, isNumeric char := by
  intro char here
  rw [← List.takeWhile_append_dropWhile (p := isDigit) (l := rest), List.mem_append] at here
  cases here with
  | inl digit => exact isNumeric_of_isDigit (all_takeWhile char digit)
  | inr other => exact later char other

theorem numeric_cons (first : isNumeric head) (later : ∀ char ∈ rest, isNumeric char) :
    ∀ char ∈ head :: rest, isNumeric char :=
  List.forall_mem_cons.mpr ⟨first, later⟩

theorem numeric_of_isDigits (digits : isDigits chars) : ∀ char ∈ chars, isNumeric char := by
  simp only [isDigits, decide_eq_true_eq, List.all_eq_true] at digits
  exact fun char here => isNumeric_of_isDigit (digits.2 char here)

theorem numeric_of_isExponent (exponent : isExponent chars) : ∀ char ∈ chars, isNumeric char := by
  unfold isExponent at exponent
  split at exponent
  · simp
  · exact numeric_cons (by decide) (numeric_cons (by decide) (numeric_of_isDigits exponent))
  · exact numeric_cons (by decide) (numeric_cons (by decide) (numeric_of_isDigits exponent))
  · exact numeric_cons (by decide) (numeric_cons (by decide) (numeric_of_isDigits exponent))
  · exact numeric_cons (by decide) (numeric_cons (by decide) (numeric_of_isDigits exponent))
  · exact numeric_cons (by decide) (numeric_of_isDigits exponent)
  · exact numeric_cons (by decide) (numeric_of_isDigits exponent)
  · cases exponent

theorem numeric_of_isFraction (fraction : isFraction chars) : ∀ char ∈ chars, isNumeric char := by
  unfold isFraction at fraction
  split at fraction
  · simp only [decide_eq_true_eq] at fraction
    exact numeric_cons (by decide) (numeric_cons (isNumeric_of_isDigit fraction.1)
      (numeric_of_dropWhile (numeric_of_isExponent fraction.2)))
  · exact numeric_of_isExponent fraction

theorem numeric_of_isUnsigned (number : isUnsigned chars) : ∀ char ∈ chars, isNumeric char := by
  unfold isUnsigned at number
  split at number
  · exact numeric_cons (by decide) (numeric_of_isFraction number)
  · simp only [decide_eq_true_eq] at number
    exact numeric_cons (isNumeric_of_isDigit number.1)
      (numeric_of_dropWhile (numeric_of_isFraction number.2))
  · cases number

theorem numeric_of_isLiteral (literal : isLiteral chars) : ∀ char ∈ chars, isNumeric char := by
  unfold isLiteral at literal
  split at literal
  · exact numeric_cons (by decide) (numeric_of_isUnsigned literal)
  · exact numeric_of_isUnsigned literal

/-- How a literal can begin. -/
def startsNumber (char : Char) : Prop := char = '-' ∨ isDigit char

theorem head_of_isLiteral (literal : isLiteral chars) : ∃ head tail, chars = head :: tail ∧ startsNumber head := by
  unfold isLiteral at literal
  split at literal
  · exact ⟨_, _, rfl, .inl rfl⟩
  · unfold isUnsigned at literal
    split at literal
    · exact ⟨_, _, rfl, .inr (by decide)⟩
    · simp only [decide_eq_true_eq] at literal
      exact ⟨_, _, rfl, .inr literal.1⟩
    · cases literal

/-- No number goes on here. -/
def EndsNumber (rest : List Char) : Prop := ∀ head tail, rest = head :: tail → isNumeric head = false

theorem endsNumber_cons (ends : isNumeric head = false) : EndsNumber (head :: rest) := by
  rintro _ _ same
  cases same
  exact ends

theorem takeWhile_numeric (numeric : ∀ char ∈ chars, isNumeric char) (ends : EndsNumber rest) :
    (chars ++ rest).takeWhile isNumeric = chars ∧ (chars ++ rest).dropWhile isNumeric = rest := by
  rw [List.takeWhile_append_of_pos numeric, List.dropWhile_append_of_pos numeric]
  cases rest with
  | nil => simp
  | cons head tail => simp [ends head tail rfl]

end Literals

/-- A value that JSON can write: its numbers are finite and the names of an object are distinct. -/
inductive Sound (numbers : JsNumbers ν) : Json ν → Prop where
  | null : Sound numbers .null
  | boolean {value} : Sound numbers (.boolean value)
  | number {value} : numbers.isFinite value → Sound numbers (.number value)
  | string {text} : Sound numbers (.string text)
  | array {items} : (∀ item ∈ items, Sound numbers item) → Sound numbers (.array items)
  | object {members} : (members.map Prod.fst).Nodup → (∀ member ∈ members, Sound numbers member.2) →
      Sound numbers (.object members)

variable {numbers : JsNumbers ν} {value : Json ν} {rest : List Char} {fuel : Nat}

/-- The value is read back, whatever follows it but a number. -/
def Parses (numbers : JsNumbers ν) (value : Json ν) : Prop :=
  ∀ fuel rest, (stringify numbers value).length < fuel → EndsNumber rest →
    parseValue numbers fuel (stringify numbers value ++ rest) = some (value, rest)

theorem skipSpace_cons (solid : isSpace head = false) : skipSpace (head :: rest) = head :: rest :=
  List.dropWhile_cons_of_neg (by simp [solid])

theorem startsNumber_ne (starts : startsNumber head) (notNumeric : isNumeric other = false) :
    head ≠ other := by
  rintro rfl
  have numeric : isNumeric head := by
    cases starts with
    | inl sign => simp [isNumeric, sign]
    | inr digit => exact isNumeric_of_isDigit digit
  rw [numeric] at notNumeric
  cases notNumeric

theorem startsNumber_solid (starts : startsNumber head) : isSpace head = false := by
  simp [isSpace, startsNumber_ne starts (show isNumeric ' ' = false by decide),
    startsNumber_ne starts (show isNumeric '\t' = false by decide),
    startsNumber_ne starts (show isNumeric '\n' = false by decide),
    startsNumber_ne starts (show isNumeric '\r' = false by decide)]

theorem stringify_head (sound : Sound numbers value) : ∃ head tail, stringify numbers value = head :: tail ∧
    isSpace head = false ∧ head ≠ ']' := by
  cases sound with
  | null | string | array | object => exact ⟨_, _, rfl, by decide, by decide⟩
  | @boolean value => cases value <;> exact ⟨_, _, rfl, by decide, by decide⟩
  | number finite =>
    obtain ⟨chars, written⟩ := Option.isSome_iff_exists.mp finite
    obtain ⟨head, tail, rfl, starts⟩ := head_of_isLiteral (numbers.isLiteral_text written)
    exact ⟨head, tail, by rw [stringify, written]; rfl, startsNumber_solid starts, startsNumber_ne starts (by decide)⟩

theorem parseValue_numeric (starts : startsNumber head) :
    parseValue numbers (fuel + 1) (head :: tail) = parseNumber numbers (head :: tail) := by
  rw [parseValue, skipSpace_cons (startsNumber_solid starts)]
  split
  iterate 6
    next same => exact absurd (List.cons.inj same).1 (startsNumber_ne starts (by decide))
  · rfl

theorem parses_number (finite : numbers.isFinite x) : Parses numbers (.number x) := by
  intro fuel rest enough ends
  obtain ⟨chars, written⟩ := Option.isSome_iff_exists.mp finite
  have literal := numbers.isLiteral_text written
  obtain ⟨head, tail, same, sign⟩ := head_of_isLiteral literal
  have same_ : stringify numbers (.number x) = chars := by rw [stringify, written]; rfl
  obtain ⟨fuel, rfl⟩ := Nat.exists_eq_succ_of_ne_zero (Nat.ne_zero_of_lt enough)
  obtain ⟨taken, left⟩ := takeWhile_numeric (numeric_of_isLiteral literal) ends
  rw [same_, same, List.cons_append, parseValue_numeric sign, ← List.cons_append, ← same, parseNumber, taken, left,
    if_pos literal, numbers.ofLiteral_text written]

section Lists

variable {chars : List Char} {item : Json ν} {items : List (Json ν)}

theorem parseValue_bracket : parseValue numbers (fuel + 1) ('[' :: rest) = (match skipSpace rest with
    | ']' :: rest => some (.array [], rest)
    | rest => do
        let (items, rest) ← parseItems numbers fuel rest
        return (.array items, rest)) := by
  rw [parseValue, skipSpace_cons (by decide)]
  rfl

theorem parseItems_last (read : parseValue numbers fuel chars = some (item, ']' :: rest)) :
    parseItems numbers (fuel + 1) chars = some ([item], rest) := by
  rw [parseItems, read]
  rfl

theorem parseItems_next (read : parseValue numbers fuel chars = some (item, ',' :: rest)) :
    parseItems numbers (fuel + 1) chars = do
      let (items, rest) ← parseItems numbers fuel rest
      return (item :: items, rest) := by
  rw [parseItems, read]
  rfl

theorem stringifyItems_head (sound : Sound numbers item) : ∃ head tail,
    stringifyItems numbers (item :: items) = head :: tail ∧ isSpace head = false ∧ head ≠ ']' := by
  obtain ⟨head, tail, same, solid, notEnd⟩ := stringify_head sound
  cases items with
  | nil | cons => exact ⟨head, _, by rw [stringifyItems, same]; rfl, solid, notEnd⟩

theorem parseItems_stringifyItems (some_ : items ≠ []) (each : ∀ item ∈ items, Parses numbers item)
    (enough : (stringifyItems numbers items).length < fuel) :
    parseItems numbers fuel (stringifyItems numbers items ++ rest) = some (items, rest) := by
  induction items generalizing fuel with
  | nil => exact absurd rfl some_
  | cons item items ih =>
    obtain ⟨fuel, rfl⟩ := Nat.exists_eq_succ_of_ne_zero (Nat.ne_zero_of_lt enough)
    have first := each item List.mem_cons_self
    cases items with
    | nil =>
      rw [stringifyItems, List.length_append, List.length_singleton] at enough
      rw [stringifyItems, List.append_assoc]
      exact parseItems_last (first fuel _ (by omega) (endsNumber_cons (by decide)))
    | cons =>
      rw [stringifyItems, List.length_append, List.length_cons] at enough
      have later := ih (List.cons_ne_nil _ _) (fun one here => each one (List.mem_cons_of_mem _ here))
        (show _ < fuel by omega)
      rw [stringifyItems, List.append_assoc, List.cons_append,
        parseItems_next (first fuel _ (by omega) (endsNumber_cons (by decide))), later]
      rfl

theorem parses_array (sound : ∀ item ∈ items, Sound numbers item) (each : ∀ item ∈ items, Parses numbers item) :
    Parses numbers (.array items) := by
  intro fuel rest enough _
  obtain ⟨fuel, rfl⟩ := Nat.exists_eq_succ_of_ne_zero (Nat.ne_zero_of_lt enough)
  rw [stringify, List.length_cons] at enough
  rw [stringify, List.cons_append, parseValue_bracket]
  cases items with
  | nil => rfl
  | cons item items =>
    obtain ⟨head, tail, same, solid, notEnd⟩ := stringifyItems_head (sound item List.mem_cons_self)
    have skipped : skipSpace (stringifyItems numbers (item :: items) ++ rest)
        = stringifyItems numbers (item :: items) ++ rest := by rw [same, List.cons_append, skipSpace_cons solid]
    rw [skipped]
    split
    next ends =>
      rw [same] at ends
      exact absurd (List.cons.inj ends).1 notEnd
    · rw [parseItems_stringifyItems (List.cons_ne_nil _ _) each (by omega)]
      rfl

end Lists

section Objects

variable {chars : List Char} {name : JsString} {known members : List (JsString × Json ν)}

theorem parseValue_brace : parseValue numbers (fuel + 1) ('{' :: rest) = (match skipSpace rest with
    | '}' :: rest => some (.object [], rest)
    | rest => do
        let (members, rest) ← parseMembers numbers fuel [] rest
        return (.object members, rest)) := by
  rw [parseValue, skipSpace_cons (by decide)]
  rfl

theorem parseMembers_member (read : parseValue numbers fuel chars = some (value, more)) :
    parseMembers numbers (fuel + 1) known (quote name ++ ':' :: chars) =
      match skipSpace more with
      | ',' :: rest => parseMembers numbers fuel (Keyed.set Prod.fst (name, value) known) rest
      | '}' :: rest => some (Keyed.set Prod.fst (name, value) known, rest)
      | _ => none := by
  rw [quote, List.cons_append, List.append_assoc, parseMembers, skipSpace_cons (by decide)]
  simp only [List.cons_append, List.nil_append, JsString.unquote_quoteUnits, Option.bind_eq_bind, Option.bind_some]
  rw [skipSpace_cons (by decide)]
  simp only [read, Option.bind_some]

theorem parseMembers_stringifyMembers (some_ : members ≠ []) (distinct : ((known ++ members).map Prod.fst).Nodup)
    (each : ∀ member ∈ members, Parses numbers member.2) (enough : (stringifyMembers numbers members).length < fuel) :
    parseMembers numbers fuel known (stringifyMembers numbers members ++ rest) = some (known ++ members, rest) := by
  induction members generalizing fuel known with
  | nil => exact absurd rfl some_
  | cons member members ih =>
    obtain ⟨name, value⟩ := member
    obtain ⟨fuel, rfl⟩ := Nat.exists_eq_succ_of_ne_zero (Nat.ne_zero_of_lt enough)
    have first : Parses numbers value := each (name, value) List.mem_cons_self
    have absent : name ∉ known.map Prod.fst := by
      intro present
      rw [List.map_append, List.nodup_append] at distinct
      exact distinct.2.2 name present name (by simp) rfl
    have added : Keyed.set Prod.fst (name, value) known = known ++ [(name, value)] := Keyed.set_absent absent
    cases members with
    | nil =>
      simp only [stringifyMembers, List.length_append, List.length_cons] at enough
      simp only [stringifyMembers, List.append_assoc, List.cons_append, List.nil_append]
      rw [parseMembers_member (first fuel _ (by omega) (endsNumber_cons (by decide))), added,
        skipSpace_cons (by decide)]
      rfl
    | cons next members =>
      simp only [stringifyMembers, List.length_append, List.length_cons] at enough
      have shift : known ++ (name, value) :: next :: members = known ++ [(name, value)] ++ next :: members := by simp
      have later := ih (List.cons_ne_nil _ _) (shift ▸ distinct)
        (fun one here => each one (List.mem_cons_of_mem _ here)) (show _ < fuel by omega)
      simp only [stringifyMembers, List.append_assoc, List.cons_append]
      rw [parseMembers_member (first fuel _ (by omega) (endsNumber_cons (by decide))), added,
        skipSpace_cons (by decide), shift]
      exact later

theorem stringifyMembers_head (member : JsString × Json ν) (members : List (JsString × Json ν)) :
    ∃ tail, stringifyMembers numbers (member :: members) = '"' :: tail := by
  cases members with
  | nil | cons => exact ⟨_, by rw [stringifyMembers]; rfl⟩

theorem parses_object (distinct : (members.map Prod.fst).Nodup) (each : ∀ member ∈ members, Parses numbers member.2) :
    Parses numbers (.object members) := by
  intro fuel rest enough _
  obtain ⟨fuel, rfl⟩ := Nat.exists_eq_succ_of_ne_zero (Nat.ne_zero_of_lt enough)
  rw [stringify, List.length_cons] at enough
  rw [stringify, List.cons_append, parseValue_brace]
  cases members with
  | nil => rfl
  | cons member members =>
    obtain ⟨tail, same⟩ := @stringifyMembers_head _ numbers member members
    have skipped : skipSpace (stringifyMembers numbers (member :: members) ++ rest)
        = stringifyMembers numbers (member :: members) ++ rest := by
      rw [same, List.cons_append, skipSpace_cons (by decide)]
    rw [skipped]
    split
    next ends =>
      rw [same] at ends
      exact absurd (List.cons.inj ends).1 (by decide)
    · rw [parseMembers_stringifyMembers (List.cons_ne_nil _ _) (by simpa using distinct) each (by omega)]
      rfl

end Objects

theorem parses_word (same : stringify numbers value = word)
    (reads : ∀ fuel rest, parseValue numbers (fuel + 1) (word ++ rest) = some (value, rest)) : Parses numbers value := by
  intro fuel rest enough _
  obtain ⟨fuel, rfl⟩ := Nat.exists_eq_succ_of_ne_zero (Nat.ne_zero_of_lt enough)
  rw [same, reads]

theorem parses_string : Parses numbers (.string text) := by
  intro fuel rest enough _
  obtain ⟨fuel, rfl⟩ := Nat.exists_eq_succ_of_ne_zero (Nat.ne_zero_of_lt enough)
  rw [stringify, quote, List.cons_append, List.append_assoc, parseValue, skipSpace_cons (by decide)]
  simp only [List.cons_append, List.nil_append, JsString.unquote_quoteUnits]
  rfl

theorem parses_of_sound (sound : Sound numbers value) : Parses numbers value := by
  induction sound with
  | null => exact parses_word rfl fun _ _ => rfl
  | @boolean value => cases value <;> exact parses_word rfl fun _ _ => rfl
  | number finite => exact parses_number finite
  | string => exact parses_string
  | array sound ih => exact parses_array sound ih
  | object distinct _ ih => exact parses_object distinct ih

theorem sound_ofNumber : Sound numbers (ofNumber numbers x) := by
  unfold ofNumber
  split
  next finite => exact .number finite
  · exact .null

theorem sound_present (distinct : (fields.map Prod.fst).Nodup)
    (each : ∀ name value, (name, some value) ∈ fields → Sound numbers value) :
    Sound numbers (.object (present fields)) := by
  refine .object (nodup_present distinct) ?_
  intro member here
  obtain ⟨name, value, there, rfl⟩ := mem_present.mp here
  exact each name value there

theorem parse_stringify (sound : Sound numbers value) : parse numbers (stringify numbers value) = some value := by
  have read := parses_of_sound sound _ [] (Nat.lt_succ_self _) (by rintro _ _ ⟨⟩)
  rw [List.append_nil] at read
  rw [parse, read]
  rfl

end Json
