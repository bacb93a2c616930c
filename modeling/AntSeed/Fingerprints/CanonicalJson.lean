import AntSeed.Lib.JsonContent

/-! # Canonical JSON of evidence

References and evidence are named by the hash of their canonical JSON, so a text has to stand for one
content and every content has to have a text. Only an object that says what it is written as, by a
`toJSON` of its own, can hold what has no text.
-/

namespace AntSeed.Fingerprints

open Json List

/-- A value of the language. A hole of an array reads as `undefined`. Where `toJSON` is a function, it is
    kept what a call of it returns, unless it throws. -/
inductive JsValue (ν : Type) where
  | undefined
  | null
  | boolean (value : Bool)
  | number (value : ν)
  | string (text : JsString)
  | symbol
  | function
  | bigint (toJSON : Option (Option (JsValue ν)))
  | array (items : List (JsValue ν)) (toJSON : Option (Option (JsValue ν)))
  | object (members : List (JsString × JsValue ν)) (toJSON : Option (Option (JsValue ν)))

inductive SerializeError where
  | nonFinite (path : JsString)
  | unsupported (type : String) (path : JsString)
  /-- what `toJSON` threw -/
  | thrown
  deriving DecidableEq

abbrev Text := Except SerializeError (List Char)

def join (parts : List (List Char)) : List Char := [','].intercalate parts

/-- The members in the order of their names, unless one of them has no text. -/
def memberParts : List (JsString × Text) → Except SerializeError (List (List Char))
  | [] => .ok []
  | (name, text) :: rest => do
      let text ← text
      let parts ← memberParts rest
      return (quote name ++ ':' :: text) :: parts

section Serialize

variable {ν : Type} (numbers : JsNumbers ν)

mutual

/-- `serialize`; what `toJSON` returns is not asked for a `toJSON` again. -/
def serialize : Bool → JsValue ν → JsString → Text
  | true, .bigint (some none), _ | true, .array _ (some none), _
  | true, .object _ (some none), _ => .error .thrown
  | true, .bigint (some (some result)), path => serialize false result path
  | true, .array _ (some (some result)), path => serialize false result path
  | true, .object _ (some (some result)), path => serialize false result path
  | _, .null, _ => .ok ['n', 'u', 'l', 'l']
  | _, .boolean true, _ => .ok ['t', 'r', 'u', 'e']
  | _, .boolean false, _ => .ok ['f', 'a', 'l', 's', 'e']
  | _, .number x, path => (numbers.text x).elim (.error (.nonFinite path)) .ok
  | _, .string text, _ => .ok (quote text)
  | _, .undefined, path => .error (.unsupported "undefined" path)
  | _, .function, path => .error (.unsupported "function" path)
  | _, .bigint _, path => .error (.unsupported "bigint" path)
  | _, .symbol, path => .error (.unsupported "symbol" path)
  | _, .array items _, path => do
      let parts ← itemParts items path 0
      return '[' :: (join parts ++ [']'])
  | _, .object members _, path => do
      let parts ← memberParts (sortByName (memberTexts members path))
      return '{' :: (join parts ++ ['}'])

def itemParts : List (JsValue ν) → JsString → Nat → Except SerializeError (List (List Char))
  | [], _, _ => .ok []
  | item :: rest, path, i => do
      let text ← serialize true item (path ++ .ofString s!"[{i}]")
      let parts ← itemParts rest path (i + 1)
      return text :: parts

def memberTexts : List (JsString × JsValue ν) → JsString → List (JsString × Text)
  | [], _ => []
  | (_, .undefined) :: rest, path => memberTexts rest path
  | (name, value) :: rest, path =>
    (name, serialize true value (path ++ .ofString "." ++ name)) :: memberTexts rest path

end

def canonicalJsonStringify (value : JsValue ν) : Text := serialize numbers true value (.ofString "$")

end Serialize

section Plain

variable {ν : Type}

mutual

/-- The value as JSON: members that are `undefined` are left out. -/
def toJson : JsValue ν → Json ν
  | .boolean value => .boolean value
  | .number x => .number x
  | .string text => .string text
  | .array items _ => .array (toItems items)
  | .object members _ => .object (toMembers members)
  | _ => .null

def toItems : List (JsValue ν) → List (Json ν)
  | [] => []
  | item :: rest => toJson item :: toItems rest

def toMembers : List (JsString × JsValue ν) → List (JsString × Json ν)
  | [] => []
  | (_, .undefined) :: rest => toMembers rest
  | (name, value) :: rest => (name, toJson value) :: toMembers rest

end

/-- Built from what JSON knows, and from members that are `undefined`. -/
inductive Plain (numbers : JsNumbers ν) : JsValue ν → Prop where
  | null : Plain numbers .null
  | boolean {value} : Plain numbers (.boolean value)
  | number {x} : numbers.isFinite x → Plain numbers (.number x)
  | string {text} : Plain numbers (.string text)
  | array {items} : (∀ item ∈ items, Plain numbers item) → Plain numbers (.array items none)
  | object {members} : (members.map Prod.fst).Nodup →
      (∀ member ∈ members, member.2 ≠ .undefined → Plain numbers member.2) →
      Plain numbers (.object members none)

variable {numbers : JsNumbers ν} {value : JsValue ν} {items : List (JsValue ν)}
  {members : List (JsString × JsValue ν)} {path : JsString}

theorem toItems_eq : toItems items = items.map toJson := by
  induction items with
  | nil => rw [toItems, map_nil]
  | cons item items ih => rw [toItems, map_cons, ih]

variable {name : JsString}

theorem toMembers_cons (some : value ≠ .undefined) :
    toMembers ((name, value) :: members) = (name, toJson value) :: toMembers members := by
  cases value <;> first | exact absurd rfl some | rw [toMembers]; nofun

theorem memberTexts_cons (some : value ≠ .undefined) :
    memberTexts numbers ((name, value) :: members) path =
      (name, serialize numbers true value (path ++ .ofString "." ++ name)) ::
        memberTexts numbers members path := by
  cases value <;> first | exact absurd rfl some | rw [memberTexts]; nofun

theorem sound_toMembers
    (each : ∀ member ∈ members, member.2 ≠ .undefined → Json.Sound numbers (toJson member.2)) :
    ((toMembers members).map Prod.fst).Sublist (members.map Prod.fst) ∧
      ∀ member ∈ toMembers members, Json.Sound numbers member.2 := by
  induction members with
  | nil => exact ⟨.slnil, nofun⟩
  | cons member members ih =>
    obtain ⟨name, value⟩ := member
    obtain ⟨fewer, rest⟩ := ih fun member here => each member (mem_cons_of_mem _ here)
    by_cases none : value = .undefined
    · subst none
      exact ⟨fewer.cons _, rest⟩
    · rw [toMembers_cons none]
      exact ⟨fewer.cons_cons _, forall_mem_cons.mpr ⟨each _ mem_cons_self none, rest⟩⟩

theorem sound_toJson (plain : Plain numbers value) : Json.Sound numbers (toJson value) := by
  induction plain with
  | null => exact .null
  | boolean => exact .boolean
  | number finite => exact .number finite
  | string => exact .string
  | array _ ih =>
    rw [toJson, toItems_eq]
    exact .array fun item here => by
      obtain ⟨old, there, rfl⟩ := mem_map.mp here
      exact ih old there
  | @object members distinct _ ih =>
    rw [toJson]
    obtain ⟨fewer, each⟩ := sound_toMembers ih
    exact .object (distinct.sublist fewer) each

theorem join_items (items : List (Json ν)) :
    join (items.map (stringify numbers)) ++ [']'] = stringifyItems numbers items := by
  induction items with
  | nil => rfl
  | cons item items ih =>
    cases items with
    | nil => simp [join, stringifyItems]
    | cons next rest =>
      rw [stringifyItems, ← ih]
      simp [join, intercalate]

theorem join_members (members : List (JsString × Json ν)) :
    join (members.map fun member => quote member.1 ++ ':' :: stringify numbers member.2) ++ ['}'] =
      stringifyMembers numbers members := by
  induction members with
  | nil => rfl
  | cons member members ih =>
    cases members with
    | nil => simp [join, stringifyMembers]
    | cons next rest =>
      rw [stringifyMembers, ← ih]
      simp [join, intercalate]

theorem memberParts_ok (members : List (JsString × Json ν)) :
    memberParts (members.map fun member => (member.1, .ok (stringify numbers member.2))) =
      .ok (members.map fun member => quote member.1 ++ ':' :: stringify numbers member.2) := by
  induction members with
  | nil => rfl
  | cons member members ih =>
    rw [map_cons, memberParts, ih]
    rfl

theorem itemParts_plain (i : Nat) (each : ∀ item ∈ items, ∀ honour path,
      serialize numbers honour item path = .ok (stringify numbers (toJson item).canonical)) :
    itemParts numbers items path i =
      .ok ((canonicalItems (toItems items)).map (stringify numbers)) := by
  induction items generalizing i with
  | nil => rfl
  | cons item items ih =>
    rw [itemParts, each item mem_cons_self, ih (i + 1) fun other here => each other (mem_cons_of_mem _ here)]
    rfl

theorem memberTexts_plain (each : ∀ member ∈ members, member.2 ≠ .undefined → ∀ honour path,
      serialize numbers honour member.2 path = .ok (stringify numbers (toJson member.2).canonical)) :
    memberTexts numbers members path = (canonicalMembers (toMembers members)).map fun member =>
      (member.1, .ok (stringify numbers member.2)) := by
  induction members with
  | nil => rfl
  | cons member members ih =>
    obtain ⟨name, value⟩ := member
    have rest := ih fun other here => each other (mem_cons_of_mem _ here)
    by_cases none : value = .undefined
    · subst none
      exact rest
    · rw [memberTexts_cons none, toMembers_cons none, rest, each _ mem_cons_self none]
      rfl

theorem serialize_plain (plain : Plain numbers value) (honour : Bool) (path : JsString) :
    serialize numbers honour value path = .ok (stringify numbers (toJson value).canonical) := by
  induction plain generalizing honour path with
  | null => cases honour <;> rfl
  | @boolean value => cases honour <;> cases value <;> rfl
  | @number x finite =>
    obtain ⟨text, isText⟩ := Option.isSome_iff_exists.mp finite
    cases honour <;> simp [serialize, toJson, canonical, stringify, isText]
  | string => cases honour <;> rfl
  | @array items _ ih =>
    have same : serialize numbers honour (.array items none) path =
        (do let parts ← itemParts numbers items path 0
            return '[' :: (join parts ++ [']'])) := by cases honour <;> rfl
    rw [same, itemParts_plain 0 ih, toJson, canonical, stringify, ← join_items]
    rfl
  | @object members _ _ ih =>
    have same : serialize numbers honour (.object members none) path =
        (do let parts ← memberParts (sortByName (memberTexts numbers members path))
            return '{' :: (join parts ++ ['}'])) := by cases honour <;> rfl
    have sorted : sortByName (memberTexts numbers members path) =
        (sortByName (canonicalMembers (toMembers members))).map fun member =>
          (member.1, .ok (stringify numbers member.2)) := by
      rw [memberTexts_plain ih]
      exact (map_mergeSort (f := fun member : JsString × Json ν =>
        ((member.1, .ok (stringify numbers member.2)) : JsString × Text)) fun _ _ _ _ => rfl).symm
    rw [same, sorted, memberParts_ok, toJson, canonical, stringify, ← join_members]
    rfl

end Plain

section Refused

variable {ν : Type}

/-- Somewhere in the value is what JSON does not know, inside objects whose `toJSON` is as `through` says. -/
inductive Contains (numbers : JsNumbers ν) (through : Option (Option (JsValue ν)) → Prop) :
    JsValue ν → Prop where
  | number {x} : numbers.isFinite x = false → Contains numbers through (.number x)
  | function : Contains numbers through .function
  | symbol : Contains numbers through .symbol
  | undefined : Contains numbers through .undefined
  | bigint {toJSON} : through toJSON → Contains numbers through (.bigint toJSON)
  | item {items toJSON item} : through toJSON → item ∈ items → Contains numbers through item →
      Contains numbers through (.array items toJSON)
  | member {members toJSON name value} : through toJSON → (name, value) ∈ members → value ≠ .undefined →
      Contains numbers through value → Contains numbers through (.object members toJSON)

variable {numbers : JsNumbers ν} {value : JsValue ν} {items : List (JsValue ν)}
  {members : List (JsString × JsValue ν)} {path : JsString}

theorem itemParts_error (here : value ∈ items)
    (fails : ∀ path, ∃ error, serialize numbers true value path = .error error) (i : Nat) :
    ∃ error, itemParts numbers items path i = .error error := by
  induction items generalizing i with
  | nil => cases here
  | cons item items ih =>
    rw [itemParts]
    cases first : serialize numbers true item (path ++ .ofString s!"[{i}]") with
    | error error => exact ⟨error, rfl⟩
    | ok text =>
      cases mem_cons.mp here with
      | inl same =>
        subst same
        obtain ⟨error, failed⟩ := fails (path ++ .ofString s!"[{i}]")
        cases first.symm.trans failed
      | inr later =>
        obtain ⟨error, failed⟩ := ih later (i + 1)
        exact ⟨error, by rw [failed]; rfl⟩

theorem memberParts_error {texts : List (JsString × Text)} {error : SerializeError}
    (here : (name, .error error) ∈ texts) : ∃ error, memberParts texts = .error error := by
  induction texts with
  | nil => cases here
  | cons member texts ih =>
    obtain ⟨other, text⟩ := member
    rw [memberParts]
    cases text with
    | error error => exact ⟨error, rfl⟩
    | ok text =>
      obtain ⟨error, failed⟩ := ih (by simpa using here)
      exact ⟨error, by rw [failed]; rfl⟩

theorem mem_memberTexts (here : (name, value) ∈ members) (some : value ≠ .undefined) :
    (name, serialize numbers true value (path ++ .ofString "." ++ name)) ∈
      memberTexts numbers members path := by
  induction members with
  | nil => cases here
  | cons member members ih =>
    obtain ⟨other, first⟩ := member
    cases mem_cons.mp here with
    | inl same =>
      cases same
      rw [memberTexts_cons some]
      exact mem_cons_self
    | inr later =>
      by_cases none : first = .undefined
      · subst none
        exact ih later
      · rw [memberTexts_cons none]
        exact mem_cons_of_mem _ (ih later)

theorem serialize_refused (contains : Contains numbers (· = none) value) (honour : Bool) (path : JsString) :
    ∃ error, serialize numbers honour value path = .error error := by
  induction contains generalizing honour path with
  | number infinite =>
    have nothing := Option.not_isSome_iff_eq_none.mp (Bool.not_eq_true _ ▸ infinite)
    exact ⟨.nonFinite path, by cases honour <;> simp [serialize, nothing]⟩
  | function | symbol | undefined => exact ⟨_, by cases honour <;> rfl⟩
  | bigint none =>
    subst none
    exact ⟨_, by cases honour <;> rfl⟩
  | item none here _ ih =>
    subst none
    obtain ⟨error, failed⟩ : ∃ error, itemParts numbers _ path 0 = .error error :=
      itemParts_error here (ih true) 0
    exact ⟨error, by cases honour <;> simp only [serialize, failed] <;> rfl⟩
  | @member members toJSON name _ none here some _ ih =>
    subst none
    obtain ⟨error, failed⟩ := ih true (path ++ .ofString "." ++ name)
    have there : _ ∈ sortByName (memberTexts numbers members path) :=
      (sortByName_perm _).mem_iff.mpr (mem_memberTexts here some)
    rw [failed] at there
    obtain ⟨error, failed⟩ := memberParts_error there
    exact ⟨error, by cases honour <;> simp only [serialize, failed] <;> rfl⟩

end Refused

/-- Two values built from what JSON knows have texts, equal exactly if the values say the same, and a text reads
    back as what it was written for; a value that contains anything else has no text, unless what contains
    it has a `toJSON`. -/
theorem canonical_text_is_content {ν : Type} {numbers : JsNumbers ν} (value other : JsValue ν) :
    (Plain numbers value → Plain numbers other →
      ∃ text text', canonicalJsonStringify numbers value = .ok text ∧
        canonicalJsonStringify numbers other = .ok text' ∧
        (text = text' ↔ (toJson value).content = (toJson other).content) ∧
        ∃ read, parse numbers text = some read ∧ read.content = (toJson value).content) ∧
    (Contains numbers (· = none) value → ∃ error, canonicalJsonStringify numbers value = .error error) := by
  refine ⟨fun plain plain' => ?_, fun contains => serialize_refused contains true _⟩
  have sound := sound_toJson plain
  exact ⟨_, _, serialize_plain plain true _, serialize_plain plain' true _,
    content_eq_iff sound (sound_toJson plain'), _, parse_stringify (sound_canonical sound),
    content_canonical sound⟩

open JsNumbers (oneNumber)

theorem canonical_text_skips_undefined :
    (∃ text, canonicalJsonStringify oneNumber (.object [(.ofString "a", .null)] none) = .ok text ∧
      canonicalJsonStringify oneNumber
        (.object [(.ofString "b", .undefined), (.ofString "a", .null)] none) = .ok text) ∧
    ∃ error, canonicalJsonStringify oneNumber (.array [.undefined] none) = .error error := by
  have plain : Plain oneNumber (.object [(.ofString "a", .null)] none) :=
    .object (by decide) (by simpa using .null)
  have skipped : Plain oneNumber (.object [(.ofString "b", .undefined), (.ofString "a", .null)] none) :=
    .object (by decide) (by simpa using .null)
  obtain ⟨text, text_, one, two, same, -⟩ := (canonical_text_is_content _ _).1 plain skipped
  refine ⟨⟨text, one, ?_⟩, (canonical_text_is_content _ .null).2 (.item rfl mem_cons_self .undefined)⟩
  rw [same.mpr rfl]
  exact two

/-- A `toJSON` speaks for the function that it is. -/
theorem toJSON_has_text : ¬ ∀ value : JsValue Unit,
    Contains oneNumber (fun _ => True) value →
      ∃ error, canonicalJsonStringify oneNumber value = .error error := by
  intro throws
  obtain ⟨error, thrown⟩ := throws (.object [(.ofString "toJSON", .function)] (some (some .null)))
    (.member trivial mem_cons_self nofun .function)
  cases thrown

end AntSeed.Fingerprints
