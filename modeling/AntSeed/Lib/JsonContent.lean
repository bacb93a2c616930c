import AntSeed.Lib.Json

/-! # What a JSON value says

The order of the members of an object says nothing. A value whose members are sorted by name, at every
depth, is the only such value of its content.
-/

namespace Json

open List

variable {ν : Type}

/-- A JSON value up to the order of members. -/
inductive Content (ν : Type) where
  | null
  | boolean (value : Bool)
  | number (value : ν)
  | string (text : JsString)
  | array (items : List (Content ν))
  | object (members : JsString → Option (Content ν))

mutual

def content : Json ν → Content ν
  | .null => .null
  | .boolean value => .boolean value
  | .number value => .number value
  | .string text => .string text
  | .array items => .array (itemContents items)
  | .object members => .object (memberContents members)

def itemContents : List (Json ν) → List (Content ν)
  | [] => []
  | item :: rest => content item :: itemContents rest

def memberContents : List (JsString × Json ν) → JsString → Option (Content ν)
  | [], _ => none
  | (name, value) :: rest, other => if other = name then some (content value) else memberContents rest other

end

def sortByName {β : Type} (members : List (JsString × β)) : List (JsString × β) :=
  members.mergeSort fun a b => a.1 ≤ b.1

mutual

/-- The value with the members of every object in the order of their names. -/
def canonical : Json ν → Json ν
  | .array items => .array (canonicalItems items)
  | .object members => .object (sortByName (canonicalMembers members))
  | .null => .null
  | .boolean value => .boolean value
  | .number value => .number value
  | .string text => .string text

def canonicalItems : List (Json ν) → List (Json ν)
  | [] => []
  | item :: rest => canonical item :: canonicalItems rest

def canonicalMembers : List (JsString × Json ν) → List (JsString × Json ν)
  | [] => []
  | (name, value) :: rest => (name, canonical value) :: canonicalMembers rest

end

section Lists

variable {items others : List (Json ν)} {members : List (JsString × Json ν)} {name : JsString}

theorem itemContents_eq : itemContents items = items.map content := by
  induction items with
  | nil => rw [itemContents, map_nil]
  | cons item items ih => rw [itemContents, map_cons, ih]

theorem canonicalItems_eq : canonicalItems items = items.map canonical := by
  induction items with
  | nil => rw [canonicalItems, map_nil]
  | cons item items ih => rw [canonicalItems, map_cons, ih]

theorem canonicalMembers_eq : canonicalMembers members =
    members.map fun member => (member.1, canonical member.2) := by
  induction members with
  | nil => rw [canonicalMembers, map_nil]
  | cons member members ih => rw [canonicalMembers, map_cons, ih]

theorem memberContents_eq_some (distinct : (members.map Prod.fst).Nodup) {c : Content ν} :
    memberContents members name = some c ↔ ∃ value, (name, value) ∈ members ∧ content value = c := by
  induction members with
  | nil => simp [memberContents]
  | cons member members ih =>
    obtain ⟨first, value⟩ := member
    rw [map_cons, nodup_cons] at distinct
    rw [memberContents]
    split
    next same =>
      subst same
      constructor
      · intro isSome
        exact ⟨value, mem_cons_self, Option.some.inj isSome⟩
      · rintro ⟨other, here, rfl⟩
        cases mem_cons.mp here with
        | inl head => cases head; rfl
        | inr later => exact absurd (mem_map_of_mem later) distinct.1
    next other =>
      rw [ih distinct.2]
      simp [other]

theorem map_congr_of_map {α β γ : Type} {items others : List α} {f : α → β} {g : α → γ}
    (same : items.map f = others.map f)
    (alike : ∀ item ∈ items, ∀ other ∈ others, f item = f other → g item = g other) :
    items.map g = others.map g := by
  induction items generalizing others with
  | nil => rw [map_eq_nil_iff.mp same.symm]
  | cons item items ih =>
    cases others with
    | nil => cases same
    | cons other others =>
      obtain ⟨first, rest⟩ := cons.inj same
      rw [map_cons, map_cons, alike item mem_cons_self other mem_cons_self first,
        ih rest fun one here two there => alike one (mem_cons_of_mem _ here) two (mem_cons_of_mem _ there)]

theorem sortByName_perm {β : Type} (members : List (JsString × β)) : (sortByName members).Perm members :=
  mergeSort_perm _ _

/-- Members with distinct names can be sorted in one way only. -/
theorem sortByName_eq {β : Type} {members others : List (JsString × β)} (same : members.Perm others)
    (distinct : (others.map Prod.fst).Nodup) : sortByName members = sortByName others := by
  have sorted : ∀ members : List (JsString × β),
      (sortByName members).Pairwise fun a b => decide (a.1 ≤ b.1) = true :=
    List.pairwise_mergeSort (fun a b c => by simpa using List.le_trans)
      fun a b => by simpa using List.le_total a.1 b.1
  refine List.Perm.eq_of_pairwise ?_ (sorted members) (sorted others)
    (((sortByName_perm members).trans same).trans (sortByName_perm others).symm)
  intro a b here there le ge
  have named : a.1 = b.1 := List.le_antisymm (by simpa using le) (by simpa using ge)
  exact inj_on_of_nodup_map distinct (((sortByName_perm members).trans same).subset here)
    ((sortByName_perm others).subset there) named

end Lists

variable {numbers : JsNumbers ν} {value other : Json ν}

theorem names_canonicalMembers (members : List (JsString × Json ν)) :
    (canonicalMembers members).map Prod.fst = members.map Prod.fst := by
  rw [canonicalMembers_eq, map_map]
  rfl

theorem nodup_sorted (distinct : (members.map Prod.fst).Nodup) :
    ((sortByName (canonicalMembers members)).map Prod.fst).Nodup :=
  ((sortByName_perm _).map _).nodup_iff.mpr (names_canonicalMembers members ▸ distinct)

theorem mem_sorted {members : List (JsString × Json ν)} {member : JsString × Json ν} :
    member ∈ sortByName (canonicalMembers members) ↔
      ∃ value, (member.1, value) ∈ members ∧ member.2 = canonical value := by
  rw [(sortByName_perm _).mem_iff, canonicalMembers_eq, mem_map]
  constructor
  · rintro ⟨⟨name, value⟩, here, rfl⟩
    exact ⟨value, here, rfl⟩
  · rintro ⟨value, here, same⟩
    exact ⟨_, here, Prod.ext rfl same.symm⟩

variable (sound : Sound numbers value)

include sound

theorem sound_canonical : Sound numbers (canonical value) := by
  induction sound with
  | null => exact .null
  | boolean => exact .boolean
  | number finite => exact .number finite
  | string => exact .string
  | array _ ih =>
    rw [canonical, canonicalItems_eq]
    refine .array fun item here => ?_
    obtain ⟨old, there, rfl⟩ := mem_map.mp here
    exact ih old there
  | object distinct _ ih =>
    rw [canonical]
    refine .object (nodup_sorted distinct) fun member here => ?_
    obtain ⟨value, there, same⟩ := mem_sorted.mp here
    exact same ▸ ih _ there

theorem content_canonical : content (canonical value) = content value := by
  induction sound with
  | null | boolean | number | string => rfl
  | @array items _ ih =>
    rw [canonical, content, content, canonicalItems_eq, itemContents_eq, itemContents_eq, map_map]
    exact congrArg _ (map_congr_left ih)
  | @object members distinct _ ih =>
    rw [canonical, content, content]
    refine congrArg _ (funext fun name => Option.ext fun c => ?_)
    rw [memberContents_eq_some (nodup_sorted distinct), memberContents_eq_some distinct]
    constructor
    · rintro ⟨_, here, rfl⟩
      obtain ⟨value, there, same⟩ := mem_sorted.mp here
      dsimp only at there same
      subst same
      exact ⟨value, there, (ih _ there).symm⟩
    · rintro ⟨value, here, rfl⟩
      exact ⟨canonical value, mem_sorted.mpr ⟨value, here, rfl⟩, ih _ here⟩

theorem canonical_of_content (sound_ : Sound numbers other)
    (same : content value = content other) : canonical value = canonical other := by
  induction sound generalizing other with
  | null | boolean | number | string => cases sound_ <;> simp_all [content, canonical]
  | @array items _ ih =>
    cases sound_ with
    | @array others each =>
      rw [content, content, Content.array.injEq, itemContents_eq, itemContents_eq] at same
      rw [canonical, canonical, canonicalItems_eq, canonicalItems_eq]
      exact congrArg _ (map_congr_of_map same fun item here other there => ih item here (each other there))
    | _ => simp [content] at same
  | @object members distinct _ ih =>
    cases sound_ with
    | @object others distinct_ each =>
      rw [content, content, Content.object.injEq] at same
      rw [canonical, canonical]
      have names := names_canonicalMembers others ▸ distinct_
      refine congrArg _ (sortByName_eq ((perm_ext_iff_of_nodup
        (names_canonicalMembers members ▸ distinct).of_map names.of_map).mpr fun member => ?_) names)
      rw [← (sortByName_perm _).mem_iff, ← (sortByName_perm (canonicalMembers others)).mem_iff,
        mem_sorted, mem_sorted]
      constructor
      · rintro ⟨value, here, isValue⟩
        have found := (memberContents_eq_some distinct).mpr ⟨value, here, rfl⟩
        rw [same, memberContents_eq_some distinct_] at found
        obtain ⟨value_, there, alike⟩ := found
        exact ⟨value_, there, isValue.trans (ih _ here (each _ there) alike.symm)⟩
      · rintro ⟨value, there, isValue⟩
        have found := (memberContents_eq_some distinct_).mpr ⟨value, there, rfl⟩
        rw [← same, memberContents_eq_some distinct] at found
        obtain ⟨value_, here, alike⟩ := found
        exact ⟨value_, here, isValue.trans (ih _ here (each _ there) alike).symm⟩
    | _ => simp [content] at same

theorem content_eq_iff (sound_ : Sound numbers other) :
    stringify numbers (canonical value) = stringify numbers (canonical other) ↔
      content value = content other := by
  constructor
  · intro same
    have read := parse_stringify (sound_canonical sound)
    rw [same, parse_stringify (sound_canonical sound_)] at read
    rw [← content_canonical sound, ← content_canonical sound_, Option.some.inj read]
  · intro same
    rw [canonical_of_content sound sound_ same]

end Json
