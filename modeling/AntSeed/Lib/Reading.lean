import Mathlib.Computability.Language

/-! # Readers

A reader takes a value from the front of some data and leaves the rest. It recognises
a language if it reads every word of it, whatever follows, and reads nothing else
unless it comes to the end of the data.
-/

namespace Reading

variable {α β γ : Type*}

structure Recognises (read : List α → Option (β × List α)) (words : Language α) : Prop where
  reads : ∀ {word}, word ∈ words → ∃ value, ∀ rest, read (word ++ rest) = some (value, rest)
  begins : ∀ {data value rest}, read data = some (value, rest) → rest ≠ [] →
    ∃ word ∈ words, data = word ++ rest

/-- A decoder accepts the data that begin with a word, and no others. -/
def Accepts (decode : List α → Option γ) (words : Language α) : Prop :=
  ∀ data, (∃ value, decode data = some value) ↔ ∃ word ∈ words, word <+: data

/-- Data begin with one word at most. -/
def Delimited (words : Language α) : Prop :=
  ∀ word other data, word ∈ words → other ∈ words → word <+: data → other <+: data → word = other

variable {read : List α → Option (β × List α)} {words others : Language α}

theorem Recognises.bind {second : β → List α → Option (γ × List α)} (first : Recognises read words)
    (then_ : ∀ value, Recognises (second value) others) :
    Recognises (fun data => (read data).bind fun found => second found.1 found.2) (words * others) where
  reads := by
    rintro word ⟨front, here, back, there, rfl⟩
    obtain ⟨value, reads⟩ := first.reads here
    obtain ⟨result, ends⟩ := (then_ value).reads there
    refine ⟨result, fun rest => ?_⟩
    rw [List.append_assoc, reads, Option.bind_some, ends]
  begins := by
    intro data result rest read_ more
    obtain ⟨⟨value, remaining⟩, reads, ends⟩ := Option.bind_eq_some_iff.mp read_
    obtain ⟨back, there, rfl⟩ := (then_ value).begins ends more
    obtain ⟨front, here, rfl⟩ := first.begins reads (by simp [more])
    exact ⟨front ++ back, Language.append_mem_mul here there, (List.append_assoc _ _ _).symm⟩

theorem Recognises.map (first : Recognises read words) (convert : β → γ) :
    Recognises (fun data => (read data).bind fun found => some (convert found.1, found.2)) words where
  reads here := by
    obtain ⟨value, reads⟩ := first.reads here
    exact ⟨convert value, fun rest => by simp [reads]⟩
  begins := by
    intro data result rest read_ more
    obtain ⟨⟨value, remaining⟩, reads, same⟩ := Option.bind_eq_some_iff.mp read_
    cases same
    exact first.begins reads more

theorem Recognises.accepts {decode : β → List α → Option γ} (first : Recognises read words)
    (then_ : ∀ value, Accepts (decode value) others) (proper : [] ∉ others) :
    Accepts (fun data => (read data).bind fun found => decode found.1 found.2) (words * others) := by
  intro data
  constructor
  · rintro ⟨result, decoded⟩
    obtain ⟨⟨value, rest⟩, reads, ends⟩ := Option.bind_eq_some_iff.mp decoded
    obtain ⟨back, there, isPrefix⟩ := (then_ value rest).mp ⟨result, ends⟩
    have more : rest ≠ [] := by
      rintro rfl
      exact proper (List.prefix_nil.mp isPrefix ▸ there)
    obtain ⟨front, here, rfl⟩ := first.begins reads more
    exact ⟨front ++ back, Language.append_mem_mul here there, (List.prefix_append_right_inj front).mpr isPrefix⟩
  · rintro ⟨word, ⟨front, here, back, there, rfl⟩, rest, rfl⟩
    obtain ⟨value, reads⟩ := first.reads here
    obtain ⟨result, ends⟩ := (then_ value (back ++ rest)).mpr ⟨back, there, List.prefix_append _ _⟩
    refine ⟨result, ?_⟩
    dsimp only
    rw [List.append_assoc, reads, Option.bind_some, ends]

theorem Recognises.delimited (recognises : Recognises read words) : Delimited words := by
  rintro word other data here there ⟨rest, rfl⟩ ⟨remaining, same⟩
  obtain ⟨value, reads⟩ := recognises.reads here
  obtain ⟨result, reads_⟩ := recognises.reads there
  have twice := reads rest
  rw [← same, reads_ remaining] at twice
  cases twice
  exact (List.append_cancel_right same).symm

theorem Delimited.mul (first : Delimited words) (second : Delimited others) :
    Delimited (words * others) := by
  rintro word other data ⟨front, here, back, there, rfl⟩ ⟨front', here', back', there', rfl⟩ begins begins'
  have same := first _ _ _ here here' ((List.prefix_append _ _).trans begins)
    ((List.prefix_append _ _).trans begins')
  subst same
  obtain ⟨rest, rfl⟩ := (List.prefix_append front back).trans begins
  rw [List.prefix_append_right_inj] at begins begins'
  rw [second _ _ _ there there' begins begins']

theorem Accepts.none_iff (accepts : Accepts decode words) :
    decode data = none ↔ ¬ ∃ word ∈ words, word <+: data := by
  rw [← accepts data, ← Option.ne_none_iff_exists', not_not]

theorem Accepts.eq_none_iff
    (accepts : Accepts decode words) (delimited : Delimited words) (here : head ∈ words)
    (cut : data <+: head ++ body) :
    decode data = none ↔ data.length + body.length < (head ++ body).length := by
  rw [List.length_append, Nat.add_lt_add_iff_right, accepts.none_iff, not_iff_comm, not_lt, Iff.comm]
  constructor
  · rintro ⟨word, there, begins⟩
    have same := delimited _ _ _ there here (begins.trans cut) (List.prefix_append _ _)
    exact same ▸ begins.length_le
  · intro long
    exact ⟨head, here, List.prefix_of_prefix_length_le (List.prefix_append _ _) cut long⟩

end Reading
