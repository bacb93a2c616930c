import Mathlib.Data.List.Infix

/-! # Chronicles

The deeds of a run, the latest first. Each may have to be justified by those
before it.
-/

namespace Chronicle

variable {α : Type*} {proper : List α → α → Prop} {deed first second : α} {earlier later deeds more : List α}

/-- Every deed is proper, given what came before. -/
def Sound (proper : List α → α → Prop) : List α → Prop
  | [] => True
  | deed :: earlier => proper earlier deed ∧ Sound proper earlier

theorem Sound.at (sound : Sound proper (later ++ deed :: earlier)) : proper earlier deed := by
  induction later with
  | nil => exact sound.1
  | cons last rest ih => exact ih sound.2

theorem Sound.before (sound : Sound proper (later ++ earlier)) : Sound proper earlier := by
  induction later with
  | nil => exact sound
  | cons last rest ih => exact ih sound.2

theorem Sound.mem (monotone : ∀ {earlier later deed}, proper earlier deed → proper (later ++ earlier) deed)
    (sound : Sound proper deeds) (here : deed ∈ deeds) : proper deeds deed := by
  induction deeds with
  | nil => cases here
  | cons last rest ih =>
    cases List.mem_cons.mp here with
    | inl same => exact same ▸ @monotone rest [last] last sound.1
    | inr before => exact @monotone rest [last] deed (ih sound.2 before)

/-- The second deed was done after the first. -/
def Followed (first second : α) (deeds : List α) : Prop :=
  ∃ later earlier, deeds = later ++ second :: earlier ∧ first ∈ earlier

theorem Followed.append (followed : Followed first second deeds) : Followed first second (more ++ deeds) := by
  obtain ⟨later, earlier, same, before⟩ := followed
  exact ⟨more ++ later, earlier, by rw [same, List.append_assoc], before⟩

theorem Followed.suffix (followed : Followed first second deeds) (grown : deeds <:+ more) :
    Followed first second more := by
  obtain ⟨later, rfl⟩ := grown
  exact followed.append

theorem followed_cons (before : first ∈ deeds) : Followed first second (second :: deeds) := ⟨[], deeds, rfl, before⟩

end Chronicle
