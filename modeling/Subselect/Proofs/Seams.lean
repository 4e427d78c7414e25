import Mathlib.Data.List.TakeWhile
import Subselect.Text.Basic

/-! Runs of characters of one kind. Where a text is followed by another one that begins with a
character of no such kind, a run of the first text ends with it. -/
namespace Subselect.Text

theorem takeWhile_append_seam (p : Char → Bool) (s t : Text)
    (h : ∀ c, t.head? = some c → p c = false) : (s ++ t).takeWhile p = s.takeWhile p := by
  rw [List.takeWhile_append]
  split
  · next all =>
    have same := (List.takeWhile_prefix p).eq_of_length all
    cases t with
    | nil => simp [same]
    | cons c t => simp [h c rfl, same]
  · rfl

theorem dropWhile_append_seam (p : Char → Bool) (s t : Text)
    (h : ∀ c, t.head? = some c → p c = false) : (s ++ t).dropWhile p = s.dropWhile p ++ t := by
  have whole := List.takeWhile_append_dropWhile (p := p) (l := s ++ t)
  rw [takeWhile_append_seam p s t h] at whole
  apply (List.append_right_inj (s.takeWhile p)).mp
  rw [whole, ← List.append_assoc, List.takeWhile_append_dropWhile]

/-- A run ends where another character follows. -/
theorem span_seam {s t : Text} (p : Char → Bool) (all : ∀ c ∈ s, p c = true)
    (stop : ∀ c, t.head? = some c → p c = false) :
    (s ++ t).takeWhile p = s ∧ (s ++ t).dropWhile p = t := by
  rw [takeWhile_append_seam p s t stop, dropWhile_append_seam p s t stop,
    List.takeWhile_eq_self_iff.mpr all, List.dropWhile_eq_nil_iff.mpr all]
  exact ⟨rfl, rfl⟩

/-- A run of characters that does not go on in the next text. -/
theorem span_append (p : Char → Bool) (s t : Text)
    (stop : s.dropWhile p = [] → ∀ c, t.head? = some c → p c = false) :
    (s ++ t).takeWhile p = s.takeWhile p ∧ (s ++ t).dropWhile p = s.dropWhile p ++ t := by
  by_cases all : s.dropWhile p = []
  · exact ⟨takeWhile_append_seam p s t (stop all), dropWhile_append_seam p s t (stop all)⟩
  · have drop : (s ++ t).dropWhile p = s.dropWhile p ++ t := by
      rw [List.dropWhile_append, if_neg (by simpa using all)]
    refine ⟨?_, drop⟩
    have whole := List.takeWhile_append_dropWhile (p := p) (l := s ++ t)
    rw [drop, ← List.append_assoc] at whole
    apply (List.append_left_inj (s.dropWhile p)).mp
    rw [List.append_cancel_right whole, List.takeWhile_append_dropWhile]

theorem head?_dropWhile (p : Char → Bool) (t : Text) :
    ∀ c, (t.dropWhile p).head? = some c → p c = false := by
  intro c head
  have := List.head?_dropWhile_not p t
  rwa [head] at this

theorem mem_of_head?_append {s t : Text} (some : s ≠ []) (head : (s ++ t).head? = .some c) :
    c ∈ s := by
  cases s with
  | nil => exact absurd rfl some
  | cons d s => exact Option.some.inj head ▸ List.mem_cons_self

end Subselect.Text
