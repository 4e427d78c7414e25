import Subselect.Proofs.Splice

/-! Where the octets of a query go when a pass replaces its spans. An octet outside the replaced
parts moves by what the edits in front of it add or take away. -/
namespace Subselect

open Text

namespace Site

/-- The offset behind the span. -/
def finish (site : Site) : Nat := site.offset + site.length

/-- The offset behind the keyword or operator, which a replacement keeps. -/
def headEnd (site : Site) : Nat := site.offset + size site.context.head

end Site

namespace Query

/-- By how much the octet at an offset moves. -/
def shift : List Edit → Nat → Int
  | [], _ => 0
  | (site, new) :: more, p =>
    (if site.finish ≤ p then (size new : Int) - site.length else 0) + shift more p

/-- The octet at `p` of a query is in no replaced part, and stands at `p'` afterwards. -/
def Stays (edits : List Edit) (p p' : Nat) : Prop :=
  (∀ e ∈ edits, p < e.1.headEnd ∨ e.1.finish ≤ p) ∧ (p' : Int) = p + shift edits p

/-- The octet at `p'` of the result was put there behind a keyword or operator. -/
def Inserted (edits : List Edit) (p' : Nat) : Prop :=
  ∃ e ∈ edits, (e.1.headEnd : Int) + shift edits e.1.offset ≤ p' ∧
    (p' : Int) < e.1.offset + shift edits e.1.offset + size e.2

/-- The spans of the edits follow one another, and what replaces a span begins as the span does. -/
structure Ordered (edits : List Edit) : Prop where
  apart : edits.Pairwise fun a b => a.1.finish ≤ b.1.offset
  head : ∀ e ∈ edits, e.1.headEnd < e.1.finish
  grows : ∀ e ∈ edits, size e.1.context.head ≤ size e.2

theorem shift_append (a b : List Edit) (p : Nat) : shift (a ++ b) p = shift a p + shift b p := by
  induction a with
  | nil => simp [shift]
  | cons e a ih => simp [shift, ih, Int.add_assoc]

theorem shift_eq_zero (h : ∀ e ∈ edits, p < e.1.finish) : shift edits p = 0 := by
  induction edits with
  | nil => rfl
  | cons e edits ih =>
    have first := h e (by simp)
    simp [shift, ih fun f member => h f (by simp [member]), show ¬e.1.finish ≤ p by omega]

theorem shift_congr (h : ∀ e ∈ edits, e.1.finish ≤ p ∧ e.1.finish ≤ r) :
    shift edits p = shift edits r := by
  induction edits with
  | nil => rfl
  | cons e edits ih =>
    obtain ⟨left, right⟩ := h e (by simp)
    simp [shift, left, right, ih fun f member => h f (by simp [member])]

theorem shift_behind (behind : e.1.finish ≤ p) :
    shift (e :: edits) p = (size e.2 : Int) - e.1.length + shift edits p := by
  simp [shift, behind]

namespace Ordered

theorem tail (h : Ordered (e :: edits)) : Ordered edits :=
  ⟨(List.pairwise_cons.mp h.apart).2, fun f member => h.head f (by simp [member]),
    fun f member => h.grows f (by simp [member])⟩

theorem first (h : Ordered (e :: edits)) : ∀ f ∈ edits, e.1.finish ≤ f.1.offset :=
  (List.pairwise_cons.mp h.apart).1

theorem head_le (e : Edit) : e.1.offset ≤ e.1.headEnd := Nat.le_add_right _ _

/-- In front of the first finish no edit has finished. -/
theorem shift_front (h : Ordered (e :: edits)) (front : p < e.1.finish) :
    shift (e :: edits) p = 0 := by
  apply shift_eq_zero
  intro f member
  rcases List.mem_cons.mp member with rfl | member
  · exact front
  · have := h.first f member
    have := head_le f
    have := h.head f (by simp [member])
    omega

/-- What lies behind an offset in front of all spans stays behind it. -/
theorem le_moved (h : Ordered edits) (c : Nat) (front : ∀ e ∈ edits, c ≤ e.1.offset) (le : c ≤ r) :
    (c : Int) ≤ r + shift edits r := by
  induction edits generalizing c with
  | nil => simpa [shift] using le
  | cons e edits ih =>
    by_cases behind : e.1.finish ≤ r
    · have rest := ih h.tail e.1.finish h.first behind
      have start := front e (by simp)
      rw [shift_behind behind]
      simp only [Site.finish] at rest
      omega
    · rw [h.shift_front (by omega)]
      omega

/-- An octet that stays keeps in front of what is behind it. -/
theorem lt_moved (h : Ordered edits) (stays : ∀ e ∈ edits, p < e.1.headEnd ∨ e.1.finish ≤ p)
    (lt : p < r) : (p : Int) + shift edits p < r + shift edits r := by
  induction edits with
  | nil => simpa [shift] using lt
  | cons e edits ih =>
    by_cases behind : e.1.finish ≤ p
    · have rest := ih h.tail fun f member => stays f (by simp [member])
      rw [shift_behind behind, shift_behind (by omega)]
      omega
    · have inside := h.head e (by simp)
      have kept := (stays e (by simp)).resolve_right behind
      rw [h.shift_front (by omega)]
      by_cases passed : e.1.finish ≤ r
      · have rest := h.tail.le_moved e.1.finish h.first passed
        have grows := h.grows e (by simp)
        rw [shift_behind passed]
        simp only [Site.finish, Site.headEnd] at rest kept
        omega
      · rw [h.shift_front (by omega)]
        omega

end Ordered

namespace Stays

theorem lt_iff (ordered : Ordered edits) (first : Stays edits p p') (second : Stays edits r r') :
    p' < r' ↔ p < r := by
  obtain ⟨stays, moved⟩ := first
  obtain ⟨stays', moved'⟩ := second
  rcases Nat.lt_trichotomy p r with lt | rfl | gt
  · have := ordered.lt_moved stays lt
    omega
  · omega
  · have := ordered.lt_moved stays' gt
    omega

/-- What stays is not inserted. -/
theorem not_inserted (ordered : Ordered edits) (h : Stays edits p p') : ¬Inserted edits p' := by
  rintro ⟨e, member, above, below⟩
  obtain ⟨stays, moved⟩ := h
  rw [moved] at above below
  clear moved
  induction edits with
  | nil => simp at member
  | cons f edits ih =>
    have front := Ordered.head_le f
    have inside := ordered.head f (by simp)
    rcases List.mem_cons.mp member with rfl | member
    · rw [ordered.shift_front (p := e.1.offset) (by omega)] at above below
      rcases stays e (by simp) with kept | behind
      · rw [ordered.shift_front (by omega)] at above
        omega
      · have rest := ordered.tail.le_moved e.1.finish ordered.first behind
        rw [shift_behind behind] at below
        simp only [Site.finish] at rest
        omega
    · have later := ordered.first e member
      rw [shift_behind (p := e.1.offset) later] at above below
      rcases stays f (by simp) with kept | behind
      · have rest := ordered.tail.le_moved f.1.finish ordered.first later
        have grows := ordered.grows f (by simp)
        have start := Ordered.head_le e
        rw [ordered.shift_front (by omega)] at above
        simp only [Site.finish, Site.headEnd] at rest kept above start
        omega
      · rw [shift_behind behind] at above below
        exact ih ordered.tail member (by omega) (by omega) fun g member =>
          stays g (by simp [member])

end Stays
end Query

open Query

namespace Weave

theorem finish_le (h : Weave t edits t') : ∀ e ∈ edits, e.1.finish ≤ size t := by
  induction h with
  | nil => simp
  | edit _ offset length ih =>
    intro e member
    rw [size_append, size_append]
    rcases List.mem_append.mp member with member | member
    · have := ih e member
      omega
    · obtain rfl := List.mem_singleton.mp member
      simp only [Site.finish, offset, length]
      omega

theorem apart (h : Weave t edits t') : edits.Pairwise fun a b => a.1.finish ≤ b.1.offset := by
  induction h with
  | nil => exact .nil
  | edit woven offset _ ih =>
    apply List.pairwise_append.mpr
    refine ⟨ih, List.pairwise_singleton _ _, ?_⟩
    intro a member b last
    have := woven.finish_le a member
    rw [List.mem_singleton.mp last]
    simp only [offset]
    omega

/-- The result has grown as the octets behind the last span have moved. -/
theorem size_eq (h : Weave t edits t') : (size t' : Int) = size t + shift edits (size t) := by
  induction h with
  | nil => rfl
  | @edit t edits t' gap span site new woven offset length ih =>
    have before : shift edits (size (t ++ (gap ++ span))) = shift edits (size t) := by
      apply shift_congr
      intro e member
      have := woven.finish_le e member
      rw [size_append]
      omega
    have last : site.finish = size (t ++ (gap ++ span)) := by
      simp [Site.finish, offset, length, Nat.add_assoc]
    rw [shift_append, before]
    simp [shift, last, ih, length]
    omega

end Weave

namespace Resolves

/-- Every edit of a pass answers a recognised sub-select. -/
theorem mem_edits (h : Resolves before o edits o') (member : e ∈ edits) :
    ∃ b body table, Site.recognise b body = some e.1 ∧ e = e.1.edit table := by
  induction h with
  | nil => simp at member
  | leaf _ ih => exact ih member
  | keep _ _ _ ihBody ihRest =>
    rcases List.mem_append.mp member with member | member
    · exact ihBody member
    · exact ihRest member
  | site table _ _ _ found _ ih =>
    rcases List.mem_cons.mp member with rfl | member
    · exact ⟨_, _, table, found, rfl⟩
    · exact ih member

theorem ordered (h : Resolves [] (Outline.ofText query) edits o') : Ordered edits := by
  obtain ⟨t, t', gap, weave, _⟩ := h.splice
  constructor
  · exact weave.apart
  · intro e member
    obtain ⟨b, body, table, found, _⟩ := h.mem_edits member
    obtain ⟨_, _, _, _, length⟩ := Site.recognise_span found
    simp only [Site.headEnd, Site.finish, length]
    omega
  · intro e member
    obtain ⟨_, _, table, _, eq⟩ := h.mem_edits member
    rw [eq]
    simp [Site.edit, Context.replacement_eq]

end Resolves
end Subselect
