import Mathlib.Data.List.Nodup
import Subselect.Proofs.Filling

/-! The pairs of parentheses of a query as places in its text. A recognised sub-select is a pair
whose body is a `SELECT` behind a keyword or operator. -/
namespace Subselect

open Text Outline

/-- A pair of parentheses: what lies in front of it, given backwards, and its body. -/
structure Group where
  before : Text
  body : Text
  deriving DecidableEq, Repr

namespace Group

/-- The offset of the opening parenthesis. -/
def opening (g : Group) : Nat := size g.before

/-- The offset of the closing parenthesis. -/
def closing (g : Group) : Nat := size g.before + 1 + size g.body

def site? (g : Group) : Option Site := Site.recognise g.before g.body

/-- The offset behind the first word of the body, which in a sub-select is `SELECT`. -/
def wordEnd (g : Group) : Nat :=
  g.opening + 1 + size (g.body.takeWhile isBlank) + size ((trimStart g.body).takeWhile isWordChar)

def Contains (g h : Group) : Prop := g.opening < h.opening ∧ h.closing < g.closing

end Group

namespace Outline

/-- Every pair of parentheses, in the order of the opening ones. -/
def groups (before : Text) : Outline → List Group
  | nil => []
  | leaf g rest => rest.groups (g.char :: before)
  | group body rest =>
    ⟨before, body.text⟩ :: (body.groups ('(' :: before) ++ rest.groups (past before body.text))

theorem filterMap_site_groups (o : Outline) (before : Text) :
    (o.groups before).filterMap Group.site? = o.recognised before := by
  induction o generalizing before with
  | nil => rfl
  | leaf g rest ih => exact ih _
  | group body rest ihBody ihRest =>
    rw [groups, recognised, List.filterMap_cons, List.filterMap_append, ihBody, ihRest]
    cases found : Site.recognise before body.text <;> simp [Group.site?, found]

@[simp] theorem groups_leaves (before : Text) (gs : List Glyph) (rest : Outline) :
    (leaves gs rest).groups before = rest.groups (beyond before gs) := by
  induction gs generalizing before with
  | nil => rfl
  | cons g gs ih => simp [leaves, groups, ih]

theorem groups_append (a b : Outline) (before : Text) :
    (a.append b).groups before = a.groups before ++ b.groups (a.text.reverse ++ before) := by
  induction a generalizing before with
  | nil => rfl
  | leaf g rest ih => simp [Outline.append, groups, ih]
  | group body rest _ ih => simp [Outline.append, groups, ih, past]

theorem size_past (before body : Text) : size (past before body) = size before + size body + 2 := by
  simp [past]
  omega

theorem size_text_group (body rest : Outline) :
    size (group body rest).text = size body.text + 2 + size rest.text := by
  simp
  omega

/-- The pairs of an outline lie within its text. -/
theorem groups_within (o : Outline) (before : Text) : ∀ g ∈ o.groups before,
    size before ≤ g.opening ∧ g.closing < size before + size o.text := by
  induction o generalizing before with
  | nil => simp [groups]
  | leaf c rest ih =>
    intro g member
    have := ih _ g member
    rw [text_leaf, size_cons]
    rw [size_cons] at this
    omega
  | group body rest ihBody ihRest =>
    intro g member
    rw [size_text_group]
    rcases List.mem_cons.mp member with rfl | member
    · simp only [Group.opening, Group.closing]
      omega
    rcases List.mem_append.mp member with member | member
    · have inside := ihBody _ g member
      simp only [size_cons, utf8Size_opening] at inside
      omega
    · have behind := ihRest _ g member
      rw [size_past] at behind
      omega

theorem groups_pairwise (o : Outline) (before : Text) :
    (o.groups before).Pairwise fun g h => g.opening < h.opening := by
  induction o generalizing before with
  | nil => exact .nil
  | leaf c rest ih => exact ih _
  | group body rest ihBody ihRest =>
    have inside := groups_within body ('(' :: before)
    have behind := groups_within rest (past before body.text)
    simp only [size_cons, size_past, utf8Size_opening] at inside behind
    apply List.pairwise_cons.mpr
    constructor
    · intro h member
      rcases List.mem_append.mp member with member | member
      · have := inside h member
        simp only [Group.opening] at this ⊢
        omega
      · have := behind h member
        simp only [Group.opening] at this ⊢
        omega
    · apply List.pairwise_append.mpr
      refine ⟨ihBody _, ihRest _, ?_⟩
      intro g inner h outer
      have left := inside g inner
      have right := behind h outer
      simp only [Group.closing, Group.opening] at left right ⊢
      omega

/-- A pair is known by where it opens. -/
theorem groups_eq_of_opening {o : Outline} (first : g ∈ o.groups before)
    (second : h ∈ o.groups before) (same : g.opening = h.opening) : g = h := by
  have distinct : ((o.groups before).map Group.opening).Nodup :=
    List.pairwise_map.mpr ((o.groups_pairwise before).imp Nat.ne_of_lt)
  exact List.inj_on_of_nodup_map distinct first second same

/-- A pair within another one lies in the same part of an outline, or in the body of the pair that
holds it. -/
theorem groups_of_contains (member : h ∈ (group body rest).groups before) (inside : g.Contains h) :
    (g = ⟨before, body.text⟩ ∨ g ∈ body.groups ('(' :: before) → h ∈ body.groups ('(' :: before)) ∧
      (g ∈ rest.groups (past before body.text) → h ∈ rest.groups (past before body.text)) := by
  have inner := groups_within body ('(' :: before)
  have behind := groups_within rest (past before body.text)
  simp only [size_cons, size_past, utf8Size_opening] at inner behind
  obtain ⟨after, ahead⟩ := inside
  rw [groups, List.mem_cons, List.mem_append] at member
  constructor
  · intro here
    have last : g.closing ≤ size before + 1 + size body.text := by
      rcases here with rfl | here
      · exact Nat.le_refl _
      · have := (inner g here).2
        omega
    have first : size before ≤ g.opening := by
      rcases here with rfl | here
      · exact Nat.le_refl _
      · have := (inner g here).1
        omega
    rcases member with rfl | member | member
    · exact absurd after (Nat.not_lt.mpr first)
    · exact member
    · have := behind h member
      simp only [Group.opening, Group.closing] at this ahead last
      omega
  · intro here
    have first := (behind g here).1
    rcases member with rfl | member | member
    · simp only [Group.opening] at first after
      omega
    · have := inner h member
      simp only [Group.opening, Group.closing] at this first after
      omega
    · exact member

/-- A pair holds every pair of its body. -/
theorem contains_of_mem_body {body : Outline} (member : h ∈ body.groups ('(' :: before)) :
    Group.Contains ⟨before, body.text⟩ h := by
  have inner := groups_within body ('(' :: before) h member
  simp only [size_cons, utf8Size_opening] at inner
  constructor
  · simp only [Group.opening] at inner ⊢
    omega
  · simp only [Group.closing] at inner ⊢
    omega

end Outline

namespace Query

/-- The recognised sub-selects of a query, at any depth, as pairs of parentheses. -/
def subselects (query : Text) : List Group :=
  ((ofText query).groups []).filter (·.site?.isSome)

theorem filterMap_site_subselects (query : Text) :
    (subselects query).filterMap Group.site? = recognised query := by
  rw [subselects, recognised, ← filterMap_site_groups, List.filterMap_filter]
  congr 1
  funext g
  cases g.site? <;> simp

end Query
end Subselect
