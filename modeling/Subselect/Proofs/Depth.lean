import Subselect.Proofs.Rounds

/-! How deep sub-selects are nested. A pass that loses none takes one layer off every sub-select
that is left. -/
namespace Subselect

open Text Outline

namespace Outline

/-- The most recognised sub-selects that lie within each other. -/
def depth (before : Text) : Outline → Nat
  | nil => 0
  | leaf g rest => rest.depth (g.char :: before)
  | group body rest =>
    max ((Site.recognise before body.text).toList.length + body.depth ('(' :: before))
      (rest.depth (past before body.text))

@[simp] theorem depth_leaves (before : Text) (gs : List Glyph) (rest : Outline) :
    (leaves gs rest).depth before = rest.depth (beyond before gs) := by
  induction gs generalizing before with
  | nil => rfl
  | cons g gs ih => simp [leaves, depth, ih]

theorem depth_append (a b : Outline) (before : Text) :
    (a.append b).depth before = max (a.depth before) (b.depth (a.text.reverse ++ before)) := by
  induction a generalizing before with
  | nil => simp [Outline.append, depth]
  | leaf g rest ih => simp [Outline.append, depth, ih]
  | group body rest _ ih => simp [Outline.append, depth, ih, past, Nat.max_assoc]

theorem depth_eq_zero (o : Outline) (before : Text) (h : o.recognised before = []) :
    o.depth before = 0 := by
  induction o generalizing before with
  | nil => rfl
  | leaf g rest ih => exact ih _ h
  | group body rest ihBody ihRest =>
    simp only [recognised, List.append_eq_nil_iff] at h
    simp [depth, h.1.1, ihBody _ h.1.2, ihRest _ h.2]

theorem recognised_eq_nil (o : Outline) (before : Text) (h : o.innermost before = []) :
    o.recognised before = [] := by
  induction o generalizing before with
  | nil => rfl
  | leaf g rest ih => exact ih _ h
  | group body rest ihBody ihRest =>
    cases inner : body.innermost ('(' :: before) with
    | nil =>
      simp only [innermost, inner, List.append_eq_nil_iff] at h
      simp [recognised, h.1, ihBody _ inner, ihRest _ h.2]
    | cons site more => simp [innermost, inner] at h

theorem depth_eq_zero_of_innermost (o : Outline) (before : Text) (h : o.innermost before = []) :
    o.depth before = 0 :=
  depth_eq_zero o before (recognised_eq_nil o before h)

theorem recognised_eq_nil_of_depth (o : Outline) (before : Text) (h : o.depth before = 0) :
    o.recognised before = [] := by
  induction o generalizing before with
  | nil => rfl
  | leaf g rest ih => exact ih _ h
  | group body rest ihBody ihRest =>
    simp only [depth] at h
    obtain ⟨here, inside, behind⟩ : (Site.recognise before body.text).toList.length = 0 ∧
        body.depth ('(' :: before) = 0 ∧ rest.depth (past before body.text) = 0 := by omega
    rw [recognised, List.length_eq_zero_iff.mp here, ihBody _ inside, ihRest _ behind]
    rfl

theorem innermost_eq_nil_of_depth (o : Outline) (before : Text) (h : o.depth before = 0) :
    o.innermost before = [] := by
  have := innermost_length_le o before
  rw [recognised_eq_nil_of_depth o before h] at this
  exact List.length_eq_zero_iff.mp (Nat.le_zero.mp this)

end Outline

/-- Every sub-select that a pass did not run still is one afterwards. -/
def Intact (before before' : Text) (o : Outline) (edits : List Edit) (o' : Outline) : Prop :=
  (o'.recognised before').length + edits.length = (o.recognised before).length

namespace Resolves

theorem intact_keep_iff (insideResolves : Resolves ('(' :: before) body inside body')
    (restResolves : Resolves (past before body.text) rest edits rest')
    (aligned : Aligned before before') :
    Intact before before' (group body rest) (inside ++ edits) (group body' rest') ↔
      (Site.recognise before' body'.text).toList.length =
        (Site.recognise before body.text).toList.length ∧
      Intact ('(' :: before) ('(' :: before') body inside body' ∧
      Intact (past before body.text) (past before' body'.text) rest edits rest' := by
  have here := Site.toList_recognise_le aligned insideResolves.isSelect_body
  have inner := insideResolves.recognised_le (aligned.cons '(')
  have behind := restResolves.recognised_le (.past before before' body.text body'.text)
  simp only [Intact, recognised, List.length_append]
  omega

theorem intact_site_iff (site : Site) (table : Table)
    (inner : body.innermost ('(' :: beyond before space) = [])
    (found : Site.recognise (beyond before space) body.text = some site) :
    Intact before before' (Outline.leaves space (group body rest)) (site.edit table :: edits)
        (Outline.leaf (.plain ' ')
          ((site.context.literalOutline (Literal.ofTable table)).append rest')) ↔
      Intact (past (beyond before space) body.text)
        ((site.context.literalOutline (Literal.ofTable table)).text.reverse ++ ' ' :: before') rest
        edits rest' := by
  simp only [Intact, recognised, recognised_append, (isFilling site table).recognised,
    recognised_leaves, found, recognised_eq_nil body _ inner, List.length_append, List.length_cons,
    Glyph.char_plain, Option.toList_some, List.length_nil]
  omega

/-- A pass that loses no sub-select takes off the innermost layer. -/
theorem depth (h : Resolves before o edits o') (aligned : Aligned before before')
    (intact : Intact before before' o edits o') : o'.depth before' = o.depth before - 1 := by
  induction h generalizing before' with
  | nil => rfl
  | leaf _ ih => exact ih (aligned.cons _) intact
  | @keep before body _ body' _ _ _ kept insideResolves restResolves ihBody ihRest =>
    obtain ⟨here, inner, behind⟩ :=
      (intact_keep_iff insideResolves restResolves aligned).mp intact
    have left := ihBody (aligned.cons '(') inner
    have right := ihRest (.past before before' body.text body'.text) behind
    rw [Outline.depth, Outline.depth, here, left, right]
    by_cases none : body.innermost ('(' :: before) = []
    · simp only [kept none, Option.toList_none, List.length_nil]
      omega
    · have := mt (innermost_eq_nil_of_depth body _) none
      omega
  | @site before space site rest edits rest' body table _ _ inner found _ ih =>
    have behind := (intact_site_iff site table inner found).mp intact
    have right := ih (aligned_filling _ _ _ site table) behind
    have flat := depth_eq_zero_of_innermost body _ inner
    rw [Outline.depth, depth_append, depth_eq_zero _ _ ((isFilling site table).recognised _),
      Glyph.char_plain, right, depth_leaves, Outline.depth, flat, found]
    simp only [Option.toList_some, List.length_cons, List.length_nil]
    omega

end Resolves
end Subselect
