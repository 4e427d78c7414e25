import Subselect.Proofs.Depth

/-! Sub-selects that stop being one. A number or `NULL` in the place of a scalar sub-select runs
into an `IN` that follows without white space. If the list sub-select behind that `IN` is nested
deeper, its turn comes later, and then it stands behind no keyword. -/
namespace Subselect

open Text Outline

namespace Outline

/-- The depth of the body of a list sub-select with its `IN` in front of everything else; `seen` is
what has been passed on the way to it, backwards. -/
def ahead (seen before : Text) : Outline → Nat
  | nil => 0
  | leaf g rest => rest.ahead (g.char :: seen) (g.char :: before)
  | group body _ =>
    if Context.isIn (seen.dropWhile isBlank) && Site.isSelect body.text then
      body.depth ('(' :: before)
    else 0

/-- Whether a group is a recognised sub-select of one value. -/
def isScalar (before body : Text) : Bool :=
  (Site.recognise before body).any (!·.context.isList)

/-- Whether somewhere a scalar sub-select is directly followed by the `IN` of a list sub-select
with deeper nesting inside. -/
def loses (before : Text) : Outline → Bool
  | nil => false
  | leaf g rest => rest.loses (g.char :: before)
  | group body rest =>
    isScalar before body.text &&
        decide (body.depth ('(' :: before) < rest.ahead [] (past before body.text)) ||
      body.loses ('(' :: before) || rest.loses (past before body.text)

@[simp] theorem ahead_leaves (seen before : Text) (gs : List Glyph) (rest : Outline) :
    (leaves gs rest).ahead seen before = rest.ahead (beyond seen gs) (beyond before gs) := by
  induction gs generalizing seen before with
  | nil => rfl
  | cons g gs ih => simp [leaves, ahead, ih]

@[simp] theorem loses_leaves (before : Text) (gs : List Glyph) (rest : Outline) :
    (leaves gs rest).loses before = rest.loses (beyond before gs) := by
  induction gs generalizing before with
  | nil => rfl
  | cons g gs ih => simp [leaves, loses, ih]

theorem isScalar_eq_false (h : Site.recognise before body = none) :
    isScalar before body = false := by
  simp [isScalar, h]

theorem loses_eq_false (o : Outline) (before : Text) (h : o.recognised before = []) :
    o.loses before = false := by
  induction o generalizing before with
  | nil => rfl
  | leaf g rest ih => exact ih _ h
  | group body rest ihBody ihRest =>
    simp only [recognised, List.append_eq_nil_iff, Option.toList_eq_nil_iff] at h
    simp [loses, isScalar_eq_false h.1.1, ihBody _ h.1.2, ihRest _ h.2]

theorem loses_append (a b : Outline) (before : Text) (h : a.recognised before = []) :
    (a.append b).loses before = b.loses (a.text.reverse ++ before) := by
  induction a generalizing before with
  | nil => rfl
  | leaf g rest ih => simpa [Outline.append, loses] using ih _ h
  | group body rest _ ih =>
    simp only [recognised, List.append_eq_nil_iff, Option.toList_eq_nil_iff] at h
    have behind := ih (past before body.text) h.2
    simp only [past] at behind
    simp [Outline.append, loses, isScalar_eq_false h.1.1, loses_eq_false body _ h.1.2, past, behind]

/-- Behind the end of a literal there is no `IN` in front of everything else. -/
theorem ahead_eq_zero (o : Outline) (seen before : Text) (member : e ∈ seen)
    (ends : e ∈ Literal.endChars) : o.ahead seen before = 0 := by
  induction o generalizing seen before with
  | nil => rfl
  | leaf g rest ih => exact ih _ _ (List.mem_cons_of_mem _ member)
  | group body rest _ _ =>
    have left : e ∈ seen.dropWhile isBlank := by
      have whole := List.takeWhile_append_dropWhile (p := isBlank) (l := seen)
      rw [← whole] at member
      refine (List.mem_append.mp member).resolve_left fun blank => ?_
      have := List.all_eq_true.mp List.all_takeWhile e blank
      exact absurd this (by simp [Literal.endChars_not_blank e ends])
    simp [ahead, Context.isIn_eq_false left ends]

/-- What stands behind a literal is not ahead of what stands in front of it. -/
theorem ahead_literal (seen before : Text) (site : Site) (table : Table) (rest : Outline) :
    ((site.context.literalOutline (Literal.ofTable table)).append rest).ahead seen before = 0 := by
  obtain ⟨e, t, eq, member⟩ := (Resolves.isFilling site table).ends
  rw [Context.text_literalOutline] at eq
  cases context : site.context with
  | list keyword =>
    simp [Context.literalOutline, Outline.append, ahead,
      Literal.isSelect_listBody (Literal.ofTable_value table)]
  | scalar op =>
    rw [Context.literalOutline, append_leaves, ahead_leaves]
    refine ahead_eq_zero _ _ _ (List.mem_append_left _ ?_) member
    rw [context, Context.literal] at eq
    simp [eq]

end Outline

namespace Resolves

theorem ahead (h : Resolves before o edits o') (aligned : Aligned before before')
    (intact : Intact before before' o edits o') (seen : Text) :
    o'.ahead seen before' = o.ahead seen before - 1 := by
  induction h generalizing before' seen with
  | nil => rfl
  | leaf _ ih => exact ih (aligned.cons _) intact _
  | @keep before body inside body' rest edits rest' _ insideResolves restResolves _ _ =>
    obtain ⟨_, inner, _⟩ := (intact_keep_iff insideResolves restResolves aligned).mp intact
    rw [Outline.ahead, Outline.ahead, insideResolves.isSelect_body,
      insideResolves.depth (aligned.cons '(') inner]
    split <;> rfl
  | @site before space site rest edits rest' body table _ _ inner _ _ _ =>
    rw [Outline.ahead, ahead_literal, ahead_leaves, Outline.ahead,
      depth_eq_zero_of_innermost body _ inner]
    split <;> rfl

theorem isScalar_eq (aligned : Aligned before before')
    (select : Site.isSelect body' = Site.isSelect body)
    (here : (Site.recognise before' body').toList.length =
      (Site.recognise before body).toList.length) :
    isScalar before' body' = isScalar before body := by
  cases found : Site.recognise before' body' with
  | none =>
    rw [found] at here
    cases known : Site.recognise before body with
    | none => simp [isScalar, found, known]
    | some site => simp [known] at here
  | some site' =>
    obtain ⟨site, known, same⟩ := Site.recognise_aligned aligned select found
    have list : site'.context.isList = site.context.isList := by
      rw [Context.isList_eq, Context.isList_eq, same]
    simp [isScalar, found, known, list]

/-- A pass that loses nothing leaves nothing to be lost that was not before. -/
theorem loses (h : Resolves before o edits o') (aligned : Aligned before before')
    (intact : Intact before before' o edits o') (loss : o'.loses before' = true) :
    o.loses before = true := by
  induction h generalizing before' with
  | nil => exact loss
  | leaf _ ih => exact ih (aligned.cons _) intact loss
  | @keep before body inside body' rest edits rest' _ insideResolves restResolves ihBody ihRest =>
    obtain ⟨here, inner, behind⟩ :=
      (intact_keep_iff insideResolves restResolves aligned).mp intact
    have next := Aligned.past before before' body.text body'.text
    simp only [Outline.loses, Bool.or_eq_true, Bool.and_eq_true, decide_eq_true_eq] at loss ⊢
    rcases loss with (⟨scalar, deeper⟩ | loss) | loss
    · rw [insideResolves.depth (aligned.cons '(') inner, restResolves.ahead next behind] at deeper
      rw [isScalar_eq aligned insideResolves.isSelect_body here] at scalar
      exact .inl (.inl ⟨scalar, by omega⟩)
    · exact .inl (.inr (ihBody (aligned.cons '(') inner loss))
    · exact .inr (ihRest next behind loss)
  | @site before space site rest edits rest' body table _ _ inner found _ ih =>
    have behind := (intact_site_iff site table inner found).mp intact
    rw [Outline.loses, loses_append _ _ _ ((isFilling site table).recognised _)] at loss
    have later := ih (aligned_filling _ _ _ site table) behind loss
    simp [Outline.loses, later]

/-- What keeps a sub-select one: the end of a literal that could run into its `IN` has no nesting
behind it. -/
def Guarded (before before' : Text) (o : Outline) : Prop :=
  ∃ common s t, before = common ++ s ∧ before' = common ++ t ∧ Seam s t ∧
    (t.head?.any isWordChar = true → o.ahead common before = 0)

theorem Guarded.turn (bracket : c = '(' ∨ c = ')') (ends : e ∈ Literal.endChars)
    (guard : isWordChar e = true → o.ahead [] (c :: s) = 0) : Guarded (c :: s) (e :: t) o :=
  ⟨[], c :: s, e :: t, rfl, rfl, .turn bracket ends, fun word => guard (by simpa using word)⟩

theorem Guarded.leaf (h : Guarded before before' (.leaf g rest)) :
    Guarded (g.char :: before) (g.char :: before') rest := by
  obtain ⟨common, s, t, rfl, rfl, seam, guard⟩ := h
  exact ⟨g.char :: common, s, t, rfl, rfl, seam, guard⟩

theorem Guarded.aligned (h : Guarded before before' o) : Aligned before before' := by
  obtain ⟨common, s, t, rfl, rfl, seam, _⟩ := h
  exact ⟨common, s, t, rfl, rfl, seam⟩

/-- A sub-select that stays keeps what makes it one, as long as it is guarded. -/
theorem Guarded.toList_recognise (h : Guarded before before' (group body rest))
    (kept : body.innermost ('(' :: before) = [] → Site.recognise before body.text = none)
    (select : Site.isSelect body' = Site.isSelect body.text) :
    (Site.recognise before' body').toList.length =
      (Site.recognise before body.text).toList.length := by
  have le := Site.toList_recognise_le h.aligned select
  obtain ⟨common, s, t, rfl, rfl, seam, guard⟩ := h
  rcases seam.kind_eq common with same | ⟨_, keyword, word⟩
  · rw [Site.length_toList_recognise, Site.length_toList_recognise, select, same]
  · have none : Site.recognise (common ++ s) body.text = none := by
      by_cases whole : Site.isSelect body.text = true
      · have flat : body.depth ('(' :: (common ++ s)) = 0 := by
          simpa [Outline.ahead, keyword, whole] using guard word
        exact kept (innermost_eq_nil_of_depth body _ flat)
      · simp [Site.recognise, whole]
    simpa [none] using le

/-- A pass over a query that loses nothing leaves every sub-select it did not run. -/
theorem intact (h : Resolves before o edits o') (guarded : Guarded before before' o)
    (safe : o.loses before = false) : Intact before before' o edits o' := by
  induction h generalizing before' with
  | nil => rfl
  | leaf _ ih => exact ih guarded.leaf safe
  | keep kept insideResolves restResolves ihBody ihRest =>
    simp only [Outline.loses, Bool.or_eq_false_iff] at safe
    refine (intact_keep_iff insideResolves restResolves guarded.aligned).mpr ⟨?_, ?_, ?_⟩
    · exact guarded.toList_recognise kept insideResolves.isSelect_body
    · exact ihBody (.turn (.inl rfl) (by decide) (by simp)) safe.1.2
    · exact ihRest (.turn (.inr rfl) (by decide) (by simp)) safe.2
  | @site before space site rest edits rest' body table _ _ inner found _ ih =>
    rw [loses_leaves] at safe
    simp only [Outline.loses, Bool.or_eq_false_iff, Bool.and_eq_false_iff] at safe
    refine (intact_site_iff site table inner found).mpr (ih ?_ safe.2)
    obtain ⟨e, t, ends, member⟩ := (isFilling site table).ends
    rw [ends]
    apply Guarded.turn (.inr rfl) member
    intro word
    have flat := depth_eq_zero_of_innermost body _ inner
    cases context : site.context with
    | list keyword =>
      rw [Context.text_literalOutline, context, Context.literal, Literal.list_eq] at ends
      obtain rfl : ')' = e := by
        simp at ends
        exact ends.1
      simp at word
    | scalar op =>
      have scalar : isScalar (beyond before space) body.text = true := by
        simp [isScalar, found, context, Context.isList]
      rw [flat] at safe
      have none := of_decide_eq_false (safe.1.1.resolve_left (by simp [scalar]))
      exact Nat.eq_zero_of_not_pos none

/-- Behind a literal that ends like a word, the `IN` of a deeper list sub-select is lost. -/
theorem not_intact (h : Resolves before o edits o') (common : Text) (read : before = common ++ s)
    (written : before' = common ++ t) (seam : Seam s t) (word : t.head?.any isWordChar = true)
    (ahead : 0 < o.ahead common before) : ¬Intact before before' o edits o' := by
  induction h generalizing common before' with
  | nil => simp [Outline.ahead] at ahead
  | @leaf _ _ _ _ g _ ih =>
    exact ih (g.char :: common) (by simp [read]) (by simp [written]) ahead
  | @keep before body inside body' rest edits rest' _ insideResolves restResolves _ _ =>
    subst read written
    intro intact
    obtain ⟨here, _⟩ :=
      (intact_keep_iff insideResolves restResolves ⟨common, s, t, rfl, rfl, seam⟩).mp intact
    rw [Outline.ahead] at ahead
    split at ahead
    · next both =>
      obtain ⟨keyword, select⟩ := Bool.and_eq_true_iff.mp both
      obtain ⟨was, lost⟩ := seam.lost keyword word
      rw [Site.length_toList_recognise, Site.length_toList_recognise,
        insideResolves.isSelect_body, select, was, lost] at here
      cases here
    · exact absurd ahead (Nat.lt_irrefl 0)
  | @site before space site rest edits rest' body table _ _ inner _ _ _ =>
    rw [ahead_leaves, Outline.ahead, depth_eq_zero_of_innermost body _ inner] at ahead
    split at ahead <;> exact absurd ahead (Nat.lt_irrefl 0)

/-- Where only `NULL` is put in, a pass that loses nothing leaves what is to be lost later. -/
theorem still_loses (h : Resolves before o edits o') (aligned : Aligned before before')
    (nulls : ∀ e ∈ edits, e = e.1.edit .empty)
    (intact : Intact before before' o edits o') (loss : o.loses before = true) :
    o'.loses before' = true := by
  induction h generalizing before' with
  | nil => exact loss
  | leaf _ ih => exact ih (aligned.cons _) nulls intact loss
  | @keep before body _ body' _ _ _ kept insideResolves restResolves ihBody ihRest =>
    obtain ⟨here, inner, behind⟩ :=
      (intact_keep_iff insideResolves restResolves aligned).mp intact
    have next := Aligned.past before before' body.text body'.text
    simp only [Outline.loses, Bool.or_eq_true, Bool.and_eq_true, decide_eq_true_eq] at loss ⊢
    rcases loss with (⟨scalar, deeper⟩ | loss) | loss
    · rw [insideResolves.depth (aligned.cons '(') inner, restResolves.ahead next behind,
        isScalar_eq aligned insideResolves.isSelect_body here]
      have nested : body.depth ('(' :: before) ≠ 0 := fun flat => by
        rw [isScalar_eq_false (kept (innermost_eq_nil_of_depth body _ flat))] at scalar
        cases scalar
      exact .inl (.inl ⟨scalar, by omega⟩)
    · exact .inl (.inr (ihBody (aligned.cons '(') (fun e member => nulls e (by simp [member])) inner
        loss))
    · exact .inr (ihRest next (fun e member => nulls e (by simp [member])) behind loss)
  | @site before space site rest edits rest' body table _ _ inner found restResolves ih =>
    have behind := (intact_site_iff site table inner found).mp intact
    have none := recognised_eq_nil body _ inner
    rw [loses_leaves] at loss
    simp only [Outline.loses, loses_eq_false body _ none, depth_eq_zero body _ none,
      Bool.or_eq_true, Bool.and_eq_true, decide_eq_true_eq, Bool.false_eq_true, or_false] at loss
    rw [Outline.loses, loses_append _ _ _ ((isFilling site table).recognised _)]
    have later := fun loss => ih (aligned_filling _ _ _ site table)
      (fun e member => nulls e (by simp [member])) behind loss
    rcases loss with ⟨scalar, deeper⟩ | loss
    · have null : (site.context.literalOutline (Literal.ofTable table)).text.reverse =
          Literal.null.reverse := by
        obtain ⟨op, context⟩ : ∃ op, site.context = .scalar op := by
          cases context : site.context with
          | list keyword => simp [isScalar, found, context, Context.isList] at scalar
          | scalar op => exact ⟨op, rfl⟩
        have same := Site.literal_eq (nulls (site.edit table) (by simp))
        rw [Context.text_literalOutline, same, context]
        rfl
      rw [null] at behind
      exact absurd behind (restResolves.not_intact [] rfl rfl
        (.turn (.inr rfl) (by decide)) rfl deeper)
    · exact later loss

end Resolves
end Subselect
