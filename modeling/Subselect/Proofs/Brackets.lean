import Mathlib.Combinatorics.Enumerative.DyckWord
import Subselect.Proofs.Groups
import Subselect.Proofs.Octets

/-! The pairs of parentheses of a query by their Dyck words. Two unquoted parentheses belong
together exactly if the unquoted ones between them are balanced, however many others have no
partner. -/
namespace Subselect

open Text Outline

namespace Text

/-- Which bracket a glyph is; quoted parentheses are none. -/
def Glyph.bracket? : Glyph → Option DyckStep
  | .plain '(' => some .U
  | .plain ')' => some .D
  | _ => none

def brackets (gs : List Glyph) : List DyckStep := gs.filterMap Glyph.bracket?

/-- The unquoted parentheses among the glyphs form a Dyck word. -/
def IsDyck (gs : List Glyph) : Prop := ∃ word : DyckWord, word.toList = brackets gs

/-- How many more parentheses are opened than closed. -/
def height (gs : List Glyph) : Int := (brackets gs).count .U - (brackets gs).count .D

theorem Glyph.bracket?_eq_none {g : Glyph} (opening : g ≠ plain '(') (closing : g ≠ plain ')') :
    g.bracket? = none := by
  unfold bracket?
  split
  · contradiction
  · contradiction
  · rfl

theorem Glyph.bracket?_beyond {g : Glyph} (h : 128 ≤ g.char.toNat) : g.bracket? = none := by
  apply bracket?_eq_none
  · rintro rfl
    exact absurd h (by decide)
  · rintro rfl
    exact absurd h (by decide)

@[simp] theorem brackets_nil : brackets [] = [] := rfl

@[simp] theorem brackets_append (a b : List Glyph) :
    brackets (a ++ b) = brackets a ++ brackets b := List.filterMap_append ..

@[simp] theorem brackets_opening (gs : List Glyph) :
    brackets (.plain '(' :: gs) = .U :: brackets gs := rfl

@[simp] theorem brackets_closing (gs : List Glyph) :
    brackets (.plain ')' :: gs) = .D :: brackets gs := rfl

theorem brackets_other {g : Glyph} (opening : g ≠ .plain '(') (closing : g ≠ .plain ')')
    (gs : List Glyph) : brackets (g :: gs) = brackets gs :=
  List.filterMap_cons_none (Glyph.bracket?_eq_none opening closing)

@[simp] theorem height_nil : height [] = 0 := rfl

@[simp] theorem height_append (a b : List Glyph) : height (a ++ b) = height a + height b := by
  simp only [height, brackets_append, List.count_append]
  omega

@[simp] theorem height_opening (gs : List Glyph) : height (.plain '(' :: gs) = height gs + 1 := by
  simp [height]
  omega

@[simp] theorem height_closing (gs : List Glyph) : height (.plain ')' :: gs) = height gs - 1 := by
  simp [height]
  omega

theorem height_other {g : Glyph} (opening : g ≠ .plain '(') (closing : g ≠ .plain ')')
    (gs : List Glyph) : height (g :: gs) = height gs := by
  rw [height, brackets_other opening closing, height]

namespace IsDyck

theorem nil : IsDyck [] := ⟨0, rfl⟩

theorem of_brackets (none : brackets gs = []) : IsDyck gs := ⟨0, none.symm⟩

theorem append (first : IsDyck a) (second : IsDyck b) : IsDyck (a ++ b) := by
  obtain ⟨word, same⟩ := first
  obtain ⟨word', same'⟩ := second
  refine ⟨word + word', ?_⟩
  change word.toList ++ word'.toList = _
  rw [brackets_append, same, same']

theorem nest (body : IsDyck b) : IsDyck (.plain '(' :: (b ++ [.plain ')'])) := by
  obtain ⟨word, same⟩ := body
  refine ⟨word.nest, ?_⟩
  change [.U] ++ word.toList ++ [.D] = _
  simp [same]

theorem height_eq (h : IsDyck gs) : height gs = 0 := by
  obtain ⟨word, same⟩ := h
  have := word.count_U_eq_count_D
  rw [same] at this
  rw [height]
  omega

theorem height_nonneg (h : IsDyck (front ++ rest)) : 0 ≤ height front := by
  obtain ⟨word, same⟩ := h
  have := word.count_D_le_count_U (brackets front).length
  rw [same, brackets_append, List.take_left] at this
  rw [height]
  omega

/-- A parenthesis opened in a balanced text is closed there. -/
theorem height_behind (h : IsDyck (front ++ .plain '(' :: rest)) : height rest < 0 := by
  have whole := h.height_eq
  have before := h.height_nonneg
  rw [height_append, height_opening] at whole
  omega

/-- What is balanced is not closed further on. -/
theorem not_append_closing (h : IsDyck front) : ¬IsDyck (front ++ .plain ')' :: rest) := by
  intro longer
  rw [List.append_cons] at longer
  have below := longer.height_nonneg
  simp [h.height_eq] at below

/-- An opening parenthesis has one partner at most. -/
theorem unique (first : IsDyck a) (second : IsDyck b)
    (same : a ++ .plain ')' :: s = b ++ .plain ')' :: t) : a = b ∧ s = t := by
  rcases List.append_eq_append_iff.mp same with ⟨more, rfl, behind⟩ | ⟨more, rfl, behind⟩
  · cases more with
    | nil => simpa using behind
    | cons g more =>
      obtain ⟨rfl, _⟩ := List.cons.inj behind
      exact absurd second first.not_append_closing
  · cases more with
    | nil => simpa [eq_comm] using behind
    | cons g more =>
      obtain ⟨rfl, _⟩ := List.cons.inj behind
      exact absurd first second.not_append_closing

/-- The partner of a parenthesis that is opened in a balanced text is there too. -/
theorem partner_within (whole : IsDyck (front ++ .plain '(' :: more)) (body : IsDyck b)
    (same : b ++ .plain ')' :: s = more ++ t) : ∃ rest, more = b ++ .plain ')' :: rest := by
  have below := whole.height_behind
  rcases List.append_eq_append_iff.mp same with ⟨rest, rfl, behind⟩ | ⟨rest, rfl, _⟩
  · cases rest with
    | nil =>
      rw [List.append_nil, body.height_eq] at below
      exact absurd below (Int.lt_irrefl 0)
    | cons last rest =>
      obtain ⟨rfl, _⟩ := List.cons.inj behind
      exact ⟨rest, rfl⟩
  · exact absurd below (Int.not_lt.mpr body.height_nonneg)

/-- Where more is closed than opened, some parenthesis is closed behind a balanced text. -/
theorem exists_closing {gs : List Glyph} (below : height gs < 0) :
    ∃ body rest, gs = body ++ .plain ')' :: rest ∧ IsDyck body := by
  induction n : gs.length using Nat.strongRecOn generalizing gs with
  | ind n ih =>
    subst n
    cases gs with
    | nil => exact absurd below (Int.lt_irrefl 0)
    | cons g gs =>
      by_cases closing : g = .plain ')'
      · exact ⟨[], gs, by rw [closing, List.nil_append], nil⟩
      by_cases opening : g = .plain '('
      · -- what it opens is closed, and behind that there is still too much closed
        rw [opening, height_opening] at below
        obtain ⟨first, behind, rfl, inner⟩ := ih gs.length (Nat.lt_succ_self _) (by omega) rfl
        rw [height_append, height_closing, inner.height_eq] at below
        obtain ⟨second, rest, rfl, outer⟩ := ih behind.length (by simp; omega) (by omega) rfl
        refine ⟨.plain '(' :: (first ++ [.plain ')']) ++ second, rest, ?_, inner.nest.append outer⟩
        simp [opening]
      · rw [height_other opening closing] at below
        obtain ⟨body, rest, rfl, balanced⟩ := ih gs.length (Nat.lt_succ_self _) below rfl
        refine ⟨g :: body, rest, rfl, ?_⟩
        rwa [IsDyck, brackets_other opening closing]

/-- Where more is opened than closed, some parenthesis is opened in front of a balanced text. -/
theorem exists_opening {gs : List Glyph} (above : 0 < height gs) :
    ∃ front body, gs = front ++ .plain '(' :: body ∧ IsDyck body := by
  induction n : gs.length using Nat.strongRecOn generalizing gs with
  | ind n ih =>
    subst n
    rcases List.eq_nil_or_concat gs with rfl | ⟨gs, g, rfl⟩
    · exact absurd above (Int.lt_irrefl 0)
    rw [List.concat_eq_append, height_append] at above
    rw [List.concat_eq_append] at ih
    by_cases opening : g = .plain '('
    · exact ⟨gs, [], by rw [opening, List.concat_eq_append], nil⟩
    by_cases closing : g = .plain ')'
    · rw [closing, height_closing, height_nil] at above
      obtain ⟨behind, second, rfl, outer⟩ := ih gs.length (by simp) (by omega) rfl
      rw [height_append, height_opening, outer.height_eq] at above
      obtain ⟨front, first, rfl, inner⟩ := ih behind.length (by simp) (by omega) rfl
      refine ⟨front, first ++ .plain '(' :: (second ++ [.plain ')']), ?_, inner.append outer.nest⟩
      simp [closing]
    · rw [height_other opening closing, height_nil, Int.add_zero] at above
      obtain ⟨front, body, rfl, balanced⟩ := ih gs.length (by simp) above rfl
      refine ⟨front, body ++ [g], by simp, balanced.append (of_brackets ?_)⟩
      rw [brackets_other opening closing, brackets_nil]

end IsDyck
end Text

namespace Outline

/-- Without single parentheses an outline is balanced. -/
theorem Fits.isDyck (h : Fits level o) (closed : level = .none) : IsDyck o.glyphs := by
  induction h with
  | nil => exact .nil
  | leaf opening closing _ ih =>
    have closing := no_closing closing (by simp [closed])
    rw [IsDyck, glyphs, brackets_other opening closing]
    exact ih closed
  | opening left => exact absurd closed left
  | group _ _ ihBody ihRest =>
    have whole := (ihBody rfl).nest.append (ihRest closed)
    rwa [List.cons_append, List.append_assoc] at whole

/-- Behind a parenthesis that stays open none is closed that was not opened there. -/
theorem Fits.height_nonneg (h : Fits level o) (left : level = .opening)
    (split : o.glyphs = front ++ rest) : 0 ≤ height front := by
  induction h generalizing front with
  | nil =>
    obtain ⟨rfl, _⟩ := List.nil_eq_append_iff.mp split
    exact Int.le_refl 0
  | @leaf g _ _ opening closing _ ih =>
    cases front with
    | nil => exact Int.le_refl 0
    | cons first front =>
      obtain ⟨rfl, eq⟩ := List.cons.inj split
      rw [height_other opening (no_closing closing (by simp [left]))]
      exact ih left eq
  | opening _ _ ih =>
    cases front with
    | nil => exact Int.le_refl 0
    | cons first front =>
      obtain ⟨rfl, eq⟩ := List.cons.inj split
      have := ih rfl eq
      rw [height_opening]
      omega
  | @group body _ tail inner _ _ ih =>
    cases front with
    | nil => exact Int.le_refl 0
    | cons first front =>
      obtain ⟨rfl, eq⟩ := List.cons.inj split
      have balanced := inner.isDyck rfl
      rw [height_opening]
      rcases List.append_eq_append_iff.mp eq with ⟨more, rfl, behind⟩ | ⟨more, within, _⟩
      · rw [height_append, balanced.height_eq]
        cases more with
        | nil => simp
        | cons closing more =>
          obtain ⟨rfl, after⟩ := List.cons.inj behind
          have := ih left after
          rw [height_closing]
          omega
      · rw [within] at balanced
        have := balanced.height_nonneg
        omega

/-- A group is a pair of parentheses with a balanced text in between. -/
theorem exists_split_of_mem_groups (fits : Fits level o) (member : g ∈ o.groups before) :
    ∃ front body rest, o.glyphs = front ++ .plain '(' :: (body ++ .plain ')' :: rest) ∧
      IsDyck body ∧ g = ⟨beyond before front, body.map Glyph.char⟩ := by
  induction fits generalizing before with
  | nil => simp [groups] at member
  | leaf _ _ _ ih =>
    obtain ⟨front, body, rest, split, balanced, rfl⟩ := ih member
    exact ⟨_ :: front, body, rest, congrArg _ split, balanced, by rw [beyond_cons]⟩
  | opening _ _ ih =>
    obtain ⟨front, body, rest, split, balanced, rfl⟩ := ih member
    exact ⟨_ :: front, body, rest, congrArg _ split, balanced, by rw [beyond_cons]⟩
  | @group inner _ tail innerFits _ ihBody ihRest =>
    rw [groups, List.mem_cons, List.mem_append] at member
    rcases member with rfl | member | member
    · exact ⟨[], inner.glyphs, tail.glyphs, rfl, innerFits.isDyck rfl, by simp⟩
    · obtain ⟨front, body, rest, split, balanced, rfl⟩ := ihBody member
      refine ⟨.plain '(' :: front, body, rest ++ .plain ')' :: tail.glyphs, ?_, balanced, ?_⟩
      · simp [glyphs, split]
      · rw [beyond_cons, Glyph.char_plain]
    · obtain ⟨front, body, rest, split, balanced, rfl⟩ := ihRest member
      refine ⟨.plain '(' :: (inner.glyphs ++ .plain ')' :: front), body, rest, ?_, balanced, ?_⟩
      · simp [glyphs, split]
      · simp [past, beyond]

/-- A pair of parentheses with a balanced text in between is a group. -/
theorem mem_groups_of_split (fits : Fits level o)
    (split : o.glyphs = front ++ .plain '(' :: (body ++ .plain ')' :: rest))
    (balanced : IsDyck body) :
    ⟨beyond before front, body.map Glyph.char⟩ ∈ o.groups before := by
  induction fits generalizing before front rest with
  | nil => simp [glyphs] at split
  | leaf opening _ _ ih =>
    cases front with
    | nil => exact absurd (List.cons.inj split).1 opening
    | cons first front =>
      obtain ⟨rfl, eq⟩ := List.cons.inj split
      rw [beyond_cons]
      exact ih eq
  | opening _ opened ih =>
    cases front with
    | nil =>
      -- the parenthesis has no partner, for nothing behind it goes below its level
      obtain ⟨_, split⟩ := List.cons.inj split
      rw [List.append_cons] at split
      have below := opened.height_nonneg rfl split
      simp [balanced.height_eq] at below
    | cons first front =>
      obtain ⟨rfl, eq⟩ := List.cons.inj split
      rw [beyond_cons]
      exact ih eq
  | @group inner _ tail innerFits _ ihBody ihRest =>
    have closed := innerFits.isDyck rfl
    rw [groups, List.mem_cons, List.mem_append]
    cases front with
    | nil =>
      obtain ⟨_, split⟩ := List.cons.inj split
      obtain ⟨rfl, _⟩ := closed.unique balanced split
      left
      simp
    | cons first front =>
      right
      obtain ⟨rfl, tails⟩ := List.cons.inj split
      rcases List.append_eq_append_iff.mp tails with ⟨more, rfl, behind⟩ | ⟨more, eq, behind⟩
      · cases more with
        | nil => simp at behind
        | cons first more =>
          obtain ⟨rfl, after⟩ := List.cons.inj behind
          right
          have := @ihRest more rest (past before inner.text) after
          simpa [past, beyond] using this
      · left
        cases more with
        | nil => simp at behind
        | cons first more =>
          obtain ⟨rfl, after⟩ := List.cons.inj behind
          -- it opens in the body, which closes all it opens
          rw [eq] at closed
          obtain ⟨rest, rfl⟩ := closed.partner_within balanced after
          rw [beyond_cons]
          exact ihBody eq

end Outline

/-- Two glyphs are unquoted parentheses, and those strictly between them are balanced. -/
structure Paired (gs : List Glyph) (opening closing : Nat) : Prop where
  opened : gs[opening]? = some (.plain '(')
  closed : gs[closing]? = some (.plain ')')
  order : opening < closing
  balanced : IsDyck ((gs.take closing).drop (opening + 1))

theorem drop_of_getElem? {gs : List Glyph} (h : gs[p]? = some g) :
    gs.drop p = g :: gs.drop (p + 1) := by
  rw [List.drop_eq_getElem?_toList_append, h, Option.toList_some, List.singleton_append]

theorem paired_iff (gs : List Glyph) (opening closing : Nat) : Paired gs opening closing ↔
    ∃ front body rest, gs = front ++ .plain '(' :: (body ++ .plain ')' :: rest) ∧
      front.length = opening ∧ opening + 1 + body.length = closing ∧ IsDyck body := by
  constructor
  · rintro ⟨opened, closed, order, balanced⟩
    obtain ⟨bound, _⟩ := List.getElem?_eq_some_iff.mp closed
    have inner :
        gs.drop (opening + 1) = (gs.take closing).drop (opening + 1) ++ gs.drop closing := by
      have short : (gs.take closing).length = closing := List.length_take_of_le (by omega)
      rw [← List.drop_append_of_le_length (by omega), List.take_append_drop]
    refine ⟨gs.take opening, (gs.take closing).drop (opening + 1), gs.drop (closing + 1), ?_, ?_,
      ?_, balanced⟩
    · rw [← drop_of_getElem? closed, ← inner, ← drop_of_getElem? opened, List.take_append_drop]
    · rw [List.length_take]
      omega
    · rw [List.length_drop, List.length_take]
      omega
  · rintro ⟨front, body, rest, rfl, rfl, rfl, balanced⟩
    constructor
    · simp
    · simp [List.getElem?_append, List.getElem?_cons, Nat.add_assoc]
    · omega
    · have all : front ++ .plain '(' :: (body ++ .plain ')' :: rest) =
          (front ++ [.plain '(']) ++ body ++ .plain ')' :: rest := by simp
      rw [all, List.take_left' (by simp; omega), List.drop_left' (by simp)]
      exact balanced

namespace Text.IsDyck

/-- A parenthesis opened in a balanced text has its partner there. -/
theorem paired_opening (h : IsDyck gs) (opened : gs[p]? = some (.plain '(')) :
    ∃ q, Paired gs p q := by
  obtain ⟨bound, _⟩ := List.getElem?_eq_some_iff.mp opened
  have split : gs = gs.take p ++ .plain '(' :: gs.drop (p + 1) := by
    rw [← drop_of_getElem? opened, List.take_append_drop]
  rw [split] at h
  obtain ⟨body, rest, behind, balanced⟩ := exists_closing h.height_behind
  refine ⟨p + 1 + body.length,
    (paired_iff gs _ _).mpr ⟨gs.take p, body, rest, ?_, ?_, rfl, balanced⟩⟩
  · rw [← behind, ← split]
  · exact List.length_take_of_le (Nat.le_of_lt bound)

/-- And so has one that is closed there. -/
theorem paired_closing (h : IsDyck gs) (closed : gs[q]? = some (.plain ')')) :
    ∃ p, Paired gs p q := by
  obtain ⟨bound, _⟩ := List.getElem?_eq_some_iff.mp closed
  have split : gs = gs.take q ++ .plain ')' :: gs.drop (q + 1) := by
    rw [← drop_of_getElem? closed, List.take_append_drop]
  rw [split, List.append_cons] at h
  have level := h.height_nonneg
  rw [height_append, height_closing, height_nil] at level
  have above : 0 < height (gs.take q) := by omega
  obtain ⟨front, body, ahead, balanced⟩ := exists_opening above
  refine ⟨front.length,
    (paired_iff gs _ _).mpr ⟨front, body, gs.drop (q + 1), ?_, rfl, ?_, balanced⟩⟩
  · rw [← List.cons_append, ← List.append_assoc, ← ahead, ← split]
  · have length := congrArg List.length ahead
    rw [List.length_take_of_le (Nat.le_of_lt bound), List.length_append, List.length_cons] at length
    omega

end Text.IsDyck

namespace Outline

@[simp] theorem spread_opening : Glyph.spread (.plain '(') = [.plain '('] :=
  Glyph.spread_ascii (by decide)

@[simp] theorem spread_closing : Glyph.spread (.plain ')') = [.plain ')'] :=
  Glyph.spread_ascii (by decide)

theorem brackets_spread (gs : List Glyph) : brackets (gs.flatMap Glyph.spread) = brackets gs := by
  induction gs with
  | nil => rfl
  | cons g gs ih =>
    rw [List.flatMap_cons, brackets_append, ih]
    by_cases ascii : g.char.toNat < 128
    · rw [Glyph.spread_ascii ascii, ← brackets_append, List.singleton_append]
    · have long := Nat.not_lt.mp ascii
      have octets : ∀ k ∈ g.spread, k.bracket? = none := fun k member =>
        Glyph.bracket?_beyond (octets_beyond long k.char (Glyph.char_mem_spread member))
      have other : g.bracket? = none := Glyph.bracket?_beyond long
      rw [brackets, List.filterMap_eq_nil_iff.mpr octets, List.nil_append, brackets, brackets,
        List.filterMap_cons_none other]

theorem isDyck_spread (gs : List Glyph) : IsDyck (gs.flatMap Glyph.spread) ↔ IsDyck gs := by
  rw [IsDyck, brackets_spread, IsDyck]

/-- The offsets of a group count the octets of its text. -/
theorem offsets_beyond (front body : List Glyph) :
    Group.opening ⟨beyond [] front, body.map Glyph.char⟩ = (front.flatMap Glyph.spread).length ∧
      Group.closing ⟨beyond [] front, body.map Glyph.char⟩ =
        (front.flatMap Glyph.spread).length + 1 + (body.flatMap Glyph.spread).length := by
  rw [Group.opening, Group.closing, length_flatMap_spread, length_flatMap_spread, size_beyond,
    size_nil, Nat.zero_add]
  exact ⟨rfl, rfl⟩

/-- The groups of a text lie between the paired parentheses among its octets. -/
theorem mem_groups_iff_paired (t : Text) (opening closing : Nat) :
    (∃ g ∈ (ofText t).groups [], g.opening = opening ∧ g.closing = closing) ↔
      Paired (marks t) opening closing := by
  rw [paired_iff, marks_eq]
  constructor
  · rintro ⟨g, member, rfl, rfl⟩
    obtain ⟨front, body, rest, split, balanced, rfl⟩ :=
      exists_split_of_mem_groups (fits_ofText t) member
    rw [glyphs_ofText] at split
    refine ⟨front.flatMap Glyph.spread, body.flatMap Glyph.spread, rest.flatMap Glyph.spread, ?_,
      ?_, ?_, (isDyck_spread body).mpr balanced⟩
    · simp [split]
    · exact (offsets_beyond front body).1.symm
    · rw [(offsets_beyond front body).1, (offsets_beyond front body).2]
  · rintro ⟨front, body, rest, split, rfl, rfl, balanced⟩
    obtain ⟨front, behind, eq, rfl, inner⟩ := spread_split (by decide) split
    obtain ⟨body, rest, rfl, rfl, rfl⟩ := spread_split (by decide) inner.symm
    rw [← glyphs_ofText] at eq
    exact ⟨_, mem_groups_of_split (fits_ofText t) eq ((isDyck_spread body).mp balanced),
      offsets_beyond front body⟩

/-- A group stands in the text as it says. -/
theorem groups_slice (member : g ∈ (ofText t).groups []) :
    ∃ rest, t = g.before.reverse ++ '(' :: (g.body ++ ')' :: rest) := by
  obtain ⟨front, body, rest, split, _, rfl⟩ := exists_split_of_mem_groups (fits_ofText t) member
  have whole := congrArg (List.map Glyph.char) split
  rw [map_char_glyphs, text_ofText] at whole
  exact ⟨rest.map Glyph.char, by simpa [beyond] using whole⟩

end Outline
end Subselect
