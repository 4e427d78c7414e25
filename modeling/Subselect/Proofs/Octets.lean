import Subselect.Proofs.Pass
import Subselect.Text.Utf8

/-! The automaton of quoted literals run over the octets of a text. Quotes, backslashes and
parentheses are octets of their own, and no octet of a longer character is one of them, so the
octets are marked as the characters they belong to. -/
namespace Subselect.Text

/-- The character with the number of an octet. -/
def ofOctet (octet : UInt8) : Char := Char.ofNat octet.toNat

/-- The octets of a text. -/
def octets (t : Text) : Text := (encodeUtf8 t).map ofOctet

theorem toNat_ofOctet (octet : UInt8) : (ofOctet octet).toNat = octet.toNat := by
  have bound : octet.toNat < 256 := octet.toNat_lt
  have valid : octet.toNat.isValidChar := .inl (by omega)
  have small : Char.ofNat octet.toNat = Char.ofNatAux octet.toNat valid := dif_pos valid
  exact congrArg Char.toNat small

@[simp] theorem octets_nil : octets [] = [] := rfl

theorem octets_append (s t : Text) : octets (s ++ t) = octets s ++ octets t := by
  simp [octets, encodeUtf8]

theorem octets_cons (c : Char) (t : Text) : octets (c :: t) = octets [c] ++ octets t :=
  octets_append [c] t

@[simp] theorem length_octets (t : Text) : (octets t).length = size t := by
  induction t with
  | nil => rfl
  | cons c t ih =>
    rw [octets_cons, List.length_append, ih, size_cons]
    simp [octets, encodeUtf8, String.length_utf8EncodeChar]

theorem octets_ascii (h : c.toNat < 128) : octets [c] = [c] := by
  have one : c.val.toNat ≤ 127 := Nat.le_of_lt_succ h
  have small : (UInt8.ofNat c.val.toNat).toNat = c.toNat := by
    rw [UInt8.toNat_ofNat']
    exact Nat.mod_eq_of_lt (Nat.lt_trans h (by decide))
  simp only [octets, encodeUtf8, List.flatMap_singleton, String.utf8EncodeChar, one, if_true,
    List.map_singleton, ofOctet, small, Char.ofNat_toNat]

theorem octets_beyond (h : 128 ≤ c.toNat) : ∀ o ∈ octets [c], 128 ≤ o.toNat := by
  have long : ¬c.val.toNat ≤ 127 := Nat.not_le_of_lt h
  have encoded : ∀ octet ∈ String.utf8EncodeChar c, 128 ≤ octet.toNat := by
    simp only [String.utf8EncodeChar, long, if_false]
    split
    · simp
      omega
    · split
      · simp
        omega
      · simp
        omega
  simpa [octets, encodeUtf8, toNat_ofOctet] using encoded

theorem octets_ne_nil (c : Char) : octets [c] ≠ [] := by
  simp [octets, encodeUtf8, String.utf8EncodeChar_ne_nil]

theorem isQuote_beyond (h : 128 ≤ c.toNat) : isQuote c = false := by
  rw [← Bool.not_eq_true]
  intro quote
  rcases quote_cases quote with rfl | rfl | rfl <;> exact absurd h (by decide)

/-- A glyph for each octet of a character. -/
def Glyph.spread : Glyph → List Glyph
  | .plain c => (octets [c]).map .plain
  | .quoted c => (octets [c]).map .quoted

theorem Glyph.spread_ascii {g : Glyph} (h : g.char.toNat < 128) : g.spread = [g] := by
  cases g with
  | plain c => simp [spread, octets_ascii (c := c) h]
  | quoted c => simp [spread, octets_ascii (c := c) h]

theorem Glyph.length_spread (g : Glyph) : g.spread.length = g.char.utf8Size := by
  cases g <;> simp [spread]

theorem Glyph.char_mem_spread (h : k ∈ spread g) : k.char ∈ octets [g.char] := by
  cases g with
  | plain c =>
    obtain ⟨o, member, rfl⟩ := List.mem_map.mp h
    exact member
  | quoted c =>
    obtain ⟨o, member, rfl⟩ := List.mem_map.mp h
    exact member

namespace Mode

theorem scan_outside (h : ∀ o ∈ os, isQuote o = false) (t : Text) :
    outside.scan (os ++ t) = os.map .plain ++ outside.scan t := by
  induction os with
  | nil => rfl
  | cons o os ih =>
    have other := h o (by simp)
    simp [scan, glyph, step, other, ih fun o member => h o (by simp [member])]

theorem Proper.step_inside_beyond (proper : (inside quote).Proper) (h : 128 ≤ o.toNat) :
    (inside quote).step o = inside quote := by
  apply step_within
  · rintro ⟨rfl, _⟩
    exact absurd h (by decide)
  · rintro rfl
    exact absurd (isQuote_beyond h) (by simp [show isQuote o = true from proper])

theorem Proper.scan_inside_beyond (proper : (inside quote).Proper) (h : ∀ o ∈ os, 128 ≤ o.toNat)
    (t : Text) : (inside quote).scan (os ++ t) = os.map .quoted ++ (inside quote).scan t := by
  induction os with
  | nil => rfl
  | cons o os ih =>
    simp [scan, glyph_within, proper.step_inside_beyond (h o (by simp)),
      ih fun o member => h o (by simp [member])]

theorem Proper.run_inside_beyond (proper : (inside quote).Proper) (h : ∀ o ∈ os, 128 ≤ o.toNat) :
    (inside quote).run os = inside quote := by
  induction os with
  | nil => rfl
  | cons o os ih =>
    rw [run_cons, proper.step_inside_beyond (h o List.mem_cons_self)]
    exact ih fun o member => h o (List.mem_cons_of_mem _ member)

/-- A backslash takes the first octet of the next character with it, and the others change
nothing. -/
theorem Proper.scan_octets_cons (proper : Proper m) (c : Char) (t : Text) :
    m.scan (octets [c] ++ t) = (m.glyph c).spread ++ (m.step c).scan t := by
  by_cases ascii : c.toNat < 128
  · rw [octets_ascii ascii, Glyph.spread_ascii (by rwa [glyph_char])]
    rfl
  · have long : 128 ≤ c.toNat := Nat.not_lt.mp ascii
    have all := octets_beyond long
    cases m with
    | outside =>
      rw [scan_outside fun o member => isQuote_beyond (all o member)]
      simp [glyph, Mode.step, isQuote_beyond long, Glyph.spread]
    | inside quote =>
      rw [proper.scan_inside_beyond all, glyph_within, proper.step_inside_beyond long, Glyph.spread]
    | escaped quote =>
      obtain ⟨o, os, eq⟩ := List.exists_cons_of_ne_nil (octets_ne_nil c)
      have within : (inside quote).Proper := proper
      rw [eq] at all
      have others := within.scan_inside_beyond fun o member => all o (List.mem_cons_of_mem _ member)
      rw [glyph_escaped, Glyph.spread, eq]
      simp [scan, glyph_escaped, step_escaped, others]

theorem Proper.scan_octets (proper : Proper m) (t : Text) :
    m.scan (octets t) = (m.scan t).flatMap Glyph.spread := by
  induction t generalizing m with
  | nil => rfl
  | cons c t ih =>
    rw [octets_cons, proper.scan_octets_cons, ih (proper.step c), scan, List.flatMap_cons]

/-- Octets take the automaton where their characters do. -/
theorem Proper.run_octets (proper : Proper m) (t : Text) : m.run (octets t) = m.run t := by
  induction t generalizing m with
  | nil => rfl
  | cons c t ih =>
    have first : m.run (octets [c]) = m.step c := by
      by_cases ascii : c.toNat < 128
      · rw [octets_ascii ascii, run_cons, run_nil]
      · have long : 128 ≤ c.toNat := Nat.not_lt.mp ascii
        have all := octets_beyond long
        cases m with
        | outside =>
          have unquoted : Terminated (octets [c]) :=
            .of_unquoted fun o member => isQuote_beyond (all o member)
          rw [(terminated_iff _).mp unquoted, Mode.step, isQuote_beyond long]
          rfl
        | inside quote => rw [proper.run_inside_beyond all, proper.step_inside_beyond long]
        | escaped quote =>
          obtain ⟨o, os, eq⟩ := List.exists_cons_of_ne_nil (octets_ne_nil c)
          have within : (inside quote).Proper := proper
          rw [eq] at all
          rw [eq, run_cons, step_escaped, step_escaped,
            within.run_inside_beyond fun o member => all o (List.mem_cons_of_mem _ member)]
    rw [octets_cons, run_append, first, run_cons, ih (proper.step c)]

end Mode

/-- The octets of a text, each marked by the automaton that reads them from left to right. -/
def marks (t : Text) : List Glyph := Mode.outside.scan (octets t)

theorem marks_eq (t : Text) : marks t = (glyphs t).flatMap Glyph.spread := by
  rw [marks, Mode.proper_outside.scan_octets, glyphs_eq_scan]

theorem length_flatMap_spread (gs : List Glyph) :
    (gs.flatMap Glyph.spread).length = size (gs.map Glyph.char) := by
  induction gs with
  | nil => rfl
  | cons g gs ih => simp [ih, Glyph.length_spread]

theorem Glyph.plain_mem_spread {c : Char} (ascii : c.toNat < 128) (h : plain c ∈ spread g) :
    g = plain c := by
  cases g with
  | quoted d => simp [spread] at h
  | plain d =>
    have member : c ∈ octets [d] := char_mem_spread h
    by_cases short : d.toNat < 128
    · rw [octets_ascii short, List.mem_singleton] at member
      rw [member]
    · exact absurd (octets_beyond (Nat.not_lt.mp short) c member) (Nat.not_le.mpr ascii)

/-- An unquoted octet that is a character of its own divides the octets where it divides the
characters. -/
theorem spread_split {c : Char} (ascii : c.toNat < 128)
    (h : gs.flatMap Glyph.spread = xs ++ .plain c :: zs) :
    ∃ front rest, gs = front ++ .plain c :: rest ∧ xs = front.flatMap Glyph.spread ∧
      zs = rest.flatMap Glyph.spread := by
  induction gs generalizing xs with
  | nil => simp at h
  | cons g gs ih =>
    rw [List.flatMap_cons] at h
    rcases List.append_eq_append_iff.mp h with ⟨ys, rfl, behind⟩ | ⟨ys, split, behind⟩
    · obtain ⟨front, rest, rfl, rfl, rfl⟩ := ih behind
      exact ⟨g :: front, rest, rfl, by simp, rfl⟩
    · cases ys with
      | nil =>
        obtain ⟨front, rest, rfl, none, rfl⟩ := @ih [] behind.symm
        exact ⟨g :: front, rest, rfl, by simp [split, ← none], rfl⟩
      | cons y ys =>
        obtain ⟨rfl, rfl⟩ := List.cons.inj behind
        obtain rfl : g = .plain c := Glyph.plain_mem_spread ascii (by simp [split])
        have single : Glyph.spread (.plain c) = [.plain c] := Glyph.spread_ascii ascii
        rw [single] at split
        cases xs with
        | nil =>
          obtain ⟨_, rfl⟩ := List.cons.inj split
          exact ⟨[], gs, rfl, rfl, rfl⟩
        | cons x xs => simp at split

end Subselect.Text
