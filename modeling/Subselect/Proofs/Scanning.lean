import Subselect.Text.Quoted

/-! Quoted literals told from the rest of a text by an automaton that reads it once from left to
right. A quote that ends a literal in front of the same quote ends it and begins another one, which
gives the same glyphs as a doubled quote that stays inside. -/
namespace Subselect.Text

theorem quote_cases (h : isQuote c = true) : c = '\'' ∨ c = '"' ∨ c = '\x60' := by
  simpa [isQuote, or_assoc] using h

/-- Where the automaton stands between two characters. -/
inductive Mode where
  | outside
  | inside (quote : Char)
  /-- Behind a backslash that takes the next character with it. -/
  | escaped (quote : Char)
  deriving DecidableEq, Repr

namespace Mode

def step : Mode → Char → Mode
  | outside, c => if isQuote c then inside c else outside
  | inside quote, c =>
    if c = '\\' ∧ escapes quote = true then escaped quote
    else if c = quote then outside
    else inside quote
  | escaped quote, _ => inside quote

def glyph : Mode → Char → Glyph
  | outside, c => if isQuote c then .quoted c else .plain c
  | _, c => .quoted c

def scan : Mode → Text → List Glyph
  | _, [] => []
  | m, c :: t => m.glyph c :: (m.step c).scan t

/-- The automaton reads the characters of `gs` as just these glyphs. -/
inductive Reads : Mode → List Glyph → Mode → Prop where
  | nil : Reads m [] m
  | cons : m.glyph g.char = g → Reads (m.step g.char) gs final → Reads m (g :: gs) final

theorem step_backslash (h : escapes quote = true) : (inside quote).step '\\' = escaped quote := by
  simp [step, h]

theorem step_closing (h : isQuote quote = true) : (inside quote).step quote = outside := by
  have other : quote ≠ '\\' := by rintro rfl; simp [isQuote] at h
  simp [step, other]

theorem step_within (plain : ¬(c = '\\' ∧ escapes quote = true)) (other : c ≠ quote) :
    (inside quote).step c = inside quote := by
  simp [step, plain, other]

theorem step_opening (h : isQuote c = true) : outside.step c = inside c := by simp [step, h]

theorem step_escaped (quote c : Char) : (escaped quote).step c = inside quote := rfl

theorem glyph_escaped (quote c : Char) : (escaped quote).glyph c = .quoted c := rfl

theorem glyph_within (quote c : Char) : (inside quote).glyph c = .quoted c := rfl

theorem glyph_opening (h : isQuote c = true) : outside.glyph c = .quoted c := by simp [glyph, h]

@[simp] theorem glyph_char (m : Mode) (c : Char) : (m.glyph c).char = c := by
  cases m <;> simp only [glyph]
  · split <;> rfl
  · rfl
  · rfl

theorem Reads.append (first : Reads m xs middle) (second : Reads middle ys final) :
    Reads m (xs ++ ys) final := by
  induction first with
  | nil => exact second
  | cons here _ ih => exact .cons here (ih second)

theorem Reads.split (h : Reads m (xs ++ ys) final) :
    ∃ middle, Reads m xs middle ∧ Reads middle ys final := by
  induction xs generalizing m with
  | nil => exact ⟨m, .nil, h⟩
  | cons g xs ih =>
    cases h with
    | cons here rest =>
      obtain ⟨middle, first, second⟩ := ih rest
      exact ⟨middle, .cons here first, second⟩

theorem Reads.scan_eq (h : Reads m gs final) : m.scan (gs.map Glyph.char) = gs := by
  induction h with
  | nil => rfl
  | cons here _ ih => simp [scan, here, ih]

theorem reads_scan (m : Mode) (t : Text) : ∃ final, Reads m (m.scan t) final := by
  induction t generalizing m with
  | nil => exact ⟨m, .nil⟩
  | cons c t ih =>
    obtain ⟨final, rest⟩ := ih (m.step c)
    exact ⟨final, .cons (by rw [glyph_char]) (by rwa [glyph_char])⟩

/-- An unquoted glyph is met outside literals only, and leaves the automaton there. -/
theorem Reads.plain (h : Reads m (.plain c :: gs) final) :
    m = outside ∧ Reads outside gs final := by
  cases h with
  | cons here rest =>
    cases m with
    | outside =>
      by_cases quote : isQuote c = true
      · simp [glyph, quote] at here
      · simpa [step, quote] using rest
    | inside quote => simp [glyph] at here
    | escaped quote => simp [glyph] at here

/-- Without quotes the automaton stays outside literals. -/
theorem Reads.stays (reads : Reads outside gs final) (other : ∀ g ∈ gs, isQuote g.char = false) :
    final = outside := by
  induction gs with
  | nil =>
    cases reads
    rfl
  | cons g gs ih =>
    cases reads with
    | cons _ rest =>
      rw [step, other g List.mem_cons_self] at rest
      exact ih rest fun g' member => other g' (List.mem_cons_of_mem _ member)

theorem reads_plain (h : isQuote c = false) (rest : Reads outside gs final) :
    Reads outside (.plain c :: gs) final :=
  .cons (by simp [glyph, h]) (by simpa [step, h] using rest)

end Mode

/-- Where a literal ends, the automaton is outside again. -/
theorem scan_split (quote : Char) (h : isQuote quote = true) (t : Text) :
    (Mode.inside quote).scan t =
      (split quote t).1.map .quoted ++ Mode.outside.scan (split quote t).2 := by
  fun_induction split quote t with
  | case1 => rfl
  | case2 c => simp [Mode.scan, Mode.glyph]
  | case3 c d t escape literal rest eq ih =>
    obtain ⟨rfl, escape⟩ := escape
    rw [eq] at ih
    simp [Mode.scan, Mode.glyph_within, Mode.step_backslash escape, Mode.step_escaped,
      Mode.glyph_escaped, ih]
  | case4 t literal rest eq _ ih =>
    rw [eq] at ih
    simp [Mode.scan, Mode.glyph_within, Mode.step_closing h, Mode.glyph_opening h,
      Mode.step_opening h, ih]
  | case5 d t other _ => simp [Mode.scan, Mode.glyph_within, Mode.step_closing h]
  | case6 c d t plain other literal rest eq ih =>
    rw [eq] at ih
    simp [Mode.scan, Mode.glyph_within, Mode.step_within plain other] at ih ⊢
    exact ih

theorem glyphs_eq_scan (t : Text) : glyphs t = Mode.outside.scan t := by
  suffices h : ∀ fuel t, t.length ≤ fuel → glyphs.go fuel t = Mode.outside.scan t from
    h t.length t (Nat.le_refl _)
  intro fuel
  induction fuel with
  | zero => intro t bound; simp_all [glyphs.go, Mode.scan]
  | succ fuel ih =>
    intro t bound
    cases t with
    | nil => rfl
    | cons c t =>
      simp only [List.length_cons] at bound
      have shorter := split_length_le c t
      by_cases quote : isQuote c = true
      · simp [glyphs.go, quote, Mode.scan, Mode.glyph, Mode.step, scan_split c quote,
          ih (split c t).2 (by omega)]
      · simp [glyphs.go, quote, Mode.scan, Mode.glyph, Mode.step, ih t (by omega)]

theorem reads_glyphs (t : Text) : ∃ final, Mode.Reads .outside (glyphs t) final := by
  rw [glyphs_eq_scan]
  exact Mode.reads_scan .outside t

theorem glyphs_of_reads (reads : Mode.Reads .outside gs final) :
    glyphs (gs.map Glyph.char) = gs := by
  rw [glyphs_eq_scan, reads.scan_eq]

/-- Where the automaton stands behind a text. -/
def Mode.run (m : Mode) (t : Text) : Mode := t.foldl step m

@[simp] theorem Mode.run_nil (m : Mode) : m.run [] = m := rfl

@[simp] theorem Mode.run_cons (m : Mode) (c : Char) (t : Text) :
    m.run (c :: t) = (m.step c).run t := rfl

theorem Mode.run_append (m : Mode) (s t : Text) : m.run (s ++ t) = (m.run s).run t :=
  List.foldl_append

theorem Mode.Reads.run_eq (h : Reads m gs final) : m.run (gs.map Glyph.char) = final := by
  induction h with
  | nil => rfl
  | cons _ _ ih => exact ih

/-- Every literal of the text is closed in it. -/
def Terminated (t : Text) : Prop := Mode.Reads .outside (glyphs t) .outside

theorem terminated_iff (t : Text) : Terminated t ↔ Mode.outside.run t = .outside := by
  constructor
  · intro h
    have final := h.run_eq
    rwa [glyphs_char] at final
  · intro h
    obtain ⟨final, reads⟩ := reads_glyphs t
    obtain rfl : Mode.outside = final := by rw [← reads.run_eq, glyphs_char, h]
    exact reads

namespace Terminated

theorem nil : Terminated [] := Mode.Reads.nil

theorem append (first : Terminated s) (second : Terminated t) : Terminated (s ++ t) := by
  rw [terminated_iff] at first second ⊢
  rw [Mode.run_append, first, second]

theorem of_unquoted (h : ∀ c ∈ t, isQuote c = false) : Terminated t := by
  rw [terminated_iff]
  induction t with
  | nil => rfl
  | cons c t ih =>
    rw [Mode.run_cons, Mode.step, h c List.mem_cons_self]
    exact ih fun d member => h d (List.mem_cons_of_mem _ member)

/-- What stands in front of an unquoted character is closed. -/
theorem of_plain (split : glyphs t = front ++ .plain c :: rest) :
    Terminated (front.map Glyph.char) := by
  obtain ⟨final, reads⟩ := reads_glyphs t
  rw [split] at reads
  obtain ⟨_, first, second⟩ := reads.split
  obtain ⟨rfl, _⟩ := second.plain
  exact (terminated_iff _).mpr first.run_eq

end Terminated

end Subselect.Text
