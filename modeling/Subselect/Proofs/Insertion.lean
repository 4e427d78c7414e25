import Subselect.Proofs.Spans
import Subselect.Proofs.Tokens

/-! What a pass does to the tokens of a query. A replacement begins a token of its own. It ends one
too, unless it is a single value and the word or the string it ends with goes on behind the span. -/
namespace Subselect

open Text Outline

namespace Text

/-- What a text begins with is known by its size. -/
theorem prefix_eq_of_size {a b c d : Text} (same : a ++ b = c ++ d) (sizes : size a = size c) :
    a = c := by
  have left := divide_size a b
  rw [same, sizes, divide_size] at left
  exact (Prod.mk.inj (Option.some.inj left)).1.symm

end Text

namespace Context

variable {context : Context}

theorem terminated_replacement (unquoted : ∀ c ∈ context.head, isQuote c = false)
    (table : Table) : Terminated (context.replacement (Literal.ofTable table)) := by
  have literal : Terminated (context.literal (Literal.ofTable table)) := by
    have reads := (isFilling_literalOutline table context).reads.run_eq
    rw [map_char_glyphs, text_literalOutline] at reads
    exact (terminated_iff _).mpr reads
  have space : Terminated [' '] := .of_unquoted (by simp [isQuote])
  rw [replacement_eq, List.append_cons]
  exact ((Terminated.of_unquoted unquoted).append space).append literal

/-- A replacement begins with what introduced the sub-select, which is no part of a word that stands
in front of it. -/
theorem not_fuses_replacement (introduces : Introduces (front ++ context.head) context)
    (unquoted : ∀ c ∈ context.head, isQuote c = false) (values : List Text) :
    ¬Fuses front (context.replacement values) := by
  rintro ⟨c, d, last, head, kind⟩
  have member : d ∈ context.head ++ [' '] := by
    rw [replacement_eq, List.append_cons] at head
    exact mem_of_head?_append (by simp) head
  have other : isQuote d = false := by
    rcases List.mem_append.mp member with inside | space
    · exact unquoted d inside
    · rw [List.mem_singleton.mp space]
      rfl
  rcases kind with ⟨word, goes⟩ | ⟨quote, rfl⟩
  · cases context with
    | list keyword =>
      cases introduces with
      | list longest =>
        obtain ⟨front', _, split, bounded, _⟩ := longest.1
        obtain rfl := List.append_cancel_right split
        simp [bounded c last] at word
    | scalar op =>
      have none : ∀ d ∈ op.symbol ++ [' '], isWordChar d = false := by
        cases op <;> simp [Comparison.symbol, isWordChar_eq]
      simp [none d member] at goes
  · simp [other] at quote

/-- A list ends with its parenthesis. Only a single value can run on into what follows. -/
theorem fuses_replacement_iff (context : Context) (values : ∀ v ∈ literals, Literal.Value v)
    (rest : Text) :
    Fuses (context.replacement literals) rest ↔
      ∃ op, context = .scalar op ∧ Fuses (Literal.scalar literals) rest := by
  cases context with
  | list keyword =>
    have apart : ¬Fuses ((list keyword).replacement literals) rest := by
      rintro ⟨c, d, last, _, kind⟩
      rw [replacement, Literal.list_eq, ← List.cons_append, ← List.cons_append, ← List.append_assoc,
        List.getLast?_concat] at last
      obtain rfl := Option.some.inj last
      simp [isQuote] at kind
    simp [apart]
  | scalar op =>
    have some : Literal.scalar literals ≠ [] := by
      intro none
      obtain ⟨_, _, ends, _⟩ := Literal.scalar_ends values
      simp [none] at ends
    rw [replacement, List.append_cons, fuses_append some]
    simp

end Context

namespace Query

/-- A recognised sub-select stands behind a closed text that does not run on into a replacement. -/
theorem exists_cut (member : site ∈ sites query) :
    ∃ front span rest, query = front ++ (span ++ rest) ∧ site.offset = size front ∧
      site.length = size span ∧ Terminated front ∧
      (∀ c ∈ site.context.head, isQuote c = false) ∧
      Introduces (front ++ site.context.head) site.context := by
  obtain ⟨g, inside, found, _⟩ := (mem_innermost_iff (ofText query) [] site).mp member
  obtain ⟨outer, body, rest, gap, split, bodyText, _, offset, length⟩ := exists_head inside found
  have accepts := Accepts.of_site? found
  obtain ⟨front, lead, start⟩ := accepts.offset
  obtain ⟨behind, slice⟩ := groups_slice inside
  obtain ⟨trail, trimmed, _⟩ := trimEnd_append_blank g.before.reverse
  have whole := congrArg (List.map Glyph.char) split
  simp only [glyphs_char, List.map_append, List.map_map, Function.comp_def, Glyph.char_plain,
    List.map_id', List.map_cons, ← bodyText] at whole
  refine ⟨outer.map Glyph.char, site.context.head ++ gap ++ '(' :: (g.body ++ [')']),
    rest.map Glyph.char, ?_, offset, ?_, ?_, ?_, ?_⟩
  · rw [whole]
    simp
  · rw [length]
    simp
    omega
  · obtain ⟨c, more, starts⟩ := List.exists_cons_of_ne_nil
      (List.append_ne_nil_of_right_ne_nil (site.context.head ++ gap) (List.cons_ne_nil '(' []))
    rw [starts] at split
    exact .of_plain split
  · exact Context.head_unquoted (Site.recognise_context found).2
  · have same : outer.map Glyph.char = front := by
      rw [slice, trimmed, lead, List.append_assoc, List.append_assoc] at whole
      exact (prefix_eq_of_size whole (start.symm.trans offset)).symm
    rw [same, ← lead]
    exact accepts.context

/-- The tokens of a query once a sub-select is replaced. They are those of the text in front of the
span, of the replacement and of the text behind the span, exactly if the replacement is no single
value whose last word or string goes on behind the span. A list never does. -/
theorem replace_tokens_iff (member : site ∈ sites query) (table : Table) :
    ∃ front span rest, query = front ++ (span ++ rest) ∧ site.offset = size front ∧
      site.length = size span ∧
      replace site.offset site.length (site.context.replacement (Literal.ofTable table)) query =
        some (front ++ site.context.replacement (Literal.ofTable table) ++ rest) ∧
      (tokens (octets (front ++ site.context.replacement (Literal.ofTable table) ++ rest)) =
          tokens (octets front) ++
            tokens (octets (site.context.replacement (Literal.ofTable table))) ++
            tokens (octets rest) ↔
        ¬∃ op, site.context = .scalar op ∧
          Fuses (Literal.scalar (Literal.ofTable table)) rest) := by
  obtain ⟨front, span, rest, whole, offset, length, closed, unquoted, introduces⟩ :=
    exists_cut member
  refine ⟨front, span, rest, whole, offset, length, ?_, ?_⟩
  · rw [whole, offset, length, replace_append]
  have begins := Context.not_fuses_replacement introduces unquoted (Literal.ofTable table)
  have filled := Context.terminated_replacement unquoted table
  have some : octets (site.context.replacement (Literal.ofTable table)) ≠ [] := by
    rw [Context.replacement_eq, List.append_cons, octets_append, octets_append]
    simp [octets_ne_nil]
  rw [← terminated_octets] at closed filled
  rw [← fuses_octets] at begins
  rw [octets_append, octets_append, tokens_between_iff closed filled some begins, fuses_octets,
    Context.fuses_replacement_iff _ (Literal.ofTable_value table)]

/-- The rows of `SELECT 5`. -/
def five : Table := .ofRows [[(['5'], .integer 5)]]

/-- A list keeps apart from a word right behind it. -/
theorem replace_tokens_list :
    ∃ site front rest, sites "b IN(SELECT 5)AND c".toList = [site] ∧
      replace site.offset site.length (site.context.replacement (Literal.ofTable five))
        "b IN(SELECT 5)AND c".toList =
          some (front ++ site.context.replacement (Literal.ofTable five) ++ rest) ∧
      tokens (octets (front ++ site.context.replacement (Literal.ofTable five) ++ rest)) =
        tokens (octets front) ++
          tokens (octets (site.context.replacement (Literal.ofTable five))) ++
          tokens (octets rest) := by
  have found : sites "b IN(SELECT 5)AND c".toList =
      [⟨2, 12, .list ['I', 'N'], "SELECT 5".toList⟩] := by decide +kernel
  obtain ⟨front, _, rest, _, _, _, replaced, kept⟩ :=
    replace_tokens_iff (found ▸ List.mem_cons_self) five
  refine ⟨_, front, rest, found, replaced, kept.mpr ?_⟩
  rintro ⟨op, scalar, _⟩
  cases scalar

/-- A single value does not: the number and the keyword become one word. -/
theorem replace_tokens_fused :
    sites "SELECT * FROM t WHERE a = (SELECT 5)AND b = 1".toList =
        [⟨24, 12, .scalar .equal, "SELECT 5".toList⟩] ∧
      replace 24 12 (Context.replacement (Literal.ofTable five) (.scalar .equal))
          "SELECT * FROM t WHERE a = (SELECT 5)AND b = 1".toList =
        some ("SELECT * FROM t WHERE a ".toList ++
          Context.replacement (Literal.ofTable five) (.scalar .equal) ++ "AND b = 1".toList) ∧
      tokens (octets ("SELECT * FROM t WHERE a ".toList ++
          Context.replacement (Literal.ofTable five) (.scalar .equal) ++ "AND b = 1".toList)) ≠
        tokens (octets "SELECT * FROM t WHERE a ".toList) ++
          tokens (octets (Context.replacement (Literal.ofTable five) (.scalar .equal))) ++
          tokens (octets "AND b = 1".toList) := by
  decide +kernel

end Query
end Subselect
