import Mathlib.Data.String.Basic
import Mathlib.Order.Bounds.Basic
import RouteMigration.Console.Excerpt

/-!
# Ranges of a report

A fault is found over a range of bytes, and the report of it is laid out by characters.  Whatever
the range is, what the report gets lies in the text: the range is cut off at the end of the text,
and an offset inside a character counts as the end of that character.

## Main Definitions

* `IsBoundary` — an offset that is not inside a character

## Main Statements

* `charsBefore_append` — characters that end before the offset are counted
* `charOffset_append`, `charOffset_inside` — the number of characters before an offset between two
  characters, and before one inside a character
* `isLeast_boundary` — where the next boundary is
* `SyntaxError.label_marked` — the range that a report gets for a part of its text
* `reported_ranges_are_inside` — ranges stay in the text, and offsets count characters
-/

namespace RouteMigration

/-! ### Spans -/

namespace Span

theorem start_le_stop_relative (lo hi fileStart : Nat) :
    (relative lo hi fileStart).start ≤ (relative lo hi fileStart).stop :=
  Nat.le_max_right _ _

theorem stop_clamp_le (s : Span) (len : Nat) : (s.clamp len).stop ≤ len := Nat.min_le_right _ _

theorem start_le_stop_clamp {s : Span} (h : s.start ≤ s.stop) (len : Nat) :
    (s.clamp len).start ≤ (s.clamp len).stop := by
  show min s.start len ≤ min s.stop len
  omega

/-- A range that lies in a file is seen from its start as it is. -/
theorem clamp_relative {start stop len : Nat} (h : start ≤ stop) (hlen : stop ≤ len)
    (fileStart : Nat) :
    (relative (fileStart + start) (fileStart + stop) fileStart).clamp len = ⟨start, stop⟩ := by
  simp only [relative, clamp, mk.injEq]
  omega

end Span

/-! ### Characters before an offset -/

theorem utf8ByteSize_eq_utf8Len (text : String) :
    text.utf8ByteSize = String.utf8Len text.toList := by
  rw [← String.utf8ByteSize_ofList, String.ofList_toList]

section Characters

variable {pos offset : Nat}

theorem charsBefore_of_le (h : offset ≤ pos) (cs : List Char) : charsBefore pos offset cs = 0 := by
  cases cs with
  | nil => rfl
  | cons c cs => rw [charsBefore, if_neg (Nat.not_lt.mpr h)]

/-- Characters that end before the offset are counted. -/
theorem charsBefore_append {front : List Char} (h : pos + String.utf8Len front ≤ offset)
    (cs : List Char) :
    charsBefore pos offset (front ++ cs) =
      front.length + charsBefore (pos + String.utf8Len front) offset cs := by
  induction front generalizing pos with
  | nil => simp
  | cons c front ih =>
    have hsize : 0 < c.utf8Size := c.utf8Size_pos
    rw [String.utf8Len_cons] at h ⊢
    rw [List.cons_append, charsBefore, if_pos (by omega), ih (by omega), List.length_cons,
      show pos + c.utf8Size + String.utf8Len front = pos + (String.utf8Len front + c.utf8Size)
        by omega]
    omega

theorem charsBefore_le_length (pos offset : Nat) (cs : List Char) :
    charsBefore pos offset cs ≤ cs.length := by
  induction cs generalizing pos with
  | nil => exact Nat.le_refl 0
  | cons c cs ih =>
    rw [charsBefore]
    split
    next => exact Nat.succ_le_succ (ih _)
    next => exact Nat.zero_le _

theorem charsBefore_mono {offset' : Nat} (h : offset ≤ offset') (pos : Nat) (cs : List Char) :
    charsBefore pos offset cs ≤ charsBefore pos offset' cs := by
  induction cs generalizing pos with
  | nil => exact Nat.le_refl 0
  | cons c cs ih =>
    rw [charsBefore, charsBefore]
    by_cases hpos : pos < offset
    · rw [if_pos hpos, if_pos (Nat.lt_of_lt_of_le hpos h)]
      exact Nat.succ_le_succ (ih _)
    · rw [if_neg hpos]
      exact Nat.zero_le _

end Characters

theorem charOffset_le_length (text : String) (offset : Nat) :
    charOffset text offset ≤ text.length :=
  String.length_toList ▸ charsBefore_le_length 0 offset text.toList

theorem charOffset_of_le {text : String} {offset : Nat} (h : text.utf8ByteSize ≤ offset) :
    charOffset text offset = text.length := by
  rw [utf8ByteSize_eq_utf8Len] at h
  rw [charOffset, ← List.append_nil text.toList, charsBefore_append (by omega), charsBefore,
    String.length_toList, Nat.add_zero]

theorem monotone_charOffset (text : String) : Monotone (charOffset text) :=
  fun _ _ h => charsBefore_mono h 0 text.toList

/-! ### Boundaries -/

/-- The offset is that of a character, or the end of the text. -/
def IsBoundary (text : String) (offset : Nat) : Prop := String.Pos.Raw.IsValid text ⟨offset⟩

instance (text : String) (offset : Nat) : Decidable (IsBoundary text offset) :=
  inferInstanceAs (Decidable (String.Pos.Raw.IsValid text ⟨offset⟩))

theorem isBoundary_iff {text : String} {offset : Nat} :
    IsBoundary text offset ↔
      ∃ before after, text = before ++ after ∧ before.utf8ByteSize = offset := by
  rw [IsBoundary, String.Pos.Raw.isValid_iff_exists_append]
  constructor
  · rintro ⟨before, after, htext, hoffset⟩
    exact ⟨before, after, htext, (congrArg String.Pos.Raw.byteIdx hoffset).symm⟩
  · rintro ⟨before, after, htext, rfl⟩
    exact ⟨before, after, htext, rfl⟩

/-- **Between two characters** the offset counts those before it. -/
theorem charOffset_append (before after : String) :
    charOffset (before ++ after) before.utf8ByteSize = before.length := by
  have hsize := utf8ByteSize_eq_utf8Len before
  rw [charOffset, String.toList_append, charsBefore_append (by omega),
    charsBefore_of_le (by omega), String.length_toList, Nat.add_zero]

/-- **Inside a character** the offset counts that character too. -/
theorem charOffset_inside {before after : String} {c : Char} {offset : Nat}
    (h : before.utf8ByteSize < offset) (h' : offset ≤ before.utf8ByteSize + c.utf8Size) :
    charOffset (before ++ String.singleton c ++ after) offset = before.length + 1 := by
  have hsize := utf8ByteSize_eq_utf8Len before
  rw [charOffset, String.toList_append, String.toList_append, String.toList_singleton,
    List.append_assoc, charsBefore_append (by omega), List.singleton_append, charsBefore,
    if_pos (by omega), charsBefore_of_le (by omega), String.length_toList]

theorem IsBoundary.append {text : String} {offset : Nat} (h : IsBoundary text offset)
    (after : String) : IsBoundary (text ++ after) offset :=
  String.Pos.Raw.isValid_append.mpr (Or.inl h)

/-- An offset in a text is a boundary, or it is inside a character. -/
theorem isBoundary_or_inside {text : String} {offset : Nat} (h : offset ≤ text.utf8ByteSize) :
    IsBoundary text offset ∨ ∃ before c after, text = before ++ String.singleton c ++ after ∧
      before.utf8ByteSize < offset ∧ offset < before.utf8ByteSize + c.utf8Size := by
  induction text using String.push_induction with
  | empty => exact Or.inl (isBoundary_iff.mpr ⟨"", "", rfl, (Nat.le_zero.mp h).symm⟩)
  | push text c ih =>
    rw [String.utf8ByteSize_push] at h
    rw [String.push_eq_append]
    by_cases hin : offset ≤ text.utf8ByteSize
    · rcases ih hin with hboundary | ⟨before, d, after, rfl, hlo, hhi⟩
      · exact Or.inl (hboundary.append _)
      · exact Or.inr ⟨before, d, after ++ String.singleton c, String.append_assoc .., hlo, hhi⟩
    · by_cases hend : offset = text.utf8ByteSize + c.utf8Size
      · exact Or.inl (isBoundary_iff.mpr ⟨text ++ String.singleton c, "", by simp, by simp [hend]⟩)
      · exact Or.inr ⟨text, c, "", by simp, by omega, by omega⟩

/-- **The next boundary** after an offset inside a character is the end of that character. -/
theorem isLeast_boundary {before after : String} {c : Char} {offset : Nat}
    (h : before.utf8ByteSize < offset) (h' : offset < before.utf8ByteSize + c.utf8Size) :
    IsLeast {b | IsBoundary (before ++ String.singleton c ++ after) b ∧ offset ≤ b}
      (before.utf8ByteSize + c.utf8Size) := by
  refine ⟨⟨isBoundary_iff.mpr ⟨_, after, rfl, by simp⟩, Nat.le_of_lt h'⟩, ?_⟩
  rintro next ⟨hnext, hle⟩
  rcases String.Pos.Raw.isValid_append.mp hnext with hfront | ⟨hback, -⟩
  · rcases String.Pos.Raw.isValid_append.mp hfront with hbefore | ⟨-, hinside⟩
    · have hin : next ≤ before.utf8ByteSize := hbefore.le_utf8ByteSize
      omega
    · rcases String.Pos.Raw.isValid_singleton.mp hinside with hzero | hend
      · have hoffset : next - before.utf8ByteSize = 0 := congrArg String.Pos.Raw.byteIdx hzero
        omega
      · have hoffset : next - before.utf8ByteSize = c.utf8Size := hend
        omega
  · have hsize : (before ++ String.singleton c).utf8ByteSize ≤ next := hback
    simpa using hsize

/-! ### Reports -/

namespace SyntaxError

theorem start_le_stop_label (e : SyntaxError) (text : String) :
    (e.label text).start ≤ (e.label text).stop :=
  Nat.le_max_right _ _

theorem stop_label_le_length (e : SyntaxError) (text : String) :
    (e.label text).stop ≤ text.length :=
  Nat.max_le.mpr ⟨charOffset_le_length text _, charOffset_le_length text _⟩

/-- **A part of the text** is shown as the characters that it consists of. -/
theorem label_marked (e : SyntaxError) {before marked : String}
    (h : e.span = ⟨before.utf8ByteSize, before.utf8ByteSize + marked.utf8ByteSize⟩)
    (after : String) :
    e.label (before ++ marked ++ after) =
      ⟨before.length, before.length + marked.length, e.message⟩ := by
  have hclamp : e.span.clamp (before ++ marked ++ after).utf8ByteSize = e.span := by
    simp only [h, Span.clamp, Span.mk.injEq, String.utf8ByteSize_append]
    omega
  have hstart : charOffset (before ++ marked ++ after) e.span.start = before.length := by
    rw [h, String.append_assoc]
    exact charOffset_append before (marked ++ after)
  have hstop : charOffset (before ++ marked ++ after) e.span.stop =
      before.length + marked.length := by
    have hcount := charOffset_append (before ++ marked) after
    rw [String.utf8ByteSize_append, String.length_append] at hcount
    rw [h, hcount]
  rw [label, hclamp, hstart, hstop, Nat.max_eq_left (Nat.le_add_right _ _)]

end SyntaxError

/-- **Ranges of a report stay in the text.**  The range of any two positions, cut off at the end of
the text, lies in the text, and is not cut off if it did before.  What the report gets is a range
of characters of the text; for a part of the text it is that part.  An offset counts the
characters before it: never fewer than a smaller one, those of the text up to it at a boundary, as
many as the next boundary does inside a character, and all of them beyond the text. -/
theorem reported_ranges_are_inside (text : String) :
    (∀ lo hi fileStart, let s := (Span.relative lo hi fileStart).clamp text.utf8ByteSize
      s.start ≤ s.stop ∧ s.stop ≤ text.utf8ByteSize) ∧
    (∀ fileStart start stop, start ≤ stop → stop ≤ text.utf8ByteSize →
      (Span.relative (fileStart + start) (fileStart + stop) fileStart).clamp text.utf8ByteSize =
        ⟨start, stop⟩) ∧
    (∀ e : SyntaxError,
      (e.label text).start ≤ (e.label text).stop ∧ (e.label text).stop ≤ text.length) ∧
    (∀ (e : SyntaxError) before marked after, text = before ++ marked ++ after →
      e.span = ⟨before.utf8ByteSize, before.utf8ByteSize + marked.utf8ByteSize⟩ →
      e.label text = ⟨before.length, before.length + marked.length, e.message⟩) ∧
    Monotone (charOffset text) ∧
    (∀ offset, IsBoundary text offset → ∃ before after, text = before ++ after ∧
      before.utf8ByteSize = offset ∧ charOffset text offset = before.length) ∧
    (∀ offset, offset < text.utf8ByteSize → ¬IsBoundary text offset →
      ∃ next, IsLeast {b | IsBoundary text b ∧ offset ≤ b} next ∧
        charOffset text offset = charOffset text next) ∧
    ∀ offset, text.utf8ByteSize < offset → charOffset text offset = text.length := by
  refine ⟨fun lo hi fileStart => ?_, fun fileStart start stop h hlen => ?_, fun e => ?_,
    fun e before marked after htext hspan => ?_, monotone_charOffset text, fun offset h => ?_,
    fun offset hlt h => ?_, fun offset hlt => charOffset_of_le (Nat.le_of_lt hlt)⟩
  · exact ⟨Span.start_le_stop_clamp (Span.start_le_stop_relative lo hi fileStart) _,
      Span.stop_clamp_le _ _⟩
  · exact Span.clamp_relative h hlen fileStart
  · exact ⟨e.start_le_stop_label text, e.stop_label_le_length text⟩
  · rw [htext]
    exact e.label_marked hspan after
  · obtain ⟨before, after, rfl, rfl⟩ := isBoundary_iff.mp h
    exact ⟨before, after, rfl, rfl, charOffset_append before after⟩
  · rcases isBoundary_or_inside (Nat.le_of_lt hlt) with
      hboundary | ⟨before, c, after, rfl, hlo, hhi⟩
    · exact absurd hboundary h
    · refine ⟨_, isLeast_boundary hlo hhi, ?_⟩
      have hsize : 0 < c.utf8Size := c.utf8Size_pos
      rw [charOffset_inside hlo (Nat.le_of_lt hhi), charOffset_inside (by omega) (Nat.le_refl _)]

/-- A missing expression at the `=` of `é = 1;`, and the offset inside the `é`. -/
theorem reported_ranges_of_accented :
    (3 ≤ 4 ∧ 4 ≤ "é = 1;".utf8ByteSize ∧
      (Span.relative 14 15 11).clamp "é = 1;".utf8ByteSize = ⟨3, 4⟩) ∧
    ("é = 1;" = "é " ++ "=" ++ " 1;" ∧
      (SyntaxError.mk .expressionExpected ⟨3, 4⟩).label "é = 1;" =
        ⟨2, 3, (SyntaxError.mk .expressionExpected ⟨3, 4⟩).message⟩) ∧
    (IsBoundary "é = 1;" 2 ∧ ∃ before after, "é = 1;" = before ++ after ∧
      before.utf8ByteSize = 2 ∧ charOffset "é = 1;" 2 = before.length) ∧
    (1 < "é = 1;".utf8ByteSize ∧ ¬IsBoundary "é = 1;" 1 ∧
      charOffset "é = 1;" 1 = charOffset "é = 1;" 2) ∧
    "é = 1;".utf8ByteSize < 9 ∧ charOffset "é = 1;" 9 = "é = 1;".length := by
  obtain ⟨-, hclamp, -, hlabel, -, hboundary, hinside, hbeyond⟩ :=
    reported_ranges_are_inside "é = 1;"
  have htwo : IsBoundary "é = 1;" 2 := by decide +kernel
  have hone : ¬IsBoundary "é = 1;" 1 := by decide +kernel
  obtain ⟨next, ⟨⟨hnext, hle⟩, hleast⟩, hcount⟩ := hinside 1 (by decide) hone
  have heq : next = 2 := by
    have hne : next ≠ 1 := fun h => hone (h ▸ hnext)
    have hle' : next ≤ 2 := hleast ⟨htwo, by decide⟩
    omega
  exact ⟨⟨by decide, by decide, hclamp 11 3 4 (by decide) (by decide)⟩,
    ⟨by decide, hlabel _ "é " "=" " 1;" (by decide) (by decide)⟩,
    ⟨htwo, hboundary 2 htwo⟩, ⟨by decide, hone, heq ▸ hcount⟩, by decide, hbeyond 9 (by decide)⟩

end RouteMigration
