import LineLisp.Text.Blank
import LineLisp.Token.Pattern

/-! How the classes of characters lie to one another.
No blank is a word character, and of the first 128 characters the word
characters are those of names. -/
namespace LineLisp

namespace Text

theorem inRanges_apart {left right : List CharRange} {c : Char}
    (apart : ∀ range ∈ left, ∀ other ∈ right, range.last < other.first ∨ other.last < range.first)
    (inside : inRanges left c = true) : inRanges right c = false := by
  obtain ⟨range, listed, low, high⟩ := (inRanges_iff left c).mp inside
  rw [Bool.eq_false_iff]
  intro both
  obtain ⟨other, alsoListed, least, greatest⟩ := (inRanges_iff right c).mp both
  have separate := apart range listed other alsoListed
  omega

theorem isWord_of_isBlank {c : Char} (blank : isBlank c = true) : isWord c = false :=
  inRanges_apart (by decide +kernel) blank

def nameRanges : List CharRange := charRanges [(0x30, 0x39), (0x41, 0x5a), (0x5f, 0x5f), (0x61, 0x7a)]

theorem isNameChar_iff (c : Char) : isNameChar c = true ↔ inRanges nameRanges c = true := by
  have underscore : c = '_' ↔ c.toNat = 0x5f := Char.toNat_inj.symm
  unfold isNameChar Char.isAlphanum Char.isAlpha Char.isUpper Char.isLower Char.isDigit
  simp [underscore, UInt32.le_iff_toNat_le, nameRanges, charRanges, inRanges, CharRange.contains]
  omega

theorem isWord_iff (c : Char) : isWord c = true ↔
    isNameChar c = true ∨ inRanges (wordRanges.drop nameRanges.length) c = true := by
  have split : wordRanges = nameRanges ++ wordRanges.drop nameRanges.length := rfl
  rw [isNameChar_iff, ← Bool.or_eq_true, inRanges, inRanges, ← List.any_append, ← split]
  rfl

theorem isWord_of_isNameChar {c : Char} (named : isNameChar c = true) : isWord c = true :=
  (isWord_iff c).mpr (.inl named)

def isVisible (c : Char) : Bool :=
  0x21 ≤ c.toNat && c.toNat ≤ 0x7e

theorem isVisible_iff (c : Char) : isVisible c = true ↔ 0x21 ≤ c.toNat ∧ c.toNat ≤ 0x7e := by
  simp [isVisible]

theorem isVisible_of_isBlank {c : Char} (blank : isBlank c = true) : isVisible c = false := by
  have apart : inRanges (charRanges [(0x21, 0x7e)]) c = false := inRanges_apart (by decide) blank
  simpa [inRanges, charRanges, CharRange.contains, isVisible] using apart

theorem isVisible_of_isNameChar {c : Char} (named : isNameChar c = true) : isVisible c = true := by
  have inside := (isNameChar_iff c).mp named
  simp [nameRanges, charRanges, inRanges, CharRange.contains] at inside
  rw [isVisible_iff]
  omega

theorem isNameChar_of_isWord {c : Char} (visible : isVisible c = true) (word : isWord c = true) :
    isNameChar c = true := by
  have bound := (isVisible_iff c).mp visible
  rcases (isWord_iff c).mp word with named | later
  · exact named
  · obtain ⟨range, listed, low, -⟩ := (inRanges_iff _ c).mp later
    have beyond : ∀ range ∈ wordRanges.drop nameRanges.length, 128 ≤ range.first := by
      decide +kernel
    have least := beyond range listed
    omega

end Text

end LineLisp
