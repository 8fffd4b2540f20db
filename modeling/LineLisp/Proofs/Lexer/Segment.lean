import LineLisp.Proofs.Lexer.Coverage
import LineLisp.Proofs.Parser.Relocation

/-! Runs of tokens.
The text of a line from where one token begins to where another one ends is read
as the tokens in between, at columns of its own. -/
namespace LineLisp

namespace Span

def shift (count : Nat) : Span → Span
  | unknown => unknown
  | columns first past => columns (first + count) (past + count)

theorem steady_shift (count : Nat) : Steady (shift count) where
  unknown := rfl
  till first last := by cases first <;> cases last <;> rfl

end Span

namespace Lexer

open Text (byteLength)

variable {chars : List Char} {column : Nat} {previous : Option Token} {tokens : List Token}

theorem relocate_tokenAt (count column : Nat) (pattern : Pattern) (lexeme : List Char) :
    (tokenAt column pattern lexeme).relocate (Span.shift count) =
      tokenAt (column + count) pattern lexeme := by
  simp only [tokenAt, Token.relocate, Span.shift, Nat.add_right_comm]

/-- What is read does not depend on the column, nor on a token before it but by its kind. -/
theorem Reading.unshift {start : Nat} (reading : Reading chars start previous tokens) {count : Nat}
    (here : start = column + count) {other : Option Token}
    (alike : ∀ before ∈ other, ∃ rival ∈ previous, rival.kind = before.kind) :
    ∃ again, Reading chars column other again ∧
      again.map (·.relocate (Span.shift count)) = tokens := by
  induction reading generalizing column other with
  | ended blank => exact ⟨[], .ended blank, rfl⟩
  | @token gap lexeme rest start previous pattern tokens blank fits apart others ih =>
    subst here
    let retold := tokenAt (column + byteLength gap) pattern lexeme
    have told : retold.relocate (Span.shift count) =
        tokenAt (column + count + byteLength gap) pattern lexeme := by
      rw [relocate_tokenAt, Nat.add_right_comm]
    have further : column + count + byteLength gap + byteLength lexeme =
        column + byteLength gap + byteLength lexeme + count := by omega
    have kinds : ∀ before ∈ some retold,
        ∃ rival ∈ some (tokenAt (column + count + byteLength gap) pattern lexeme),
          rival.kind = before.kind := by
      rintro _ ⟨⟩
      exact ⟨_, rfl, rfl⟩
    obtain ⟨again, reread, same⟩ := ih further kinds
    refine ⟨retold :: again, .token blank fits (fun number close before among => ?_) reread, ?_⟩
    · obtain ⟨rival, present, kind⟩ := alike before among
      rw [← kind]
      exact apart number close rival present
    · rw [List.map_cons, told, same]

theorem Reading.suffix {front rest : List Token}
    (reading : Reading chars column previous (front ++ rest)) : ∃ before after last,
      chars = before ++ after ∧ Reading after (column + byteLength before) last rest := by
  induction front generalizing chars column previous with
  | nil => exact ⟨[], chars, previous, rfl, reading⟩
  | cons token front ih =>
    cases reading with
    | @token gap lexeme chars _ _ pattern _ blank fits apart others =>
      obtain ⟨before, after, last, rfl, reread⟩ := ih others
      refine ⟨gap ++ (lexeme ++ before), after, last, by simp, ?_⟩
      rwa [Text.byteLength_append, Text.byteLength_append, ← Nat.add_assoc, ← Nat.add_assoc]

/-- A text that begins with a token might begin a line. -/
theorem Reading.trim {token : Token} (reading : Reading chars column previous (token :: tokens)) :
    ∃ gap after past, chars = gap ++ after ∧ token.span = .columns (column + byteLength gap) past ∧
      Reading after (column + byteLength gap) none (token :: tokens) := by
  cases reading with
  | @token gap lexeme rest _ _ pattern _ blank fits apart others =>
    have close : Blank [] := nofun
    have free : ∀ before ∈ (none : Option Token), before.kind.isArithmetic = false := nofun
    exact ⟨gap, lexeme ++ rest, _, rfl, rfl, .token close fits (fun _ _ => free) others⟩

theorem Reading.cut {token : Token} {back : List Token}
    (reading : Reading chars column previous (token :: (tokens ++ back))) : ∃ text after first,
      chars = text ++ after ∧ Reading text column previous (token :: tokens) ∧
        (tokens.getLastD token).span = .columns first (column + byteLength text) := by
  induction tokens generalizing chars column previous token with
  | nil =>
    cases reading with
    | @token gap lexeme rest _ _ pattern _ blank fits apart others =>
      have alone : Pattern.first? (lexeme ++ []) = some (pattern, lexeme.length) := by
        rw [List.append_nil]
        exact Pattern.first?_alone fits others.followed
      have reread := Reading.token blank alone apart (.ended nofun)
      rw [List.append_nil] at reread
      refine ⟨gap ++ lexeme, rest, column + byteLength gap, by simp, reread, ?_⟩
      rw [Text.byteLength_append, ← Nat.add_assoc]
      rfl
  | cons next tokens ih =>
    cases reading with
    | @token gap lexeme rest _ _ pattern _ blank fits apart others =>
      obtain ⟨text, after, first, rfl, reread, last⟩ := ih others
      have short := Pattern.first?_cut fits others.followed
      refine ⟨gap ++ (lexeme ++ text), after, first, by simp, .token blank short apart reread, ?_⟩
      rw [List.getLastD_cons, last, Text.byteLength_append, Text.byteLength_append, ← Nat.add_assoc,
        ← Nat.add_assoc]

theorem Reading.filled {token : Token} (reading : Reading chars column previous (token :: tokens)) :
    chars ≠ [] := by
  cases reading with
  | token blank fits =>
    have lexeme := (begins_of_fits fits).1
    exact List.append_ne_nil_of_right_ne_nil _ (List.append_ne_nil_of_left_ne_nil lexeme _)

end Lexer

open Lexer

/-- The text from the first to the last of some tokens in a row is read as these tokens. -/
theorem tokenize_segment {line : String} {front middle back : List Token}
    (read : tokenize line = .ok (front ++ (middle ++ back))) (filled : middle ≠ []) :
    ∃ first past text again, Token.coveringSpan middle = .columns first past ∧ first < past ∧
      Text.Slice line first past text ∧ tokenize text = .ok again ∧
        again.map (·.relocate (Span.shift first)) = middle := by
  obtain ⟨token, tokens, rfl⟩ := List.exists_cons_of_ne_nil filled
  obtain ⟨before, rest, last, split, behind⟩ := (tokenize_iff.mp read).suffix
  obtain ⟨gap, rest, stop, rfl, begins, trimmed⟩ := behind.trim
  obtain ⟨text, after, start, rfl, reading, ends⟩ := trimmed.cut
  have whole : line.toList = (before ++ gap) ++ (text ++ after) := by simpa using split
  have slice := Text.slice_of_split whole
  rw [Text.byteLength_append] at slice
  rw [Nat.zero_add] at reading ends begins
  have free : ∀ before ∈ (none : Option Token), ∃ rival ∈ (none : Option Token),
      rival.kind = before.kind := nofun
  obtain ⟨again, reread, same⟩ := reading.unshift (Nat.zero_add _).symm free
  rw [← String.toList_ofList (l := text)] at reread
  refine ⟨_, _, _, again, ?_, ?_, slice, tokenize_iff.mpr reread, same⟩
  · rw [Token.coveringSpan_cons, begins, ends]
    rfl
  · exact Nat.lt_add_of_pos_right (byteLength_pos reading.filled)

end LineLisp
