import LineLisp.Proofs.Lexer
import LineLisp.Proofs.Text.Slice

/-! Nothing of a line is lost.
Every token stands in the line at its span, and what stands before, between and
behind the tokens are blanks. -/
namespace LineLisp

namespace Token

structure Stands (line : String) (token : Token) (first past : Nat) : Prop where
  span : token.span = .columns first past
  filled : first < past
  slice : Text.Slice line first past token.lexeme

inductive Cover (line : String) : Nat → List Token → Prop
  | ended {column gap} (rest : Text.Slice line column line.utf8ByteSize gap)
    (blank : Text.isBlankLine gap = true) : Cover line column []
  | token {column first past gap token tokens} (before : Text.Slice line column first gap)
    (blank : Text.isBlankLine gap = true) (stands : Stands line token first past)
    (others : Cover line past tokens) : Cover line column (token :: tokens)

def weave : List String → List Token → String → String
  | gap :: gaps, token :: tokens, trail => gap ++ (token.lexeme ++ weave gaps tokens trail)
  | _, _, trail => trail

inductive Joins : List Token → String → Prop
  | last {token} : Joins [token] token.lexeme
  | more {token next tokens gap text} (blank : Text.isBlankLine gap = true)
    (rest : Joins (next :: tokens) text) :
    Joins (token :: next :: tokens) (token.lexeme ++ (gap ++ text))

theorem coveringSpan_cons (token : Token) (tokens : List Token) :
    coveringSpan (token :: tokens) = token.span.till (tokens.getLastD token).span := by
  cases tokens with
  | nil => rfl
  | cons other rest =>
    simp [coveringSpan, Span.covering, List.getLastD_eq_getLast?, List.getLast?_cons]

theorem Joins.begins {token : Token} {tokens : List Token} {text : String}
    (joins : Joins (token :: tokens) text) : ∃ rest, text = token.lexeme ++ rest := by
  cases joins with
  | last => exact ⟨"", String.append_empty.symm⟩
  | more => exact ⟨_, rfl⟩

theorem Cover.suffix {line : String} {column : Nat} {front rest : List Token}
    (cover : Cover line column (front ++ rest)) : ∃ start, Cover line start rest := by
  induction front generalizing column with
  | nil => exact ⟨column, cover⟩
  | cons token front ih =>
    cases cover with
    | token _ _ _ others => exact ih others

/-- From the first to the last of some tokens in a row the line holds them joined. -/
theorem Cover.joins {line : String} {column : Nat} {token : Token} {tokens back : List Token}
    (cover : Cover line column (token :: (tokens ++ back))) : ∃ first stop start past text,
      token.span = .columns first stop ∧ (tokens.getLastD token).span = .columns start past ∧
        first < past ∧ Text.Slice line first past text ∧ Joins (token :: tokens) text := by
  induction tokens generalizing column token with
  | nil =>
    cases cover with
    | @token column first past gap token tokens before blank stands others =>
      exact ⟨first, past, first, past, _, stands.span, stands.span, stands.filled, stands.slice, .last⟩
  | cons next tokens ih =>
    cases cover with
    | @token column first stop gap token _ before blank stands others =>
      obtain ⟨second, _, start, past, text, span, last, filled, slice, joins⟩ := ih others
      cases others with
      | token between spaces follows =>
        cases span.symm.trans follows.span
        have taken := stands.filled
        have ahead := between.ordered
        refine ⟨first, stop, start, past, _, stands.span, ?_, by omega,
          stands.slice.append (between.append slice), .more spaces joins⟩
        rw [List.getLastD_cons, last]

end Token

namespace Lexer

open Text (byteLength)

theorem isBlankLine_ofList {gap : List Char} (blank : Blank gap) :
    Text.isBlankLine (String.ofList gap) = true := by
  simpa [Text.isBlankLine, Blank] using blank

theorem byteLength_pos {text : List Char} (filled : text ≠ []) : 0 < byteLength text := by
  obtain ⟨c, rest, rfl⟩ := List.exists_cons_of_ne_nil filled
  have positive : 0 < c.utf8Size := c.utf8Size_pos
  change 0 < c.utf8Size + byteLength rest
  omega

variable {chars : List Char} {column : Nat} {previous : Option Token} {tokens : List Token}

theorem Reading.cover (reading : Reading chars column previous tokens) {line : String}
    {consumed : List Char} (split : line.toList = consumed ++ chars)
    (here : column = byteLength consumed) : Token.Cover line column tokens := by
  induction reading generalizing consumed with
  | @ended gap column previous blank =>
    subst here
    have all : line.utf8ByteSize = byteLength consumed + byteLength gap := by
      rw [← Text.byteLength_append, ← split, ← Text.utf8ByteSize_ofList, String.ofList_toList]
    have padded : line.toList = consumed ++ (gap ++ []) := by rw [List.append_nil, split]
    have rest := Text.slice_of_split padded
    rw [← all] at rest
    exact .ended rest (isBlankLine_ofList blank)
  | @token gap lexeme rest column previous pattern tokens blank fits apart others ih =>
    subst here
    have positive := byteLength_pos (begins_of_fits fits).1
    have before := Text.slice_of_split split
    have behind : line.toList = (consumed ++ gap) ++ (lexeme ++ rest) := by simpa using split
    have own := Text.slice_of_split behind
    rw [Text.byteLength_append] at own
    have others : line.toList = (consumed ++ gap ++ lexeme) ++ rest := by simpa using split
    refine .token before (isBlankLine_ofList blank) ⟨rfl, by omega, own⟩ (ih others ?_)
    rw [Text.byteLength_append, Text.byteLength_append]

theorem Reading.weave (reading : Reading chars column previous tokens) :
    ∃ gaps trail, gaps.length = tokens.length ∧ (∀ gap ∈ gaps, Text.isBlankLine gap = true) ∧
      Text.isBlankLine trail = true ∧ String.ofList chars = Token.weave gaps tokens trail := by
  induction reading with
  | ended blank => exact ⟨[], _, rfl, nofun, isBlankLine_ofList blank, rfl⟩
  | @token gap lexeme rest column previous pattern tokens blank fits apart others ih =>
    obtain ⟨gaps, trail, counted, blanks, trailing, woven⟩ := ih
    refine ⟨String.ofList gap :: gaps, trail, by simp [counted], ?_, trailing, ?_⟩
    · intro other member
      rcases List.mem_cons.mp member with rfl | inside
      · exact isBlankLine_ofList blank
      · exact blanks other inside
    · rw [String.ofList_append, String.ofList_append, woven]
      rfl

end Lexer

theorem cover_of_tokenize {line : String} {tokens : List Token} (read : tokenize line = .ok tokens) :
    Token.Cover line 0 tokens :=
  have whole : line.toList = [] ++ line.toList := rfl
  (tokenize_iff.mp read).cover whole rfl

/-- The tokens of a line cover it but for blanks. -/
theorem tokenize_covers {line : String} {tokens : List Token} (read : tokenize line = .ok tokens) :
    Token.Cover line 0 tokens ∧ ∃ gaps trail, gaps.length = tokens.length ∧
      (∀ gap ∈ gaps, Text.isBlankLine gap = true) ∧ Text.isBlankLine trail = true ∧
      line = Token.weave gaps tokens trail := by
  obtain ⟨gaps, trail, counted, blanks, trailing, woven⟩ := (tokenize_iff.mp read).weave
  rw [String.ofList_toList] at woven
  exact ⟨cover_of_tokenize read, gaps, trail, counted, blanks, trailing, woven⟩

theorem tokenize_covers_wide : ∃ tokens, tokenize "\u3000(f 05)\u2028" = .ok tokens ∧
    tokens.map (·.span) = [.columns 3 4, .columns 4 5, .columns 6 7, .columns 7 8, .columns 8 9] ∧
    Token.Cover "\u3000(f 05)\u2028" 0 tokens := by
  have read : tokenize "\u3000(f 05)\u2028" = .ok [
      ⟨.leftParen, "(", .columns 3 4⟩, ⟨.name, "f", .columns 4 5⟩,
      ⟨.number (Number.ofNumeral ['0']), "0", .columns 6 7⟩,
      ⟨.number (Number.ofNumeral ['5']), "5", .columns 7 8⟩, ⟨.rightParen, ")", .columns 8 9⟩] := by
    decide +kernel
  exact ⟨_, read, rfl, (tokenize_covers read).1⟩

end LineLisp
