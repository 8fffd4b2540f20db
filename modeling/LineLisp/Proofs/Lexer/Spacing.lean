import LineLisp.Proofs.Lexer.Coverage
import LineLisp.Proofs.Number

/-! Spacing does not matter.
The lexemes of a line, written anew with blanks between them, are read as the
same tokens. -/
namespace LineLisp

theorem TokenKind.Spells.same_self {kind : TokenKind} {lexeme : List Char}
    (spells : kind.Spells lexeme) : kind.same kind = true := by
  cases kind with
  | number value =>
    obtain ⟨-, rfl⟩ := spells
    exact Number.ofNumeral_beq_self lexeme
  | _ => simp [TokenKind.same]

namespace Lexer

open Text (byteLength)

theorem blank_toList {gap : String} (blank : Text.isBlankLine gap = true) : Blank gap.toList := by
  simpa [Text.isBlankLine, Blank] using blank

theorem parted_of_blank {gap : List Char} (blank : Blank gap) (filled : gap ≠ []) (rest : List Char) :
    Pattern.Parted (gap ++ rest) := by
  obtain ⟨c, more, rfl⟩ := List.exists_cons_of_ne_nil filled
  intro d first
  cases first
  exact blank c (by simp)

theorem parted_weave {gaps : List String} {tokens : List Token} {trail : String}
    (blanks : ∀ gap ∈ gaps, Text.isBlankLine gap = true) (apart : ∀ gap ∈ gaps, gap ≠ "")
    (trailing : Text.isBlankLine trail = true) :
    Pattern.Parted (Token.weave gaps tokens trail).toList := by
  have ended : Pattern.Parted trail.toList :=
    fun c first => blank_toList trailing c (List.mem_of_head? first)
  cases gaps with
  | nil => exact ended
  | cons gap gaps =>
    cases tokens with
    | nil => exact ended
    | cons token tokens =>
      have filled : gap.toList ≠ [] := by simpa using apart gap (by simp)
      rw [Token.weave, String.toList_append]
      exact parted_of_blank (blank_toList (blanks gap (by simp))) filled _

theorem reading_weave {gaps : List String} {tokens : List Token} {trail : String}
    {previous : Option Token} (alone : ∀ token ∈ tokens, Alone token)
    (counted : gaps.length = tokens.length) (blanks : ∀ gap ∈ gaps, Text.isBlankLine gap = true)
    (trailing : Text.isBlankLine trail = true) (apart : ∀ gap ∈ gaps.tail, gap ≠ "")
    (free : previous ≠ none → ∀ gap ∈ gaps.head?, gap ≠ "") (column : Nat) :
    ∃ again, Reading (Token.weave gaps tokens trail).toList column previous again ∧
      Token.sameAll tokens again = true := by
  induction tokens generalizing gaps previous column with
  | nil =>
    obtain rfl := List.eq_nil_of_length_eq_zero counted
    exact ⟨[], .ended (blank_toList trailing), rfl⟩
  | cons token tokens ih =>
    cases gaps with
    | nil => cases counted
    | cons gap gaps =>
      obtain ⟨pattern, whole, kind⟩ := alone token (by simp)
      have parted : Pattern.Parted (Token.weave gaps tokens trail).toList :=
        parted_weave (fun gap member => blanks gap (by simp [member])) apart trailing
      have fits := Pattern.first?_parted whole parted
      let retold := tokenAt (column + byteLength gap.toList) pattern token.lexeme.toList
      obtain ⟨again, others, same⟩ := ih (fun token member => alone token (by simp [member]))
        (Nat.succ.inj counted) (fun gap member => blanks gap (by simp [member]))
        (fun gap member => apart gap (List.mem_of_mem_tail member))
        (fun (_ : some retold ≠ none) gap first => apart gap (List.mem_of_head? first))
        (column + byteLength gap.toList + byteLength token.lexeme.toList)
      -- Only before the first lexeme may the blank be missing, and no token is before that.
      have unglued : retold.number? ≠ none → gap.toList = [] →
          ∀ before ∈ previous, before.kind.isArithmetic = false := by
        intro _ close before same
        have parting := free (by simp [Option.mem_def.mp same]) gap rfl
        exact absurd (String.toList_eq_nil_iff.mp close) parting
      refine ⟨retold :: again, ?_, ?_⟩
      · rw [Token.weave, String.toList_append, String.toList_append]
        exact .token (blank_toList (blanks gap (by simp))) fits unglued others
      · have alike : token.same retold = true := by
          simp only [Token.same, retold, tokenAt, String.ofList_toList, beq_self_eq_true,
            Bool.and_true, ← kind]
          exact (alone token (by simp)).spells.same_self
        rw [Token.sameAll, alike, same]
        rfl

theorem Reading.blank {chars : List Char} {column : Nat} {previous : Option Token}
    (reading : Reading chars column previous []) : Blank chars := by
  cases reading with
  | ended blank => exact blank

end Lexer

/-- There are no tokens on a blank line, and on no other. -/
theorem tokenize_eq_nil_iff (line : String) :
    tokenize line = .ok [] ↔ Text.isBlankLine line = true := by
  rw [tokenize_iff]
  constructor
  · intro reading
    have shown := Lexer.isBlankLine_ofList reading.blank
    rwa [String.ofList_toList] at shown
  · intro blank
    exact .ended (Lexer.blank_toList blank)

/-- The lexemes of a line are read as the same tokens with any blanks between them. -/
theorem tokenize_weave {line : String} {tokens : List Token} (read : tokenize line = .ok tokens)
    {gaps : List String} {trail : String} (counted : gaps.length = tokens.length)
    (blanks : ∀ gap ∈ gaps, Text.isBlankLine gap = true) (apart : ∀ gap ∈ gaps.tail, gap ≠ "")
    (trailing : Text.isBlankLine trail = true) :
    ∃ again, tokenize (Token.weave gaps tokens trail) = .ok again ∧
      Token.sameAll tokens again = true := by
  have rewritten : ∃ again, Lexer.Reading _ 0 none again ∧ _ :=
    Lexer.reading_weave (tokenize_iff.mp read).alone counted blanks trailing apart
      (fun some => absurd rfl some) 0
  obtain ⟨again, reading, same⟩ := rewritten
  exact ⟨again, tokenize_iff.mpr reading, same⟩

theorem tokenize_weave_glued :
    let tokens : List Token := [
      ⟨.leftParen, "(", .columns 0 1⟩, ⟨.operator .greaterEqual, ">=", .columns 1 3⟩,
      ⟨.number (Number.ofNumeral ['0']), "0", .columns 3 4⟩,
      ⟨.number (Number.ofNumeral ['5']), "5", .columns 4 5⟩, ⟨.rightParen, ")", .columns 5 6⟩]
    let gaps := ["", "\u3000", "  ", " ", "\n"]
    tokenize "(>=05)" = .ok tokens ∧ gaps.length = tokens.length ∧
      (∀ gap ∈ gaps, Text.isBlankLine gap = true) ∧ (∀ gap ∈ gaps.tail, gap ≠ "") ∧
      Text.isBlankLine "\t" = true ∧ Token.weave gaps tokens "\t" = "(\u3000>=  0 5\n)\t" ∧
      ∃ again, tokenize "(\u3000>=  0 5\n)\t" = .ok again ∧
        Token.sameAll tokens again = true := by
  intro tokens gaps
  have read : tokenize "(>=05)" = .ok tokens := by decide +kernel
  have counted : gaps.length = tokens.length := rfl
  have blanks : ∀ gap ∈ gaps, Text.isBlankLine gap = true := by decide
  have apart : ∀ gap ∈ gaps.tail, gap ≠ "" := by decide
  have trailing : Text.isBlankLine "\t" = true := by decide
  have written : Token.weave gaps tokens "\t" = "(\u3000>=  0 5\n)\t" := by decide +kernel
  obtain ⟨again, rewritten, same⟩ := tokenize_weave read counted blanks apart trailing
  rw [written] at rewritten
  exact ⟨read, counted, blanks, apart, trailing, written, again, rewritten, same⟩

end LineLisp
