import LineLisp.Proofs.Lexer.Coverage

/-! Where a line cannot be read.
The text that an error of the lexer tells stands in the line at the error's
place. -/
namespace LineLisp

open Text (byteLength)

namespace Span

def Shows (line : String) (span : Span) (text : String) : Prop :=
  ∃ first past, span = columns first past ∧ first < past ∧ Text.Slice line first past text

theorem shows_of_split {line : String} {before part after : List Char} {first past : Nat}
    (split : line.toList = before ++ (part ++ after)) (filled : part ≠ [])
    (begins : first = byteLength before) (ends : past = first + byteLength part) :
    (columns first past).Shows line (String.ofList part) := by
  subst begins ends
  exact ⟨_, _, rfl, Nat.lt_add_of_pos_right (Lexer.byteLength_pos filled), Text.slice_of_split split⟩

end Span

def LexError.span : LexError → Span
  | invalidToken _ span => span
  | gluedNumber _ span => span

inductive LexError.Quotes (line : String) : LexError → String → Prop
  | invalidToken {front remainder span} (suffix : line = front ++ remainder)
    (begins : span.start? = some front.utf8ByteSize) :
    Quotes line (.invalidToken remainder span) remainder
  | gluedNumber {lexeme span} : Quotes line (.gluedNumber lexeme span) lexeme

def LexError.Located (line : String) (err : LexError) : Prop :=
  ∃ text, err.span.Shows line text ∧ err.Quotes line text

namespace Lexer

def Closes (consumed : List Char) (token : Token) : Prop :=
  ∃ front, consumed = front ++ token.lexeme.toList ∧
    token.span = .columns (byteLength front) (byteLength consumed)

variable {line : String} {consumed gap text lexeme rest : List Char}

theorem located_unfit (split : line.toList = consumed ++ (gap ++ text)) (filled : text ≠ []) :
    (LexError.invalidToken (String.ofList text) (.columns (byteLength consumed + byteLength gap)
      (byteLength consumed + byteLength gap + byteLength text))).Located line := by
  have behind : line.toList = (consumed ++ gap) ++ (text ++ []) := by simpa using split
  have begins := Text.byteLength_append consumed gap
  have suffix : line = String.ofList (consumed ++ gap) ++ String.ofList text := by
    rw [← String.ofList_append, ← String.ofList_toList (s := line), behind, List.append_nil]
  refine ⟨_, Span.shows_of_split behind filled begins.symm rfl, .invalidToken suffix ?_⟩
  rw [Text.utf8ByteSize_ofList, begins]
  rfl

theorem located_glued {before : Token} (behind : Closes consumed before)
    (split : line.toList = consumed ++ (lexeme ++ rest)) (filled : lexeme ≠ [])
    (pattern : Pattern) : (LexError.gluedNumber (before.lexeme ++ String.ofList lexeme)
      (before.span.till (tokenAt (byteLength consumed) pattern lexeme).span)).Located line := by
  obtain ⟨front, rfl, span⟩ := behind
  have both : line.toList = front ++ ((before.lexeme.toList ++ lexeme) ++ rest) := by
    simpa using split
  have shows := Span.shows_of_split both (List.append_ne_nil_of_right_ne_nil _ filled) rfl rfl
  rw [String.ofList_append, String.ofList_toList] at shows
  have joined : before.span.till
      (tokenAt (byteLength (front ++ before.lexeme.toList)) pattern lexeme).span = .columns
        (byteLength front) (byteLength front + byteLength (before.lexeme.toList ++ lexeme)) := by
    rw [span, tokenAt]
    simp only [Span.till, Text.byteLength_append, Nat.add_assoc]
  refine ⟨_, ?_, .gluedNumber⟩
  rw [LexError.span, joined]
  exact shows

theorem closes_tokenAt (pattern : Pattern) : Closes ((consumed ++ gap) ++ lexeme)
    (tokenAt (byteLength consumed + byteLength gap) pattern lexeme) := by
  refine ⟨consumed ++ gap, ?_, ?_⟩
  · rw [tokenAt, String.toList_ofList]
  · rw [Text.byteLength_append _ lexeme, Text.byteLength_append consumed gap]
    rfl

/-- What a lexer has passed over is in the line, with the previous token at its end. -/
theorem scan_located {lexer : Lexer} {err : LexError} (failed : lexer.scan.failure = some err)
    (split : line.toList = consumed ++ lexer.rest) (here : lexer.column = byteLength consumed)
    (behind : ∀ before ∈ lexer.previous, Closes consumed before) : err.Located line := by
  induction size : lexer.rest.length using Nat.strong_induction_on generalizing lexer consumed with
  | _ n ih =>
    have step := lexer.next_step
    generalize told : lexer.next = pair at step
    obtain ⟨result, after⟩ := pair
    cases step with
    | ended blank =>
      rw [scan_ended told rfl] at failed
      cases failed
    | @unfit gap text column previous blank begins filled =>
      rw [scan_failed told] at failed
      cases failed
      obtain rfl : column = byteLength consumed := here
      exact located_unfit split filled
    | @glued lexeme rest column before pattern fits =>
      rw [scan_failed told] at failed
      cases failed
      obtain rfl : column = byteLength consumed := here
      exact located_glued (behind _ rfl) split (begins_of_fits fits).1 _
    | @token gap lexeme rest column previous pattern blank fits apart =>
      have more : (tokenAt (column + byteLength gap) pattern lexeme).kind ≠ .endOfLine :=
        kind_ne_endOfLine fits
      have shorter := length_next told more
      rw [scan_token told more] at failed
      obtain rfl : column = byteLength consumed := here
      have passed : byteLength ((consumed ++ gap) ++ lexeme) =
          byteLength consumed + byteLength gap + byteLength lexeme := by
        rw [Text.byteLength_append, Text.byteLength_append]
      refine ih _ (by omega) failed (by simpa using split) passed.symm ?_ rfl
      rintro _ ⟨⟩
      exact closes_tokenAt pattern

end Lexer

theorem tokenize_located {line : String} {err : LexError} (failed : tokenize line = .error err) :
    err.Located line := by
  have whole : line.toList = [] ++ (Lexer.ofLine line).rest := rfl
  exact Lexer.scan_located (tokenize_eq_error.mp failed) whole rfl nofun

end LineLisp
