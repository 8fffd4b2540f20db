import LineLisp.Proofs.Pattern.Alone
import LineLisp.Proofs.Pattern.Kind
import LineLisp.Token.Lexer

/-! Reading tokens, said without counting characters.
`Step` tells the four ways in which reading a token goes, by the texts that are
passed over and taken; `Reading` tells how a line of tokens is read. Each of them
is `Alone`: its lexeme gives it without the rest of the line. -/
namespace LineLisp

namespace Lexer

open Text (byteLength)

def Blank (gap : List Char) : Prop :=
  ∀ c ∈ gap, Text.isBlank c = true

def Begins (text : List Char) : Prop :=
  ∀ c ∈ text.head?, Text.isBlank c = false

def tokenAt (column : Nat) (pattern : Pattern) (lexeme : List Char) : Token where
  kind := pattern.kind lexeme
  lexeme := String.ofList lexeme
  span := .columns column (column + byteLength lexeme)

inductive Step : Lexer → Except LexError Token → Lexer → Prop
  | ended {gap column previous} (blank : Blank gap) :
    Step ⟨gap, column, previous⟩
      (.ok (Lexer.endToken ⟨[], column + byteLength gap, previous⟩))
      ⟨[], column + byteLength gap, previous⟩
  | unfit {gap text column previous} (blank : Blank gap) (begins : Begins text) (filled : text ≠ [])
    (unfit : Pattern.first? text = none) :
    Step ⟨gap ++ text, column, previous⟩
      (.error (.invalidToken (String.ofList text)
        (.columns (column + byteLength gap) (column + byteLength gap + byteLength text))))
      ⟨text, column + byteLength gap, previous⟩
  | glued {lexeme rest column before pattern}
    (fits : Pattern.first? (lexeme ++ rest) = some (pattern, lexeme.length))
    (number : (tokenAt column pattern lexeme).number? ≠ none)
    (arithmetic : before.kind.isArithmetic = true) :
    Step ⟨lexeme ++ rest, column, some before⟩
      (.error (.gluedNumber (before.lexeme ++ String.ofList lexeme)
        (before.span.till (tokenAt column pattern lexeme).span)))
      ⟨rest, column + byteLength lexeme, some before⟩
  | token {gap lexeme rest column previous pattern} (blank : Blank gap)
    (fits : Pattern.first? (lexeme ++ rest) = some (pattern, lexeme.length))
    (apart : (tokenAt (column + byteLength gap) pattern lexeme).number? ≠ none → gap = [] →
      ∀ before ∈ previous, before.kind.isArithmetic = false) :
    Step ⟨gap ++ (lexeme ++ rest), column, previous⟩
      (.ok (tokenAt (column + byteLength gap) pattern lexeme))
      ⟨rest, column + byteLength gap + byteLength lexeme,
        some (tokenAt (column + byteLength gap) pattern lexeme)⟩

inductive Reading : List Char → Nat → Option Token → List Token → Prop
  | ended {gap column previous} (blank : Blank gap) : Reading gap column previous []
  | token {gap lexeme rest column previous pattern tokens} (blank : Blank gap)
    (fits : Pattern.first? (lexeme ++ rest) = some (pattern, lexeme.length))
    (apart : (tokenAt (column + byteLength gap) pattern lexeme).number? ≠ none → gap = [] →
      ∀ before ∈ previous, before.kind.isArithmetic = false)
    (others : Reading rest (column + byteLength gap + byteLength lexeme)
      (some (tokenAt (column + byteLength gap) pattern lexeme)) tokens) :
    Reading (gap ++ (lexeme ++ rest)) column previous
      (tokenAt (column + byteLength gap) pattern lexeme :: tokens)

variable {gap text lexeme rest : List Char} {column : Nat} {previous : Option Token}
  {pattern : Pattern}

theorem begins_of_fits (fits : Pattern.first? (lexeme ++ rest) = some (pattern, lexeme.length)) :
    lexeme ≠ [] ∧ Begins (lexeme ++ rest) := by
  have positive := Pattern.first?_pos fits
  obtain ⟨listed, accepts⟩ := Pattern.first?_accepts fits
  cases lexeme with
  | nil => cases positive
  | cons c more =>
    refine ⟨by simp, ?_⟩
    intro first same
    cases same
    rw [Bool.eq_false_iff]
    intro blank
    have visible := Pattern.isVisible_of_accepts listed accepts (c := c) (by simp)
    rw [Text.isVisible_of_isBlank blank] at visible
    cases visible

theorem kind_ne_endOfLine
    (fits : Pattern.first? (lexeme ++ rest) = some (pattern, lexeme.length)) :
    pattern.kind lexeme ≠ .endOfLine := by
  obtain ⟨listed, accepts⟩ := Pattern.first?_accepts fits
  intro ended
  have spells := Pattern.kind_spells listed accepts
  rw [ended] at spells
  cases spells

theorem takeWhile_blank (blank : Blank gap) (begins : Begins text) :
    (gap ++ text).takeWhile Text.isBlank = gap :=
  takeWhile_append blank begins

theorem blankCount_eq (blank : Blank gap) (begins : Begins text) :
    (⟨gap ++ text, column, previous⟩ : Lexer).blankCount = gap.length := by
  rw [blankCount, takeWhile_blank blank begins]

theorem advance_eq : (⟨lexeme ++ rest, column, previous⟩ : Lexer).advance lexeme.length =
    ⟨rest, column + byteLength lexeme, previous⟩ := by
  simp [advance]

theorem skipBlanks_eq (blank : Blank gap) (begins : Begins text) :
    (⟨gap ++ text, column, previous⟩ : Lexer).skipBlanks =
      ⟨text, column + byteLength gap, previous⟩ := by
  rw [skipBlanks, blankCount_eq blank begins, advance_eq]

theorem token?_eq (fits : Pattern.first? (lexeme ++ rest) = some (pattern, lexeme.length)) :
    (⟨lexeme ++ rest, column, previous⟩ : Lexer).token? pattern lexeme.length =
      some (tokenAt column pattern lexeme) := by
  have kind := Pattern.kind?_eq (Pattern.first?_accepts fits).2
  simp [Lexer.token?, tokenAt, kind]

/-- A number is held against the token before it only if there is no blank between them. -/
theorem gluedTo?_eq_some (blank : Blank gap) (begins : Begins text) {token before : Token} :
    (⟨gap ++ text, column, previous⟩ : Lexer).gluedTo? token = some before ↔
      token.number? ≠ none ∧ gap = [] ∧ previous = some before ∧
        before.kind.isArithmetic = true := by
  unfold gluedTo?
  cases token.number? with
  | none => simp
  | some value =>
    simp only [blankCount_eq blank begins, List.length_eq_zero_iff]
    by_cases close : gap = []
    · simp [close, Option.filter_eq_some_iff]
    · simp [close]

theorem next_ended (blank : Blank gap) : (⟨gap, column, previous⟩ : Lexer).next =
    (.ok (Lexer.endToken ⟨[], column + byteLength gap, previous⟩),
      ⟨[], column + byteLength gap, previous⟩) := by
  have skipped : (⟨gap ++ [], column, previous⟩ : Lexer).skipBlanks = _ := skipBlanks_eq blank nofun
  rw [List.append_nil] at skipped
  unfold next
  rw [skipped]
  rfl

theorem next_unfit (blank : Blank gap) (begins : Begins text) (filled : text ≠ [])
    (unfit : Pattern.first? text = none) : (⟨gap ++ text, column, previous⟩ : Lexer).next =
      (.error (.invalidToken (String.ofList text)
        (.columns (column + byteLength gap) (column + byteLength gap + byteLength text))),
        ⟨text, column + byteLength gap, previous⟩) := by
  unfold next
  rw [skipBlanks_eq blank begins]
  simp only [List.isEmpty_iff, filled, if_false, unfit]
  rfl

theorem next_taken (blank : Blank gap)
    (fits : Pattern.first? (lexeme ++ rest) = some (pattern, lexeme.length)) :
    (⟨gap ++ (lexeme ++ rest), column, previous⟩ : Lexer).next =
      match (⟨gap ++ (lexeme ++ rest), column, previous⟩ : Lexer).gluedTo?
        (tokenAt (column + byteLength gap) pattern lexeme) with
      | some before =>
        (.error (.gluedNumber (before.lexeme ++ String.ofList lexeme)
          (before.span.till (tokenAt (column + byteLength gap) pattern lexeme).span)),
          ⟨rest, column + byteLength gap + byteLength lexeme, previous⟩)
      | none =>
        (.ok (tokenAt (column + byteLength gap) pattern lexeme),
          ⟨rest, column + byteLength gap + byteLength lexeme,
            some (tokenAt (column + byteLength gap) pattern lexeme)⟩) := by
  have filled : lexeme ++ rest ≠ [] := List.append_ne_nil_of_left_ne_nil (begins_of_fits fits).1 rest
  unfold next
  rw [skipBlanks_eq blank (begins_of_fits fits).2]
  simp only [List.isEmpty_iff, filled, if_false, fits, token?_eq fits, advance_eq]
  rfl

theorem Step.next_eq {lexer after : Lexer} {result : Except LexError Token}
    (step : Step lexer result after) : lexer.next = (result, after) := by
  cases step with
  | ended blank => exact next_ended blank
  | unfit blank begins filled unfit => exact next_unfit blank begins filled unfit
  | @glued lexeme rest column before pattern fits number arithmetic =>
    have close : Blank [] := nofun
    have glued : (⟨[] ++ (lexeme ++ rest), column, some before⟩ : Lexer).gluedTo?
        (tokenAt (column + byteLength []) pattern lexeme) = some before :=
      (gluedTo?_eq_some close (begins_of_fits fits).2).mpr ⟨number, rfl, rfl, arithmetic⟩
    have taken : (⟨[] ++ (lexeme ++ rest), column, some before⟩ : Lexer).next = _ :=
      next_taken close fits
    rw [glued] at taken
    exact taken
  | @token gap lexeme rest column previous pattern blank fits apart =>
    have unglued : (⟨gap ++ (lexeme ++ rest), column, previous⟩ : Lexer).gluedTo?
        (tokenAt (column + byteLength gap) pattern lexeme) = none := by
      rw [Option.eq_none_iff_forall_ne_some]
      intro before glued
      obtain ⟨number, close, same, arithmetic⟩ := (gluedTo?_eq_some blank (begins_of_fits fits).2).mp glued
      rw [apart number close before same] at arithmetic
      cases arithmetic
    rw [next_taken blank fits, unglued]

theorem next_step (lexer : Lexer) : Step lexer lexer.next.1 lexer.next.2 := by
  obtain ⟨chars, column, previous⟩ := lexer
  have blank : Blank (chars.takeWhile Text.isBlank) := fun c member => List.mem_takeWhile_imp member
  have begins : Begins (chars.dropWhile Text.isBlank) := by
    intro c first
    have stopped := List.head?_dropWhile_not Text.isBlank chars
    rw [first] at stopped
    exact stopped
  rw [← List.takeWhile_append_dropWhile (p := Text.isBlank) (l := chars)]
  generalize chars.takeWhile Text.isBlank = gap at blank
  generalize chars.dropWhile Text.isBlank = text at begins
  by_cases filled : text = []
  · subst filled
    rw [List.append_nil, next_ended blank]
    exact .ended blank
  · cases found : Pattern.first? text with
    | none =>
      rw [next_unfit blank begins filled found]
      exact .unfit blank begins filled found
    | some taken =>
      obtain ⟨pattern, count⟩ := taken
      obtain ⟨-, lexeme, rest, rfl, rfl, -⟩ := Pattern.first?_sound found
      cases glued : (⟨gap ++ (lexeme ++ rest), column, previous⟩ : Lexer).gluedTo?
          (tokenAt (column + byteLength gap) pattern lexeme) with
      | some before =>
        obtain ⟨number, rfl, rfl, arithmetic⟩ := (gluedTo?_eq_some blank begins).mp glued
        rw [next_taken blank found, glued]
        exact .glued found number arithmetic
      | none =>
        rw [next_taken blank found, glued]
        refine .token blank found ?_
        intro number close before same
        rw [Bool.eq_false_iff]
        intro arithmetic
        rw [(gluedTo?_eq_some blank begins).mpr ⟨number, close, same, arithmetic⟩] at glued
        cases glued

theorem scan_eq (lexer : Lexer) : lexer.scan =
    match lexer.next with
    | (.error err, _) => ⟨[], some err⟩
    | (.ok token, after) =>
      if token.kind = .endOfLine then ⟨[], none⟩
      else ⟨token :: after.scan.tokens, after.scan.failure⟩ := by
  rw [scan]
  split
  · rename_i told
    rw [told]
  · rename_i told
    rw [told]
    rfl

theorem scan_ended {lexer after : Lexer} {token : Token} (read : lexer.next = (.ok token, after))
    (last : token.kind = .endOfLine) : lexer.scan = ⟨[], none⟩ := by
  rw [scan_eq, read]
  exact if_pos last

theorem scan_token {lexer after : Lexer} {token : Token} (read : lexer.next = (.ok token, after))
    (more : token.kind ≠ .endOfLine) :
    lexer.scan = ⟨token :: after.scan.tokens, after.scan.failure⟩ := by
  rw [scan_eq, read]
  exact if_neg more

theorem scan_failed {lexer after : Lexer} {err : LexError} (failed : lexer.next = (.error err, after)) :
    lexer.scan = ⟨[], some err⟩ := by
  rw [scan_eq, failed]

theorem reading_of_scan (lexer : Lexer) (clean : lexer.scan.failure = none) :
    Reading lexer.rest lexer.column lexer.previous lexer.scan.tokens := by
  induction size : lexer.rest.length using Nat.strong_induction_on generalizing lexer with
  | _ n ih =>
    have step := lexer.next_step
    generalize told : lexer.next = pair at step
    obtain ⟨result, after⟩ := pair
    cases step with
    | ended blank =>
      rw [scan_ended told rfl]
      exact .ended blank
    | unfit =>
      rw [scan_failed told] at clean
      cases clean
    | glued =>
      rw [scan_failed told] at clean
      cases clean
    | @token gap lexeme rest column previous pattern blank fits apart =>
      have more : (tokenAt (column + byteLength gap) pattern lexeme).kind ≠ .endOfLine :=
        kind_ne_endOfLine fits
      have shorter := length_next told more
      rw [scan_token told more] at clean ⊢
      exact .token blank fits apart (ih _ (by omega) _ clean rfl)

theorem scan_of_reading {chars : List Char} {tokens : List Token}
    (reading : Reading chars column previous tokens) :
    (⟨chars, column, previous⟩ : Lexer).scan = ⟨tokens, none⟩ := by
  induction reading with
  | ended blank => exact scan_ended (Step.ended blank).next_eq rfl
  | token blank fits apart others ih =>
    rw [scan_token (Step.token blank fits apart).next_eq (kind_ne_endOfLine fits), ih]

/-- What is left of a line behind a token begins with nothing that its tokens could not begin with. -/
theorem Reading.followed {chars : List Char} {tokens : List Token}
    (reading : Reading chars column previous tokens) : Pattern.Followed chars := by
  intro c first
  cases reading with
  | ended blank => exact .inl (blank c (List.mem_of_head? first))
  | @token gap lexeme rest column previous pattern tokens blank fits apart others =>
    cases gap with
    | cons d more =>
      cases first
      exact .inl (blank c (by simp))
    | nil =>
      obtain ⟨listed, accepts⟩ := Pattern.first?_accepts fits
      obtain ⟨d, more, rfl⟩ := List.exists_cons_of_ne_nil (begins_of_fits fits).1
      cases first
      exact .inr (Pattern.isVisible_of_accepts listed accepts (by simp))

def Alone (token : Token) : Prop :=
  ∃ pattern, Pattern.first? token.lexeme.toList = some (pattern, token.lexeme.toList.length) ∧
    token.kind = pattern.kind token.lexeme.toList

theorem Alone.spells {token : Token} (alone : Alone token) :
    token.kind.Spells token.lexeme.toList := by
  obtain ⟨pattern, whole, kind⟩ := alone
  rw [← List.append_nil token.lexeme.toList] at whole
  simp only [List.length_append, List.length_nil, Nat.add_zero] at whole
  obtain ⟨listed, accepts⟩ := Pattern.first?_accepts whole
  rw [kind]
  exact Pattern.kind_spells listed accepts

/-- Tokens of a kind with one spelling are spelled so. -/
theorem Alone.lexeme_eq {token : Token} (alone : Alone token) {text : String}
    (spelled : token.kind.spelling? = some text) : token.lexeme = text := by
  have spells := alone.spells
  cases kind : token.kind with
  | number | name =>
    rw [kind] at spelled
    cases spelled
  | _ =>
    rw [kind] at spells spelled
    have same := spelled.symm.trans spells
    rw [String.ofList_toList] at same
    exact (Option.some.inj same).symm

theorem Reading.alone {chars : List Char} {tokens : List Token}
    (reading : Reading chars column previous tokens) : ∀ token ∈ tokens, Alone token := by
  induction reading with
  | ended => exact nofun
  | @token gap lexeme rest column previous pattern tokens blank fits apart others ih =>
    intro token member
    rcases List.mem_cons.mp member with rfl | inside
    · have alone := Pattern.first?_alone fits others.followed
      refine ⟨pattern, ?_, ?_⟩
      · simpa [tokenAt] using alone
      · simp [tokenAt]
    · exact ih token inside

end Lexer

open Lexer

theorem tokenize_scan {line : String} (clean : (Lexer.ofLine line).scan.failure = none) :
    tokenize line = .ok (Lexer.ofLine line).scan.tokens := by
  simp only [tokenize, clean]

theorem tokenize_eq_error {line : String} {err : LexError} :
    tokenize line = .error err ↔ (Lexer.ofLine line).scan.failure = some err := by
  unfold tokenize
  generalize (Lexer.ofLine line).scan = scan
  obtain ⟨read, failure⟩ := scan
  cases failure <;> simp

theorem tokenize_eq_ok {line : String} {tokens : List Token} :
    tokenize line = .ok tokens ↔ (Lexer.ofLine line).scan = ⟨tokens, none⟩ := by
  unfold tokenize
  generalize (Lexer.ofLine line).scan = scan
  obtain ⟨read, failure⟩ := scan
  cases failure <;> simp

theorem tokenize_iff {line : String} {tokens : List Token} :
    tokenize line = .ok tokens ↔ Reading line.toList 0 none tokens := by
  rw [tokenize_eq_ok]
  constructor
  · intro scanned
    have reading := reading_of_scan (Lexer.ofLine line) (congrArg Scan.failure scanned)
    rw [scanned] at reading
    exact reading
  · exact scan_of_reading

/-- A text that a pattern takes whole is a line with one token. -/
theorem tokenize_alone {line : String} {pattern : Pattern}
    (alone : Pattern.first? line.toList = some (pattern, line.toList.length)) :
    tokenize line = .ok [⟨pattern.kind line.toList, line,
      .columns 0 (Text.byteLength line.toList)⟩] := by
  have fits : Pattern.first? (line.toList ++ []) = some (pattern, line.toList.length) := by
    rwa [List.append_nil]
  have reading : Reading ([] ++ (line.toList ++ [])) 0 none _ :=
    .token nofun fits nofun (.ended nofun)
  rw [tokenize_iff]
  simpa [tokenAt, Text.byteLength] using reading

end LineLisp
