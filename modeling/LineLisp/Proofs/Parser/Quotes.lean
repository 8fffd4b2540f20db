import LineLisp.Proofs.Lexer.Quotes
import LineLisp.Proofs.Parser.Prefix
import LineLisp.Proofs.Parser.Spans

/-! Errors quote the line.
An error of the parser is about some tokens in a row. Its place goes from the
first of them to the last, so that it shows their text. -/
namespace LineLisp

def Span.past? : Span → Option Nat
  | unknown => none
  | columns _ past => some past

namespace ParseError

def span : ParseError → Span
  | emptyExpression => .unknown
  | unexpectedToken _ span | invalidHead _ span | doubledOperator _ _ span | missingOperand _ span
  | unterminated span | nestingTooDeep _ span | trailingTokens _ span => span

inductive Quotes (tokens : List Token) : ParseError → String → Prop
  | unexpectedToken {found span} : Quotes tokens (.unexpectedToken found span) found
  | invalidHead {found span} : Quotes tokens (.invalidHead found span) found
  | nestingTooDeep {limit span} : Quotes tokens (.nestingTooDeep limit span) "("
  | doubledOperator {first second gap span} (blank : Text.isBlankLine gap = true) :
    Quotes tokens (.doubledOperator first second span) (first ++ (gap ++ second))
  | missingOperand {operator gap trail span} (blank : Text.isBlankLine gap = true)
    (trailing : Text.isBlankLine trail = true) :
    Quotes tokens (.missingOperand operator span)
      ("(" ++ (gap ++ (operator ++ (trail ++ ")"))))
  | unterminated {opening last rest span} (among : opening ∈ tokens)
    (opens : opening.kind = .leftParen) (begins : span.start? = opening.span.start?)
    (final : last ∈ tokens.getLast?) (ends : span.past? = last.span.past?) :
    Quotes tokens (.unterminated span) ("(" ++ rest)
  | trailingTokens {found last rest span} (final : last ∈ tokens.getLast?)
    (ends : span.past? = last.span.past?) : Quotes tokens (.trailingTokens found span) (found ++ rest)

inductive About (whole : Span) : ParseError → List Token → List Token → Prop
  | unexpectedToken {token rest} :
    About whole (.unexpectedToken token.lexeme token.span) [token] rest
  | invalidHead {token rest} : About whole (.invalidHead token.lexeme token.span) [token] rest
  | nestingTooDeep {opening rest} (opens : opening.kind = .leftParen) :
    About whole (.nestingTooDeep maxNesting opening.span) [opening] rest
  | doubledOperator {first second rest} :
    About whole (.doubledOperator first.lexeme second.lexeme (first.span.till second.span))
      [first, second] rest
  | missingOperand {opening operator closing rest} (opens : opening.kind = .leftParen)
    (closes : closing.kind = .rightParen) :
    About whole (.missingOperand operator.lexeme (opening.span.till closing.span))
      [opening, operator, closing] rest
  | unterminated {opening inner} (opens : opening.kind = .leftParen) :
    About whole (.unterminated (opening.span.till whole)) (opening :: inner) []
  | trailingTokens {token rest} :
    About whole (.trailingTokens token.lexeme (token.span.till whole)) (token :: rest) []

end ParseError

namespace Progress

variable {whole : Span} {token : Token} {err : ParseError}

theorem about_operand {pending : List OpenForm} (failed : operand pending token = .error err)
    (rest : List Token) : err.About whole [token] rest := by
  cases kind : token.kind with
  | leftParen =>
    simp only [operand, kind] at failed
    split at failed <;> cases failed
    exact .nestingTooDeep kind
  | number value | boolean value | name =>
    simp only [operand, atom, kind] at failed
    cases failed
  | rightParen | operator op | endOfLine | invalid =>
    simp only [operand, atom, kind] at failed
    cases failed
    exact .unexpectedToken

/-- What was read last is an open form. -/
theorem Pending.split {read : List Token} {form : OpenForm} {outer : List OpenForm}
    (pending : Pending read (form :: outer)) : ∃ before opening inner,
      read = before ++ opening :: form.head :: inner ∧ opening.kind = .leftParen ∧
        form.opening = opening.span ∧ (form.operands = [] → inner = []) := by
  cases pending with
  | @form read _ opening head operands outside opens =>
    refine ⟨read, opening, _, rfl, opens, rfl, fun bare => ?_⟩
    cases operands with
    | nil => rfl
    | cons operand others => simp [Derivation.exprs] at bare

theorem operands_of_not_closable {form : OpenForm} (stuck : form.closable = false) :
    form.operands = [] := by
  unfold OpenForm.closable at stuck
  split at stuck
  · simpa using stuck
  · simpa using stuck
  · cases stuck

theorem about_step {read : List Token} {progress : Progress} (reads : Reads read progress)
    (failed : step whole progress token = .error err) (rest : List Token) :
    ∃ front middle behind, read ++ token :: rest = front ++ (middle ++ behind) ∧
      err.About whole middle behind := by
  cases reads with
  | start => exact ⟨[], [token], rest, rfl, about_operand failed rest⟩
  | opened outside opens nested =>
    simp only [step] at failed
    split at failed <;> cases failed
    exact ⟨_, [token], rest, rfl, .invalidHead⟩
  | @within read form outer pending =>
    simp only [step] at failed
    split at failed
    · rename_i closes
      split at failed <;> cases failed
      rename_i stuck
      obtain ⟨before, opening, inner, rfl, opens, place, bare⟩ := pending.split
      obtain rfl := bare (operands_of_not_closable (by simpa using stuck))
      rw [place]
      exact ⟨before, [opening, form.head, token], rest, by simp, .missingOperand opens closes⟩
    · split at failed <;> cases failed
      · rename_i empty
        obtain ⟨before, opening, inner, rfl, opens, place, bare⟩ := pending.split
        obtain rfl := bare (by simpa using empty)
        exact ⟨before ++ [opening], [form.head, token], rest, by simp, .doubledOperator⟩
      · exact ⟨_, [token], rest, rfl, .unexpectedToken⟩
    · exact ⟨_, [token], rest, rfl, about_operand failed rest⟩
  | @complete derivation =>
    cases failed
    exact ⟨derivation.tokens, token :: rest, [], by simp, .trailingTokens⟩

theorem about_finish {read : List Token} {progress : Progress} (reads : Reads read progress)
    (failed : finish whole progress = .error err) (filled : err ≠ .emptyExpression) :
    ∃ front middle behind, read = front ++ (middle ++ behind) ∧ err.About whole middle behind := by
  cases reads with
  | start =>
    cases failed
    exact absurd rfl filled
  | @opened read outer opening outside opens nested =>
    cases failed
    exact ⟨read, [opening], [], rfl, .unterminated opens⟩
  | within pending =>
    cases failed
    obtain ⟨before, opening, inner, rfl, opens, place, -⟩ := pending.split
    rw [place]
    exact ⟨before, opening :: _, [], by rw [List.append_nil], .unterminated opens⟩
  | complete => cases failed

end Progress

theorem Span.till_till {first middle last : Span} (opens : first.Filled) (known : middle.Filled)
    (closes : last.Filled) : first.till (middle.till last) = first.till last := by
  cases first with
  | unknown => cases opens
  | columns =>
    cases middle with
    | unknown => cases known
    | columns =>
      cases last with
      | unknown => cases closes
      | columns => rfl

theorem Span.past?_till {last : Span} (known : last.Filled) (first : Span) :
    (first.till last).past? = last.past? := by
  cases last with
  | unknown => cases known
  | columns => cases first <;> rfl

namespace Token

theorem getLast?_suffix (front : List Token) (token : Token) (rest : List Token) :
    (front ++ (token :: rest ++ [])).getLast? = some (rest.getLastD token) := by
  simp [List.getLast?_append, List.getLast?_cons, List.getLastD_eq_getLast?]

theorem filled_getLastD {front rest : List Token} {token : Token}
    (filled : ∀ other ∈ front ++ (token :: rest ++ []), other.span.Filled) :
    (rest.getLastD token).span.Filled :=
  filled _ (List.mem_of_getLast? (getLast?_suffix front token rest))

theorem ends_coveringSpan {front rest : List Token} {token : Token}
    (filled : ∀ other ∈ front ++ (token :: rest ++ []), other.span.Filled) :
    (coveringSpan (token :: rest)).start? = token.span.start? ∧
      (coveringSpan (token :: rest)).past? = (rest.getLastD token).span.past? := by
  have known := (filled token (by simp)).known
  rw [coveringSpan_cons, Span.start?_till known, Span.past?_till (filled_getLastD filled)]
  exact ⟨rfl, rfl⟩

/-- From a token to the end of all tokens it is as far as to the end of those behind it. -/
theorem till_coveringSpan {front rest : List Token} {token : Token}
    (filled : ∀ other ∈ front ++ (token :: rest ++ []), other.span.Filled) :
    token.span.till (coveringSpan (front ++ (token :: rest ++ []))) =
      coveringSpan (token :: rest) := by
  have known := filled token (by simp)
  have last := filled_getLastD filled
  cases front with
  | nil =>
    rw [List.nil_append, List.append_nil, coveringSpan_cons, Span.till_till known known last]
  | cons first others =>
    have ends := getLast?_suffix others token rest
    rw [List.cons_append, coveringSpan_cons, coveringSpan_cons, List.getLastD_eq_getLast?, ends,
      Option.getD_some, Span.till_till known (filled first (by simp)) last]

end Token

namespace ParseError.About

variable {tokens front middle behind : List Token} {err : ParseError}

theorem span_eq (about : err.About (Token.coveringSpan tokens) middle behind)
    (split : tokens = front ++ (middle ++ behind))
    (filled : ∀ token ∈ tokens, token.span.Filled) : err.span = Token.coveringSpan middle := by
  subst split
  cases about with
  | unexpectedToken | invalidHead | nestingTooDeep => exact (Span.till_self _).symm
  | doubledOperator | missingOperand => rfl
  | unterminated | trailingTokens => exact Token.till_coveringSpan filled

theorem quotes {whole : Span} (about : err.About whole middle behind)
    (split : tokens = front ++ (middle ++ behind)) {text : String} (joins : Token.Joins middle text)
    (place : err.span = Token.coveringSpan middle) (filled : ∀ token ∈ tokens, token.span.Filled)
    (alone : ∀ token ∈ tokens, Lexer.Alone token) : err.Quotes tokens text := by
  subst split
  have left {token : Token} (opens : token.kind = .leftParen)
      (among : token ∈ front ++ (middle ++ behind)) : token.lexeme = "(" :=
    (alone token among).lexeme_eq (by rw [opens]; rfl)
  have right {token : Token} (closes : token.kind = .rightParen)
      (among : token ∈ front ++ (middle ++ behind)) : token.lexeme = ")" :=
    (alone token among).lexeme_eq (by rw [closes]; rfl)
  cases about with
  | unexpectedToken =>
    cases joins
    exact .unexpectedToken
  | invalidHead =>
    cases joins
    exact .invalidHead
  | nestingTooDeep opens =>
    cases joins
    rw [left opens (by simp)]
    exact .nestingTooDeep
  | doubledOperator =>
    cases joins with
    | more blank rest =>
      cases rest
      exact .doubledOperator blank
  | missingOperand opens closes =>
    cases joins with
    | more blank rest =>
      cases rest with
      | more trailing last =>
        cases last
        rw [left opens (by simp), right closes (by simp)]
        exact .missingOperand blank trailing
  | unterminated opens =>
    obtain ⟨rest, rfl⟩ := joins.begins
    rw [left opens (by simp)]
    obtain ⟨begins, last⟩ := Token.ends_coveringSpan filled
    rw [← place] at begins last
    exact .unterminated (by simp) opens begins (Token.getLast?_suffix _ _ _) last
  | trailingTokens =>
    obtain ⟨rest, rfl⟩ := joins.begins
    have last := (Token.ends_coveringSpan filled).2
    rw [← place] at last
    exact .trailingTokens (Token.getLast?_suffix _ _ _) last

end ParseError.About

/-- Tokens are refused for some of them in a row. -/
theorem parse_about {tokens : List Token} {err : ParseError} (failed : parse tokens = .error err)
    (filled : err ≠ .emptyExpression) : ∃ front middle behind,
      tokens = front ++ (middle ++ behind) ∧
        err.About (Token.coveringSpan tokens) middle behind := by
  rcases parse_cases tokens with ⟨last, stepped, told⟩ | ⟨found, refused, told⟩
  · have reads := Progress.reads_steps .start stepped
    exact Progress.about_finish reads (told ▸ failed) filled
  · obtain rfl := Except.error.inj (failed.symm.trans told)
    obtain ⟨front, token, rest, reached, split, before, here⟩ := Progress.steps_error refused
    have reads := Progress.reads_steps .start before
    rw [split]
    exact Progress.about_step reads (split ▸ here) rest

theorem parse_located {line : String} {tokens : List Token} (read : tokenize line = .ok tokens)
    {err : ParseError} (failed : parse tokens = .error err) (filled : err ≠ .emptyExpression) :
    ∃ text, err.span.Shows line text ∧ err.Quotes tokens text := by
  obtain ⟨front, middle, behind, split, about⟩ := parse_about failed filled
  have cover := cover_of_tokenize read
  have place := about.span_eq split cover.filled
  obtain ⟨token, rest, rfl⟩ : ∃ token rest, middle = token :: rest := by
    cases about <;> exact ⟨_, _, rfl⟩
  obtain ⟨start, suffix⟩ := (split ▸ cover).suffix
  obtain ⟨first, stop, last, past, text, begins, ends, further, slice, joins⟩ := suffix.joins
  have covers : err.span = .columns first past := by
    rw [place, Token.coveringSpan_cons, begins, ends]
    rfl
  refine ⟨text, ⟨first, past, covers, further, slice⟩, ?_⟩
  exact about.quotes split joins place cover.filled (tokenize_iff.mp read).alone

/-- Where a line cannot be read, or its tokens cannot, the error has a place in the line, and what
the line holds there is what the error tells of. -/
theorem errors_located (line : String) :
    (∀ err, tokenize line = .error err →
      ∃ text, err.span.Shows line text ∧ err.Quotes line text) ∧
    ∀ tokens err, tokenize line = .ok tokens → parse tokens = .error err →
      err ≠ .emptyExpression → ∃ text, err.span.Shows line text ∧ err.Quotes tokens text :=
  ⟨fun _ => tokenize_located, fun _ _ read => parse_located read⟩

theorem errors_located_spaced :
    tokenize "\u3000(*2 3)" = .error (.gluedNumber "*2" (.columns 4 6)) ∧
    (Span.columns 4 6).Shows "\u3000(*2 3)" "*2" ∧
    ∃ tokens text, tokenize "(-\u3000)" = .ok tokens ∧
      parse tokens = .error (.missingOperand "-" (.columns 0 6)) ∧
      (Span.columns 0 6).Shows "(-\u3000)" text ∧
      ParseError.Quotes tokens (.missingOperand "-" (.columns 0 6)) text := by
  have glued : tokenize "\u3000(*2 3)" = .error (.gluedNumber "*2" (.columns 4 6)) := by
    decide +kernel
  have read : tokenize "(-\u3000)" = .ok [⟨.leftParen, "(", .columns 0 1⟩,
      ⟨.operator .minus, "-", .columns 1 2⟩, ⟨.rightParen, ")", .columns 5 6⟩] := by
    decide +kernel
  obtain ⟨lexeme, shown, quoted⟩ := (errors_located _).1 _ glued
  cases quoted
  obtain ⟨text, shows, quotes⟩ := (errors_located _).2 _ _ read rfl nofun
  exact ⟨glued, shown, _, text, read, rfl, shows, quotes⟩

end LineLisp
