import LineLisp.Proofs.Parser

/-! Errors about the beginnings of expressions.
A token is refused for what stands before it, so that an error about it is the
same whatever follows, and the tokens that were not refused can be completed to
an expression. -/
namespace LineLisp

namespace ParseError

def Refusal : ParseError → Prop
  | emptyExpression => False
  | unterminated _ => False
  | trailingTokens _ _ => False
  | _ => True

/-- How an error about `tokens` is put when `more` of them follow. A span about trailing tokens goes
from the first of them till the end of all; every token of a line has a known span. -/
inductive Persists (tokens more : List Token) : ParseError → ParseError → Prop
  | refusal {err} (refused : err.Refusal) : Persists tokens more err err
  | trailing {token span later} (member : token ∈ tokens)
    (told : span = token.span.till (Token.coveringSpan tokens))
    (retold : later = token.span.till (Token.coveringSpan (tokens ++ more)))
    (start : ∀ first ∈ tokens.head?, first.span ≠ .unknown → later.start? = span.start?) :
    Persists tokens more (.trailingTokens token.lexeme span) (.trailingTokens token.lexeme later)

end ParseError

namespace Span

theorem start?_till {first : Span} (known : first ≠ unknown) (last : Span) :
    (first.till last).start? = first.start? := by
  cases first with
  | unknown => exact absurd rfl known
  | columns first past => cases last <;> rfl

theorem start?_till_covering (span : Span) {first : Span} (known : first ≠ unknown)
    (others more : List Span) :
    (span.till (covering (first :: others))).start? =
      (span.till (covering (first :: more))).start? := by
  cases span with
  | unknown =>
    change (first.till _).start? = (first.till _).start?
    rw [start?_till known, start?_till known]
  | columns first past =>
    have placed : columns first past ≠ unknown := by simp
    rw [start?_till placed, start?_till placed]

end Span

namespace Progress

variable {whole other : Span} {progress next : Progress} {token : Token} {tokens : List Token}
  {err : ParseError}

theorem refusal_operand {pending : List OpenForm} (failed : operand pending token = .error err) :
    err.Refusal := by
  cases kind : token.kind with
  | leftParen =>
    simp only [operand, kind] at failed
    split at failed <;> cases failed
    trivial
  | number value | boolean value | name =>
    simp only [operand, atom, kind] at failed
    cases failed
  | rightParen | operator op | endOfLine | invalid =>
    simp only [operand, atom, kind] at failed
    cases failed
    trivial

theorem refusal_step (failed : step whole progress token = .error err)
    (incomplete : ∀ expr, progress ≠ complete expr) : err.Refusal := by
  cases progress with
  | start => exact refusal_operand failed
  | opened opening outer =>
    simp only [step] at failed
    split at failed <;> cases failed
    trivial
  | within form outer =>
    simp only [step] at failed
    split at failed
    · split at failed <;> cases failed
      trivial
    · split at failed <;> cases failed <;> trivial
    · exact refusal_operand failed
  | complete expr => exact absurd rfl (incomplete expr)

/-- Where all the tokens end matters only behind a complete expression. -/
theorem step_eq (incomplete : ∀ expr, progress ≠ complete expr) :
    step whole progress token = step other progress token := by
  cases progress with
  | complete expr => exact absurd rfl (incomplete expr)
  | _ => rfl

theorem step_ok (stepped : step whole progress token = .ok next) :
    step other progress token = .ok next := by
  cases progress with
  | complete expr => cases stepped
  | _ => exact stepped

theorem steps_ok (stepped : tokens.foldlM (step whole) progress = .ok next) :
    tokens.foldlM (step other) progress = .ok next := by
  induction tokens generalizing progress with
  | nil => exact stepped
  | cons token rest ih =>
    rw [List.foldlM_cons] at stepped ⊢
    cases first : step whole progress token with
    | error err =>
      rw [first] at stepped
      cases stepped
    | ok middle =>
      rw [first] at stepped
      rw [step_ok first]
      exact ih stepped

theorem steps_append (stepped : tokens.foldlM (step whole) progress = .ok next)
    (more : List Token) :
    (tokens ++ more).foldlM (step whole) progress = more.foldlM (step whole) next := by
  rw [List.foldlM_append, stepped]
  rfl

theorem steps_refused {rest : List Token} (stepped : tokens.foldlM (step whole) progress = .ok next)
    (failed : step whole next token = .error err) :
    (tokens ++ token :: rest).foldlM (step whole) progress = .error err := by
  rw [steps_append stepped, List.foldlM_cons, failed]
  rfl

/-- An error is about the first token that cannot follow those before it. -/
theorem steps_error (failed : tokens.foldlM (step whole) progress = .error err) :
    ∃ front token rest reached, tokens = front ++ token :: rest ∧
      front.foldlM (step whole) progress = .ok reached ∧ step whole reached token = .error err := by
  induction tokens generalizing progress with
  | nil => cases failed
  | cons token rest ih =>
    rw [List.foldlM_cons] at failed
    cases first : step whole progress token with
    | error found =>
      rw [first] at failed
      cases failed
      exact ⟨[], token, rest, progress, rfl, rfl, first⟩
    | ok middle =>
      rw [first] at failed
      obtain ⟨front, refused, back, reached, rfl, before, here⟩ := ih failed
      refine ⟨token :: front, refused, back, reached, rfl, ?_, here⟩
      rw [List.foldlM_cons, first]
      exact before

def closing : Token := { kind := .rightParen, lexeme := ")" }

/-- Once a form has an operand, nothing is missing but its end. -/
theorem steps_closing (whole : Span) (expr : Expr) (pending : List OpenForm) :
    ∃ result, (List.replicate pending.length closing).foldlM (step whole) (supply expr pending) =
      .ok (complete result) := by
  induction pending generalizing expr with
  | nil => exact ⟨expr, rfl⟩
  | cons form outer ih =>
    have closable : (form.push expr).closable = true := by
      unfold OpenForm.closable
      split <;> rfl
    have ended : step whole (supply expr (form :: outer)) closing =
        .ok (supply ((form.push expr).close closing.span) outer) := by
      change (if (form.push expr).closable then _ else _) = _
      rw [if_pos closable]
    obtain ⟨result, closed⟩ := ih ((form.push expr).close closing.span)
    refine ⟨result, ?_⟩
    rw [List.length_cons, List.replicate_succ, List.foldlM_cons, ended]
    exact closed

theorem steps_awaiting (whole : Span) (pending : List OpenForm) :
    ∃ more result, more ≠ [] ∧
      more.foldlM (step whole) (awaiting pending) = .ok (complete result) := by
  let operand : Token := { kind := .boolean true, lexeme := "true" }
  obtain ⟨result, closed⟩ := steps_closing whole (.boolean true operand.span) pending
  refine ⟨operand :: List.replicate pending.length closing, result, by simp, ?_⟩
  have supplied : [operand].foldlM (step whole) (awaiting pending) =
      .ok (supply (.boolean true operand.span) pending) := runs_atom whole pending rfl
  have all := steps_append supplied (List.replicate pending.length closing)
  rw [closed] at all
  exact all

/-- Whatever has been read and not refused is the beginning of an expression. -/
theorem steps_completed (whole : Span) (progress : Progress)
    (incomplete : ∀ expr, progress ≠ complete expr) :
    ∃ more result, more ≠ [] ∧ more.foldlM (step whole) progress = .ok (complete result) := by
  cases progress with
  | start => exact steps_awaiting whole []
  | opened opening outer =>
    let head : Token := { kind := .operator .plus, lexeme := "+" }
    obtain ⟨more, result, -, completed⟩ := steps_awaiting whole (⟨opening, head, []⟩ :: outer)
    refine ⟨head :: more, result, by simp, ?_⟩
    rw [List.foldlM_cons]
    exact completed
  | within form outer => exact steps_awaiting whole (form :: outer)
  | complete expr => exact absurd rfl (incomplete expr)

end Progress

open Progress

variable {tokens : List Token} {err : ParseError}

theorem parse_of_steps {last : Progress}
    (stepped : tokens.foldlM (step (Token.coveringSpan tokens)) start = .ok last) :
    parse tokens = finish (Token.coveringSpan tokens) last := by
  change (tokens.foldlM _ start >>= _) = _
  rw [stepped]
  rfl

theorem parse_of_error (failed : tokens.foldlM (step (Token.coveringSpan tokens)) start = .error err) :
    parse tokens = .error err := by
  change (tokens.foldlM _ start >>= _) = _
  rw [failed]
  rfl

theorem parse_cases (tokens : List Token) :
    (∃ last, tokens.foldlM (step (Token.coveringSpan tokens)) start = .ok last ∧
      parse tokens = finish (Token.coveringSpan tokens) last) ∨
    ∃ err, tokens.foldlM (step (Token.coveringSpan tokens)) start = .error err ∧
      parse tokens = .error err := by
  cases folded : tokens.foldlM (step (Token.coveringSpan tokens)) start with
  | ok last => exact .inl ⟨last, rfl, parse_of_steps folded⟩
  | error err => exact .inr ⟨err, rfl, parse_of_error folded⟩

/-- Behind a complete expression every token is one too many. -/
theorem parse_trailing {front rest : List Token} {token : Token} {whole : Span} {expr : Expr}
    (completed : front.foldlM (step whole) start = .ok (complete expr)) :
    parse (front ++ token :: rest) = .error (.trailingTokens token.lexeme
      (token.span.till (Token.coveringSpan (front ++ token :: rest)))) :=
  parse_of_error (steps_refused (steps_ok completed) rfl)

theorem parse_accepted {expr : Expr} (parsed : parse tokens = .ok expr) :
    tokens.foldlM (step (Token.coveringSpan tokens)) start = .ok (complete expr) := by
  rcases parse_cases tokens with ⟨last, stepped, told⟩ | ⟨err, -, told⟩
  · rw [parsed] at told
    cases last <;> cases told
    exact stepped
  · rw [parsed] at told
    cases told

theorem parse_refused
    (failed : tokens.foldlM (step (Token.coveringSpan tokens)) start = .error err)
    (more : List Token) : ∃ later, parse (tokens ++ more) = .error later ∧
      err.Persists tokens more later := by
  obtain ⟨front, token, rest, reached, split, before, here⟩ := steps_error failed
  by_cases done : ∃ expr, reached = complete expr
  · obtain ⟨expr, rfl⟩ := done
    cases here
    have extended : parse (front ++ token :: (rest ++ more)) = _ := parse_trailing before
    rw [← List.cons_append, ← List.append_assoc, ← split] at extended
    refine ⟨_, extended, .trailing (by simp [split]) rfl rfl ?_⟩
    intro first begins known
    cases tokens with
    | nil => cases begins
    | cons head others =>
      cases begins
      exact Span.start?_till_covering token.span known _ _
  · have incomplete : ∀ expr, reached ≠ complete expr := fun expr same => done ⟨expr, same⟩
    have refused := refusal_step here incomplete
    rw [step_eq incomplete] at here
    have extended : parse (front ++ token :: (rest ++ more)) = .error err :=
      parse_of_error (steps_refused (steps_ok before) here)
    rw [← List.cons_append, ← List.append_assoc, ← split] at extended
    exact ⟨err, extended, .refusal refused⟩

theorem parse_completed {last : Progress}
    (stepped : tokens.foldlM (step (Token.coveringSpan tokens)) start = .ok last)
    (incomplete : ∀ expr, last ≠ complete expr) :
    ∃ more, more ≠ [] ∧ ∃ expr, parse (tokens ++ more) = .ok expr := by
  obtain ⟨more, result, further, completed⟩ := steps_completed .unknown last incomplete
  have all : (tokens ++ more).foldlM (step .unknown) start = _ := steps_append (steps_ok stepped) more
  rw [completed] at all
  exact ⟨more, further, result, parse_of_steps (steps_ok all)⟩

theorem parse_empty_iff (tokens : List Token) :
    parse tokens = .error .emptyExpression ↔ tokens = [] := by
  constructor
  · intro empty
    rcases parse_cases tokens with ⟨last, stepped, told⟩ | ⟨err, failed, told⟩
    · rw [empty] at told
      cases last with
      | start =>
        have reads := reads_steps .start stepped
        cases reads
        rfl
      | _ => cases told
    · rw [empty] at told
      cases told
      obtain ⟨later, -, persists⟩ := parse_refused failed []
      cases persists with
      | refusal refused => cases refused
  · rintro rfl
    rfl

/-- What can be completed has been refused for nothing but its end. -/
theorem parse_unterminated_iff (tokens : List Token) :
    (∃ span, parse tokens = .error (.unterminated span)) ↔
      tokens ≠ [] ∧ ∃ more, more ≠ [] ∧ ∃ expr, parse (tokens ++ more) = .ok expr := by
  constructor
  · rintro ⟨span, cut⟩
    have filled : tokens ≠ [] := by
      rintro rfl
      cases cut
    rcases parse_cases tokens with ⟨last, stepped, told⟩ | ⟨err, failed, told⟩
    · refine ⟨filled, parse_completed stepped ?_⟩
      rintro expr rfl
      rw [cut] at told
      cases told
    · rw [cut] at told
      cases told
      obtain ⟨later, -, persists⟩ := parse_refused failed []
      cases persists with
      | refusal refused => cases refused
  · rintro ⟨filled, more, further, expr, accepted⟩
    rcases parse_cases tokens with ⟨last, stepped, told⟩ | ⟨err, failed, told⟩
    · cases last with
      | start => exact absurd ((parse_empty_iff tokens).mp told) filled
      | opened opening outer => exact ⟨_, told⟩
      | within form outer => exact ⟨_, told⟩
      | complete expr =>
        obtain ⟨token, rest, rfl⟩ := List.exists_cons_of_ne_nil further
        rw [parse_trailing stepped] at accepted
        cases accepted
    · obtain ⟨later, refused, -⟩ := parse_refused failed more
      rw [refused] at accepted
      cases accepted

/-- The empty expression is no tokens at all, the unterminated ones are those that can be completed,
any other error stays whatever follows, and nothing may follow an expression. -/
theorem parse_errors (tokens : List Token) :
    (parse tokens = .error .emptyExpression ↔ tokens = []) ∧
    ((∃ span, parse tokens = .error (.unterminated span)) ↔
      tokens ≠ [] ∧ ∃ more, more ≠ [] ∧ ∃ expr, parse (tokens ++ more) = .ok expr) ∧
    (∀ err, parse tokens = .error err → err ≠ .emptyExpression → (∀ span, err ≠ .unterminated span) →
      ∀ more, ∃ later, parse (tokens ++ more) = .error later ∧ err.Persists tokens more later) ∧
    ∀ expr, parse tokens = .ok expr → ∀ token more, parse (tokens ++ token :: more) =
      .error (.trailingTokens token.lexeme
        (token.span.till (Token.coveringSpan (tokens ++ token :: more)))) := by
  refine ⟨parse_empty_iff tokens, parse_unterminated_iff tokens, ?_, ?_⟩
  · intro err failed notEmpty notCut more
    rcases parse_cases tokens with ⟨last, stepped, told⟩ | ⟨found, refused, told⟩
    · rw [failed] at told
      cases last with
      | start => exact absurd (Except.error.inj told) notEmpty
      | opened opening outer => exact absurd (Except.error.inj told) (notCut _)
      | within form outer => exact absurd (Except.error.inj told) (notCut _)
      | complete expr => cases told
    · rw [failed] at told
      cases told
      exact parse_refused refused more
  · intro expr parsed token more
    exact parse_trailing (parse_accepted parsed)

end LineLisp
