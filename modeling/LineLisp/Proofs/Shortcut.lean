import LineLisp.Proofs.Log
import LineLisp.Proofs.Semantics.Rules

/-! Operands that are not reached.
Operands are evaluated from left to right as far as the result needs them. Where
one of them settles the result, the operands behind it make no difference, and
neither does the branch of a conditional that is not taken. -/
namespace LineLisp

structure Outcome.Echoes {ε : Type} (outcome other : Outcome ε) : Prop where
  result : outcome.result = other.result
  env : outcome.env = other.env
  log : outcome.log.tail = other.log.tail

namespace Run

variable {α β : Type} {final : α → Prop}

def Settles (final : α → Prop) (first second : Run α) : Prop :=
  ∀ m, (∀ value after, first m = .ok value after → final value) → second m = first m

namespace Settles

theorem refl (body : Run α) : Settles final body body :=
  fun _ _ => rfl

theorem pure {value : α} (passing : ¬ final value) (second : Run α) :
    Settles final (pure value) second :=
  fun m finals => absurd (finals value m rfl) passing

/-- The runs part, if at all, behind what both begin with. -/
theorem bind {final : β → Prop} {body : Run α} {next follow : α → Run β}
    (tails : ∀ value, Settles final (next value) (follow value)) :
    Settles final (body >>= next) (body >>= follow) := by
  intro m finals
  change EStateM.bind body follow m = EStateM.bind body next m
  change ∀ value after, EStateM.bind body next m = .ok value after → final value at finals
  unfold EStateM.bind at finals ⊢
  cases ran : body m with
  | ok value after =>
    rw [ran] at finals
    exact tails value after finals
  | error err after => rfl

theorem map {other : β → Prop} {f : α → β} {first second : Run α}
    (settles : Settles final first second) (reflects : ∀ value, other (f value) → final value) :
    Settles other (f <$> first) (f <$> second) := by
  intro m finals
  change EStateM.map f second m = EStateM.map f first m
  change ∀ value after, EStateM.map f first m = .ok value after → other value at finals
  have same := settles m fun value after ran => reflects value (finals (f value) after ?_)
  · unfold EStateM.map
    rw [same]
  · unfold EStateM.map
    rw [ran]

theorem fails {first second : Run α} (settles : Settles final first second) :
    Settles (fun _ => False) first second :=
  fun m finals => settles m fun value after ran => (finals value after ran).elim

end Settles

end Run

def Operator.Serial (op : Operator) (operands : List Expr) : Prop :=
  op ∈ [plus, times, and, or] ∨ op ∈ [minus, divide] ∧ 2 ≤ operands.length

namespace Rules

open Run

variable {self : Expr → Run Value} {operands : List Expr}

theorem settles_accumulate (op : Operator)
    (combine : Expr → Float → Float → Except EvalError Float) (total : Float)
    (operands later : List Expr) :
    Settles (fun _ => False) (accumulate self op combine total operands)
      (accumulate self op combine total (operands ++ later)) := by
  induction operands generalizing total with
  | nil => exact .pure id _
  | cons operand rest ih => exact .bind fun _ => .bind fun total => ih total

/-- The truth value that is looked for ends the search. -/
theorem settles_anyTruth (op : Operator) (wanted : Bool) (operands later : List Expr) :
    Settles (· = true) (anyTruth self op wanted operands)
      (anyTruth self op wanted (operands ++ later)) := by
  induction operands with
  | nil =>
    refine .pure ?_ _
    exact Bool.false_ne_true
  | cons operand rest ih =>
    refine .bind fun value => ?_
    split
    · exact .refl _
    · exact ih

theorem settles_conjunction (operands later : List Expr) (span seat : Span) :
    Settles (· = .boolean false) (operate self .and operands span)
      (operate self .and (operands ++ later) seat) := by
  refine (settles_anyTruth .and false operands later).map fun found same => ?_
  simpa using Value.boolean.inj same

theorem settles_disjunction (operands later : List Expr) (span seat : Span) :
    Settles (· = .boolean true) (operate self .or operands span)
      (operate self .or (operands ++ later) seat) :=
  (settles_anyTruth .or true operands later).map fun _ same => Value.boolean.inj same

theorem settles_number {first second : Run Float} (settles : Settles (fun _ => False) first second) :
    Settles (fun _ => False) (Value.number <$> first) (Value.number <$> second) :=
  settles.map fun _ => id

/-- An error ends the work of a serial operator. -/
theorem settles_operate {op : Operator} (serial : op.Serial operands) (later : List Expr)
    (span seat : Span) : Settles (fun _ => False) (operate self op operands span)
      (operate self op (operands ++ later) seat) := by
  rcases serial with among | ⟨among, several⟩
  · simp only [List.mem_cons, List.not_mem_nil, or_false] at among
    rcases among with rfl | rfl | rfl | rfl
    · exact settles_number (settles_accumulate .plus _ 0 operands later)
    · exact settles_number (settles_accumulate .times _ 1 operands later)
    · exact (settles_conjunction operands later span seat).fails
    · exact (settles_disjunction operands later span seat).fails
  · obtain ⟨first, second, rest, rfl⟩ : ∃ first second rest, operands = first :: second :: rest :=
      match operands, several with
      | first :: second :: rest, _ => ⟨first, second, rest, rfl⟩
    simp only [List.mem_cons, List.not_mem_nil, or_false] at among
    rcases among with rfl | rfl
    · refine settles_number ?_
      unfold difference
      exact .bind fun x => settles_accumulate .minus _ x (second :: rest) later
    · refine settles_number ?_
      unfold ratio
      exact .bind fun x => settles_accumulate .divide _ x (second :: rest) later

variable {test : Expr} {m : Machine}

/-- A conditional whose test does not fail to hold has no use for its last operand. -/
theorem conditional_holds
    (holds : ∀ value after, self test m = .ok value after → value.truth?.getD false = true)
    (yes no other : Expr) (span seat : Span) :
    conditional self [test, yes, other] seat m = conditional self [test, yes, no] span m := by
  change EStateM.bind (self test) _ m = EStateM.bind (self test) _ m
  unfold EStateM.bind
  cases ran : self test m with
  | ok value after => simp only [holds value after ran, if_true]
  | error err after => rfl

theorem conditional_fails
    (fails : ∀ value after, self test m = .ok value after → value.truth?.getD false = false)
    (yes other no : Expr) (span seat : Span) :
    conditional self [test, other, no] seat m = conditional self [test, yes, no] span m := by
  change EStateM.bind (self test) _ m = EStateM.bind (self test) _ m
  unfold EStateM.bind
  cases ran : self test m with
  | ok value after => simp only [fails value after ran, Bool.false_eq_true, if_false]
  | error err after => rfl

end Rules

def Value.Holds (value : Value) : Prop :=
  value = .boolean true ∨ ∃ x, value = .number x

theorem Value.holds_iff (value : Value) : value.Holds ↔ value.truth?.getD false = true := by
  cases value <;> simp [Holds, truth?]

namespace Environment

open Run

variable {env : Environment} {expr peer : Expr}

theorem echoes_of_value (same : env.room ≠ 0 → Rules.value Expr.evaluate peer ⟨env.enter, []⟩ =
    Rules.value Expr.evaluate expr ⟨env.enter, []⟩) :
    (env.evaluate expr).Echoes (env.evaluate peer) := by
  by_cases full : env.room = 0
  · rw [evaluate_refused full, evaluate_refused full]
    exact ⟨rfl, rfl, rfl⟩
  · rw [evaluate_rule full, evaluate_rule full, same full]
    exact ⟨rfl, rfl, rfl⟩

theorem echoes_of_settles {head : Name} {op : Operator}
    (spelled : Operator.ofName? head.text = some op) {operands others : List Expr}
    {span seat : Span} {final : Value → Prop}
    (settles : Settles final (Rules.operate Expr.evaluate op operands span)
      (Rules.operate Expr.evaluate op others seat))
    (finals : ∀ value, (env.evaluate (.form head operands span)).result = .ok value → final value) :
    (env.evaluate (.form head operands span)).Echoes (env.evaluate (.form head others seat)) := by
  refine echoes_of_value fun more => ?_
  rw [Rules.value_operator spelled, Rules.value_operator spelled]
  refine settles _ fun value after ran => finals value ?_
  rw [evaluate_rule more, Rules.value_operator spelled, ran]
  rfl

/-- An operand that fails or decides a result is the last one to be evaluated, and of the branches
of a conditional only the one that is taken is. -/
theorem evaluate_shortcut (env : Environment) (head : Name) (span seat : Span) :
    (∀ op operands later err, Operator.ofName? head.text = some op → op.Serial operands →
      (env.evaluate (.form head operands span)).result = .error err →
      (env.evaluate (.form head operands span)).Echoes
        (env.evaluate (.form head (operands ++ later) seat))) ∧
    (∀ operands later, Operator.ofName? head.text = some .and →
      (env.evaluate (.form head operands span)).result = .ok (.boolean false) →
      (env.evaluate (.form head operands span)).Echoes
        (env.evaluate (.form head (operands ++ later) seat))) ∧
    (∀ operands later, Operator.ofName? head.text = some .or →
      (env.evaluate (.form head operands span)).result = .ok (.boolean true) →
      (env.evaluate (.form head operands span)).Echoes
        (env.evaluate (.form head (operands ++ later) seat))) ∧
    ∀ test, Operator.ofName? head.text = some .conditional →
      ((∀ value, (env.enter.evaluate test).result = .ok value → value.Holds) → ∀ yes no other,
        (env.evaluate (.form head [test, yes, no] span)).Echoes
          (env.evaluate (.form head [test, yes, other] seat))) ∧
      ((∀ value, (env.enter.evaluate test).result = .ok value → ¬ value.Holds) → ∀ yes other no,
        (env.evaluate (.form head [test, yes, no] span)).Echoes
          (env.evaluate (.form head [test, other, no] seat))) := by
  refine ⟨?_, ?_, ?_, fun test spelled => ?_⟩
  · intro op operands later err spelled serial failed
    refine echoes_of_settles spelled (Rules.settles_operate serial later span seat) ?_
    simp [failed]
  · intro operands later spelled decided
    refine echoes_of_settles spelled (Rules.settles_conjunction operands later span seat) ?_
    simp [decided]
  · intro operands later spelled decided
    refine echoes_of_settles spelled (Rules.settles_disjunction operands later span seat) ?_
    simp [decided]
  · have tested {value : Value} {after : Machine}
        (ran : test.evaluate ⟨env.enter, []⟩ = .ok value after) :
        (env.enter.evaluate test).result = .ok value := by
      rw [evaluate_eq, ran]
      rfl
    constructor
    · intro holds yes no other
      refine echoes_of_value fun _ => ?_
      rw [Rules.value_operator spelled, Rules.value_operator spelled]
      refine Rules.conditional_holds (fun value after ran => ?_) yes no other span seat
      exact value.holds_iff.mp (holds value (tested ran))
    · intro fails yes other no
      refine echoes_of_value fun _ => ?_
      rw [Rules.value_operator spelled, Rules.value_operator spelled]
      refine Rules.conditional_fails (fun value after ran => ?_) yes other no span seat
      exact Bool.eq_false_iff.mpr (mt value.holds_iff.mpr (fails value (tested ran)))

/-- A definition is no truth value, and what it binds stays bound. -/
theorem evaluate_shortcut_define :
    let env := withConfig {}
    let definition := Expr.form ⟨"define", .unknown⟩
      [.name ⟨"x", .unknown⟩, .boolean true .unknown] .unknown
    let call := Expr.form ⟨"f", .unknown⟩ [] .unknown
    let truth (holds : Bool) := Expr.boolean holds .unknown
    let form (head : String) (operands : List Expr) := Expr.form ⟨head, .unknown⟩ operands .unknown
    let failed := env.evaluate (form "and" [definition, call])
    failed.result = .error (.typeMismatch .and .truth .unknown) ∧
      failed.env.globals.get? "x" = some (.boolean true) ∧
      (env.evaluate (form "and" [truth false])).Echoes
        (env.evaluate (form "and" [truth false, definition])) ∧
      (env.evaluate (form "or" [truth true])).Echoes
        (env.evaluate (form "or" [truth true, definition])) ∧
      (env.evaluate (form "if" [truth true, truth true, truth true])).Echoes
        (env.evaluate (form "if" [truth true, truth true, definition])) ∧
      (env.evaluate (form "if" [truth false, truth true, truth true])).Echoes
        (env.evaluate (form "if" [truth false, definition, truth true])) := by
  intro env definition call truth form failed
  have shortcut (head : String) := evaluate_shortcut env ⟨head, .unknown⟩ .unknown .unknown
  have stopped : (env.evaluate (form "and" [definition])).result =
      .error (.typeMismatch .and .truth .unknown) := rfl
  have bound : (env.evaluate (form "and" [definition])).env.globals.get? "x" =
      some (.boolean true) := rfl
  have echoes := (shortcut "and").1 .and [definition] [call] _ rfl (.inl (by decide)) stopped
  have tested {holds : Bool} {value : Value}
      (found : (env.enter.evaluate (truth holds)).result = .ok value) : value = .boolean holds :=
    (Except.ok.inj found).symm
  refine ⟨echoes.result.symm.trans stopped, ?_, ?_, ?_, ?_, ?_⟩
  · exact (congrArg (·.globals.get? "x") echoes.env).symm.trans bound
  · exact (shortcut "and").2.1 [truth false] [definition] rfl rfl
  · exact (shortcut "or").2.2.1 [truth true] [definition] rfl rfl
  · exact ((shortcut "if").2.2.2 (truth true) rfl).1 (fun _ found => .inl (tested found)) _ _ _
  · refine ((shortcut "if").2.2.2 (truth false) rfl).2 (fun _ found => ?_) _ _ _
    rw [tested found]
    simp [Value.Holds]

end Environment

end LineLisp
