import Mathlib.Data.List.Basic
import LineLisp.Proofs.Semantics.Rules

/-! Evaluation gives something whatever its limits, and what an expression means
unless it hits one. -/
namespace LineLisp

open Run

def Meets {α : Type} (home : Environment) (body : Run α)
    (judged : Globals → Except EvalError α → Globals → Prop) : Prop :=
  ∀ before, ∃ result after, Gives home body before result after ∧
    (Settled result → judged before result after)

theorem Meets.map {α β : Type} {home : Environment} {body : Run α} {f : α → β}
    {judged : Globals → Except EvalError α → Globals → Prop}
    {wanted : Globals → Except EvalError β → Globals → Prop} (met : Meets home body judged)
    (holds : ∀ {before result after}, judged before result after →
      wanted before (result.map f) after) :
    Meets home (f <$> body) wanted := by
  intro before
  obtain ⟨result, after, given, judges⟩ := met before
  exact ⟨_, after, given.map f, fun settled => holds (judges (settled_map.mp settled))⟩

namespace Rules

variable {policy : ArgumentErrors} {frame : Option Frame} {home : Environment}
  {self : Expr → Run Value}

def Sound (policy : ArgumentErrors) (frame : Option Frame) (home : Environment)
    (self : Expr → Run Value) : Prop :=
  ∀ expr, Meets home (self expr) fun before result after =>
    Evaluates policy frame before expr result after

theorem number_meets (sound : Sound policy frame home self) (op : Operator) (operand : Expr) :
    Meets home (number self op operand) fun before result after =>
      Counts policy frame op before operand result after := by
  intro before
  obtain ⟨result, after, given, evaluates⟩ := sound operand before
  cases result with
  | error err => exact ⟨_, _, given.bind_error _, fun settled => .fails (evaluates settled)⟩
  | ok value =>
    have evaluated := evaluates trivial
    cases numeric : value.number? with
    | some x => exact ⟨_, _, number_gives given numeric, fun _ => .number evaluated numeric⟩
    | none => exact ⟨_, _, number_mismatch given numeric, fun _ => .mismatch evaluated numeric⟩

theorem truth_meets (sound : Sound policy frame home self) (op : Operator) (operand : Expr) :
    Meets home (truth self op operand) fun before result after =>
      Judges policy frame op before operand result after := by
  intro before
  obtain ⟨result, after, given, evaluates⟩ := sound operand before
  cases result with
  | error err => exact ⟨_, _, given.bind_error _, fun settled => .fails (evaluates settled)⟩
  | ok value =>
    have evaluated := evaluates trivial
    cases truthful : value.truth? with
    | some b => exact ⟨_, _, truth_gives given truthful, fun _ => .truth evaluated truthful⟩
    | none => exact ⟨_, _, truth_mismatch given truthful, fun _ => .mismatch evaluated truthful⟩

theorem accumulate_meets (sound : Sound policy frame home self) {op : Operator}
    {combine : Float → Float → Float} {checked : Expr → Float → Float → Except EvalError Float}
    (combines : Combines op combine checked) (operands : List Expr) (total : Float) :
    Meets home (accumulate self op checked total operands) fun before result after =>
      Folds policy frame op combine before total operands result after := by
  induction operands generalizing total with
  | nil => exact fun before => ⟨_, _, .pure total, fun _ => .nil⟩
  | cons operand rest ih =>
    intro before
    obtain ⟨result, middle, given, counts⟩ := number_meets sound op operand before
    cases result with
    | error err => exact ⟨_, _, given.bind_error _, fun settled => .fails (counts settled)⟩
    | ok x =>
      have counted := counts trivial
      cases refused : op.refuses x with
      | true =>
        exact ⟨_, _, accumulate_zero combines rest given refused, fun _ => .zero counted refused⟩
      | false =>
        obtain ⟨result, after, ends, folds⟩ := ih (combine total x) middle
        exact ⟨_, _, accumulate_next combines given refused ends, fun settled =>
          .next counted refused (folds settled)⟩

theorem difference_meets (sound : Sound policy frame home self) (operands : List Expr) (span : Span) :
    Meets home (operate self .minus operands span) fun before result after =>
      Operates policy frame .minus before operands span result after := by
  intro before
  match operands with
  | [] => exact ⟨_, _, seedless_gives rfl, fun _ => .seedless rfl⟩
  | [operand] =>
    obtain ⟨result, after, given, counts⟩ := number_meets sound .minus operand before
    exact ⟨_, _, opposite_gives given, fun settled => .opposite (counts (settled_map.mp settled))⟩
  | first :: second :: rest =>
    obtain ⟨result, middle, given, counts⟩ := number_meets sound .minus first before
    cases result with
    | error err => exact ⟨_, _, seed_fails rfl given, fun settled => .seedFails rfl (counts settled)⟩
    | ok x =>
      have counted := counts trivial
      obtain ⟨result, after, ends, folds⟩ :=
        accumulate_meets sound combines_minus (second :: rest) x middle
      exact ⟨_, _, (given.bind ends).map _, fun settled =>
        .difference counted (folds (settled_map.mp settled))⟩

theorem ratio_meets (sound : Sound policy frame home self) (operands : List Expr) (span : Span) :
    Meets home (operate self .divide operands span) fun before result after =>
      Operates policy frame .divide before operands span result after := by
  intro before
  match operands with
  | [] => exact ⟨_, _, seedless_gives rfl, fun _ => .seedless rfl⟩
  | [operand] =>
    obtain ⟨result, after, given, folds⟩ :=
      accumulate_meets sound combines_divide [operand] 1 before
    exact ⟨_, _, given.map _, fun settled => .inverse (folds (settled_map.mp settled))⟩
  | first :: second :: rest =>
    obtain ⟨result, middle, given, counts⟩ := number_meets sound .divide first before
    cases result with
    | error err => exact ⟨_, _, seed_fails rfl given, fun settled => .seedFails rfl (counts settled)⟩
    | ok x =>
      have counted := counts trivial
      obtain ⟨result, after, ends, folds⟩ :=
        accumulate_meets sound combines_divide (second :: rest) x middle
      exact ⟨_, _, (given.bind ends).map _, fun settled =>
        .quotient counted (folds (settled_map.mp settled))⟩

/-- What is looked for is the truth value that decides. -/
theorem anyTruth_meets (sound : Sound policy frame home self) (op : Operator) (neutral : Bool)
    (operands : List Expr) (before : Globals) :
    ∃ result after,
      Gives home (anyTruth self op (!neutral) operands) before (result.map (· != neutral)) after ∧
        (Settled result → Decides policy frame op neutral before operands result after) := by
  induction operands generalizing before with
  | nil => exact ⟨_, _, anyTruth_nil, fun _ => .nil⟩
  | cons operand rest ih =>
    obtain ⟨result, middle, given, judges⟩ := truth_meets sound op operand before
    cases result with
    | error err => exact ⟨.error err, _, given.bind_error _, fun settled => .fails (judges settled)⟩
    | ok b =>
      have judged := judges trivial
      by_cases same : b = neutral
      · subst same
        obtain ⟨result, after, ends, decides⟩ := ih middle
        exact ⟨result, after, anyTruth_next given ends, fun settled => .next judged (decides settled)⟩
      · obtain rfl : b = !neutral := Bool.eq_not.mpr same
        exact ⟨_, _, anyTruth_stop rest given, fun _ => .stop judged⟩

theorem negation_meets (sound : Sound policy frame home self) (operands : List Expr) (span : Span) :
    Meets home (operate self .not operands span) fun before result after =>
      Operates policy frame .not before operands span result after := by
  intro before
  by_cases count : operands.length = 1
  · obtain ⟨operand, rfl⟩ := List.length_eq_one_iff.mp count
    obtain ⟨result, after, given, judges⟩ := truth_meets sound .not operand before
    exact ⟨_, _, negation_gives given, fun settled => .negation (judges (settled_map.mp settled))⟩
  · exact ⟨_, _, negation_arity span count, fun _ => .negationArity count⟩

theorem comparison_meets (sound : Sound policy frame home self) {op : Operator}
    {holds : Float → Float → Bool} (compares : op.compares? = some holds) (operands : List Expr)
    (span : Span) :
    Meets home (operate self op operands span) fun before result after =>
      Operates policy frame op before operands span result after := by
  intro before
  by_cases count : operands.length = 2
  · obtain ⟨left, right, rfl⟩ := List.length_eq_two.mp count
    obtain ⟨result, middle, first, counts⟩ := number_meets sound op left before
    cases result with
    | error err =>
      exact ⟨_, _, comparison_left compares first, fun settled => .leftFails compares (counts settled)⟩
    | ok a =>
      have counted := counts trivial
      obtain ⟨result, after, second, judges⟩ := number_meets sound op right middle
      cases result with
      | error err =>
        exact ⟨_, _, comparison_right compares first second, fun settled =>
          .rightFails compares counted (judges settled)⟩
      | ok b =>
        exact ⟨_, _, comparison_gives compares first second, fun _ =>
          .comparison compares counted (judges trivial)⟩
  · exact ⟨_, _, comparison_arity compares span count, fun _ => .comparisonArity compares count⟩

theorem conditional_meets (sound : Sound policy frame home self) (operands : List Expr) (span : Span) :
    Meets home (operate self .conditional operands span) fun before result after =>
      Operates policy frame .conditional before operands span result after := by
  intro before
  by_cases count : operands.length = 3
  · obtain ⟨test, yes, no, rfl⟩ := List.length_eq_three.mp count
    obtain ⟨result, middle, given, evaluates⟩ := sound test before
    cases result with
    | error err => exact ⟨_, _, given.bind_error _, fun settled => .testFails (evaluates settled)⟩
    | ok value =>
      have tested := evaluates trivial
      by_cases holds : value.truth? = some true
      · obtain ⟨result, after, ends, branch⟩ := sound yes middle
        exact ⟨_, _, conditional_taken given holds ends, fun settled =>
          .taken tested holds (branch settled)⟩
      · obtain ⟨result, after, ends, branch⟩ := sound no middle
        exact ⟨_, _, conditional_skipped given holds ends, fun settled =>
          .skipped tested holds (branch settled)⟩
  · exact ⟨_, _, conditional_shape span count, fun _ => .conditionalShape count⟩

theorem define_meets (sound : Sound policy frame home self) (operands : List Expr) (span : Span) :
    Meets home (operate self .define operands span) fun before result after =>
      Operates policy frame .define before operands span result after := by
  intro before
  by_cases count : operands.length = 2
  · obtain ⟨target, body, rfl⟩ := List.length_eq_two.mp count
    cases target with
    | number x place => exact ⟨_, _, .throw _, fun _ => .defineNumber⟩
    | boolean b place => exact ⟨_, _, .throw _, fun _ => .defineBoolean⟩
    | name ident =>
      obtain ⟨result, after, given, evaluates⟩ := sound body before
      cases result with
      | error err => exact ⟨_, _, given.bind_error _, fun settled => .defineFails (evaluates settled)⟩
      | ok value => exact ⟨_, _, defineValue_gives given, fun _ => .defineValue (evaluates trivial)⟩
    | form head parameters place =>
      cases spelled : Operator.ofName? head.text with
      | some op =>
        exact ⟨_, _, defineProcedure_builtin spelled parameters body, fun _ => .defineBuiltin spelled⟩
      | none =>
        rcases parameters_cases parameters with ⟨names, rfl⟩ | ⟨names, parameter, others, rfl, unnamed⟩
        · exact ⟨_, _, defineProcedure_gives spelled names body, fun _ => .defineProcedure spelled⟩
        · exact ⟨_, _, defineProcedure_parameter spelled names others unnamed body, fun _ =>
            .defineParameter spelled unnamed⟩
  · exact ⟨_, _, define_shape span count, fun _ => .defineShape count⟩

theorem operate_meets (sound : Sound policy frame home self) (op : Operator) (operands : List Expr)
    (span : Span) :
    Meets home (operate self op operands span) fun before result after =>
      Operates policy frame op before operands span result after := by
  cases op with
  | plus => exact (accumulate_meets sound combines_plus operands 0).map .sum
  | minus => exact difference_meets sound operands span
  | times => exact (accumulate_meets sound combines_times operands 1).map .product
  | divide => exact ratio_meets sound operands span
  | and =>
    intro before
    obtain ⟨result, after, given, decides⟩ := anyTruth_meets sound .and true operands before
    exact ⟨_, _, conjunction_gives given, fun settled =>
      .conjunction (decides (settled_map.mp settled))⟩
  | or =>
    intro before
    obtain ⟨result, after, given, decides⟩ := anyTruth_meets sound .or false operands before
    exact ⟨_, _, disjunction_gives given, fun settled =>
      .disjunction (decides (settled_map.mp settled))⟩
  | not => exact negation_meets sound operands span
  | equal | greater | greaterEqual | less | lessEqual =>
    exact comparison_meets sound rfl operands span
  | conditional => exact conditional_meets sound operands span
  | define => exact define_meets sound operands span

theorem argument_meets (sound : Sound policy frame home self) (placed : Placed policy frame home)
    (callee : Name) (operand : Expr) :
    Meets home (argument self callee operand) fun before result after =>
      Passes policy frame before operand result after := by
  intro before
  obtain ⟨result, after, given, evaluates⟩ := sound operand before
  cases result with
  | ok value => exact ⟨_, _, argument_value given, fun _ => .value (evaluates trivial)⟩
  | error err =>
    cases fatal : err.isFatal with
    | true =>
      refine ⟨_, _, argument_fatal fatal given, fun settled => ?_⟩
      exact Bool.noConfusion (fatal.symm.trans settled)
    | false =>
      have passed : Gives home (argument self callee operand) before _ after :=
        argument_fails fatal given
      rw [placed.policy] at passed
      cases policy with
      | propagate => exact ⟨_, _, passed, fun settled => .fails rfl (evaluates settled)⟩
      | swallow => exact ⟨_, _, passed, fun _ => .dropped rfl (evaluates fatal)⟩

theorem arguments_meets (sound : Sound policy frame home self) (placed : Placed policy frame home)
    (callee : Name) (operands : List Expr) :
    Meets home (arguments self callee operands) fun before result after =>
      PassesAll policy frame before operands result after := by
  induction operands with
  | nil => exact fun before => ⟨_, _, .pure [], fun _ => .nil⟩
  | cons operand rest ih =>
    intro before
    obtain ⟨result, middle, given, passes⟩ := argument_meets sound placed callee operand before
    cases result with
    | error err => exact ⟨_, _, given.bind_error _, fun settled => .fails (passes settled)⟩
    | ok binding =>
      have passed := passes trivial
      obtain ⟨result, after, ends, others⟩ := ih middle
      exact ⟨_, _, arguments_next given ends, fun settled =>
        .next passed (others (settled_map.mp settled))⟩

theorem apply_meets (sound : Sound policy frame home self) (placed : Placed policy frame home)
    (bodies : ∀ frame, Sound policy (some frame) (home.push frame) self) {callee : Name}
    (named : Operator.ofName? callee.text = none) (operands : List Expr) (span : Span) :
    Meets home (apply self callee operands span) fun before result after =>
      Evaluates policy frame before (.form callee operands span) result after := by
  intro before
  obtain ⟨result, middle, given, passes⟩ := arguments_meets sound placed callee operands before
  cases result with
  | error err =>
    exact ⟨_, _, given.bind_error _, fun settled => .argumentsFail named (passes settled)⟩
  | ok bindings =>
    have passed := passes trivial
    cases found : middle.get? callee.text with
    | none =>
      exact ⟨_, _, given.bind ((callable_unbound found).bind_error _), fun _ =>
        .calleeUnbound named passed found⟩
    | some binding =>
      by_cases callable : ∃ procedure, binding = .procedure procedure
      · obtain ⟨procedure, rfl⟩ := callable
        have called : Gives home (Rules.callable callee) middle (.ok procedure) middle :=
          callable_gives found
        by_cases equal : procedure.arity = bindings.length
        · by_cases full : home.config.maxCallDepth ≤ home.depth
          · refine ⟨_, _, given.bind (called.bind (invoke_exhausted span equal full)), ?_⟩
            intro settled
            cases settled
          · obtain ⟨result, after, ends, body⟩ := bodies _ procedure.body middle
            have ran := invoke_gives span equal (Nat.not_le.mp full) ends
            exact ⟨_, _, given.bind (called.bind ran), fun settled =>
              .call named passed found equal (body settled)⟩
        · exact ⟨_, _, given.bind (called.bind (invoke_arity span equal)), fun _ =>
            .arity named passed found equal⟩
      · have unlike : ∀ procedure, binding ≠ .procedure procedure :=
          fun procedure same => callable ⟨procedure, same⟩
        exact ⟨_, _, given.bind ((callable_other found unlike).bind_error _), fun _ =>
          .calleeOther named passed found unlike⟩

theorem value_meets (sound : Sound policy frame home self) (placed : Placed policy frame home)
    (bodies : ∀ frame, Sound policy (some frame) (home.push frame) self) (expr : Expr) :
    Meets home (value self expr) fun before result after =>
      Evaluates policy frame before expr result after := by
  intro before
  cases expr with
  | number x span => exact ⟨_, _, .pure _, fun _ => .number⟩
  | boolean b span => exact ⟨_, _, .pure _, fun _ => .boolean⟩
  | name ident =>
    cases found : meaning? frame before ident.text with
    | some binding => exact ⟨_, _, reference_bound placed found, fun _ => .bound found⟩
    | none => exact ⟨_, _, reference_unbound placed found, fun _ => .unbound found⟩
  | form head operands span =>
    cases spelled : Operator.ofName? head.text with
    | some op =>
      obtain ⟨result, after, given, operates⟩ := operate_meets sound op operands span before
      rw [value_operator spelled]
      exact ⟨_, _, given, fun settled => .form spelled (operates settled)⟩
    | none =>
      rw [value_call spelled]
      exact apply_meets sound placed bodies spelled operands span before

end Rules

/-- Whatever the room, evaluation gives something, and what an expression means unless it hits a
limit. -/
theorem evaluateWithin_sound (room : Nat) (home : Environment) :
    Rules.Sound home.config.argumentErrors home.frame? home (evaluateWithin room) := by
  induction room generalizing home with
  | zero =>
    intro expr before
    refine ⟨_, before, .environment (.throw _), ?_⟩
    intro settled
    cases settled
  | succ room ih =>
    intro expr before
    have bodies : ∀ frame, Rules.Sound home.config.argumentErrors (some frame)
        (home.enter.push frame) (evaluateWithin room) := fun frame => ih (home.enter.push frame)
    obtain ⟨result, after, given, evaluates⟩ :=
      Rules.value_meets (ih home.enter) ⟨rfl, rfl⟩ bodies expr before
    exact ⟨result, after, given.evaluation, evaluates⟩

end LineLisp
