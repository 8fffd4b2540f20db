import LineLisp.Proofs.Lockstep
import LineLisp.Session

/-! Evaluation as a recursion.
A machine is at home in an environment if it differs from it in its globals
alone. Evaluation that starts at home ends at home, and what it does there is
determined by the recursion that `limited` spells out. -/
namespace LineLisp

def Comparison.home (home : Environment) (event : Event → Prop) (error : EvalError → Prop) :
    Comparison where
  machine m n :=
    m = n ∧ m.env = { home with globals := m.env.globals } ∧ ∀ shown ∈ m.log, event shown
  error := error

structure Bounds (fit : Environment → Prop) (event : Event → Prop) (error : EvalError → Prop) :
    Prop where
  note : ∀ shown : Event, shown.depth? = none → event shown
  ordinary : ∀ err : EvalError, err.isFatal = false → error err
  refused : ∀ env, fit env → env.room = 0 → error (.nestingTooDeep env.nesting)
  entered : ∀ env, fit env → env.room ≠ 0 → fit env.enter ∧ ∀ expr globals,
    event (.evaluating expr { env.enter with globals })
  exhausted : ∀ env, fit env → env.room ≠ 0 → env.config.maxCallDepth ≤ env.depth →
    error (.stackExhausted env.depth)
  called : ∀ env, fit env → env.room ≠ 0 → env.depth < env.config.maxCallDepth →
    (∀ name, event (.call name (env.depth + 1))) ∧ ∀ frame, fit (env.enter.push frame)

def limited (recurse : Expr → Run Value) (expr : Expr) : Run Value := do
  let env ← Run.environment
  if env.config.maxEvalDepth ≤ env.nesting then throw (.nestingTooDeep env.nesting)
  else Run.nested (Rules.evaluation recurse expr)

structure Recursive (recurse : Nat → Expr → Run Value) : Prop where
  refuses : ∀ expr machine, machine.env.room = 0 →
    recurse 0 expr machine = .error (.nestingTooDeep machine.env.nesting) machine
  proceeds : ∀ room expr machine, machine.env.room = room + 1 →
    recurse (room + 1) expr machine = Run.nested (Rules.evaluation (recurse room) expr) machine

namespace Run

variable {fit : Environment → Prop} {event : Event → Prop} {error : EvalError → Prop}

theorem home_emit {env : Environment} {shown : Event} (allowed : event shown) :
    Alike (.home env event error) (emit shown) (emit shown) := by
  apply Alike.emit
  intro m n alike
  obtain ⟨rfl, same, others⟩ := alike
  exact ⟨rfl, same, List.forall_mem_cons.mpr ⟨allowed, others⟩⟩

theorem home_define {env : Environment} (name : String) (binding : Binding) :
    Alike (.home env event error) (define name binding) (define name binding) := by
  intro m n alike
  obtain ⟨rfl, same, shown⟩ := alike
  refine .ok ⟨rfl, ?_, shown⟩
  change Environment.define m.env name binding = _
  rw [same]
  rfl

theorem home_respected (bounds : Bounds fit event error) (env : Environment) :
    (Comparison.home env event error).Respected where
  policy m n alike := by rw [alike.1]
  lookup m n alike name := by rw [alike.1]
  globals m n alike name := by rw [alike.1]
  define := home_define
  note shown unplaced := home_emit (bounds.note shown unplaced)
  ordinary := bounds.ordinary

theorem home_bracket {env inner : Environment} {change undo : Environment → Environment}
    {first second : Run Value} (body : Alike (.home inner event error) first second)
    (enters : ∀ globals, change { env with globals } = { inner with globals })
    (leaves : ∀ globals, undo { inner with globals } = { env with globals }) :
    Alike (.home env event error) (bracket change undo first) (bracket change undo second) := by
  refine Alike.bracket body ?_ ?_ fun err allowed => allowed
  · intro m n alike
    obtain ⟨rfl, same, shown⟩ := alike
    have entered := enters m.env.globals
    rw [← same] at entered
    refine ⟨rfl, ?_, shown⟩
    change change m.env = _
    rw [entered]
  · intro m n alike
    obtain ⟨rfl, same, shown⟩ := alike
    have left := leaves m.env.globals
    rw [← same] at left
    refine ⟨rfl, ?_, shown⟩
    change undo m.env = _
    rw [left]

theorem home_nested {env : Environment} {first second : Run Value}
    (body : Alike (.home env.enter event error) first second) :
    Alike (.home env event error) (nested first) (nested second) :=
  home_bracket body (fun _ => rfl) fun _ => rfl

theorem home_withFrame {env : Environment} {frame : Frame} {first second : Run Value}
    (body : Alike (.home (env.push frame) event error) first second) :
    Alike (.home env event error) (withFrame frame first) (withFrame frame second) :=
  home_bracket body (fun _ => rfl) fun _ => by simp [Environment.push, Environment.pop]

/-- What is in progress at home in `env.enter`, given the evaluations inside it. -/
theorem home_evaluation (bounds : Bounds fit event error) {env : Environment} (start : fit env)
    (more : env.room ≠ 0) {self other : Expr → Run Value}
    (evaluated : ∀ expr, Alike (.home env.enter event error) (self expr) (other expr))
    (bodies : ∀ frame, fit (env.enter.push frame) → ∀ expr,
      Alike (.home (env.enter.push frame) event error) (self expr) (other expr))
    (expr : Expr) :
    Alike (.home env.enter event error) (Rules.evaluation self expr)
      (Rules.evaluation other expr) := by
  have respected := home_respected bounds env.enter
  refine .environment fun m n alike => ?_
  obtain ⟨rfl, same, -⟩ := alike
  have noted : event (.evaluating expr m.env) := by
    rw [same]
    exact (bounds.entered env start more).2 expr _
  refine (home_emit noted).bind fun _ => ?_
  refine Rules.alike_value respected evaluated (fun procedure bindings span => ?_) expr
  refine Rules.alike_invoke respected procedure bindings span ?_ ?_ ?_ ?_
  · intro m n alike
    rw [alike.1]
  · intro m n alike
    rw [alike.1]
  · intro m n alike full
    obtain ⟨rfl, same, -⟩ := alike
    rw [same] at full ⊢
    exact bounds.exhausted env start more full
  · intro m n alike free
    obtain ⟨rfl, same, -⟩ := alike
    rw [same] at free ⊢
    obtain ⟨called, entered⟩ := bounds.called env start more free
    exact ⟨home_emit (called procedure.name), fun frame =>
      home_withFrame (bodies frame (entered frame) procedure.body)⟩

/-- Evaluation keeps to its bounds, and every recursion that goes on as it does agrees with it. -/
theorem home_evaluateWithin (bounds : Bounds fit event error) {recurse : Nat → Expr → Run Value}
    (recursive : Recursive recurse) {env : Environment} (start : fit env) (expr : Expr) :
    Alike (.home env event error) (evaluateWithin env.room expr) (recurse env.room expr) := by
  -- Only the room goes down: the body of a procedure is no part of the expression.
  generalize room : env.room = n
  induction n generalizing env expr with
  | zero =>
    intro m n alike
    obtain ⟨rfl, same, shown⟩ := alike
    have none : m.env.room = 0 := by rw [same]; exact room
    rw [recursive.refuses expr m none]
    refine .error ?_ ⟨rfl, same, shown⟩
    rw [same]
    exact bounds.refused env start room
  | succ left ih =>
    have more : env.room ≠ 0 := by omega
    have entered : env.enter.room = left := by
      simp only [Environment.room, Environment.enter] at room ⊢
      omega
    have evaluated : ∀ expr, Alike (.home env.enter event error) (evaluateWithin left expr)
        (recurse left expr) :=
      fun expr => ih (bounds.entered env start more).1 expr entered
    have bodies : ∀ frame, fit (env.enter.push frame) → ∀ expr,
        Alike (.home (env.enter.push frame) event error) (evaluateWithin left expr)
          (recurse left expr) :=
      fun frame fits expr => ih fits expr entered
    have body := home_nested (home_evaluation bounds start more evaluated bodies expr)
    intro m n alike
    obtain ⟨rfl, same, shown⟩ := alike
    have some : m.env.room = left + 1 := by rw [same]; exact room
    rw [recursive.proceeds left expr m some]
    simpa only [evaluateWithin, spread_eq] using body m m ⟨rfl, same, shown⟩

theorem recursive_evaluateWithin : Recursive evaluateWithin where
  refuses _ _ _ := rfl
  proceeds room expr machine _ := by simp [evaluateWithin]

theorem SameResult.eq {env : Environment} {α : Type}
    {first second : EStateM.Result EvalError Machine α}
    (same : SameResult (.home env event error) first second) : first = second := by
  cases same with
  | ok ends => rw [ends.1]
  | error _ ends => rw [ends.1]

/-- Evaluation with the room of its environment, in all of the machines at home there. -/
theorem home_evaluate (bounds : Bounds fit event error) {env : Environment} (start : fit env)
    (expr : Expr) : Alike (.home env event error) (evaluateWithin env.room expr) expr.evaluate := by
  intro m n alike
  obtain ⟨rfl, same, shown⟩ := alike
  have rooms : m.env.room = env.room := by rw [same]; rfl
  change SameResult _ _ (evaluateWithin m.env.room expr m)
  rw [rooms]
  exact home_evaluateWithin bounds recursive_evaluateWithin start expr m m ⟨rfl, same, shown⟩

theorem unbounded : Bounds (fun _ => True) (fun _ => True) fun _ => True where
  note _ _ := trivial
  ordinary _ _ := trivial
  refused _ _ _ := trivial
  entered _ _ _ := ⟨trivial, fun _ _ => trivial⟩
  exhausted _ _ _ _ := trivial
  called _ _ _ _ := ⟨fun _ => trivial, fun _ => trivial⟩

theorem limited_refuses (recurse : Expr → Run Value) (expr : Expr) (m : Machine)
    (full : m.env.room = 0) : limited recurse expr m = .error (.nestingTooDeep m.env.nesting) m := by
  have deep : m.env.config.maxEvalDepth ≤ m.env.nesting := Nat.sub_eq_zero_iff_le.mp full
  change (if m.env.config.maxEvalDepth ≤ m.env.nesting then throw (.nestingTooDeep m.env.nesting)
    else nested (Rules.evaluation recurse expr) : Run Value) m = _
  rw [if_pos deep]
  rfl

theorem limited_proceeds (recurse : Expr → Run Value) (expr : Expr) (m : Machine)
    (more : m.env.room ≠ 0) :
    limited recurse expr m = nested (Rules.evaluation recurse expr) m := by
  have free : ¬ m.env.config.maxEvalDepth ≤ m.env.nesting :=
    fun deep => more (Nat.sub_eq_zero_of_le deep)
  change (if m.env.config.maxEvalDepth ≤ m.env.nesting then throw (.nestingTooDeep m.env.nesting)
    else nested (Rules.evaluation recurse expr) : Run Value) m = _
  rw [if_neg free]

theorem evaluate_eq_limited (expr : Expr) : expr.evaluate = limited Expr.evaluate expr := by
  funext m
  change evaluateWithin m.env.room expr m = _
  cases room : m.env.room with
  | zero => exact (limited_refuses _ expr m room).symm
  | succ left =>
    have more : m.env.room ≠ 0 := by omega
    have entered : m.env.enter.room = left := by
      simp only [Environment.room, Environment.enter] at room ⊢
      omega
    have bodies : ∀ frame expr, Alike (.home (m.env.enter.push frame) (fun _ => True) fun _ => True)
        (evaluateWithin m.env.enter.room expr) expr.evaluate := by
      intro frame expr
      have pushed : (m.env.enter.push frame).room = m.env.enter.room := rfl
      rw [← pushed]
      exact home_evaluate unbounded trivial expr
    have body : Alike (.home m.env (fun _ => True) fun _ => True)
        (nested (Rules.evaluation (evaluateWithin left) expr))
        (nested (Rules.evaluation Expr.evaluate expr)) := by
      rw [← entered]
      exact home_nested (home_evaluation unbounded trivial more
        (fun expr => home_evaluate unbounded trivial expr) (fun frame _ => bodies frame) expr)
    rw [limited_proceeds _ expr m more]
    simpa only [evaluateWithin, spread_eq] using (body m m ⟨rfl, rfl, fun _ _ => trivial⟩).eq

/-- The recursion that `limited` spells out has one solution, which is evaluation. -/
theorem eq_limited_iff (recurse : Expr → Run Value) :
    (∀ expr, recurse expr = limited recurse expr) ↔ recurse = Expr.evaluate := by
  constructor
  · intro solves
    have recursive : Recursive fun _ => recurse := by
      constructor
      · intro expr m full
        rw [solves]
        exact limited_refuses recurse expr m full
      · intro left expr m more
        rw [solves]
        exact limited_proceeds recurse expr m (by omega)
    funext expr m
    have same : Alike (.home m.env (fun _ => True) fun _ => True)
        (evaluateWithin m.env.room expr) (recurse expr) :=
      home_evaluateWithin unbounded recursive trivial expr
    exact (same m m ⟨rfl, rfl, fun _ _ => trivial⟩).eq.symm
  · intro same
    rw [same]
    exact evaluate_eq_limited

end Run

namespace Environment

/-- The result of an evaluation, and what it leaves of the place where it starts. -/
theorem evaluate_within {fit : Environment → Prop} {event : Event → Prop} {error : EvalError → Prop}
    (bounds : Bounds fit event error) {env : Environment} (start : fit env) (expr : Expr) :
    (env.evaluate expr).env = { env with globals := (env.evaluate expr).env.globals } ∧
      (∀ shown ∈ (env.evaluate expr).log, event shown) ∧
      ∀ err, (env.evaluate expr).result = .error err → error err := by
  have same := Run.home_evaluate bounds start expr { env } { env }
    ⟨rfl, rfl, fun _ member => absurd member List.not_mem_nil⟩
  unfold evaluate
  generalize evaluateWithin env.room expr { env } = left, expr.evaluate { env } = right at same ⊢
  cases same with
  | ok ends =>
    obtain ⟨rfl, home, shown⟩ := ends
    exact ⟨home, fun event member => shown event (List.mem_reverse.mp member), by simp⟩
  | error allowed ends =>
    obtain ⟨rfl, home, shown⟩ := ends
    refine ⟨home, fun event member => shown event (List.mem_reverse.mp member), ?_⟩
    intro err failed
    cases failed
    exact allowed

theorem evaluate_env (env : Environment) (expr : Expr) :
    (env.evaluate expr).env = { env with globals := (env.evaluate expr).env.globals } :=
  (evaluate_within Run.unbounded trivial expr).1

theorem runLine_env (env : Environment) (line : String) :
    (env.runLine line).env = { env with globals := (env.runLine line).env.globals } := by
  unfold runLine
  dsimp only
  split
  · rfl
  · split
    · rfl
    · exact evaluate_env env _

theorem runLines_env (env : Environment) (lines : List String) :
    env.runLines lines = { env with globals := (env.runLines lines).globals } := by
  induction lines generalizing env with
  | nil => rfl
  | cons line rest ih =>
    change (env.runLine line).env.runLines rest =
      { env with globals := ((env.runLine line).env.runLines rest).globals }
    rw [ih]
    generalize ((env.runLine line).env.runLines rest).globals = globals
    rw [runLine_env]

/-- Evaluation leaves an environment as it is up to globals, whatever it returns, and so a session
that starts with no calls and no evaluations in progress has none in progress after any line. -/
theorem evaluate_restores :
    (∀ (env : Environment) (expr : Expr),
      (env.evaluate expr).env = { env with globals := (env.evaluate expr).env.globals }) ∧
    ∀ (config : Config) (lines : List String),
      ((withConfig config).runLines lines).depth = 0 ∧
        ((withConfig config).runLines lines).nesting = 0 := by
  refine ⟨evaluate_env, fun config lines => ?_⟩
  rw [runLines_env]
  exact ⟨rfl, rfl⟩

end Environment

end LineLisp
