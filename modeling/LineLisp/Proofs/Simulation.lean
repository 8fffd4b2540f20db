import LineLisp.Eval

/-! Two runs of related work.
A simulation says which machines correspond and which errors, places and
procedures stand for one another. The second of two runs follows the first if it
takes corresponding machines to corresponding machines and ends as the first
does, except that the first may fail for good: no call catches its error, and
the second goes on alone. -/
namespace LineLisp

structure Loss where
  lost : EvalError → List Event → Prop
  stays : ∀ {err log} (event : Event), lost err log → lost err (event :: log)

def Loss.of (lost : EvalError → Prop) : Loss :=
  ⟨fun err _ => lost err, fun _ => id⟩

structure Simulation (Level : Type) extends Loss where
  machine : Level → Machine → Machine → Prop
  call : Level → Frame → Level
  error : EvalError → EvalError → Prop
  place : Span → Span → Prop
  procedure : Procedure → Procedure → Prop

inductive Simulation.Binds {Level : Type} (s : Simulation Level) : Binding → Binding → Prop
  | number (value : Float) : Binds s (.number value) (.number value)
  | boolean (value : Bool) : Binds s (.boolean value) (.boolean value)
  | procedure {meant peer} (stands : s.procedure meant peer) :
    Binds s (.procedure meant) (.procedure peer)
  | void : Binds s .void .void

namespace Run

variable {Level α β γ δ : Type}

def machineAfter : EStateM.Result EvalError Machine α → Machine
  | .ok _ after => after
  | .error _ after => after

def Escapes (err : EvalError) (machine : Machine) : Prop :=
  err.isFatal = true ∨ machine.env.config.argumentErrors = .propagate

inductive Ends (s : Simulation Level) (level : Level) (V : α → β → Prop) :
    EStateM.Result EvalError Machine α → EStateM.Result EvalError Machine β → Prop
  | ok {value other after finish} (stands : V value other) (meet : s.machine level after finish) :
    Ends s level V (.ok value after) (.ok other finish)
  | error {err other after finish} (stands : s.error err other)
    (meet : s.machine level after finish) : Ends s level V (.error err after) (.error other finish)
  | lost {err after second} (escapes : Escapes err after)
    (lost : s.lost err (machineAfter second).log) : Ends s level V (.error err after) second

def Keeps (s : Simulation Level) (second : Run β) : Prop :=
  ∀ err machine, s.lost err machine.log → s.lost err (machineAfter (second machine)).log

structure Follows (s : Simulation Level) (level : Level) (V : α → β → Prop) (first : Run α)
    (second : Run β) : Prop where
  ends : ∀ m n, s.machine level m n → Ends s level V (first m) (second n)
  keeps : Keeps s second

variable {s : Simulation Level} {level : Level}

namespace Keeps

theorem pure (value : α) : Keeps s (pure value) :=
  fun _ _ lost => lost

theorem throw (err : EvalError) : Keeps s (throw err : Run α) :=
  fun _ _ lost => lost

theorem emit (event : Event) : Keeps s (emit event) :=
  fun _ _ lost => s.stays event lost

theorem define (name : String) (binding : Binding) : Keeps s (define name binding) :=
  fun _ _ lost => lost

theorem bind {body : Run α} {next : α → Run β} (head : Keeps s body)
    (tails : ∀ value, Keeps s (next value)) : Keeps s (body >>= next) := by
  intro err machine lost
  have kept := head err machine lost
  change s.lost err (machineAfter (EStateM.bind body next machine)).log
  unfold EStateM.bind
  generalize body machine = result at kept
  cases result with
  | ok value after => exact tails value err after kept
  | error failure after => exact kept

theorem environment {next : Environment → Run α} (tails : ∀ env, Keeps s (next env)) :
    Keeps s (environment >>= next) :=
  fun err machine lost => tails machine.env err machine lost

theorem attempt {body : Run α} (kept : Keeps s body) : Keeps s (attempt body) := by
  intro err machine lost
  have after := kept err machine lost
  unfold Run.attempt
  generalize body machine = result at after
  cases result <;> exact after

theorem bracket {change undo : Environment → Environment} {body : Run α} (kept : Keeps s body) :
    Keeps s (bracket change undo body) := by
  intro err machine lost
  have after := kept err { machine with env := change machine.env } lost
  unfold Run.bracket
  generalize body _ = result at after
  cases result <;> exact after

end Keeps

namespace Follows

variable {V : α → β → Prop} {W : γ → δ → Prop}

theorem pure {value : α} {other : β} (stands : V value other) :
    Follows s level V (pure value) (pure other) where
  ends _ _ meet := .ok stands meet
  keeps := .pure other

theorem imp {first : Run α} {second : Run β} {U : α → β → Prop}
    (follows : Follows s level V first second)
    (weaker : ∀ value other, V value other → U value other) : Follows s level U first second where
  ends m n meet := by
    have same := follows.ends m n meet
    generalize first m = left, second n = right at same
    cases same with
    | ok stands ends => exact .ok (weaker _ _ stands) ends
    | error stands ends => exact .error stands ends
    | lost escapes lost => exact .lost escapes lost
  keeps := follows.keeps

/-- The value is also one that the first run alone may give. -/
theorem returning {P : α → Prop} {first : Run α} {second : Run β}
    (follows : Follows s level V first second)
    (returns : ∀ machine value after, first machine = .ok value after → P value) :
    Follows s level (fun value other => V value other ∧ P value) first second where
  ends m n meet := by
    have same := follows.ends m n meet
    have given := returns m
    generalize first m = left, second n = right at same given
    cases same with
    | ok stands ends => exact .ok ⟨stands, given _ _ rfl⟩ ends
    | error stands ends => exact .error stands ends
    | lost escapes lost => exact .lost escapes lost
  keeps := follows.keeps

theorem throw {err other : EvalError} (stands : s.error err other) :
    Follows s level V (throw err) (throw other) where
  ends _ _ meet := .error stands meet
  keeps := .throw other

theorem emit {event shown : Event}
    (noted : ∀ m n, s.machine level m n →
      s.machine level { m with log := event :: m.log } { n with log := shown :: n.log }) :
    Follows s level Eq (emit event) (emit shown) where
  ends m n meet := .ok rfl (noted m n meet)
  keeps := .emit shown

/-- The second run may also go on from a value that stands for none. -/
theorem bindWith {first : Run α} {second : Run β} {next : α → Run γ} {follow : β → Run δ}
    (heads : Follows s level V first second)
    (tails : ∀ value other, V value other → Follows s level W (next value) (follow other))
    (keeps : ∀ other, Keeps s (follow other)) :
    Follows s level W (first >>= next) (second >>= follow) where
  ends := by
    intro m n meet
    have same := heads.ends m n meet
    change Ends s level W (EStateM.bind first next m) (EStateM.bind second follow n)
    unfold EStateM.bind
    generalize first m = left, second n = right at same
    cases same with
    | ok stands ends => exact (tails _ _ stands).ends _ _ ends
    | error stands ends => exact .error stands ends
    | lost escapes lost =>
      cases right with
      | ok other finish => exact .lost escapes (keeps other _ finish lost)
      | error failure finish => exact .lost escapes lost
  keeps := heads.keeps.bind keeps

theorem bind {first second : Run α} {next : α → Run γ} {follow : α → Run δ}
    (heads : Follows s level Eq first second)
    (tails : ∀ value, Follows s level W (next value) (follow value)) :
    Follows s level W (first >>= next) (second >>= follow) :=
  heads.bindWith (fun value _ same => same ▸ tails value) fun value => (tails value).keeps

theorem map {first second : Run α} (f : α → γ) (heads : Follows s level Eq first second) :
    Follows s level Eq (f <$> first) (f <$> second) := by
  rw [map_eq_pure_bind, map_eq_pure_bind]
  exact heads.bind fun value => .pure rfl

theorem environment {next : Environment → Run α} {follow : Environment → Run β}
    (tails : ∀ m n, s.machine level m n → Ends s level V (next m.env m) (follow n.env n))
    (keeps : ∀ env, Keeps s (follow env)) :
    Follows s level V (environment >>= next) (environment >>= follow) where
  ends := tails
  keeps := .environment keeps

/-- Inside the bracket the runs are at the level `inner`. -/
theorem bracket {inner : Level} {change alter undo : Environment → Environment} {first : Run α}
    {second : Run β} (body : Follows s inner V first second)
    (enters : ∀ m n, s.machine level m n →
      s.machine inner { m with env := change m.env } { n with env := alter n.env })
    (leaves : ∀ m n, s.machine inner m n →
      s.machine level { m with env := undo m.env } { n with env := undo n.env })
    (settings : ∀ env, (undo env).config = env.config) :
    Follows s level V (bracket change undo first) (bracket alter undo second) where
  ends := by
    intro m n meet
    have same := body.ends _ _ (enters m n meet)
    unfold Run.bracket
    generalize first _ = left, second _ = right at same
    cases same with
    | ok stands ends => exact .ok stands (leaves _ _ ends)
    | error stands ends => exact .error stands (leaves _ _ ends)
    | @lost err after _ escapes lost =>
      have escaped : Escapes err { after with env := undo after.env } := by
        unfold Escapes
        rw [settings]
        exact escapes
      cases right <;> exact .lost escaped lost
  keeps := body.keeps.bracket

end Follows

end Run

end LineLisp
