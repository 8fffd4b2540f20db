import LineLisp.Proofs.Recursion
import LineLisp.Proofs.Simulation.Evaluation

/-! Evaluations that a log shows.
Each evaluation that gets under way is noted, and the log up to there tells it from
all others. Where the limits end one of them, they end the whole run. -/
namespace LineLisp

open Run

def Machine.inside (machine : Machine) (expr : Expr) : Machine :=
  ⟨machine.env.enter, .evaluating expr machine.env.enter :: machine.log⟩

theorem limited_eq (recurse : Expr → Run Value) (expr : Expr) {machine : Machine}
    (more : machine.env.room ≠ 0) : limited recurse expr machine =
      match Rules.value recurse expr (machine.inside expr) with
      | .ok value after => .ok value { after with env := after.env.leave }
      | .error err after => .error err { after with env := after.env.leave } := by
  have noted : Rules.evaluation recurse expr { machine with env := machine.env.enter } =
      Rules.value recurse expr (machine.inside expr) := rfl
  rw [limited_proceeds recurse expr machine more]
  unfold nested bracket
  rw [noted]
  cases Rules.value recurse expr (machine.inside expr) <;> rfl

theorem Run.keeps_evaluate {Level : Type} (s : Simulation Level) (expr : Expr) :
    Keeps s expr.evaluate :=
  .environment fun env => keeps_evaluateWithin s env.room expr

namespace Simulation

def watched (evaluations : Nat) (mark : List Event) (err : EvalError) : Simulation Nat :=
  .plain ⟨fun other log => other = err ∧ mark <:+ log,
      fun event lost => ⟨lost.1, lost.2.trans (List.suffix_cons event _)⟩⟩
    (fun nesting m n => m = n ∧ m.env.config.maxEvalDepth = evaluations ∧ m.env.nesting = nesting ∧
      ¬ mark <:+ m.log)
    fun nesting _ => nesting

variable {evaluations : Nat} {part : Expr} {start stop : Machine} {err : EvalError}

theorem unmarked {mark log : List Event} {event : Event} (other : mark ≠ event :: log)
    (fresh : ¬ mark <:+ log) : ¬ mark <:+ event :: log :=
  fun marked => (List.suffix_cons_iff.mp marked).elim other fresh

theorem calling_watched : (watched evaluations (start.inside part).log err).Calling id := by
  apply Plain.calling
  constructor
  case recover =>
    intro nesting callee failure _
    refine follows_recover (fun meet => by rw [meet.1]) callee rfl fun m n meet => ?_
    obtain ⟨rfl, limit, level, fresh⟩ := meet
    exact ⟨rfl, limit, level, unmarked nofun fresh⟩
  case note =>
    intro nesting m n meet event routine
    obtain ⟨rfl, limit, level, fresh⟩ := meet
    have other : (start.inside part).log ≠ event :: m.log := by
      rintro same
      obtain rfl := (List.cons.inj same).1
      cases routine
    exact ⟨rfl, limit, level, unmarked other fresh⟩
  case calls => exact fun meet => Nat.le_of_eq (by rw [meet.1])
  case fewer => exact fun meet less => absurd (meet.1 ▸ less) (Nat.lt_irrefl _)
  case define => exact fun meet _ _ => ⟨by rw [meet.1], meet.2⟩
  case push => exact fun meet _ => ⟨by rw [meet.1], meet.2⟩
  case pop => exact fun meet => ⟨by rw [meet.1], meet.2⟩
  case lookup => exact fun meet _ => by rw [meet.1]
  case globals | depth => exact fun meet => by rw [meet.1]

theorem value_raised (more : start.env.room ≠ 0) (raised : part.evaluate start = .error err stop) :
    ∃ after, Rules.value Expr.evaluate part (start.inside part) = .error err after := by
  rw [evaluate_eq_limited, limited_eq _ part more] at raised
  generalize Rules.value Expr.evaluate part (start.inside part) = result at raised
  cases result with
  | ok value after => cases raised
  | error failure after =>
    cases raised
    exact ⟨after, rfl⟩

theorem follows_rule (fatal : err.isFatal = true) (raised : part.evaluate start = .error err stop)
    {nesting : Nat} (more : evaluations - nesting ≠ 0)
    (inner : ∀ expr : Expr, Follows (watched evaluations (start.inside part).log err) (nesting + 1)
      Eq expr.evaluate expr.evaluate) (expr : Expr) :
    Follows (watched evaluations (start.inside part).log err) (nesting + 1) Eq
      (Rules.evaluation Expr.evaluate expr) (Rules.evaluation Expr.evaluate expr) := by
  have moved (peer : Expr) : Follows (watched evaluations (start.inside part).log err)
      (nesting + 1) Eq peer.evaluate (peer.relocate id).evaluate := by
    rw [Expr.relocate_id]
    exact inner peer
  have valued := calling_watched.value moved (fun _ => moved) (fun peer => (inner peer).keeps) expr
  rw [Expr.relocate_id] at valued
  refine .environment (fun m n meet => ?_) fun env => (Keeps.emit _).bind fun _ => valued.keeps
  obtain ⟨rfl, limit, level, fresh⟩ := meet
  change Ends _ _ _ (Rules.value Expr.evaluate expr (⟨m.env, .evaluating expr m.env :: m.log⟩))
    (Rules.value Expr.evaluate expr (⟨m.env, .evaluating expr m.env :: m.log⟩))
  -- At the mark the rule at work is that of the evaluation that is watched, and fails as it does.
  by_cases here : (start.inside part).log = .evaluating expr m.env :: m.log
  · obtain ⟨event, log⟩ := List.cons.inj here
    obtain ⟨rfl, env⟩ := Event.evaluating.inj event
    have room : start.env.room ≠ 0 := by
      rw [← env] at limit level
      change start.env.config.maxEvalDepth = _ at limit
      change start.env.nesting + 1 = _ at level
      unfold Environment.room
      omega
    have inside : (⟨m.env, .evaluating part m.env :: m.log⟩ : Machine) = start.inside part := by
      rw [← env, ← log]
      rfl
    obtain ⟨after, failed⟩ := value_raised room raised
    have kept := valued.keeps err (start.inside part) ⟨rfl, List.suffix_refl _⟩
    rw [failed] at kept
    rw [inside, failed]
    exact .lost (.inl fatal) kept
  · exact valued.ends _ _ ⟨rfl, limit, level, unmarked here fresh⟩

theorem follows_watched (fatal : err.isFatal = true) (raised : part.evaluate start = .error err stop)
    (nesting : Nat) (expr : Expr) :
    Follows (watched evaluations (start.inside part).log err) nesting Eq
      expr.evaluate expr.evaluate := by
  refine ⟨?_, keeps_evaluate _ expr⟩
  -- The induction is on how many more evaluations may be started inside one another.
  obtain ⟨room, left⟩ : ∃ room, evaluations - nesting = room := ⟨_, rfl⟩
  induction room generalizing nesting expr with
  | zero =>
    intro m n meet
    obtain ⟨rfl, limit, level, fresh⟩ := meet
    have full : m.env.room = 0 := by
      unfold Environment.room
      rw [limit, level, left]
    rw [evaluate_eq_limited, limited_refuses _ expr m full]
    exact .error rfl ⟨rfl, limit, level, fresh⟩
  | succ room ih =>
    have inner (peer : Expr) : Follows (watched evaluations (start.inside part).log err)
        (nesting + 1) Eq peer.evaluate peer.evaluate :=
      ⟨ih (nesting + 1) peer (by omega), keeps_evaluate _ peer⟩
    have rule := follows_rule fatal raised (by omega) inner expr
    have whole : Follows (watched evaluations (start.inside part).log err) nesting Eq
        (nested (Rules.evaluation Expr.evaluate expr))
        (nested (Rules.evaluation Expr.evaluate expr)) := by
      refine rule.bracket ?_ ?_ fun _ => rfl
      · rintro m n ⟨rfl, limit, level, fresh⟩
        exact ⟨rfl, limit, congrArg (· + 1) level, fresh⟩
      · rintro m n ⟨rfl, limit, level, fresh⟩
        exact ⟨rfl, limit, congrArg (· - 1) level, fresh⟩
    intro m n meet
    have more : m.env.room ≠ 0 := by
      unfold Environment.room
      rw [meet.2.1, meet.2.2.1]
      omega
    have ends := whole.ends m n meet
    obtain rfl := meet.1
    rw [evaluate_eq_limited, limited_proceeds _ expr m more]
    exact ends

end Simulation

namespace Environment

/-- An evaluation that the log shows ends the whole one if the limits end it. -/
theorem evaluate_shown (env : Environment) (expr : Expr) {part : Expr} {start stop : Machine}
    {later : List Event} {err : EvalError}
    (shown : (env.evaluate expr).log =
      start.log.reverse ++ .evaluating part start.env.enter :: later)
    (raised : part.evaluate start = .error err stop) (fatal : err.isFatal = true) :
    (env.evaluate expr).result = .error err := by
  have ends := (Simulation.follows_watched fatal raised env.nesting expr).ends { env } { env }
    ⟨rfl, rfl, rfl, fun marked => by cases List.eq_nil_of_suffix_nil marked⟩
  rw [evaluate_eq, log_outcome] at shown
  have marked : (start.inside part).log <:+ (machineAfter (expr.evaluate { env })).log := by
    refine ⟨later.reverse, ?_⟩
    have reversed := congrArg List.reverse shown
    rw [List.reverse_reverse, List.reverse_append, List.reverse_reverse, List.reverse_cons,
      List.append_assoc] at reversed
    exact reversed.symm
  rcases ends.outcome_eq id with ⟨_, _, _, _, fresh⟩ | ⟨other, failed, same, _⟩
  · exact absurd marked fresh
  · rw [evaluate_eq, failed, same]

end Environment

end LineLisp
