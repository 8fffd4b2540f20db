import Mathlib.Data.List.Forall2
import LineLisp.Proofs.Relocation
import LineLisp.Proofs.Simulation

/-! Rules follow rules.
Where the sub-evaluations of two expressions follow each other, so do the rules
for the expressions. Each rule is gone through once, for whatever simulation
grants what rules ask of their machines. -/
namespace LineLisp

def Event.isDefinition : Event → Bool
  | .defineValue .. | .defineProcedure .. => true
  | _ => false

def EvalError.isNaming : EvalError → Bool
  | undefined .. | notAProcedure .. => true
  | _ => false

theorem EvalError.isNaming_relocate (move : Span → Span) (err : EvalError) :
    (err.relocate move).isNaming = err.isNaming := by
  cases err <;> rfl

def Binding.isData : Binding → Bool
  | procedure _ => false
  | _ => true

theorem Binding.isData_ofValue (value : Value) : (ofValue value).isData = true := by
  cases value <;> rfl

theorem Binding.ofValue_ne_procedure (value : Value) (meant : Procedure) :
    ofValue value ≠ procedure meant := by
  intro same
  have data := isData_ofValue value
  rw [same] at data
  cases data

def Run.recover (callee : String) (err : EvalError) : Run Binding := do
  match (← Run.environment).config.argumentErrors with
  | .propagate => throw err
  | .swallow =>
    Run.emit (.argumentDropped callee err)
    return .void

namespace Run

theorem environment_bind {α : Type} (next : Environment → Run α) (machine : Machine) :
    (environment >>= next) machine = next machine.env machine := rfl

variable {callee : String} {err : EvalError} {machine : Machine}

theorem recover_propagate (policy : machine.env.config.argumentErrors = .propagate) :
    recover callee err machine = .error err machine := by
  unfold recover
  rw [environment_bind, policy]
  rfl

theorem recover_swallow (policy : machine.env.config.argumentErrors = .swallow) :
    recover callee err machine =
      .ok .void { machine with log := .argumentDropped callee err :: machine.log } := by
  unfold recover
  rw [environment_bind, policy]
  rfl

end Run

namespace Simulation

variable {Level : Type}

structure Fair (s : Simulation Level) : Prop where
  fatal : ∀ {err other}, s.error err other → err.isFatal = other.isFatal
  ordinary : ∀ {err : EvalError} {first second}, err.isFatal = false → err.isNaming = false →
    s.place first second → s.error (err.relocate fun _ => first) (err.relocate fun _ => second)
  signature : ∀ {meant peer}, s.procedure meant peer →
    meant.name = peer.name ∧ meant.parameters = peer.parameters
  note : ∀ {level m n}, s.machine level m n → ∀ {event : Event}, event.isDefinition = true →
    s.machine level { m with log := event :: m.log } { n with log := event :: n.log }
  recover : ∀ {level} callee {err other}, s.error err other → err.isFatal = false →
    Run.Follows s level s.Binds (Run.recover callee err) (Run.recover callee other)

structure Lawful (s : Simulation Level) : Prop extends s.Fair where
  naming : ∀ {first second}, s.place first second → ∀ name,
    s.error (.undefined name first) (.undefined name second) ∧
      s.error (.notAProcedure name first) (.notAProcedure name second)
  lookup : ∀ {level m n}, s.machine level m n → ∀ name,
    Option.Rel s.Binds (m.env.lookup name) (n.env.lookup name)
  global : ∀ {level m n}, s.machine level m n → ∀ name,
    Option.Rel s.Binds (m.env.globals.get? name) (n.env.globals.get? name)
  define : ∀ {level m n}, s.machine level m n → ∀ name {binding other}, s.Binds binding other →
    s.machine level { m with env := m.env.define name binding }
      { n with env := n.env.define name other }

variable {s : Simulation Level} {level : Level}

theorem Binds.resolve {binding other : Binding}
    (binds : s.Binds binding other) (name : String) : binding.resolve name = other.resolve name := by
  cases binds <;> rfl

theorem Binds.ofValue (value : Value) : s.Binds (.ofValue value) (.ofValue value) := by
  cases value with
  | number value => exact .number value
  | boolean value => exact .boolean value
  | define | procedure _ | void _ => exact .void

theorem Binds.eq (same : ∀ meant peer, s.procedure meant peer → meant = peer)
    {binding other : Binding} (binds : s.Binds binding other) : binding = other := by
  cases binds with
  | procedure stands => rw [same _ _ stands]
  | _ => rfl

theorem Binds.eq_all (same : ∀ meant peer, s.procedure meant peer → meant = peer)
    {bindings peers : List Binding} (bound : List.Forall₂ s.Binds bindings peers) :
    bindings = peers := by
  have equal : List.Forall₂ Eq bindings peers := bound.imp fun _ _ binds => binds.eq same
  rwa [List.forall₂_eq_eq_eq] at equal

theorem Binds.map_relocate {move : Span → Span}
    (moved : ∀ meant peer, s.procedure meant peer → peer = meant.relocate move)
    {bindings peers : List Binding} (bound : List.Forall₂ s.Binds bindings peers) :
    peers = bindings.map (·.relocate move) := by
  induction bound with
  | nil => rfl
  | cons binds _ ih =>
    rw [List.map_cons, ← ih]
    cases binds with
    | procedure stands =>
      rw [moved _ _ stands]
      rfl
    | number | boolean | void => rfl

theorem Binds.rel_self (same : ∀ procedure, s.procedure procedure procedure)
    (found : Option Binding) : Option.Rel s.Binds found found := by
  cases found with
  | none => exact .none
  | some binding =>
    cases binding with
    | number value => exact .some (.number value)
    | boolean value => exact .some (.boolean value)
    | procedure meant => exact .some (.procedure (same meant))
    | void => exact .some .void

theorem Lawful.follows_define (lawful : s.Lawful) (name : String) {binding other : Binding}
    (binds : s.Binds binding other) :
    Run.Follows s level Eq (Run.define name binding) (Run.define name other) where
  ends _ _ meet := .ok rfl (lawful.define meet name binds)
  keeps := .define name other

theorem Fair.follows_note (fair : s.Fair) {event : Event} (defining : event.isDefinition = true) :
    Run.Follows s level Eq (Run.emit event) (Run.emit event) :=
  .emit fun _ _ meet => fair.note meet defining

theorem keeps_recover (callee : String) (err : EvalError) : Run.Keeps s (Run.recover callee err) := by
  refine .environment fun env => ?_
  split
  · exact .throw err
  · exact (Run.Keeps.emit _).bind fun _ => .pure _

/-- Under one policy both runs drop the error or neither does. -/
theorem follows_recover
    (policy : ∀ {m n}, s.machine level m n →
      m.env.config.argumentErrors = n.env.config.argumentErrors)
    (callee : String) {err other : EvalError} (stands : s.error err other)
    (dropped : ∀ m n, s.machine level m n →
      s.machine level { m with log := .argumentDropped callee err :: m.log }
        { n with log := .argumentDropped callee other :: n.log }) :
    Run.Follows s level s.Binds (Run.recover callee err) (Run.recover callee other) := by
  refine ⟨fun m n meet => ?_, keeps_recover callee other⟩
  have same := policy meet
  cases both : n.env.config.argumentErrors with
  | propagate =>
    rw [Run.recover_propagate (same.trans both), Run.recover_propagate both]
    exact .error stands meet
  | swallow =>
    rw [Run.recover_swallow (same.trans both), Run.recover_swallow both]
    exact .ok .void (dropped m n meet)

end Simulation

namespace Rules
open Run

variable {Level α β : Type} {s : Simulation Level} {level : Level} {self other : Expr → Run Value}

structure Counterpart (s : Simulation Level) (level : Level) (recurse rival : Expr → Run Value)
    (expr peer : Expr) : Prop where
  place : s.place expr.span peer.span
  follows : Follows s level Eq (recurse expr) (rival peer)

theorem refused (level : Level) (fair : s.Fair) (err : EvalError) {first second : Span}
    (ordinary : err.isFatal = false ∧ err.isNaming = false) (place : s.place first second)
    {V : α → β → Prop} :
    Follows s level V (throw (err.relocate fun _ => first))
      (throw (err.relocate fun _ => second)) :=
  .throw (fair.ordinary ordinary.1 ordinary.2 place)

theorem follows_number (fair : s.Fair) (op : Operator) {operand peer : Expr}
    (evaluated : Counterpart s level self other operand peer) :
    Follows s level Eq (number self op operand) (number other op peer) := by
  refine evaluated.follows.bind fun value => ?_
  cases value.number? with
  | some x => exact .pure rfl
  | none => exact refused level fair (.typeMismatch op .number .unknown) ⟨rfl, rfl⟩ evaluated.place

theorem follows_truth (fair : s.Fair) (op : Operator) {operand peer : Expr}
    (evaluated : Counterpart s level self other operand peer) :
    Follows s level Eq (truth self op operand) (truth other op peer) := by
  refine evaluated.follows.bind fun value => ?_
  cases value.truth? with
  | some b => exact .pure rfl
  | none => exact refused level fair (.typeMismatch op .truth .unknown) ⟨rfl, rfl⟩ evaluated.place

theorem follows_quotient (fair : s.Fair) {operand peer : Expr}
    (place : s.place operand.span peer.span) (a b : Float) :
    Follows s level Eq (Run.ofExcept (quotient operand a b)) (Run.ofExcept (quotient peer a b)) := by
  unfold quotient
  split
  · exact refused level fair (.divideByZero .unknown) ⟨rfl, rfl⟩ place
  · exact .pure rfl

section Operands

variable {image : Expr → Expr}

theorem follows_accumulate (fair : s.Fair) (op : Operator)
    {combine : Expr → Float → Float → Except EvalError Float}
    (combined : ∀ operand peer : Expr, s.place operand.span peer.span → ∀ a b,
      Follows s level Eq (Run.ofExcept (combine operand a b)) (Run.ofExcept (combine peer a b)))
    {operands : List Expr}
    (evaluated : ∀ operand ∈ operands, Counterpart s level self other operand (image operand))
    (total : Float) :
    Follows s level Eq (accumulate self op combine total operands)
      (accumulate other op combine total (operands.map image)) := by
  induction operands generalizing total with
  | nil => exact .pure rfl
  | cons operand rest ih =>
    have first := evaluated operand List.mem_cons_self
    refine (follows_number fair op first).bind fun x => ?_
    refine (combined operand _ first.place total x).bind fun total => ?_
    exact ih (fun operand member => evaluated operand (List.mem_cons_of_mem _ member)) total

theorem follows_difference (fair : s.Fair) {operands : List Expr}
    (evaluated : ∀ operand ∈ operands, Counterpart s level self other operand (image operand)) :
    Follows s level Eq (difference self operands) (difference other (operands.map image)) := by
  match operands with
  | [] => exact .pure rfl
  | [operand] =>
    exact (follows_number fair _ (evaluated operand (by simp))).bind fun x => .pure rfl
  | first :: second :: rest =>
    refine (follows_number fair _ (evaluated first (by simp))).bind fun x => ?_
    exact follows_accumulate fair _ (fun _ _ _ _ _ => .pure rfl)
      (fun operand member => evaluated operand (List.mem_cons_of_mem _ member)) x

theorem follows_ratio (fair : s.Fair) {operands : List Expr}
    (evaluated : ∀ operand ∈ operands, Counterpart s level self other operand (image operand)) :
    Follows s level Eq (ratio self operands) (ratio other (operands.map image)) := by
  match operands with
  | [] => exact .pure rfl
  | [operand] =>
    exact follows_accumulate fair _ (fun _ _ => follows_quotient fair) evaluated 1
  | first :: second :: rest =>
    refine (follows_number fair _ (evaluated first (by simp))).bind fun x => ?_
    exact follows_accumulate fair _ (fun _ _ => follows_quotient fair)
      (fun operand member => evaluated operand (List.mem_cons_of_mem _ member)) x

theorem follows_anyTruth (fair : s.Fair) (op : Operator) (wanted : Bool) {operands : List Expr}
    (evaluated : ∀ operand ∈ operands, Counterpart s level self other operand (image operand)) :
    Follows s level Eq (anyTruth self op wanted operands)
      (anyTruth other op wanted (operands.map image)) := by
  induction operands with
  | nil => exact .pure rfl
  | cons operand rest ih =>
    refine (follows_truth fair op (evaluated operand List.mem_cons_self)).bind fun b => ?_
    by_cases found : b = wanted
    · simp only [found, if_true]
      exact .pure rfl
    · simp only [found, if_false]
      exact ih fun operand member => evaluated operand (List.mem_cons_of_mem _ member)

variable {span seat : Span}

/-- A form with too few or too many operands is refused by how many there are. -/
theorem refused_count (level : Level) (image : Expr → Expr) (fair : s.Fair)
    (err : Nat → EvalError)
    (ordinary : ∀ count, (err count).isFatal = false ∧ (err count).isNaming = false)
    (place : s.place span seat)
    (operands : List Expr) :
    Follows s level Eq (throw ((err operands.length).relocate fun _ => span) : Run α)
      (throw ((err (operands.map image).length).relocate fun _ => seat)) := by
  rw [List.length_map]
  exact refused level fair (err operands.length) (ordinary _) place

theorem follows_negation (fair : s.Fair) {operands : List Expr} (place : s.place span seat)
    (evaluated : ∀ operand ∈ operands, Counterpart s level self other operand (image operand)) :
    Follows s level Eq (negation self operands span) (negation other (operands.map image) seat) := by
  have counted := refused_count (α := Bool) level image fair
    (.arityMismatch Operator.not.symbol 1 · .unknown) (fun _ => ⟨rfl, rfl⟩) place operands
  match operands with
  | [operand] =>
    exact (follows_truth fair _ (evaluated operand (by simp))).bind fun b => .pure rfl
  | [] | _ :: _ :: _ => exact counted

theorem follows_comparison (fair : s.Fair) (op : Operator) (holds : Float → Float → Bool)
    {operands : List Expr} (place : s.place span seat)
    (evaluated : ∀ operand ∈ operands, Counterpart s level self other operand (image operand)) :
    Follows s level Eq (comparison self op holds operands span)
      (comparison other op holds (operands.map image) seat) := by
  have counted := refused_count (α := Bool) level image fair
    (.arityMismatch op.symbol 2 · .unknown) (fun _ => ⟨rfl, rfl⟩) place operands
  match operands with
  | [left, right] =>
    refine (follows_number fair op (evaluated left (by simp))).bind fun a => ?_
    exact (follows_number fair op (evaluated right (by simp))).bind fun b => .pure rfl
  | [] | [_] | _ :: _ :: _ :: _ => exact counted

theorem follows_conditional (fair : s.Fair) {operands : List Expr} (place : s.place span seat)
    (evaluated : ∀ operand ∈ operands, Counterpart s level self other operand (image operand)) :
    Follows s level Eq (conditional self operands span)
      (conditional other (operands.map image) seat) := by
  have counted := refused_count (α := Value) level image fair
    (.malformedConditional · .unknown) (fun _ => ⟨rfl, rfl⟩) place operands
  match operands with
  | [test, yes, no] =>
    refine (evaluated test (by simp)).follows.bind fun value => ?_
    split
    · exact (evaluated yes (by simp)).follows
    · exact (evaluated no (by simp)).follows
  | [] | [_] | [_, _] | _ :: _ :: _ :: _ :: _ => exact counted

end Operands

def settle (callee : String) (err : EvalError) : Run Binding :=
  if err.isFatal then throw err else recover callee err

theorem argument_eq (callee : Name) (operand : Expr) :
    argument self callee operand = Run.attempt (self operand) >>= fun result =>
      match result with
      | .ok value => pure (.ofValue value)
      | .error err => settle callee.text err := rfl

theorem keeps_settle (callee : String) (err : EvalError) : Keeps s (settle callee err) := by
  unfold settle
  split
  · exact .throw err
  · exact Simulation.keeps_recover callee err

theorem settle_escapes (callee : String) {err : EvalError} {machine : Machine}
    (escapes : Escapes err machine) : settle callee err machine = .error err machine := by
  unfold settle
  split
  · rfl
  · rename_i regular
    exact recover_propagate (escapes.resolve_left regular)

theorem follows_settle (fair : s.Fair) (callee : String) {err failure : EvalError}
    (stands : s.error err failure) :
    Follows s level s.Binds (settle callee err) (settle callee failure) := by
  unfold settle
  rw [← fair.fatal stands]
  cases fatal : err.isFatal with
  | true => exact .throw stands
  | false => exact fair.recover callee stands fatal

theorem follows_argument (fair : s.Fair) {callee peer : Name} (named : callee.text = peer.text)
    {operand twin : Expr} (evaluated : Follows s level Eq (self operand) (other twin)) :
    Follows s level s.Binds (argument self callee operand) (argument other peer twin) := by
  rw [argument_eq, argument_eq, named]
  have keeps : ∀ result : Except EvalError Value, Keeps s (match result with
      | .ok value => pure (.ofValue value)
      | .error err => settle peer.text err) := by
    intro result
    cases result with
    | ok value => exact .pure _
    | error err => exact keeps_settle _ err
  refine ⟨fun m n meet => ?_, evaluated.keeps.attempt.bind keeps⟩
  have ended := evaluated.ends m n meet
  change Ends s level s.Binds (EStateM.bind (Run.attempt (self operand)) _ m)
    (EStateM.bind (Run.attempt (other twin)) _ n)
  unfold EStateM.bind Run.attempt
  generalize self operand m = left, other twin n = right at ended
  cases ended with
  | ok same ends => exact .ok (same ▸ .ofValue _) ends
  | error stands ends => exact (follows_settle fair peer.text stands).ends _ _ ends
  | @lost err after _ escapes lost =>
    change Ends s level s.Binds (settle peer.text err after) _
    rw [settle_escapes _ escapes]
    cases right with
    | ok value finish => exact .lost escapes lost
    | error failure finish => exact .lost escapes (keeps_settle _ failure _ finish lost)

theorem settle_isData {callee : String} {err : EvalError} {m after : Machine} {binding : Binding}
    (settled : settle callee err m = .ok binding after) : binding.isData = true := by
  unfold settle at settled
  split at settled
  · cases settled
  · cases policy : m.env.config.argumentErrors with
    | propagate =>
      rw [recover_propagate policy] at settled
      cases settled
    | swallow =>
      rw [recover_swallow policy] at settled
      cases settled
      rfl

theorem argument_isData {callee : Name} {operand : Expr} {m after : Machine} {binding : Binding}
    (passed : argument self callee operand m = .ok binding after) : binding.isData = true := by
  rw [argument_eq] at passed
  change EStateM.bind (Run.attempt (self operand)) _ m = _ at passed
  unfold EStateM.bind Run.attempt at passed
  cases evaluated : self operand m with
  | ok value middle =>
    rw [evaluated] at passed
    cases passed
    exact Binding.isData_ofValue value
  | error err middle =>
    rw [evaluated] at passed
    exact settle_isData passed

/-- No procedure is passed to a call. -/
theorem arguments_isData {callee : Name} {operands : List Expr} {m after : Machine}
    {bindings : List Binding} (passed : arguments self callee operands m = .ok bindings after) :
    ∀ binding ∈ bindings, binding.isData = true := by
  induction operands generalizing m bindings with
  | nil =>
    cases passed
    nofun
  | cons operand rest ih =>
    change EStateM.bind (argument self callee operand) _ m = _ at passed
    unfold EStateM.bind at passed
    cases first : argument self callee operand m with
    | error err middle =>
      rw [first] at passed
      cases passed
    | ok binding middle =>
      rw [first] at passed
      change EStateM.bind (arguments self callee rest) _ middle = _ at passed
      unfold EStateM.bind at passed
      cases later : arguments self callee rest middle with
      | error err last =>
        rw [later] at passed
        cases passed
      | ok others last =>
        rw [later] at passed
        cases passed
        exact List.forall_mem_cons.mpr ⟨argument_isData first, ih later⟩

theorem follows_arguments (fair : s.Fair) {callee peer : Name} (named : callee.text = peer.text)
    {image : Expr → Expr} {operands : List Expr}
    (evaluated : ∀ operand ∈ operands, Counterpart s level self other operand (image operand)) :
    Follows s level (List.Forall₂ s.Binds) (arguments self callee operands)
      (arguments other peer (operands.map image)) := by
  induction operands with
  | nil => exact .pure .nil
  | cons operand rest ih =>
    have first := (evaluated operand List.mem_cons_self).follows
    have later := ih fun operand member => evaluated operand (List.mem_cons_of_mem _ member)
    refine (follows_argument fair named first).bindWith (fun _ _ binds => ?_) fun _ => ?_
    · exact later.bindWith (fun _ _ bound => .pure (.cons binds bound)) fun _ => .pure _
    · exact later.keeps.bind fun _ => .pure _

theorem follows_defineValue (fair : s.Fair) {name peer : Name} (named : name.text = peer.text)
    {body twin : Expr} (evaluated : Follows s level Eq (self body) (other twin))
    (defined : ∀ value, Follows s level Eq (Run.define peer.text (.ofValue value))
      (Run.define peer.text (.ofValue value))) :
    Follows s level Eq (defineValue self name body) (defineValue other peer twin) := by
  unfold defineValue
  rw [named]
  refine evaluated.bind fun value => ?_
  refine (fair.follows_note rfl).bind fun _ => ?_
  exact (defined value).bind fun _ => .pure rfl

/-- Counterparts of parameters are names if the parameters are, and the same. -/
theorem parameterNames_map {image : Expr → Expr} {parameters : List Expr}
    (named : ∀ parameter ∈ parameters,
      (image parameter).asName?.map (·.text) = parameter.asName?.map (·.text)) :
    (∃ names, parameterNames parameters = .ok names ∧
      parameterNames (parameters.map image) = .ok names) ∨
    ∃ parameter ∈ parameters, parameterNames parameters = .error parameter ∧
      parameterNames (parameters.map image) = .error (image parameter) := by
  induction parameters with
  | nil => exact .inl ⟨[], rfl, rfl⟩
  | cons parameter rest ih =>
    have same := named parameter List.mem_cons_self
    simp only [List.map_cons, parameterNames]
    cases known : parameter.asName? with
    | none =>
      rw [known] at same
      rw [Option.map_eq_none_iff.mp same]
      exact .inr ⟨parameter, List.mem_cons_self, rfl, rfl⟩
    | some name =>
      rw [known] at same
      obtain ⟨peer, found, told⟩ := Option.map_eq_some_iff.mp same
      rw [found]
      rcases ih fun parameter member => named parameter (List.mem_cons_of_mem _ member) with
        ⟨names, first, second⟩ | ⟨unnamed, member, first, second⟩
      · exact .inl ⟨name.text :: names, by simp [first, Except.map],
          by simp [second, told, Except.map]⟩
      · exact .inr ⟨unnamed, List.mem_cons_of_mem _ member, by simp [first, Except.map],
          by simp [second, Except.map]⟩

theorem follows_defineProcedure (fair : s.Fair) {head peer : Name} (named : head.text = peer.text)
    (place : s.place head.span peer.span) {image : Expr → Expr} {parameters : List Expr}
    (same : ∀ parameter ∈ parameters,
      (image parameter).asName?.map (·.text) = parameter.asName?.map (·.text))
    (places : ∀ parameter ∈ parameters, s.place parameter.span (image parameter).span)
    {body twin : Expr}
    (defined : ∀ names, Operator.ofName? peer.text = none → parameterNames parameters = .ok names →
      Follows s level Eq (Run.define peer.text (.procedure ⟨peer.text, names, body⟩))
        (Run.define peer.text (.procedure ⟨peer.text, names, twin⟩))) :
    Follows s level Eq (defineProcedure head parameters body)
      (defineProcedure peer (parameters.map image) twin) := by
  unfold defineProcedure
  rw [named]
  split
  · exact refused level fair (.malformedDefine .builtin .unknown) ⟨rfl, rfl⟩ place
  · rename_i foreign
    rcases parameterNames_map same with ⟨names, first, second⟩ | ⟨parameter, member, first, second⟩
    · rw [first, second]
      refine (fair.follows_note rfl).bind fun _ => ?_
      exact (defined names (by simpa using foreign) first).bind fun _ => .pure rfl
    · rw [first, second]
      exact refused level fair (.malformedDefine .parameter .unknown) ⟨rfl, rfl⟩ (places parameter member)

theorem follows_operate (fair : s.Fair) (op : Operator) {image : Expr → Expr}
    {operands : List Expr} {span seat : Span} (place : s.place span seat)
    (evaluated : ∀ operand ∈ operands, Counterpart s level self other operand (image operand))
    (defined : op = .define →
      Follows s level Eq (define self operands span) (define other (operands.map image) seat)) :
    Follows s level Eq (operate self op operands span)
      (operate other op (operands.map image) seat) := by
  have sums : ∀ (op : Operator) (combine : Float → Float → Float) (total : Float),
      Follows s level Eq (accumulate self op (fun _ a b => .ok (combine a b)) total operands)
        (accumulate other op (fun _ a b => .ok (combine a b)) total (operands.map image)) :=
    fun op combine => follows_accumulate fair op (fun _ _ _ _ _ => .pure rfl) evaluated
  cases op with
  | plus => exact (sums .plus (· + ·) 0).map _
  | minus => exact (follows_difference fair evaluated).map _
  | times => exact (sums .times (· * ·) 1).map _
  | divide => exact (follows_ratio fair evaluated).map _
  | and => exact (follows_anyTruth fair _ _ evaluated).map _
  | or => exact (follows_anyTruth fair _ _ evaluated).map _
  | not => exact (follows_negation fair place evaluated).map _
  | equal | greater | greaterEqual | less | lessEqual =>
    exact (follows_comparison fair _ _ place evaluated).map _
  | conditional => exact follows_conditional fair place evaluated
  | define => exact defined rfl

theorem follows_callable {callee peer : Name} (named : callee.text = peer.text)
    (bound : ∀ m n, s.machine level m n →
      Option.Rel s.Binds (m.env.globals.get? callee.text) (n.env.globals.get? callee.text))
    (unbound : ∀ m n, s.machine level m n → m.env.globals.get? callee.text = none →
      s.error (.undefined callee.text callee.span) (.undefined callee.text peer.span))
    (uncallable : ∀ m n, s.machine level m n → (m.env.globals.get? callee.text).any (·.isData) →
      s.error (.notAProcedure callee.text callee.span) (.notAProcedure callee.text peer.span)) :
    Follows s level s.procedure (callable callee) (callable peer) := by
  refine .environment (fun m n meet => ?_) fun env => ?_
  · have found := bound m n meet
    have missing := unbound m n meet
    have other := uncallable m n meet
    rw [← named]
    generalize m.env.globals.get? callee.text = left,
      n.env.globals.get? callee.text = right at found missing other
    cases found with
    | none => exact .error (missing rfl) meet
    | some binds =>
      cases binds with
      | procedure stands => exact .ok stands meet
      | number | boolean | void => exact .error (other rfl) meet
  · split
    · exact .pure _
    · exact .throw _
    · exact .throw _

theorem follows_callable_of_lawful (lawful : s.Lawful) {callee peer : Name}
    (named : callee.text = peer.text) (place : s.place callee.span peer.span) :
    Follows s level s.procedure (callable callee) (callable peer) := by
  obtain ⟨unbound, uncallable⟩ := lawful.naming place callee.text
  exact follows_callable named (fun _ _ meet => lawful.global meet callee.text)
    (fun _ _ _ _ => unbound) fun _ _ _ _ => uncallable

theorem reference_eq {ident : Name} {machine : Machine} {binding : Binding}
    (bound : machine.env.lookup ident.text = some binding) :
    reference ident machine = .ok (binding.resolve ident.text) machine := by
  unfold reference
  change EStateM.bind Run.environment _ machine = _
  unfold EStateM.bind Run.environment
  dsimp only
  rw [bound]
  rfl

/-- What a reference is to may differ in what it does not show. -/
theorem follows_reference {name peer : Name} (named : name.text = peer.text)
    (bound : ∀ m n, s.machine level m n → (m.env.lookup name.text).map (·.resolve name.text) =
      (n.env.lookup name.text).map (·.resolve name.text))
    (unbound : ∀ m n, s.machine level m n → m.env.lookup name.text = none →
      s.error (.undefined name.text name.span) (.undefined name.text peer.span)) :
    Follows s level Eq (reference name) (reference peer) := by
  refine .environment (fun m n meet => ?_) fun env => ?_
  · have found := bound m n meet
    have missing := unbound m n meet
    rw [← named]
    generalize m.env.lookup name.text = left, n.env.lookup name.text = right at found missing
    cases left with
    | none =>
      rw [Option.map_eq_none_iff.mp found.symm]
      exact .error (missing rfl) meet
    | some binding =>
      obtain ⟨other, known, shown⟩ := Option.map_eq_some_iff.mp found.symm
      rw [known]
      exact .ok shown.symm meet
  · split
    · exact .pure _
    · exact .throw _

theorem keeps_invoke {procedure : Procedure} (body : Keeps s (other procedure.body))
    (bindings : List Binding) (span : Span) : Keeps s (invoke other procedure bindings span) := by
  refine .environment fun env => ?_
  split
  · exact .throw _
  · split
    · exact .throw _
    · exact (Keeps.emit _).bind fun _ => body.bracket

/-- The limit on calls is all that a call itself depends on. -/
theorem follows_invoke (fair : s.Fair) {meant peer : Procedure} (stands : s.procedure meant peer)
    {bindings peers : List Binding} (bound : List.Forall₂ s.Binds bindings peers)
    {span seat : Span} (place : s.place span seat)
    (exhausted : ∀ m n, s.machine level m n → m.env.config.maxCallDepth ≤ m.env.depth →
      (n.env.config.maxCallDepth ≤ n.env.depth ∧
        s.error (.stackExhausted m.env.depth) (.stackExhausted n.env.depth)) ∨
      ∀ log, s.lost (.stackExhausted m.env.depth) log)
    (called : ∀ m n, s.machine level m n → m.env.depth < m.env.config.maxCallDepth →
      meant.arity = bindings.length →
      n.env.depth < n.env.config.maxCallDepth ∧
      s.machine level { m with log := .call meant.name (m.env.depth + 1) :: m.log }
        { n with log := .call peer.name (n.env.depth + 1) :: n.log } ∧
      Follows s level Eq (withFrame (.ofArguments meant.parameters bindings) (self meant.body))
        (withFrame (.ofArguments meant.parameters peers) (other peer.body)))
    (body : Keeps s (other peer.body)) :
    Follows s level Eq (invoke self meant bindings span) (invoke other peer peers seat) := by
  have kept := keeps_invoke body peers seat
  obtain ⟨named, parameters⟩ := fair.signature stands
  have arity : meant.arity = peer.arity := congrArg List.length parameters
  refine ⟨fun m n meet => ?_, kept⟩
  change Ends s level Eq
    ((if meant.arity ≠ bindings.length then _
      else if m.env.config.maxCallDepth ≤ m.env.depth then _ else _ : Run Value) m)
    ((if peer.arity ≠ peers.length then _
      else if n.env.config.maxCallDepth ≤ n.env.depth then _ else _ : Run Value) n)
  rw [← arity, ← bound.length_eq]
  split
  · rw [← named]
    exact (refused level (V := @Eq Value) fair
      (.arityMismatch meant.name meant.arity bindings.length .unknown) ⟨rfl, rfl⟩ place).ends m n meet
  · rename_i equal
    split
    · rename_i full
      rcases exhausted m n meet full with ⟨also, fatal⟩ | lost
      · rw [if_pos also]
        exact .error fatal meet
      · exact .lost (.inl rfl) (lost _)
    · rename_i free
      obtain ⟨more, noted, framed⟩ := called m n meet (Nat.not_le.mp free) (not_not.mp equal)
      rw [if_neg (Nat.not_le.mpr more), ← parameters]
      exact framed.ends _ _ noted

theorem follows_apply (fair : s.Fair) {callee peer : Name} (named : callee.text = peer.text)
    (found : Follows s level s.procedure (callable callee) (callable peer)) {image : Expr → Expr}
    {operands : List Expr} {span seat : Span}
    (evaluated : ∀ operand ∈ operands, Counterpart s level self other operand (image operand))
    (invoked : ∀ meant rival, s.procedure meant rival →
      ∀ bindings peers, List.Forall₂ s.Binds bindings peers →
        (∀ binding ∈ bindings, binding.isData = true) →
          Follows s level Eq (invoke self meant bindings span) (invoke other rival peers seat))
    (bodies : ∀ expr, Keeps s (other expr)) :
    Follows s level Eq (apply self callee operands span)
      (apply other peer (operands.map image) seat) := by
  have passed := (follows_arguments fair named evaluated).returning fun _ _ _ => arguments_isData
  refine passed.bindWith ?_ ?_
  · rintro bindings peers ⟨bound, data⟩
    refine found.bindWith ?_ ?_
    · intro meant rival stands
      exact invoked meant rival stands bindings peers bound data
    · intro rival
      exact keeps_invoke (bodies rival.body) peers seat
  · intro peers
    exact found.keeps.bind fun rival => keeps_invoke (bodies rival.body) peers seat

/-- Evaluations follow each other if the rules do inside them. -/
theorem follows_evaluation {inner : Level} {expr peer : Expr}
    (valued : Follows s inner Eq (value self expr) (value other peer))
    (enter : ∀ m n, s.machine level m n →
      s.machine inner { m with env := m.env.enter } { n with env := n.env.enter })
    (leave : ∀ m n, s.machine inner m n →
      s.machine level { m with env := m.env.leave } { n with env := n.env.leave })
    (evaluating : ∀ m n, s.machine inner m n →
      s.machine inner { m with log := .evaluating expr m.env :: m.log }
        { n with log := .evaluating peer n.env :: n.log }) :
    Follows s level Eq (nested (evaluation self expr)) (nested (evaluation other peer)) := by
  refine Follows.bracket ?_ enter leave fun _ => rfl
  refine .environment (fun m n meet => ?_) fun env => (Keeps.emit _).bind fun _ => valued.keeps
  exact valued.ends _ _ (evaluating m n meet)

section Relocated

variable {move : Span → Span}

theorem follows_define (lawful : s.Lawful) (placed : ∀ span, s.place span (move span))
    (stands : ∀ procedure, s.procedure procedure (procedure.relocate move)) {operands : List Expr}
    (evaluated : ∀ operand ∈ operands, Counterpart s level self other operand (operand.relocate move))
    (span : Span) :
    Follows s level Eq (define self operands span)
      (define other (operands.map (·.relocate move)) (move span)) := by
  have shapeless := refused level (V := @Eq Value) lawful.toFair
    (.malformedDefine .shape .unknown) ⟨rfl, rfl⟩ (placed span)
  match operands with
  | [] | [_] | _ :: _ :: _ :: _ => exact shapeless
  | [target, body] =>
    have aimless := refused level (V := @Eq Value) lawful.toFair
      (.malformedDefine .target .unknown) ⟨rfl, rfl⟩ (placed target.span)
    cases target with
    | number | boolean => exact aimless
    | name ident =>
      exact follows_defineValue lawful.toFair rfl (evaluated body (by simp)).follows
        fun value => lawful.follows_define _ (.ofValue value)
    | form head parameters place =>
      rw [List.map_cons, Expr.relocate_form]
      have named : head.text = (head.relocate move).text := rfl
      have moved : s.place head.span (head.relocate move).span := placed head.span
      refine follows_defineProcedure lawful.toFair named moved ?_ ?_ fun names _ _ =>
        lawful.follows_define _ (.procedure (stands ⟨_, names, body⟩))
      · intro parameter _
        rw [Expr.asName?_relocate, Option.map_map]
        rfl
      · intro parameter _
        rw [Expr.span_relocate]
        exact placed parameter.span

theorem follows_value (lawful : s.Lawful) (placed : ∀ span, s.place span (move span))
    (stands : ∀ procedure, s.procedure procedure (procedure.relocate move))
    (evaluated : ∀ expr, Follows s level Eq (self expr) (other (expr.relocate move)))
    (invoked : ∀ meant rival, s.procedure meant rival →
      ∀ bindings peers, List.Forall₂ s.Binds bindings peers → ∀ span,
        Follows s level Eq (invoke self meant bindings span) (invoke other rival peers (move span)))
    (bodies : ∀ expr, Keeps s (other expr)) (expr : Expr) :
    Follows s level Eq (value self expr) (value other (expr.relocate move)) := by
  cases expr with
  | number x span => exact .pure rfl
  | boolean b span => exact .pure rfl
  | name ident =>
    refine follows_reference rfl (fun m n meet => ?_) fun _ _ _ _ =>
      (lawful.naming (placed ident.span) ident.text).1
    have found := lawful.lookup meet ident.text
    generalize m.env.lookup ident.text = left, n.env.lookup ident.text = right at found
    cases found with
    | none => rfl
    | some binds => exact congrArg some (binds.resolve ident.text)
  | form head operands span =>
    have sub : ∀ operand ∈ operands,
        Counterpart s level self other operand (operand.relocate move) := by
      intro operand _
      refine ⟨?_, evaluated operand⟩
      rw [Expr.span_relocate]
      exact placed operand.span
    rw [Expr.relocate_form]
    unfold value
    dsimp only [Name.relocate]
    split
    · exact follows_operate lawful.toFair _ (placed span) sub
        fun _ => follows_define lawful placed stands sub span
    · have named : head.text = (head.relocate move).text := rfl
      have found : Follows s level s.procedure (callable head) (callable (head.relocate move)) :=
        follows_callable_of_lawful lawful named (placed head.span)
      exact follows_apply lawful.toFair named found sub
        (fun meant rival stands bindings peers bound _ =>
          invoked meant rival stands bindings peers bound span) bodies

end Relocated

end Rules

end LineLisp
