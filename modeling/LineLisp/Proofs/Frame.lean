import LineLisp.Environment
import LineLisp.Proofs.Globals

/-! The parameters of a call.
A frame binds the parameters and nothing else, each to the argument at the last
place where it is listed. -/
namespace LineLisp.Frame

variable {parameters : List String} {arguments : List Binding} {name : String}

theorem lookup_ofArguments_cons (parameter : String) (argument : Binding) :
    (ofArguments (parameter :: parameters) (argument :: arguments)).lookup name =
      ((ofArguments parameters arguments).lookup name).or
        (if name = parameter then some argument else none) := by
  unfold ofArguments
  rw [List.zip_cons_cons, Entries.lookup_reverse_cons]

/-- Every parameter is bound. -/
theorem isSome_lookup_ofArguments (equal : parameters.length = arguments.length)
    (member : name ∈ parameters) : ((ofArguments parameters arguments).lookup name).isSome = true := by
  induction parameters generalizing arguments with
  | nil => cases member
  | cons parameter rest ih =>
    cases arguments with
    | nil => cases equal
    | cons argument more =>
      rw [lookup_ofArguments_cons, Option.isSome_or, Bool.or_eq_true]
      rcases List.mem_cons.mp member with rfl | later
      · exact .inr (by rw [if_pos rfl]; rfl)
      · exact .inl (ih (Nat.succ.inj equal) later)

end LineLisp.Frame
