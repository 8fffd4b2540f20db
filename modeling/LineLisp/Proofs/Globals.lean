import LineLisp.Globals

/-! Global definitions as a map.
What names are bound to is all there is to them. -/
namespace LineLisp

namespace Entries

/-- Of several entries with one name, the last is found first from behind. -/
theorem lookup_reverse_cons (name other : String) (binding : Binding) (rest : Entries) :
    List.lookup other (List.reverse ((name, binding) :: rest)) =
      (List.lookup other rest.reverse).or (if other = name then some binding else none) := by
  rw [List.reverse_cons, List.lookup_append, lookup_cons]
  rfl

theorem lookup_eq_none {name : String} {entries : Entries}
    (below : ∀ entry ∈ entries, name < entry.1) : entries.lookup name = none := by
  induction entries with
  | nil => rfl
  | cons entry rest ih =>
    have other : name ≠ entry.1 := fun same => String.lt_irrefl _ (same ▸ below entry (by simp))
    rw [lookup_cons, if_neg other]
    exact ih fun entry member => below entry (by simp [member])

theorem mem_iff_lookup {entries : Entries} (sorted : entries.Sorted) {name : String}
    {binding : Binding} : (name, binding) ∈ entries ↔ entries.lookup name = some binding := by
  induction entries with
  | nil => simp
  | cons entry rest ih =>
    obtain ⟨first, bound⟩ := entry
    obtain ⟨below, tail⟩ := List.pairwise_cons.mp sorted
    rw [lookup_cons, List.mem_cons, ih tail]
    by_cases same : name = first
    · subst same
      simp [lookup_eq_none below, eq_comm]
    · simp [same]

/-- The first name is bound in one list alone if it comes before all in the other. -/
theorem not_lt_of_lookup {name other : String} {binding bound : Binding} {entries rest : Entries}
    (sorted : Sorted ((other, bound) :: rest))
    (same : List.lookup name ((name, binding) :: entries) =
      List.lookup name ((other, bound) :: rest)) : ¬ name < other := by
  intro smaller
  have below : ∀ entry ∈ (other, bound) :: rest, name < entry.1 := by
    intro entry member
    rcases List.mem_cons.mp member with rfl | later
    · exact smaller
    · exact String.lt_trans smaller ((List.pairwise_cons.mp sorted).1 entry later)
  rw [lookup_eq_none below, lookup_cons, if_pos rfl] at same
  cases same

theorem eq_of_lookup {entries others : Entries} (sorted : entries.Sorted) (ordered : others.Sorted)
    (same : ∀ name, entries.lookup name = others.lookup name) : entries = others := by
  induction entries generalizing others with
  | nil =>
    cases others with
    | nil => rfl
    | cons entry rest =>
      have bound := same entry.1
      rw [lookup_cons, if_pos rfl] at bound
      cases bound
  | cons entry rest ih =>
    obtain ⟨name, binding⟩ := entry
    cases others with
    | nil =>
      have bound := same name
      rw [lookup_cons, if_pos rfl] at bound
      cases bound
    | cons peer more =>
      obtain ⟨other, bound⟩ := peer
      have equal : name = other :=
        String.le_antisymm (String.not_lt.mp (not_lt_of_lookup sorted (same other).symm))
          (String.not_lt.mp (not_lt_of_lookup ordered (same name)))
      subst equal
      have bindings := same name
      rw [lookup_cons, lookup_cons, if_pos rfl, if_pos rfl] at bindings
      obtain rfl := Option.some.inj bindings
      have first := List.pairwise_cons.mp sorted
      have second := List.pairwise_cons.mp ordered
      refine congrArg _ (ih first.2 second.2 fun other => ?_)
      by_cases here : other = name
      · rw [here, lookup_eq_none first.1, lookup_eq_none second.1]
      · have elsewhere := same other
        rwa [lookup_cons, lookup_cons, if_neg here, if_neg here] at elsewhere

end Entries

namespace Globals

theorem mem_entries_iff (globals : Globals) {name : String} {binding : Binding} :
    (name, binding) ∈ globals.entries ↔ globals.get? name = some binding :=
  Entries.mem_iff_lookup globals.sorted

theorem eq_of_get? {globals others : Globals}
    (same : ∀ name, globals.get? name = others.get? name) : globals = others := by
  obtain ⟨entries, sorted⟩ := globals
  obtain ⟨_, ordered⟩ := others
  obtain rfl := Entries.eq_of_lookup sorted ordered same
  rfl

/-- What holds of all procedures holds of them after a definition if it does of what is defined. -/
theorem procedures_insert {globals : Globals} {P : String → Procedure → Prop}
    (all : ∀ name meant, globals.get? name = some (.procedure meant) → P name meant)
    {name : String} {binding : Binding} (own : ∀ meant, binding = .procedure meant → P name meant) :
    ∀ other meant, (globals.insert name binding).get? other = some (.procedure meant) →
      P other meant := by
  intro other meant bound
  rw [get?_insert] at bound
  split at bound
  · rename_i same
    exact same ▸ own meant (Option.some.inj bound)
  · exact all other meant bound

end Globals

end LineLisp
