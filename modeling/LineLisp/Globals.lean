import LineLisp.Value

/-! Global definitions: one binding a name, in increasing order of names.
Names are ordered by their code points, which is the order of their UTF-8
bytes. The order makes the list of entries canonical: two sets of definitions
with the same bindings are equal. -/
namespace LineLisp

abbrev Entries := List (String × Binding)

namespace Entries

def Sorted (entries : Entries) : Prop :=
  entries.Pairwise fun a b => a.1 < b.1

def insert (name : String) (binding : Binding) : Entries → Entries
  | [] => [(name, binding)]
  | (other, bound) :: rest =>
    if name < other then (name, binding) :: (other, bound) :: rest
    else if name = other then (name, binding) :: rest
    else (other, bound) :: insert name binding rest

theorem mem_insert {name : String} {binding : Binding} {entry : String × Binding} {entries : Entries}
    (member : entry ∈ insert name binding entries) : entry.1 = name ∨ entry ∈ entries := by
  induction entries with
  | nil => simp_all [insert]
  | cons first rest ih =>
    rw [insert] at member
    split at member
    · rcases List.mem_cons.mp member with rfl | kept
      · exact .inl rfl
      · exact .inr kept
    · split at member
      · rcases List.mem_cons.mp member with rfl | kept
        · exact .inl rfl
        · exact .inr (List.mem_cons_of_mem _ kept)
      · rcases List.mem_cons.mp member with rfl | kept
        · exact .inr List.mem_cons_self
        · exact (ih kept).imp id (List.mem_cons_of_mem _)

theorem sorted_insert (name : String) (binding : Binding) {entries : Entries}
    (sorted : entries.Sorted) : (insert name binding entries).Sorted := by
  induction entries with
  | nil => simp [insert, Sorted]
  | cons first rest ih =>
    have ⟨below, tail⟩ := List.pairwise_cons.mp sorted
    rw [insert]
    split
    · rename_i smaller
      refine List.pairwise_cons.mpr ⟨?_, sorted⟩
      intro entry member
      rcases List.mem_cons.mp member with rfl | kept
      · exact smaller
      · exact String.lt_trans smaller (below entry kept)
    · split
      · rename_i same
        exact List.pairwise_cons.mpr ⟨fun entry member => same ▸ below entry member, tail⟩
      · rename_i notSmaller different
        refine List.pairwise_cons.mpr ⟨?_, ih tail⟩
        intro entry member
        rcases mem_insert member with same | kept
        · rw [same]
          apply Classical.byContradiction
          intro notGreater
          exact different (String.le_antisymm (String.not_lt.mp notGreater)
            (String.not_lt.mp notSmaller))
        · exact below entry kept

theorem lookup_cons (name other : String) (binding : Binding) (rest : Entries) :
    List.lookup other ((name, binding) :: rest) =
      if other = name then some binding else rest.lookup other := by
  by_cases same : other = name
  · simp [same]
  · have unequal : (other == name) = false := beq_false_of_ne same
    simp [List.lookup_cons, same, unequal]

/-- The binding made last is found, and every other name keeps its own. -/
theorem lookup_insert (name other : String) (binding : Binding) (entries : Entries) :
    (insert name binding entries).lookup other =
      if other = name then some binding else entries.lookup other := by
  induction entries with
  | nil => exact lookup_cons name other binding []
  | cons entry rest ih =>
    obtain ⟨first, bound⟩ := entry
    rw [insert]
    split
    · rw [lookup_cons]
    · split
      · rename_i same
        subst same
        rw [lookup_cons, lookup_cons]
        by_cases equal : other = name <;> simp [equal]
      · rename_i different
        rw [lookup_cons, lookup_cons, ih]
        by_cases equal : other = first
        · simp [equal, Ne.symm different]
        · simp [equal]

end Entries

structure Globals where
  entries : Entries := []
  sorted : entries.Sorted := by exact .nil

namespace Globals

def empty : Globals := {}

def get? (globals : Globals) (name : String) : Option Binding :=
  globals.entries.lookup name

def insert (globals : Globals) (name : String) (binding : Binding) : Globals :=
  ⟨globals.entries.insert name binding, Entries.sorted_insert name binding globals.sorted⟩

theorem get?_insert (globals : Globals) (name other : String) (binding : Binding) :
    (globals.insert name binding).get? other =
      if other = name then some binding else globals.get? other :=
  Entries.lookup_insert name other binding globals.entries

def text (globals : Globals) : String :=
  let shown := globals.entries.map fun entry => entry.1 ++ ": " ++ entry.2.text
  "\x7b" ++ ", ".intercalate shown ++ "\x7d"

end Globals

end LineLisp
