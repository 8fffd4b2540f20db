import LineLisp.Environment
import LineLisp.Proofs.Globals
import LineLisp.Proofs.Text.Order

/-! Definitions made one after another.
All that is left of them is the last definition of every name. It is found under the name and
listed at the name's place; when other names were defined makes no difference. -/
namespace LineLisp

abbrev Definitions := List (String × Binding)

namespace Definitions

def Latest (definitions : Definitions) (name : String) (binding : Binding) : Prop :=
  ∃ before later, definitions = before ++ (name, binding) :: later ∧
    ∀ definition ∈ later, definition.1 ≠ name

inductive Alike (definitions others : Definitions) : Prop
  | latest (same : ∀ name binding, definitions.Latest name binding ↔ others.Latest name binding)
  | reordered (same : ∀ name, definitions.filter (·.1 == name) = others.filter (·.1 == name))
  | distinct (names : (definitions.map Prod.fst).Nodup) (permuted : definitions.Perm others)

structure Lists (definitions : Definitions) (entries : Entries) (text : String) : Prop where
  ordered : entries.Pairwise fun a b => a.1.toUTF8.toList < b.1.toUTF8.toList
  names : ∀ name, name ∈ entries.map Prod.fst ↔ name ∈ definitions.map Prod.fst
  latest : ∀ name binding, (name, binding) ∈ entries ↔ definitions.Latest name binding
  written : text = "\x7b" ++ ", ".intercalate (entries.map fun entry =>
    entry.1 ++ ": " ++ entry.2.text) ++ "\x7d"

variable {definitions others : Definitions} {name : String} {binding : Binding}

theorem latest_iff :
    definitions.Latest name binding ↔ definitions.reverse.lookup name = some binding := by
  rw [List.lookup_eq_some_iff]
  constructor
  · rintro ⟨before, later, rfl, free⟩
    refine ⟨later.reverse, before.reverse, by simp, fun definition member => ?_⟩
    exact bne_iff_ne.mpr (Ne.symm (free definition (List.mem_reverse.mp member)))
  · rintro ⟨later, before, split, free⟩
    refine ⟨before.reverse, later.reverse, ?_, fun definition member => ?_⟩
    · rw [← List.reverse_reverse definitions, split]
      simp
    · exact Ne.symm (bne_iff_ne.mp (free definition (List.mem_reverse.mp member)))

theorem lookup_eq_none_iff :
    definitions.reverse.lookup name = none ↔ name ∉ definitions.map Prod.fst := by
  rw [List.lookup_eq_none_iff]
  simp only [List.mem_reverse, bne_iff_ne, List.mem_map, not_exists, not_and]
  exact forall₂_congr fun _ _ => ne_comm

theorem exists_latest (definitions : Definitions) (name : String) :
    (∃ binding, definitions.Latest name binding) ↔ name ∈ definitions.map Prod.fst := by
  simp only [latest_iff]
  rw [← Option.ne_none_iff_exists', Ne, lookup_eq_none_iff, not_not]

theorem lookup_filter (definitions : Definitions) (name : String) :
    (definitions.filter (·.1 == name)).lookup name = definitions.lookup name := by
  induction definitions with
  | nil => rfl
  | cons definition rest ih =>
    obtain ⟨other, binding⟩ := definition
    by_cases same : other = name
    · rw [List.filter_cons, if_pos (beq_iff_eq.mpr same), Entries.lookup_cons, Entries.lookup_cons, ih]
    · rw [List.filter_cons, if_neg (by simpa using same), ih, Entries.lookup_cons,
        if_neg (Ne.symm same)]

/-- Of names that are defined once, every definition is in force. -/
theorem latest_iff_mem (names : (definitions.map Prod.fst).Nodup) :
    definitions.Latest name binding ↔ (name, binding) ∈ definitions := by
  constructor
  · rintro ⟨before, later, rfl, -⟩
    simp
  · intro member
    obtain ⟨before, later, rfl⟩ := List.append_of_mem member
    refine ⟨before, later, rfl, fun definition among same => ?_⟩
    rw [List.map_append, List.map_cons] at names
    have apart := (List.nodup_cons.mp (List.nodup_append.mp names).2.1).1
    exact apart (List.mem_map.mpr ⟨definition, among, same⟩)

theorem Alike.lookup_eq (alike : Alike definitions others) (name : String) :
    definitions.reverse.lookup name = others.reverse.lookup name := by
  have told (same : ∀ binding, definitions.Latest name binding ↔ others.Latest name binding) :
      definitions.reverse.lookup name = others.reverse.lookup name :=
    Option.ext fun binding => by rw [← latest_iff, ← latest_iff, same]
  cases alike with
  | latest same => exact told (same name)
  | reordered same =>
    rw [← lookup_filter, ← lookup_filter others.reverse, List.filter_reverse, List.filter_reverse,
      same name]
  | distinct names permuted =>
    have again : (others.map Prod.fst).Nodup := (permuted.map Prod.fst).nodup_iff.mp names
    exact told fun binding => by
      rw [latest_iff_mem names, latest_iff_mem again, permuted.mem_iff]

end Definitions

namespace Environment

def defineAll (env : Environment) (definitions : Definitions) : Environment :=
  definitions.foldl (fun env definition => env.define definition.1 definition.2) env

theorem stack_defineAll (env : Environment) (definitions : Definitions) :
    (env.defineAll definitions).stack = env.stack := by
  induction definitions generalizing env with
  | nil => rfl
  | cons definition rest ih => exact ih (env.define definition.1 definition.2)

theorem get?_defineAll (env : Environment) (definitions : Definitions) (name : String) :
    (env.defineAll definitions).globals.get? name =
      (definitions.reverse.lookup name).or (env.globals.get? name) := by
  induction definitions generalizing env with
  | nil => rfl
  | cons definition rest ih =>
    obtain ⟨other, binding⟩ := definition
    -- The first definition counts for its name only if none of the others is found.
    have later := ih (env.define other binding)
    have defined : (env.define other binding).globals.get? name = _ :=
      Globals.get?_insert env.globals other name binding
    rw [defined] at later
    rw [Entries.lookup_reverse_cons, Option.or_assoc]
    refine later.trans ?_
    by_cases same : name = other <;> simp [same]

variable (config : Config) (definitions : Definitions)

theorem get?_defined (name : String) :
    ((withConfig config).defineAll definitions).globals.get? name = definitions.reverse.lookup name := by
  rw [get?_defineAll]
  exact Option.or_none

theorem lists_defined : ∃ entries, definitions.Lists entries
    ((withConfig config).defineAll definitions).globals.text := by
  have latest (name : String) (binding : Binding) :
      (name, binding) ∈ ((withConfig config).defineAll definitions).globals.entries ↔
        definitions.Latest name binding := by
    rw [Globals.mem_entries_iff, get?_defined, Definitions.latest_iff]
  refine ⟨_, ?_, fun name => ?_, latest, rfl⟩
  · exact (Globals.sorted _).imp fun less => (Text.toUTF8_lt_iff _ _).mpr less
  · rw [← Definitions.exists_latest definitions]
    simp only [← latest, List.mem_map, Prod.exists, exists_and_right, exists_eq_right]

/-- Of each name the last definition counts, and it is all that counts. -/
theorem define_latest :
    let env : Environment := (withConfig config).defineAll definitions
    env.depth = 0 ∧ (∀ name, env.lookup name = env.globals.get? name) ∧
    (∀ name binding, env.globals.get? name = some binding ↔ definitions.Latest name binding) ∧
    (∀ name, env.globals.get? name = none ↔ name ∉ definitions.map Prod.fst) ∧
    (∃ entries, definitions.Lists entries env.globals.text) ∧
    ∀ others : Definitions, definitions.Alike others →
      ((withConfig config).defineAll others).globals = env.globals ∧
        ((withConfig config).defineAll others).globals.text = env.globals.text := by
  intro env
  have calm : env.stack = {} := stack_defineAll _ _
  refine ⟨?_, fun name => ?_, fun name binding => ?_, fun name => ?_, lists_defined config definitions,
    fun others alike => ?_⟩
  · rw [depth, calm]
  · rw [lookup, top, calm]
    rfl
  · rw [get?_defined, Definitions.latest_iff]
  · rw [get?_defined, Definitions.lookup_eq_none_iff]
  · have same : ((withConfig config).defineAll others).globals = env.globals :=
      Globals.eq_of_get? fun name => by
        rw [get?_defined, get?_defined, alike.lookup_eq]
    exact ⟨same, congrArg Globals.text same⟩

/-- A name that is defined twice, and another one that is moved before it. -/
theorem define_latest_moved :
    let definitions : Definitions :=
      [("x", .boolean true), ("é", .void), ("x", .boolean false), ("z", .void)]
    let others : Definitions :=
      [("z", .void), ("é", .void), ("x", .boolean true), ("x", .boolean false)]
    definitions.Alike others ∧
      ((withConfig {}).defineAll definitions).globals.get? "x" = some (.boolean false) ∧
      ((withConfig {}).defineAll definitions).globals.text =
        "\x7bx: #f, z: #<void>, é: #<void>\x7d" ∧
      ((withConfig {}).defineAll others).globals.text =
        "\x7bx: #f, z: #<void>, é: #<void>\x7d" := by
  intro definitions others
  have moved : definitions.Alike others := by
    refine .reordered fun name => ?_
    by_cases same : name = "x"
    · rw [same]
      rfl
    · by_cases last : name = "z"
      · rw [last]
        rfl
      · simp [definitions, others, List.filter_cons, Ne.symm same, Ne.symm last]
  obtain ⟨-, -, latest, -, -, alike⟩ := define_latest {} definitions
  have text : ((withConfig {}).defineAll definitions).globals.text =
      "\x7bx: #f, z: #<void>, é: #<void>\x7d" := by decide +kernel
  refine ⟨moved, (latest _ _).mpr ⟨definitions.take 2, definitions.drop 3, rfl, ?_⟩, text,
    (alike others moved).2.trans text⟩
  simp [definitions]

end Environment

end LineLisp
