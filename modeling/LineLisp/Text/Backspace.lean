import LineLisp.Text.Bytes
import LineLisp.Text.Cluster

/-! Lines as they were typed.
A backspace takes back what the reader saw last, which may be several code
points; of a very long cluster it takes a part only. What has been typed and the
bytes that the next backspaces take are kept with the latest first. -/
namespace LineLisp.Text

def backspace : Char := '\x08'

/-- The bytes that a backspace takes of a cluster. They are counted in eight
bits, so that a cluster of 256 bytes or more is not taken back whole. -/
def backspaceBytes (cluster : List Char) : Nat :=
  byteLength cluster % 256

structure Typing where
  text : List Char := []
  sizes : List Nat := []

namespace Typing

/-- Adds a cluster, or takes bytes back if it is a backspace. There is no line
any more once a backspace has to leave a part of a character. -/
def press (typing : Typing) (cluster : List Char) : Option Typing :=
  if cluster = [backspace] then
    match typing.sizes with
    | [] => some typing
    | size :: sizes => (dropBytes size typing.text).map (⟨·, sizes⟩)
  else some ⟨cluster.reverse ++ typing.text, backspaceBytes cluster :: typing.sizes⟩

/-- All that is typed is kept, and in its order, as long as no backspace is. -/
theorem foldlM_press {clusters : List (List Char)} (typing : Typing)
    (absent : [backspace] ∉ clusters) :
    clusters.foldlM press typing = some
      ⟨clusters.flatten.reverse ++ typing.text,
        (clusters.map backspaceBytes).reverse ++ typing.sizes⟩ := by
  induction clusters generalizing typing with
  | nil => rfl
  | cons cluster rest ih =>
    have other : cluster ≠ [backspace] := fun same => absent (same ▸ List.mem_cons_self)
    have later : [backspace] ∉ rest := fun member => absent (List.mem_cons_of_mem _ member)
    simp [press, other, ih _ later]

end Typing

def applyBackspaces (line : String) : Option String :=
  ((clusters line.toList).foldlM Typing.press {}).map fun typing =>
    String.ofList typing.text.reverse

/-- A line without backspaces is left as it is. -/
theorem applyBackspaces_eq {line : String} (absent : backspace ∉ line.toList) :
    applyBackspaces line = some line := by
  have none : [backspace] ∉ clusters line.toList := by
    intro member
    apply absent
    rw [← flatten_clusters line.toList]
    exact List.mem_flatten.mpr ⟨_, member, List.mem_singleton.mpr rfl⟩
  simp [applyBackspaces, Typing.foldlM_press _ none, flatten_clusters]

end LineLisp.Text
