import Mathlib.Data.List.Basic

/-!
# Things that are found by their names

Options of a command and settings of a file stand in lists in which no two have the same name, and
are looked for by their names. Each of them is found (`find?_named`), also when one of another name
is taken away (`find?_filter_named`).
-/

namespace PeerLink

variable {α β : Type} [DecidableEq β] {name : α → β}

/-- Something that is in a list is found by its name, if no two have the same name. -/
theorem find?_named {things : List α} (distinct : (things.map name).Nodup) {thing : α}
    (mem : thing ∈ things) :
    things.find? (fun other => decide (name other = name thing)) = some thing := by
  induction things with
  | nil => cases mem
  | cons first things ih =>
    rw [List.map_cons, List.nodup_cons] at distinct
    rcases List.mem_cons.1 mem with rfl | later
    · simp
    · have ne : name first ≠ name thing := fun same =>
        distinct.1 (same ▸ List.mem_map_of_mem later)
      rw [List.find?_cons_of_neg (by simpa using ne)]
      exact ih distinct.2 later

/-- What is found by its name is found also without the things of another name. -/
theorem find?_filter_named (things : List α) {wanted other : β} (ne : wanted ≠ other) :
    (things.filter fun thing => decide (name thing ≠ other)).find?
        (fun thing => decide (name thing = wanted)) =
      things.find? fun thing => decide (name thing = wanted) := by
  rw [List.find?_filter]
  congr 1
  funext thing
  by_cases named : name thing = wanted
  · simp [named, ne]
  · simp [named]

end PeerLink
