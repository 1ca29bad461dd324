import Mathlib.Data.List.Nodup
import Mathlib.Data.List.Perm.Basic

/-! Association lists in which each key stands at most once: what looking up and removing a key
does, and that a removal divides the values between what is taken and what stays. -/
namespace Table

variable {κ α : Type*} [DecidableEq κ]

/-- The table without the entry of a key. -/
def without (table : List (κ × α)) (key : κ) : List (κ × α) := table.filter (·.1 ≠ key)

abbrev Keyed (table : List (κ × α)) : Prop := (table.map Prod.fst).Nodup

theorem without_cons_self (key : κ) (value : α) (table : List (κ × α)) :
    without ((key, value) :: table) key = without table key := by
  simp [without]

theorem without_cons_ne {key other : κ} (different : other ≠ key) (value : α)
    (table : List (κ × α)) :
    without ((other, value) :: table) key = (other, value) :: without table key := by
  simp [without, different]

theorem without_eq {table : List (κ × α)} {key : κ} (absent : key ∉ table.map Prod.fst) :
    without table key = table := by
  refine List.filter_eq_self.mpr fun entry member => decide_eq_true fun same => absent ?_
  exact same ▸ List.mem_map_of_mem member

theorem notMem_of_lookup {table : List (κ × α)} {key : κ} (missing : table.lookup key = none) :
    key ∉ table.map Prod.fst := by
  intro member
  obtain ⟨entry, inside, rfl⟩ := List.mem_map.mp member
  exact bne_iff_ne.mp (List.lookup_eq_none_iff.mp missing entry inside) rfl

theorem mem_of_lookup {table : List (κ × α)} {key : κ} {value : α}
    (found : table.lookup key = some value) : (key, value) ∈ table := by
  obtain ⟨before, after, rfl, -⟩ := List.lookup_eq_some_iff.mp found
  exact List.mem_append_right before List.mem_cons_self

/-- The values of a table are those of the entry of a key and those that stay without it. -/
theorem perm_without {table : List (κ × α)} (keyed : Keyed table) (key : κ) :
    ((table.lookup key).toList ++ (without table key).map Prod.snd).Perm
      (table.map Prod.snd) := by
  induction table with
  | nil => exact .refl _
  | cons entry table ih =>
      obtain ⟨first, value⟩ := entry
      obtain ⟨absent, keyed⟩ := List.nodup_cons.mp keyed
      by_cases here : first = key
      · subst here
        rw [without_cons_self, without_eq absent, List.lookup_cons_self]
        exact .refl _
      · rw [without_cons_ne here, List.lookup_cons, beq_eq_false_iff_ne.mpr (Ne.symm here)]
        exact List.perm_middle.trans ((ih keyed).cons value)

end Table
