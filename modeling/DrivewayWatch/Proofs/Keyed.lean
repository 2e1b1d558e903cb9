import Mathlib.Data.List.Nodup

/-!
# Entries with keys

Where an entry takes the place of those that have its key, keys that were
distinct stay so.
-/

namespace DrivewayWatch

theorem nodup_keys_replaced {α κ : Type} [BEq κ] [LawfulBEq κ] {key : α → κ}
    {entries : List α} (distinct : (entries.map key).Nodup) (entry : α) :
    ((entries.filter (key · != key entry) ++ [entry]).map key).Nodup := by
  have others : ((entries.filter (key · != key entry)).map key).Nodup :=
    distinct.sublist (List.filter_sublist.map _)
  have isNew : key entry ∉ (entries.filter (key · != key entry)).map key := by
    intro member
    obtain ⟨other, kept, sameKey⟩ := List.mem_map.mp member
    simpa [sameKey] using (List.mem_filter.mp kept).2
  rw [List.map_append, List.map_singleton, ← List.concat_eq_append]
  exact others.concat isNew

end DrivewayWatch
