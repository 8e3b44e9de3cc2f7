import TableApi.Api.Resource
import TableApi.Proofs.Json.Values

namespace TableApi

namespace Api

theorem read?_of_readRecord {req : Request} {limit : Nat} {body : Record}
    (h : req.readRecord limit = .ok body) : Json.read? req.body = some (.obj body) := by
  simp only [Request.readRecord] at h
  split at h
  · simp at h
  · split at h
    · simp at h
    · split at h
      · simp at h
      · rename_i record hread
        exact Except.ok.inj h ▸ hread
      · simp at h

theorem nodup_names_of_readRecord {req : Request} {limit : Nat} {body : Record}
    (h : req.readRecord limit = .ok body) : body.names.Nodup :=
  Json.nodup_names_of_read? (read?_of_readRecord h)

namespace Resource

variable (r : Resource)

/-- What is written of a body, but for the order: the entries that bodies may write, those under the
exact name of the key left out. -/
theorem fillable_perm {body : Record} (h : body.names.Nodup) :
    (r.fillable body).Perm (body.filter fun x =>
      (r.writable = [] ∨ x.1 ∈ r.writable) ∧ x.1 ≠ r.table.primaryKey) := by
  by_cases hall : r.writable = []
  · simpa [fillable, hall] using Entries.swapRemove_perm h r.table.primaryKey
  · have hkept : (Entries.retain body fun name => r.writable.contains name).names.Nodup :=
      h.sublist (List.filter_sublist.map Prod.fst)
    simp only [fillable, List.isEmpty_iff, hall, if_false]
    refine (Entries.swapRemove_perm hkept r.table.primaryKey).trans ?_
    rw [Entries.retain, List.filter_filter]
    refine List.Perm.of_eq (List.filter_congr fun x _ => ?_)
    simp [Bool.and_comm]

theorem mem_fillable {body : Record} (h : body.names.Nodup) (x : String × Json) :
    x ∈ r.fillable body ↔
      x ∈ body ∧ (r.writable = [] ∨ x.1 ∈ r.writable) ∧ x.1 ≠ r.table.primaryKey := by
  rw [(r.fillable_perm h).mem_iff, List.mem_filter, decide_eq_true_eq]

end Resource

end Api

end TableApi
