import Mathlib.Data.List.Induction
import Mathlib.Data.List.Nodup
import Subgraph.Basic

namespace Subgraph.Registry

variable {α κ : Type} [DecidableEq κ] {registry : Registry α κ} {name : κ}

theorem get?_put (registry : Registry α κ) (name other : κ) (value : α) :
    (registry.put name value).get? other =
      if name = other then some value else registry.get? other := by
  unfold get?
  induction registry with
  | nil =>
    by_cases same : name = other
    · simp [put, same]
    · simp [put, same, List.lookup_cons, beq_false_of_ne (Ne.symm same)]
  | cons entry rest ih =>
    obtain ⟨known, old⟩ := entry
    by_cases here : known = name
    · subst here
      by_cases same : known = other
      · simp [put, same]
      · simp [put, same, List.lookup_cons, beq_false_of_ne (Ne.symm same)]
    · by_cases first : known = other
      · subst first
        simp [put, here, Ne.symm here]
      · simp [put, here, List.lookup_cons, beq_false_of_ne (Ne.symm first), ih]

theorem put_of_not_mem (fresh : name ∉ registry.names) (value : α) :
    registry.put name value = registry ++ [(name, value)] := by
  induction registry with
  | nil => rfl
  | cons entry rest ih =>
    obtain ⟨other, this⟩ : entry.1 ≠ name ∧ name ∉ Registry.names rest := by
      simpa [names, eq_comm] using fresh
    rw [put, if_neg other, ih this]
    rfl

/-- A name that is there keeps its place; all other entries are left alone. -/
theorem put_of_mem (distinct : registry.names.Nodup) (known : name ∈ registry.names) (value : α) :
    registry.put name value = registry.map fun entry => if entry.1 = name then (name, value) else entry := by
  induction registry with
  | nil => simp [names] at known
  | cons entry rest ih =>
    obtain ⟨absent, distinct⟩ : entry.1 ∉ Registry.names rest ∧ (Registry.names rest).Nodup := by
      simpa [names] using distinct
    by_cases here : entry.1 = name
    · have others : ∀ other ∈ rest, (if other.1 = name then (name, value) else other) = other := by
        intro other member
        have unlike : other.1 ≠ name := fun same =>
          absent (by rw [here, ← same]; exact List.mem_map_of_mem member)
        rw [if_neg unlike]
      rw [put, if_pos here, List.map_cons, if_pos here, List.map_congr_left others, List.map_id', here]
    · have later : name ∈ Registry.names rest := by simpa [names, Ne.symm here] using known
      rw [put, if_neg here, List.map_cons, if_neg here, ih distinct later]

/-- Entries that all have names of their own are put one after another. -/
theorem update_eq_append (registry : Registry α κ) {entries : Registry α κ}
    (distinct : (registry ++ entries).names.Nodup) : registry.update entries = registry ++ entries := by
  induction entries generalizing registry with
  | nil => exact (List.append_nil registry).symm
  | cons entry rest ih =>
    have apart : (registry.names ++ entry.1 :: Registry.names rest).Nodup := by simpa [names] using distinct
    have fresh : entry.1 ∉ registry.names := fun known =>
      (List.nodup_cons.mp (List.nodup_middle.mp apart)).1 (List.mem_append_left _ known)
    have next : registry ++ entry :: rest = (registry ++ [entry]) ++ rest := by simp
    change (registry.put entry.1 entry.2).update rest = _
    rw [put_of_not_mem fresh, ih _ (next ▸ distinct), next]

/-- Of entries that are put one after another under one name, the last one is found. -/
theorem get?_update (registry entries : Registry α κ) (name : κ) :
    (registry.update entries).get? name = (entries.reverse.lookup name).or (registry.get? name) := by
  induction entries generalizing registry with
  | nil => rfl
  | cons entry rest ih =>
    obtain ⟨known, value⟩ := entry
    change ((registry.put known value).update rest).get? name = _
    rw [ih, get?_put, List.reverse_cons, List.lookup_append, Option.or_assoc]
    by_cases same : known = name
    · simp [same]
    · simp [same, List.lookup_cons, beq_false_of_ne (Ne.symm same)]

theorem get?_eq_none : registry.get? name = none ↔ name ∉ registry.names := by
  rw [get?, List.lookup_eq_none_iff, names, List.mem_map]
  constructor
  · rintro absent ⟨entry, member, rfl⟩
    simpa using absent entry member
  · intro absent entry member
    exact bne_iff_ne.mpr fun same => absent ⟨entry, member, same.symm⟩

theorem get?_eq_some (distinct : registry.names.Nodup) {value : α} :
    registry.get? name = some value ↔ (name, value) ∈ registry := by
  rw [get?, List.lookup_eq_some_iff]
  constructor
  · rintro ⟨before, after, rfl, -⟩
    simp
  · intro member
    obtain ⟨before, after, rfl⟩ := List.append_of_mem member
    have apart : (Registry.names before ++ name :: Registry.names after).Nodup := by
      simpa [names] using distinct
    have absent := (List.nodup_cons.mp (List.nodup_middle.mp apart)).1
    refine ⟨before, after, rfl, fun entry earlier => bne_iff_ne.mpr ?_⟩
    rintro rfl
    exact absent (List.mem_append_left _ (List.mem_map_of_mem earlier))

section Update

/-- A name that is put stays in its place or goes to the end. -/
theorem names_put (registry : Registry α κ) (name : κ) (value : α) :
    (registry.put name value).names =
      if name ∈ registry.names then registry.names else registry.names ++ [name] := by
  induction registry with
  | nil => rfl
  | cons entry rest ih =>
    obtain ⟨known, old⟩ := entry
    unfold names at ih ⊢
    by_cases here : known = name
    · simp [put, here]
    · rw [put, if_neg here, List.map_cons, ih]
      by_cases later : name ∈ rest.map (·.1) <;> simp [later, Ne.symm here]

theorem mem_names_put {other : κ} {value : α} :
    other ∈ (registry.put name value).names ↔ other ∈ registry.names ∨ other = name := by
  rw [names_put]
  by_cases known : name ∈ registry.names
  · rw [if_pos known]
    exact ⟨.inl, fun member => member.elim id fun same => same ▸ known⟩
  · rw [if_neg known, List.mem_append, List.mem_singleton]

theorem mem_names_update {entries : Registry α κ} :
    name ∈ (registry.update entries).names ↔ name ∈ registry.names ∨ name ∈ entries.names := by
  induction entries generalizing registry with
  | nil => exact ⟨.inl, fun member => member.elim id fun none => absurd none List.not_mem_nil⟩
  | cons entry rest ih =>
    change name ∈ ((registry.put entry.1 entry.2).update rest).names ↔ _
    rw [ih, mem_names_put, or_assoc]
    simp [names]

theorem nodup_names_put (distinct : registry.names.Nodup) (name : κ) (value : α) :
    (registry.put name value).names.Nodup := by
  rw [names_put]
  by_cases known : name ∈ registry.names
  · rwa [if_pos known]
  · rw [if_neg known, ← List.concat_eq_append]
    exact distinct.concat known

theorem put_put (registry : Registry α κ) (name : κ) (old value : α) :
    (registry.put name old).put name value = registry.put name value := by
  induction registry with
  | nil => simp [put]
  | cons entry rest ih =>
    obtain ⟨known, first⟩ := entry
    by_cases here : known = name
    · simp [put, here]
    · simp [put, here, ih]

/-- A name that is known may be given its value before or after another one. -/
theorem put_comm {other : κ} (apart : other ≠ name) (known : name ∈ registry.names) (value more : α) :
    (registry.put other more).put name value = (registry.put name value).put other more := by
  induction registry with
  | nil => simp [names] at known
  | cons entry rest ih =>
    obtain ⟨first, old⟩ := entry
    by_cases here : first = name
    · subst here
      simp [put, apart.symm]
    · have later : name ∈ Registry.names rest := by simpa [names, Ne.symm here] using known
      by_cases there : first = other
      · simp [put, there, apart]
      · simp [put, here, there, ih later]

theorem update_append (registry first second : Registry α κ) :
    registry.update (first ++ second) = (registry.update first).update second :=
  List.foldl_append

theorem nodup_names_update (distinct : registry.names.Nodup) (entries : Registry α κ) :
    (registry.update entries).names.Nodup := by
  induction entries generalizing registry with
  | nil => exact distinct
  | cons entry rest ih => exact ih (nodup_names_put distinct entry.1 entry.2)

theorem put_update {rest : Registry α κ} (known : name ∈ registry.names) (absent : name ∉ rest.names) (value : α) :
    (registry.update rest).put name value = (registry.put name value).update rest := by
  induction rest generalizing registry with
  | nil => rfl
  | cons entry rest ih =>
    obtain ⟨apart, absent⟩ : entry.1 ≠ name ∧ name ∉ Registry.names rest := by
      simpa [names, eq_comm] using absent
    have still : name ∈ (registry.put entry.1 entry.2).names := mem_names_put.mpr (.inl known)
    calc
      ((registry.put entry.1 entry.2).update rest).put name value
        = ((registry.put entry.1 entry.2).put name value).update rest := ih still absent
      _ = ((registry.put name value).put entry.1 entry.2).update rest := by rw [put_comm apart known]

/-- An entry may be put into the entries that are put, or behind them. -/
theorem update_put {entries : Registry α κ} (distinct : entries.names.Nodup) (registry : Registry α κ) (name : κ)
    (value : α) : registry.update (entries.put name value) = (registry.update entries).put name value := by
  induction entries generalizing registry with
  | nil => rfl
  | cons entry rest ih =>
    obtain ⟨known, old⟩ := entry
    obtain ⟨absent, distinct⟩ : known ∉ Registry.names rest ∧ (Registry.names rest).Nodup := by
      simpa [names] using distinct
    by_cases here : known = name
    · subst here
      have present : known ∈ (registry.put known old).names := mem_names_put.mpr (.inr rfl)
      rw [put, if_pos rfl]
      change (registry.put known value).update rest = ((registry.put known old).update rest).put known value
      rw [put_update present absent, put_put]
    · rw [put, if_neg here]
      exact ih distinct (registry.put known old)

/-- It is the same to put entries as to put what they come to by themselves. -/
theorem update_update_nil (registry entries : Registry α κ) :
    registry.update (update [] entries) = registry.update entries := by
  induction entries using List.reverseRecOn with
  | nil => rfl
  | append_singleton entries last ih =>
    have none : (names ([] : Registry α κ)).Nodup := List.nodup_nil
    have distinct := nodup_names_update none entries
    calc
      registry.update (update [] (entries ++ [last]))
        = registry.update ((update [] entries).put last.1 last.2) := by rw [update_append]; rfl
      _ = (registry.update (update [] entries)).put last.1 last.2 := update_put distinct registry last.1 last.2
      _ = registry.update (entries ++ [last]) := by rw [ih, update_append]; rfl

end Update

end Subgraph.Registry
