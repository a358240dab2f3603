import Subgraph.Proofs.Registry

namespace Subgraph

/-- Definitions in the order of their registration, and the place of each of them by its name. -/
structure Register (δ : Type) where
  entries : List δ := []
  index : Registry Nat := []

namespace Register

variable {δ : Type}

def find? (register : Register δ) (name : String) : Option Nat :=
  Registry.get? register.index name

def add (register : Register δ) (name : String) (entry : δ) : Register δ where
  entries := register.entries ++ [entry]
  index := Registry.put name register.entries.length register.index

/-- Changes the definition at a place. The index is left alone. -/
def change (register : Register δ) (place : Nat) (update : δ → δ) : Register δ :=
  { register with entries := register.entries.modify place update }

/-- No name is taken twice, and the index leads from exactly the names of the definitions to where
these definitions stand. -/
structure Consistent (name : δ → String) (register : Register δ) : Prop where
  distinct : (register.entries.map name).Nodup
  find?_iff : ∀ known place, register.find? known = some place ↔
    (register.entries[place]?).map name = some known

variable {register : Register δ} {name : δ → String}

@[simp] theorem find?_add (register : Register δ) (name other : String) (entry : δ) :
    (register.add name entry).find? other =
      if name = other then some register.entries.length else register.find? other :=
  Registry.get?_put ..

@[simp] theorem find?_change (register : Register δ) (place : Nat) (update : δ → δ) (name : String) :
    (register.change place update).find? name = register.find? name := rfl

theorem consistent_empty (name : δ → String) : Consistent name {} :=
  ⟨List.nodup_nil, fun known place => by simp [find?, Registry.get?]⟩

theorem Consistent.find?_isSome_iff (consistent : register.Consistent name) {known : String} :
    (register.find? known).isSome ↔ known ∈ register.entries.map name := by
  rw [Option.isSome_iff_exists, List.mem_iff_getElem?]
  simp only [consistent.find?_iff, List.getElem?_map]

theorem Consistent.find?_eq_none_iff (consistent : register.Consistent name) {known : String} :
    register.find? known = none ↔ known ∉ register.entries.map name := by
  rw [← consistent.find?_isSome_iff, Option.not_isSome_iff_eq_none]

theorem Consistent.entry_of_find? (consistent : register.Consistent name) {known : String} {place : Nat}
    (found : register.find? known = some place) :
    ∃ entry, register.entries[place]? = some entry ∧ name entry = known :=
  Option.map_eq_some_iff.mp ((consistent.find?_iff known place).mp found)

theorem Consistent.add (consistent : register.Consistent name) {entry : δ}
    (fresh : register.find? (name entry) = none) : (register.add (name entry) entry).Consistent name := by
  have absent := consistent.find?_eq_none_iff.mp fresh
  refine ⟨?_, fun known place => ?_⟩
  · simp only [Register.add, List.map_append, List.map_cons, List.map_nil]
    refine List.nodup_append.mpr ⟨consistent.distinct, by simp, ?_⟩
    rintro known listed other last rfl
    exact absent (List.mem_singleton.mp last ▸ listed)
  · rw [find?_add]
    simp only [Register.add]
    by_cases same : name entry = known
    · subst same
      rw [if_pos rfl]
      constructor
      · intro here
        cases here
        simp
      · intro there
        rcases Nat.lt_trichotomy place register.entries.length with before | rfl | after
        · rw [List.getElem?_append_left before] at there
          exact absurd ((consistent.find?_iff _ _).mpr there) (by simp [fresh])
        · rfl
        · rw [List.getElem?_eq_none (by simp; omega)] at there
          cases there
    · rw [if_neg same, consistent.find?_iff]
      rcases Nat.lt_trichotomy place register.entries.length with before | rfl | after
      · rw [List.getElem?_append_left before]
      · simp [same]
      · rw [List.getElem?_eq_none (by omega), List.getElem?_eq_none (by simp; omega)]

theorem names_change {place : Nat} {update : δ → δ} (kept : ∀ entry, name (update entry) = name entry) :
    (register.change place update).entries.map name = register.entries.map name := by
  refine List.ext_getElem? fun other => ?_
  simp only [change, List.getElem?_map, List.getElem?_modify]
  cases register.entries[other]? with
  | none => rfl
  | some entry =>
    by_cases here : place = other
    · simp [here, kept]
    · simp [here]

theorem Consistent.change (consistent : register.Consistent name) {place : Nat} {update : δ → δ}
    (kept : ∀ entry, name (update entry) = name entry) :
    (register.change place update).Consistent name := by
  have same : (register.change place update).entries.map name = register.entries.map name :=
    names_change kept
  refine ⟨same ▸ consistent.distinct, fun known other => ?_⟩
  rw [find?_change, consistent.find?_iff, ← List.getElem?_map, ← List.getElem?_map, same]

end Register

end Subgraph
