namespace Subgraph

/-- Values by key, in the order in which the keys first came. -/
abbrev Registry (α : Type) (κ : Type := String) := List (κ × α)

namespace Registry

variable {α κ : Type}

def names (registry : Registry α κ) : List κ :=
  registry.map (·.1)

variable [DecidableEq κ]

/-- A key that is already there keeps its place and takes the new value. -/
def put (key : κ) (value : α) : Registry α κ → Registry α κ
  | [] => [(key, value)]
  | (known, old) :: rest =>
    if known = key then (known, value) :: rest else (known, old) :: put key value rest

def get? (registry : Registry α κ) (key : κ) : Option α :=
  registry.lookup key

/-- Puts entries one after another. -/
def update (registry entries : Registry α κ) : Registry α κ :=
  entries.foldl (fun known entry => known.put entry.1 entry.2) registry

end Registry

/-- What is given directly for something that can be configured. -/
inductive Setting where
  | absent
  /-- Given, but without a text. -/
  | empty
  | text (value : String)
  deriving DecidableEq, Repr

namespace Setting

def ofText? : Option String → Setting
  | none => absent
  | some value => text value

def text? : Setting → Option String
  | text value => some value
  | _ => none

end Setting

end Subgraph
