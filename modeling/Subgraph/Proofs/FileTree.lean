import Mathlib.Data.List.Nodup
import Subgraph.FileTree
import Subgraph.Proofs.Registry

namespace Subgraph

/-- The path to the first parts of a path. -/
def Path.upTo (path : Path) (count : Nat) : Path :=
  { path with parts := path.parts.take count }

theorem Path.upTo_length (path : Path) : path.upTo path.parts.length = path := by
  simp [upTo]

theorem Path.upTo_dropLast (path : Path) (count : Nat) :
    ({ path with parts := path.parts.dropLast } : Path).upTo count =
      path.upTo (min count (path.parts.length - 1)) := by
  simp [upTo, List.dropLast_eq_take, List.take_take]

/-- A name without slashes, other than those for a directory itself, leads one step down. -/
theorem Path.ofString_name {name : String} (plain : '/' ∉ name.toList) (some_name : name ≠ "")
    (not_here : name ≠ ".") : Path.ofString name = { parts := [name] } := by
  have root : Path.rootOf name.toList = "" := by
    unfold rootOf
    split <;> simp_all
  have parts : ((name.toList.splitOn '/').map String.ofList) = [name] := by
    simp [List.splitOn_eq_singleton plain]
  simp [ofString, root, parts, some_name, not_here]

namespace FileTree

variable {tree before after : FileTree} {path : Path}

theorem node?_put {place : Place} (inner : Place.isOuter place = false) (node : Node) (other : Place) :
    (tree.put place node).node? other = if other = place then some node else tree.node? other := by
  by_cases same : other = place
  · subst same
    simp [node?, inner, put, Registry.get?_put]
  · simp [node?, put, Registry.get?_put, same, Ne.symm same]

/-- Places that are always there hold nothing but a directory. -/
theorem isOuter_of_node? {place : Place} (other : tree.node? place ≠ some .directory) :
    Place.isOuter place = false := by
  cases outer : Place.isOuter place with
  | false => rfl
  | true => exact absurd (by simp [node?, outer]) other

theorem follow_cons_iff {start place : Place} {part : String} {rest : List String} :
    tree.follow start (part :: rest) = .ok place ↔ tree.node? start = some .directory ∧
      tree.follow (if part = ".." then Place.parent start else start ++ [part]) rest = .ok place := by
  rw [follow]
  cases tree.node? start with
  | none => simp
  | some node => cases node <;> simp

/-- Directories stay directories. -/
def KeepsDirectories (before after : FileTree) : Prop :=
  ∀ place, before.node? place = some .directory → after.node? place = some .directory

theorem follow_of_keeps (keeps : KeepsDirectories before after) {start place : Place} {parts : List String}
    (leads : before.follow start parts = .ok place) : after.follow start parts = .ok place := by
  induction parts generalizing start with
  | nil => exact leads
  | cons part rest ih =>
    obtain ⟨directory, leads⟩ := follow_cons_iff.mp leads
    exact follow_cons_iff.mpr ⟨keeps start directory, ih leads⟩

theorem follow_append {start place home : Place} {parts more : List String}
    (leads : tree.follow start parts = .ok home) (further : tree.follow home more = .ok place) :
    tree.follow start (parts ++ more) = .ok place := by
  induction parts generalizing start with
  | nil =>
    cases leads
    exact further
  | cons part rest ih =>
    obtain ⟨directory, leads⟩ := follow_cons_iff.mp leads
    exact follow_cons_iff.mpr ⟨directory, ih leads⟩

theorem place?_of_keeps (keeps : KeepsDirectories before after) {place : Place}
    (leads : before.place? path = .ok place) : after.place? path = .ok place :=
  follow_of_keeps keeps leads

/-- The path to a directory that is there, and the directory's place. -/
def IsAt (tree : FileTree) (path : Path) (home : Place) : Prop :=
  tree.place? path = .ok home ∧ tree.node? home = some .directory

theorem IsAt.of_keeps {home : Place} (there : before.IsAt path home) (keeps : KeepsDirectories before after) :
    after.IsAt path home :=
  ⟨place?_of_keeps keeps there.1, keeps home there.2⟩

/-- A name below a directory. -/
theorem IsAt.place?_join {home : Place} (there : tree.IsAt path home) {name : String} (down : name ≠ "..") :
    tree.place? (path.join { parts := [name] }) = .ok (home ++ [name]) := by
  have further : tree.follow home [name] = .ok (home ++ [name]) := by
    rw [follow_cons_iff, if_neg down]
    exact ⟨there.2, rfl⟩
  exact follow_append there.1 further

theorem reportAt_eq_ok {α : Type} {result : Except Obstacle α} {value : α} :
    reportAt path result = .ok value ↔ result = .ok value := by
  cases result with
  | error obstacle => exact iff_of_false nofun nofun
  | ok found => constructor <;> rintro ⟨⟩ <;> rfl

theorem write_eq_ok {content : List UInt8} (written : tree.write path content = .ok after) :
    ∃ place, tree.place? path = .ok place ∧ tree.node? place ≠ some .directory ∧
      after = tree.put place (.file content) := by
  rw [write, reportAt_eq_ok] at written
  cases leads : tree.place? path with
  | error obstacle => simp [leads, bind, Except.bind] at written
  | ok place =>
    simp only [leads, bind, Except.bind] at written
    split at written
    · cases written
    · rename_i other
      split at written
      · cases written
      · cases written
        exact ⟨place, rfl, other, rfl⟩

theorem makeDirectory_eq_ok (made : tree.makeDirectory path = .ok after) :
    ∃ place, tree.place? path = .ok place ∧ tree.node? place = none ∧ after = tree.put place .directory := by
  rw [makeDirectory, reportAt_eq_ok] at made
  cases leads : tree.place? path with
  | error obstacle => simp [leads, bind, Except.bind] at made
  | ok place =>
    simp only [leads, bind, Except.bind] at made
    split at made
    · cases made
    · rename_i vacant
      split at made
      · cases made
      · cases made
        exact ⟨place, rfl, vacant, rfl⟩

theorem isDirectory_iff : tree.isDirectory path = true ↔ ∃ home, tree.IsAt path home := by
  unfold isDirectory nodeAt IsAt
  cases leads : tree.place? path with
  | error obstacle => simp [bind, Except.bind]
  | ok place =>
    cases found : tree.node? place with
    | none => simp [bind, Except.bind, found]
    | some node => cases node <;> simp [bind, Except.bind, found, pure, Except.pure]

/-- Directories have been made on a path: in vacant places only, and up to the path's end. -/
structure MadeAlong (path : Path) (before after : FileTree) : Prop where
  home : ∃ home, after.IsAt path home
  kept : ∀ place node, before.node? place = some node → after.node? place = some node
  made : ∀ place, after.node? place ≠ before.node? place →
    after.node? place = some .directory ∧ ∃ count, after.place? (path.upTo count) = .ok place

theorem MadeAlong.keeps (along : MadeAlong path before after) : KeepsDirectories before after :=
  fun place => along.kept place .directory

theorem ensureDirectory_madeAlong (ensured : tree.ensureDirectory path = .ok after) :
    MadeAlong path tree after := by
  unfold ensureDirectory at ensured
  split at ensured
  · rename_i made
    cases ensured
    obtain ⟨place, leads, vacant, rfl⟩ := makeDirectory_eq_ok made
    have other : tree.node? place ≠ some .directory := by simp [vacant]
    have inner := isOuter_of_node? other
    have kept : ∀ other node, tree.node? other = some node →
        (tree.put place .directory).node? other = some node := by
      intro other node found
      have elsewhere : other ≠ place := by
        rintro rfl
        simp [vacant] at found
      rw [node?_put inner, if_neg elsewhere, found]
    have leads' : (tree.put place .directory).place? path = .ok place :=
      place?_of_keeps (fun other => kept other .directory) leads
    refine ⟨⟨place, leads', by simp [node?_put inner]⟩, kept, fun other changed => ?_⟩
    have same : other = place := by
      by_contra elsewhere
      exact changed (by rw [node?_put inner, if_neg elsewhere])
    subst same
    exact ⟨by simp [node?_put inner], path.parts.length, by rwa [Path.upTo_length]⟩
  · split at ensured
    · rename_i directory
      cases ensured
      exact ⟨isDirectory_iff.mp directory, fun _ _ => id, fun _ changed => absurd rfl changed⟩
    · cases ensured

theorem MadeAlong.further {middle : FileTree}
    (first : MadeAlong { path with parts := path.parts.dropLast } before middle)
    (second : MadeAlong path middle after) : MadeAlong path before after where
  home := second.home
  kept place node found := second.kept place node (first.kept place node found)
  made place changed := by
    by_cases earlier : middle.node? place = before.node? place
    · exact second.made place (earlier ▸ changed)
    · obtain ⟨directory, count, leads⟩ := first.made place earlier
      rw [Path.upTo_dropLast] at leads
      exact ⟨second.keeps place directory, _, place?_of_keeps second.keeps leads⟩

theorem makeDirectoriesFrom_madeAlong {above : Nat} (made : tree.makeDirectoriesFrom path above = .ok after) :
    MadeAlong path tree after := by
  induction above generalizing path after with
  | zero => exact ensureDirectory_madeAlong made
  | succ above ih =>
    rw [makeDirectoriesFrom] at made
    split at made
    · cases upper : tree.makeDirectoriesFrom { path with parts := path.parts.dropLast } above with
      | error fault => simp [upper, bind, Except.bind] at made
      | ok middle =>
        simp only [upper, bind, Except.bind] at made
        exact (ih upper).further (ensureDirectory_madeAlong made)
    · exact ensureDirectory_madeAlong made

theorem makeDirectories_madeAlong (made : tree.makeDirectories path = .ok after) : MadeAlong path tree after :=
  makeDirectoriesFrom_madeAlong made

/-- Files have been written under names in a directory, and nothing else has been touched. -/
structure WroteInto (home : Place) (contents : List (String × List UInt8)) (before after : FileTree) : Prop where
  kept : KeepsDirectories before after
  written : ∀ entry ∈ contents, after.node? (home ++ [entry.1]) = some (.file entry.2)
  others : ∀ place, (∀ entry ∈ contents, place ≠ home ++ [entry.1]) → after.node? place = before.node? place

theorem write_wroteInto {home : Place} (there : tree.IsAt path home) {name : String} (down : name ≠ "..")
    {content : List UInt8} (written : tree.write (path.join { parts := [name] }) content = .ok after) :
    WroteInto home [(name, content)] tree after := by
  obtain ⟨place, leads, other, rfl⟩ := write_eq_ok written
  rw [there.place?_join down, Except.ok.injEq] at leads
  subst leads
  have inner := isOuter_of_node? other
  refine ⟨fun place directory => ?_, by simp [node?_put inner], fun place elsewhere => ?_⟩
  · have elsewhere : place ≠ home ++ [name] := by
      rintro rfl
      exact other directory
    rw [node?_put inner, if_neg elsewhere, directory]
  · rw [node?_put inner, if_neg (elsewhere (name, content) (List.mem_singleton_self _))]

/-- Names that differ do not get into each other's way. -/
theorem WroteInto.cons {home : Place} {name : String} {content : List UInt8} {middle : FileTree}
    {rest : List (String × List UInt8)} (first : WroteInto home [(name, content)] before middle)
    (later : WroteInto home rest middle after) (fresh : name ∉ rest.map (·.1)) :
    WroteInto home ((name, content) :: rest) before after where
  kept place directory := later.kept place (first.kept place directory)
  written entry member := by
    rcases List.mem_cons.mp member with rfl | member
    · have untouched : ∀ other ∈ rest, home ++ [name] ≠ home ++ [other.1] := by
        intro other listed same
        obtain rfl : name = other.1 := by simpa using same
        exact fresh (List.mem_map_of_mem listed)
      rw [later.others _ untouched]
      exact first.written _ (List.mem_singleton_self _)
    · exact later.written entry member
  others place elsewhere := by
    rw [later.others place fun entry member => elsewhere entry (List.mem_cons_of_mem _ member)]
    exact first.others place fun entry member => elsewhere entry (by simp_all)

end FileTree

end Subgraph
