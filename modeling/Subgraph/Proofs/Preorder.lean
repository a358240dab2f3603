import Mathlib.Data.List.Nodup
import Mathlib.Data.Set.Function
import Mathlib.Logic.Relation

namespace Subgraph

/-- The order in which a depth-first walk first meets the nodes of a graph. Nodes with one key count
as one node, and those whose keys are in `visited` have been met before. -/
inductive Preorder {α κ : Type} (next : α → List α) (key : α → κ) :
    List κ → List α → List α → Prop
  | done {visited} : Preorder next key visited [] []
  | known {visited node rest order} : key node ∈ visited →
      Preorder next key visited rest order → Preorder next key visited (node :: rest) order
  | fresh {visited node rest below later} : key node ∉ visited →
      Preorder next key (key node :: visited) (next node) below →
      Preorder next key ((node :: below).map key ++ visited) rest later →
      Preorder next key visited (node :: rest) (node :: below ++ later)

/-- The node can be reached from one of `roots`, each root being reached from itself. -/
def ReachableFrom {α : Type} (next : α → List α) (roots : List α) (node : α) : Prop :=
  ∃ root ∈ roots, Relation.ReflTransGen (fun source target => target ∈ next source) root node

namespace ReachableFrom

variable {α : Type} {next : α → List α} {roots more : List α} {node successor : α}

theorem root (member : node ∈ roots) : ReachableFrom next roots node :=
  ⟨node, member, .refl⟩

theorem step (reachable : ReachableFrom next roots node) (edge : successor ∈ next node) :
    ReachableFrom next roots successor := by
  obtain ⟨root, member, path⟩ := reachable
  exact ⟨root, member, path.tail edge⟩

theorem mono (subset : roots ⊆ more) (reachable : ReachableFrom next roots node) :
    ReachableFrom next more node := by
  obtain ⟨root, member, path⟩ := reachable
  exact ⟨root, subset member, path⟩

/-- What the successors of a root reach, the root reaches. -/
theorem of_next (member : node ∈ roots) (reachable : ReachableFrom next (next node) successor) :
    ReachableFrom next roots successor := by
  obtain ⟨first, edge, path⟩ := reachable
  exact ⟨node, member, path.head edge⟩

/-- A set that holds the roots and the successors of its members holds all that is reachable. -/
theorem within (scope : Set α) (closed : ∀ node ∈ scope, ∀ successor ∈ next node, successor ∈ scope)
    (inside : ∀ root ∈ roots, root ∈ scope) (reachable : ReachableFrom next roots node) :
    node ∈ scope := by
  obtain ⟨root, member, path⟩ := reachable
  induction path with
  | refl => exact inside root member
  | tail _ edge ih => exact closed _ ih _ edge

end ReachableFrom

namespace Preorder

variable {α κ : Type} {next : α → List α} {key : α → κ} {visited : List κ}
  {pending order : List α} {node : α}

/-- Only the set of visited keys matters. -/
theorem congr_visited {others : List κ} (walk : Preorder next key visited pending order)
    (same : ∀ k, k ∈ visited ↔ k ∈ others) : Preorder next key others pending order := by
  induction walk generalizing others with
  | done => exact .done
  | known met _ ih => exact .known ((same _).mp met) (ih same)
  | fresh unmet _ _ below later =>
    refine .fresh (fun met => unmet ((same _).mpr met)) (below fun k => ?_) (later fun k => ?_)
    · simp only [List.mem_cons, same k]
    · simp only [List.mem_append, same k]

/-- A walk that goes on with more nodes, after it has met those of its first part. -/
theorem append {pending' order' : List α} (walk : Preorder next key visited pending order)
    (more : Preorder next key (order.map key ++ visited) pending' order') :
    Preorder next key visited (pending ++ pending') (order ++ order') := by
  induction walk with
  | done => exact more
  | known met _ ih => exact .known met (ih more)
  | @fresh visited node rest below later unmet first _ _ ih =>
    rw [List.append_assoc]
    refine .fresh unmet first (ih (more.congr_visited fun k => ?_))
    simp only [List.map_append, List.mem_append, or_assoc, or_left_comm]

/-- From a node without successors the walk goes nowhere. -/
theorem leaf (walk : Preorder next key [] [node] order) (alone : next node = []) : order = [node] := by
  cases walk with
  | known met _ => cases met
  | fresh _ inner outer =>
    rw [alone] at inner
    cases inner
    cases outer
    rfl

theorem unvisited (walk : Preorder next key visited pending order) (member : node ∈ order) :
    key node ∉ visited := by
  induction walk with
  | done => simp at member
  | known _ _ ih => exact ih member
  | fresh unmet _ _ below later =>
    rcases List.mem_append.mp member with first | last
    · rcases List.mem_cons.mp first with rfl | inside
      · exact unmet
      · exact fun met => below inside (List.mem_cons_of_mem _ met)
    · exact fun met => later last (List.mem_append_right _ met)

theorem nodup_keys (walk : Preorder next key visited pending order) : (order.map key).Nodup := by
  induction walk with
  | done => simp
  | known _ _ ih => exact ih
  | @fresh visited node rest below later unmet inner outer ihBelow ihLater =>
    rw [List.map_append, List.nodup_append']
    refine ⟨?_, ihLater, ?_⟩
    · refine List.nodup_cons.mpr ⟨fun again => ?_, ihBelow⟩
      obtain ⟨twin, member, same⟩ := List.mem_map.mp again
      exact inner.unvisited member (same ▸ List.mem_cons_self)
    · intro k early late
      obtain ⟨twin, member, rfl⟩ := List.mem_map.mp late
      exact outer.unvisited member (List.mem_append_left _ early)

theorem reachable (walk : Preorder next key visited pending order) (member : node ∈ order) :
    ReachableFrom next pending node := by
  induction walk with
  | done => simp at member
  | known _ _ ih => exact (ih member).mono (List.subset_cons_self ..)
  | @fresh visited first rest below later _ _ _ ihBelow ihLater =>
    rcases List.mem_append.mp member with early | late
    · rcases List.mem_cons.mp early with rfl | inside
      · exact .root List.mem_cons_self
      · exact (ihBelow inside).of_next List.mem_cons_self
    · exact (ihLater late).mono (List.subset_cons_self ..)

theorem pending_covered (walk : Preorder next key visited pending order) (member : node ∈ pending) :
    key node ∈ order.map key ∨ key node ∈ visited := by
  induction walk with
  | done => simp at member
  | known met _ ih =>
    rcases List.mem_cons.mp member with rfl | later
    · exact .inr met
    · exact ih later
  | @fresh visited first rest below later _ _ _ _ ihLater =>
    rcases List.mem_cons.mp member with rfl | outer
    · exact .inl (by simp)
    · rw [List.map_append, List.mem_append]
      rcases ihLater outer with found | found
      · exact .inl (.inr found)
      · exact (List.mem_append.mp found).imp_left .inl

/-- A walk leaves no successor out: the ones of a node that it meets it meets too, or a node with
the same key, or their keys had been visited. It does not matter that some of the nodes were still
being walked when they were met again. -/
theorem next_covered {successor : α} (walk : Preorder next key visited pending order)
    (member : node ∈ order) (edge : successor ∈ next node) :
    key successor ∈ order.map key ∨ key successor ∈ visited := by
  induction walk with
  | done => simp at member
  | known _ _ ih => exact ih member
  | @fresh visited first rest below later _ inner outer ihBelow ihLater =>
    have widen (found : key successor ∈ below.map key ∨ key successor ∈ key first :: visited) :
        key successor ∈ (first :: below ++ later).map key ∨ key successor ∈ visited := by
      rw [List.map_append, List.map_cons, List.mem_append, List.mem_cons]
      rcases found with under | found
      · exact .inl (.inl (.inr under))
      · rcases List.mem_cons.mp found with same | old
        · exact .inl (.inl (.inl same))
        · exact .inr old
    rcases List.mem_append.mp member with early | late
    · rcases List.mem_cons.mp early with rfl | inside
      · exact widen (inner.pending_covered edge)
      · exact widen (ihBelow inside)
    · rw [List.map_append, List.mem_append]
      rcases ihLater late with found | found
      · exact .inl (.inr found)
      · exact (List.mem_append.mp found).imp_left .inl

/-- From nothing visited, a walk meets the key of every node that can be reached. -/
theorem key_mem_of_reachable (distinct : Set.InjOn key {node | ReachableFrom next pending node})
    (walk : Preorder next key [] pending order) (reached : ReachableFrom next pending node) :
    node ∈ order := by
  have found_of_key {target : α} (reach : ReachableFrom next pending target)
      (covered : key target ∈ order.map key ∨ key target ∈ ([] : List κ)) : target ∈ order := by
    obtain ⟨twin, member, same⟩ := List.mem_map.mp (covered.resolve_right List.not_mem_nil)
    exact distinct (walk.reachable member) reach same ▸ member
  obtain ⟨root, member, path⟩ := reached
  induction path with
  | refl => exact found_of_key (.root member) (walk.pending_covered member)
  | tail before edge ih =>
    exact found_of_key ⟨root, member, before.tail edge⟩ (walk.next_covered ih edge)

theorem mem_iff_reachable (distinct : Set.InjOn key {node | ReachableFrom next pending node})
    (walk : Preorder next key [] pending order) :
    node ∈ order ↔ ReachableFrom next pending node :=
  ⟨walk.reachable, walk.key_mem_of_reachable distinct⟩

/-- The nodes met and still pending lie in a scope that the walk does not leave and in which keys
tell nodes apart. -/
theorem forget_key_within {scope : Set α} (distinct : Set.InjOn key scope)
    (closed : ∀ node ∈ scope, ∀ successor ∈ next node, successor ∈ scope) {met : List α}
    (known : ∀ node ∈ met, node ∈ scope) (inside : ∀ node ∈ pending, node ∈ scope)
    (walk : Preorder next key (met.map key) pending order) :
    Preorder next id met pending order := by
  generalize seen : met.map key = visited at walk
  induction walk generalizing met with
  | done => exact .done
  | @known visited node rest order found _ ih =>
    subst seen
    obtain ⟨twin, member, same⟩ := List.mem_map.mp found
    have equal := distinct (known twin member) (inside node List.mem_cons_self) same
    exact .known (equal ▸ member) (ih known (fun n later => inside n (.tail _ later)) rfl)
  | @fresh visited node rest below later unmet inner _ ihBelow ihLater =>
    subst seen
    have here := inside node List.mem_cons_self
    have met' : ∀ n ∈ node :: met, n ∈ scope := List.forall_mem_cons.mpr ⟨here, known⟩
    refine .fresh (fun old => unmet (List.mem_map_of_mem old))
      (ihBelow met' (closed node here) rfl) (ihLater ?_ (fun n later => inside n (.tail _ later)) ?_)
    · intro n member
      rcases List.mem_append.mp member with early | old
      · rw [List.map_id] at early
        rcases List.mem_cons.mp early with rfl | under
        · exact here
        · exact (inner.reachable under).within scope closed (closed node here)
      · exact known n old
    · rw [List.map_append, List.map_id]

/-- Where keys tell the reachable nodes apart, the walk is the one that tells nodes apart by
themselves. -/
theorem forget_key (distinct : Set.InjOn key {node | ReachableFrom next pending node})
    (walk : Preorder next key [] pending order) : Preorder next id [] pending order :=
  walk.forget_key_within distinct (fun _ reached _ edge => ReachableFrom.step reached edge) (by simp)
    (fun _ member => .root member)

end Preorder

end Subgraph
