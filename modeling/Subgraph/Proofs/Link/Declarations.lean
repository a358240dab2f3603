import Mathlib.Data.List.Nodup
import Subgraph.Link

namespace Subgraph.Link

open Proto

/-- A package and the names inside of it, joined by dots. Empty ones in front are left out. -/
def dotted (package : String) (names : List String) : String :=
  ".".intercalate ((package :: names).dropWhile (·.isEmpty))

/-- The message that a path leads to, with its name as the last one after those around it. -/
inductive MessageAt (file : FileProto) : List Int → List String → MessageProto → Prop
  | top {position : Nat} {message : MessageProto} (found : file.messages[position]? = some message) :
      MessageAt file [4, position] [message.name] message
  | nested {path : List Int} {names : List String} {outer message : MessageProto} {position : Nat}
      (around : MessageAt file path names outer) (found : outer.nested[position]? = some message) :
      MessageAt file (path ++ [3, (position : Int)]) (names ++ [message.name]) message

/-- The enum that a path leads to, in the file itself or in a message. -/
inductive EnumAt (file : FileProto) : List Int → List String → EnumProto → Prop
  | top {position : Nat} {enum : EnumProto} (found : file.enums[position]? = some enum) :
      EnumAt file [5, position] [enum.name] enum
  | nested {path : List Int} {names : List String} {outer : MessageProto} {enum : EnumProto}
      {position : Nat} (around : MessageAt file path names outer)
      (found : outer.enums[position]? = some enum) :
      EnumAt file (path ++ [4, (position : Int)]) (names ++ [enum.name]) enum

theorem dotted_append (package : String) (names : List String) (name : String) :
    dotted package (names ++ [name]) = qualify (dotted package names) name := by
  unfold dotted qualify
  rw [← List.cons_append, List.dropWhile_append]
  cases dropped : (package :: names).dropWhile (·.isEmpty) with
  | nil =>
    by_cases empty : name = ""
    · subst empty
      rfl
    · simp [empty]
  | cons first rest =>
    have first_named : first.isEmpty = false := by
      have stops := List.head?_dropWhile_not (·.isEmpty) (package :: names)
      rw [dropped] at stops
      exact stops
    have named : (".".intercalate (first :: rest)).isEmpty = false := by
      cases rest <;> simp_all [String.intercalate_cons_cons]
    rw [named, List.isEmpty_cons, if_neg (by simp), if_neg (by simp),
      String.intercalate_append_of_ne_nil (by simp) (by simp), String.intercalate_singleton]

theorem dotted_nil (package : String) : dotted package [] = package := by
  by_cases empty : package = "" <;> simp [dotted, empty]

theorem dotted_singleton (package name : String) : dotted package [name] = qualify package name := by
  rw [← List.nil_append [name], dotted_append, dotted_nil]

section Lists

theorem declaredAmong_eq (scope : String) (path : List Int) (position : Nat) (messages : List MessageProto) :
    declaredAmong scope path position messages = (messages.zipIdx position).flatMap fun entry =>
      declaredIn scope (path ++ [(entry.2 : Int)]) entry.1 := by
  induction messages generalizing position with
  | nil => rw [declaredAmong]; rfl
  | cons message rest ih => rw [declaredAmong, ih, List.zipIdx_cons, List.flatMap_cons]

theorem declaredIn_eq (scope : String) (path : List Int) (message : MessageProto) :
    declaredIn scope path message = ⟨path, qualify scope message.name, message⟩ ::
      message.nested.zipIdx.flatMap fun entry =>
        declaredIn (qualify scope message.name) (path ++ [3, (entry.2 : Int)]) entry.1 := by
  cases message
  rw [declaredIn, declaredAmong_eq]
  simp

theorem messagesOf_eq (file : FileProto) :
    messagesOf file = file.messages.zipIdx.flatMap fun entry =>
      declaredIn file.package [4, (entry.2 : Int)] entry.1 :=
  declaredAmong_eq ..

/-- Induction over a message and the messages inside of it, with their scopes and paths. -/
theorem declaredIn_induction {P : String → List Int → MessageProto → Prop}
    (step : ∀ scope path message,
      (∀ (position : Nat) inner, message.nested[position]? = some inner →
        P (qualify scope message.name) (path ++ [3, (position : Int)]) inner) → P scope path message) :
    ∀ scope path message, P scope path message := by
  apply declaredIn.induct P fun scope path position messages =>
    ∀ (offset : Nat) inner, messages[offset]? = some inner →
      P scope (path ++ [((position + offset : Nat) : Int)]) inner
  · intro scope path name fields nested enums options inside
    refine step scope path _ fun position inner found => ?_
    simpa using inside position inner found
  · simp
  · intro scope path position message rest first later offset inner found
    cases offset with
    | zero =>
      obtain rfl : message = inner := by simpa using found
      exact first
    | succ offset =>
      have placed := later offset inner (by simpa using found)
      rwa [Nat.add_right_comm] at placed

theorem mem_flatMap_zipIdx {α β : Type} {items : List α} {below : α × Nat → List β} {element : β} :
    element ∈ items.zipIdx.flatMap below ↔
      ∃ (position : Nat) (item : α), items[position]? = some item ∧ element ∈ below (item, position) := by
  rw [List.mem_flatMap, Prod.exists, exists_comm]
  simp only [List.mk_mem_zipIdx_iff_getElem?]

theorem mem_declaredIn {scope : String} {path : List Int} {message : MessageProto}
    {declared : Declared MessageProto} :
    declared ∈ declaredIn scope path message ↔
      declared = ⟨path, qualify scope message.name, message⟩ ∨
        ∃ (position : Nat) (inner : MessageProto), message.nested[position]? = some inner ∧
          declared ∈ declaredIn (qualify scope message.name) (path ++ [3, (position : Int)]) inner := by
  rw [declaredIn_eq, List.mem_cons, mem_flatMap_zipIdx]

theorem mem_messagesOf {file : FileProto} {declared : Declared MessageProto} :
    declared ∈ messagesOf file ↔ ∃ (position : Nat) (message : MessageProto),
      file.messages[position]? = some message ∧
        declared ∈ declaredIn file.package [4, (position : Int)] message := by
  rw [messagesOf_eq, mem_flatMap_zipIdx]

theorem mem_enumsAmong {scope : String} {path : List Int} {enums : List EnumProto}
    {declared : Declared EnumProto} :
    declared ∈ enumsAmong scope path enums ↔ ∃ (position : Nat) (enum : EnumProto),
      enums[position]? = some enum ∧
        declared = ⟨path ++ [(position : Int)], qualify scope enum.name, enum⟩ := by
  rw [enumsAmong, List.mem_map, Prod.exists, exists_comm]
  simp only [List.mk_mem_zipIdx_iff_getElem?, eq_comm]

/-- What is listed below a message that stands at a path stands at its own path. -/
theorem messageAt_of_mem_declaredIn (file : FileProto) (scope : String) (path : List Int)
    (message : MessageProto) :
    ∀ names, dotted file.package names = scope →
      MessageAt file path (names ++ [message.name]) message →
      ∀ declared ∈ declaredIn scope path message, ∃ within,
        MessageAt file declared.path within declared.proto ∧
          declared.fullName = dotted file.package within := by
  induction scope, path, message using declaredIn_induction with
  | step scope path message ih =>
    intro names inScope located declared member
    have inner_scope : dotted file.package (names ++ [message.name]) = qualify scope message.name := by
      rw [dotted_append, inScope]
    rcases mem_declaredIn.mp member with rfl | ⟨position, inner, found, below⟩
    · exact ⟨_, located, inner_scope.symm⟩
    · exact ih position inner found _ inner_scope (located.nested found) declared below

/-- With a message, the messages inside of it are listed. -/
theorem nested_mem_declaredIn (scope : String) (path : List Int) (message : MessageProto) :
    ∀ outer ∈ declaredIn scope path message, ∀ {position : Nat} {inner : MessageProto},
      outer.proto.nested[position]? = some inner →
        ⟨outer.path ++ [3, (position : Int)], qualify outer.fullName inner.name, inner⟩ ∈
          declaredIn scope path message := by
  induction scope, path, message using declaredIn_induction with
  | step scope path message ih =>
    intro outer member position inner found
    rw [mem_declaredIn]
    right
    rcases mem_declaredIn.mp member with rfl | ⟨place, around, placed, below⟩
    · exact ⟨position, inner, found, mem_declaredIn.mpr (.inl rfl)⟩
    · exact ⟨place, around, placed, ih place around placed outer below found⟩

end Lists

/-- A list of declarations holds those that `At` finds in a file, each of them once. -/
structure Lists {α : Type} (At : FileProto → List Int → List String → α → Prop)
    (declared : FileProto → List (Declared α)) : Prop where
  mem_iff : ∀ {file path fullName proto}, ⟨path, fullName, proto⟩ ∈ declared file ↔
    ∃ names, At file path names proto ∧ fullName = dotted file.package names
  once : ∀ file, ((declared file).map (·.path)).Nodup

theorem mem_messagesOf_of_messageAt {file : FileProto} {path : List Int} {names : List String}
    {message : MessageProto} (located : MessageAt file path names message) :
    ⟨path, dotted file.package names, message⟩ ∈ messagesOf file := by
  induction located with
  | top found =>
    rw [dotted_singleton]
    exact mem_messagesOf.mpr ⟨_, _, found, mem_declaredIn.mpr (.inl rfl)⟩
  | nested around found outer_listed =>
    obtain ⟨place, top, placed, below⟩ := mem_messagesOf.mp outer_listed
    rw [dotted_append]
    exact mem_messagesOf.mpr ⟨place, top, placed, nested_mem_declaredIn _ _ _ _ below found⟩

theorem messageAt_iff {file : FileProto} {path : List Int} {fullName : String} {message : MessageProto} :
    ⟨path, fullName, message⟩ ∈ messagesOf file ↔
      ∃ names, MessageAt file path names message ∧ fullName = dotted file.package names := by
  constructor
  · intro member
    obtain ⟨place, top, placed, below⟩ := mem_messagesOf.mp member
    exact messageAt_of_mem_declaredIn file _ _ top [] (dotted_nil _) (.top placed) _ below
  · rintro ⟨names, located, rfl⟩
    exact mem_messagesOf_of_messageAt located

theorem enumAt_iff {file : FileProto} {path : List Int} {fullName : String} {enum : EnumProto} :
    ⟨path, fullName, enum⟩ ∈ enumsOf file ↔
      ∃ names, EnumAt file path names enum ∧ fullName = dotted file.package names := by
  rw [enumsOf, List.mem_append, mem_enumsAmong, List.mem_flatMap]
  constructor
  · rintro (⟨position, enum, found, same⟩ | ⟨outer, listed, inside⟩)
    · cases same
      exact ⟨_, .top found, (dotted_singleton ..).symm⟩
    · obtain ⟨names, around, named⟩ := messageAt_iff.mp listed
      obtain ⟨position, enum, found, same⟩ := mem_enumsAmong.mp inside
      cases same
      refine ⟨_, ?_, by rw [named, ← dotted_append]⟩
      simpa using EnumAt.nested around found
  · rintro ⟨names, located, rfl⟩
    cases located with
    | top found => exact .inl ⟨_, _, found, by rw [dotted_singleton]; rfl⟩
    | nested around found =>
      refine .inr ⟨_, mem_messagesOf_of_messageAt around, mem_enumsAmong.mpr ⟨_, _, found, ?_⟩⟩
      rw [dotted_append]
      simp

section Paths

/-- Positions increase along a list. -/
theorem pairwise_lt_zipIdx {α : Type} (items : List α) :
    items.zipIdx.Pairwise fun first second => first.2 < second.2 := by
  have positions : (items.zipIdx.map (·.2)).Pairwise (· < ·) := by
    rw [List.zipIdx_map_snd]
    exact List.pairwise_lt_range' 1
  exact List.pairwise_map.mp positions

theorem pairwise_zipIdx {α : Type} (items : List α) :
    items.zipIdx.Pairwise fun first second => first.2 ≠ second.2 :=
  (pairwise_lt_zipIdx items).imp Nat.ne_of_lt

/-- Paths that go on from different positions are different. -/
theorem nodup_flatMap_zipIdx {α : Type} {items : List α} (root : List Int)
    {below : α × Nat → List (List Int)} (each : ∀ entry ∈ items.zipIdx, (below entry).Nodup)
    (under : ∀ entry ∈ items.zipIdx, ∀ path ∈ below entry, root ++ [(entry.2 : Int)] <+: path) :
    (items.zipIdx.flatMap below).Nodup := by
  refine List.nodup_flatMap.mpr ⟨each, (pairwise_zipIdx items).imp_of_mem ?_⟩
  intro first second first_mem second_mem differ path in_first in_second
  have same := List.prefix_of_prefix_length_le (under first first_mem path in_first)
    (under second second_mem path in_second) (by simp)
  rw [List.prefix_append_right_inj] at same
  exact differ (Int.natCast_inj.mp (by simpa using same))

theorem path_isPrefix (scope : String) (path : List Int) (message : MessageProto) :
    ∀ declared ∈ declaredIn scope path message, path <+: declared.path := by
  induction scope, path, message using declaredIn_induction with
  | step scope path message ih =>
    intro declared member
    rcases mem_declaredIn.mp member with rfl | ⟨position, inner, found, below⟩
    · exact List.prefix_refl _
    · exact (List.prefix_append ..).trans (ih position inner found declared below)

theorem nodup_paths_declaredIn (scope : String) (path : List Int) (message : MessageProto) :
    ((declaredIn scope path message).map (·.path)).Nodup := by
  induction scope, path, message using declaredIn_induction with
  | step scope path message ih =>
    rw [declaredIn_eq, List.map_cons, List.map_flatMap, List.nodup_cons]
    constructor
    · intro member
      obtain ⟨position, inner, found, listed⟩ := mem_flatMap_zipIdx.mp member
      obtain ⟨declared, below, same⟩ := List.mem_map.mp listed
      have longer := (path_isPrefix _ _ inner declared below).length_le
      simp only [same, List.length_append, List.length_cons] at longer
      omega
    · refine nodup_flatMap_zipIdx (path ++ [3]) ?_ ?_
      · rintro ⟨inner, position⟩ member
        exact ih position inner (List.mk_mem_zipIdx_iff_getElem?.mp member)
      · rintro ⟨inner, position⟩ - _ listed
        obtain ⟨declared, below, rfl⟩ := List.mem_map.mp listed
        simpa using path_isPrefix _ _ inner declared below

theorem nodup_paths_messagesOf (file : FileProto) : ((messagesOf file).map (·.path)).Nodup := by
  rw [messagesOf_eq, List.map_flatMap]
  refine nodup_flatMap_zipIdx [4] (fun _ _ => nodup_paths_declaredIn ..) ?_
  rintro ⟨message, position⟩ - _ listed
  obtain ⟨declared, below, rfl⟩ := List.mem_map.mp listed
  exact path_isPrefix _ _ message declared below

theorem mem_paths_enumsAmong {scope : String} {root path : List Int} {enums : List EnumProto}
    (listed : path ∈ (enumsAmong scope root enums).map (·.path)) :
    ∃ position : Nat, path = root ++ [(position : Int)] := by
  obtain ⟨declared, member, rfl⟩ := List.mem_map.mp listed
  obtain ⟨position, enum, -, rfl⟩ := mem_enumsAmong.mp member
  exact ⟨position, rfl⟩

/-- Positions tell what stands side by side apart. -/
theorem nodup_positions {α : Type} (items : List α) (root : List Int) :
    (items.zipIdx.map fun entry => root ++ [(entry.2 : Int)]).Nodup := by
  refine List.pairwise_map.mpr ((pairwise_zipIdx items).imp fun differ same => ?_)
  exact differ (Int.natCast_inj.mp (by simpa using same))

theorem nodup_paths_enumsAmong (scope : String) (root : List Int) (enums : List EnumProto) :
    ((enumsAmong scope root enums).map (·.path)).Nodup := by
  rw [enumsAmong, List.map_map]
  exact nodup_positions enums root

theorem nodup_paths_enumsOf (file : FileProto) : ((enumsOf file).map (·.path)).Nodup := by
  rw [enumsOf, List.map_append, List.map_flatMap, List.nodup_append']
  refine ⟨nodup_paths_enumsAmong .., List.nodup_flatMap.mpr ⟨fun _ _ => nodup_paths_enumsAmong .., ?_⟩, ?_⟩
  · refine (List.pairwise_map.mp (nodup_paths_messagesOf file)).imp ?_
    intro first second differ path in_first in_second
    obtain ⟨position, rfl⟩ := mem_paths_enumsAmong in_first
    obtain ⟨place, same⟩ := mem_paths_enumsAmong in_second
    exact differ (List.append_inj' (List.append_inj' same rfl).1 rfl).1
  · intro path own inside
    obtain ⟨position, rfl⟩ := mem_paths_enumsAmong own
    obtain ⟨outer, member, listed⟩ := List.mem_flatMap.mp inside
    obtain ⟨place, same⟩ := mem_paths_enumsAmong listed
    obtain ⟨top, message, -, below⟩ := mem_messagesOf.mp member
    obtain ⟨rest, whole⟩ := path_isPrefix _ _ message outer below
    simp [← whole] at same

end Paths

theorem lists_messages : Lists MessageAt messagesOf :=
  ⟨messageAt_iff, nodup_paths_messagesOf⟩

theorem lists_enums : Lists EnumAt enumsOf :=
  ⟨enumAt_iff, nodup_paths_enumsOf⟩

end Subgraph.Link
