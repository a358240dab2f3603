import Subgraph.Proofs.Link.Declarations

namespace Subgraph

/-- What a path leads to, where `held` gives what is held under a number. -/
def follow {α : Type} (held : α → Int → List α) : List Int → α → Option α
  | [], root => some root
  | number :: position :: rest, root =>
    match position.toNat?.bind ((held root number)[·]?) with
    | some next => follow held rest next
    | none => none
  | [_], _ => none

section Follow

variable {α β : Type} {held : α → Int → List α} {root inner : α}

/-- A first step leads to what is held at its position. -/
theorem follow_cons {number position : Int} {rest : List Int} :
    follow held (number :: position :: rest) root = some inner ↔
      ∃ (place : Nat) (next : α), position = place ∧ (held root number)[place]? = some next ∧
        follow held rest next = some inner := by
  rw [follow]
  constructor
  · intro found
    split at found
    · rename_i next stands
      obtain ⟨place, counted, here⟩ := Option.bind_eq_some_iff.mp stands
      exact ⟨place, next, Int.mem_toNat?.mp counted, here, found⟩
    · cases found
  · rintro ⟨place, next, rfl, here, later⟩
    have counted : Int.toNat? place = some place := Int.mem_toNat?.mpr rfl
    simp only [counted, Option.bind_some, here, later]

theorem follow_append {path : List Int} (found : follow held path root = some inner) (rest : List Int) :
    follow held (path ++ rest) root = follow held rest inner := by
  fun_induction follow held path root with
  | case1 root =>
    cases found
    rfl
  | case2 number position path root next stands ih =>
    rw [List.cons_append, List.cons_append, follow, stands]
    exact ih found
  | case3 => cases found
  | case4 => cases found

/-- One step further. -/
theorem follow_concat {path : List Int} {outer : α} (found : follow held path root = some outer)
    {number : Int} {position : Nat} (stands : (held outer number)[position]? = some inner) :
    follow held (path ++ [number, (position : Int)]) root = some inner := by
  rw [follow_append found, follow_cons]
  exact ⟨position, inner, rfl, stands, rfl⟩

/-- Where each step on one side is one on the other, so is the whole path. -/
theorem follow_related {parts : β → Int → List β} (relation : α → β → Prop)
    (step : ∀ {outer inner : α} {other : β} {number : Int} {position : Nat}, relation outer other →
      (held outer number)[position]? = some inner →
        ∃ part, (parts other number)[position]? = some part ∧ relation inner part)
    {path : List Int} {other : β} (related : relation root other)
    (found : follow held path root = some inner) :
    ∃ part, follow parts path other = some part ∧ relation inner part := by
  fun_induction follow held path root generalizing other with
  | case1 root =>
    cases found
    exact ⟨other, rfl, related⟩
  | case2 number position path root next stands ih =>
    obtain ⟨place, counted, here⟩ := Option.bind_eq_some_iff.mp stands
    obtain ⟨middle, there, kept⟩ := step related here
    obtain ⟨part, leads, same⟩ := ih kept found
    exact ⟨part, follow_cons.mpr ⟨place, middle, Int.mem_toNat?.mp counted, there, leads⟩, same⟩
  | case3 => cases found
  | case4 => cases found

end Follow

namespace Link

open Proto

/-- What a path through a file may lead to. -/
inductive Element where
  | file (proto : FileProto)
  | message (proto : MessageProto)
  | field (proto : FieldProto)
  | enum (proto : EnumProto)
  | enumValue (proto : EnumValueProto)
  | service (proto : ServiceProto)
  | method (proto : MethodProto)

namespace Element

/-- What an element holds under the number of a field. -/
def held : Element → Int → List Element
  | file proto, 4 => proto.messages.map message
  | file proto, 5 => proto.enums.map enum
  | file proto, 6 => proto.services.map service
  | message proto, 2 => proto.fields.map field
  | message proto, 3 => proto.nested.map message
  | message proto, 4 => proto.enums.map enum
  | enum proto, 2 => proto.values.map enumValue
  | service proto, 2 => proto.methods.map method
  | _, _ => []

/-- All that one step of a path can do. -/
inductive Holds : Element → Int → Nat → Element → Prop
  | fileMessage {proto : FileProto} {position : Nat} {inner : MessageProto}
      (found : proto.messages[position]? = some inner) : Holds (file proto) 4 position (message inner)
  | fileEnum {proto : FileProto} {position : Nat} {inner : EnumProto}
      (found : proto.enums[position]? = some inner) : Holds (file proto) 5 position (enum inner)
  | fileService {proto : FileProto} {position : Nat} {inner : ServiceProto}
      (found : proto.services[position]? = some inner) : Holds (file proto) 6 position (service inner)
  | messageField {proto : MessageProto} {position : Nat} {inner : FieldProto}
      (found : proto.fields[position]? = some inner) : Holds (message proto) 2 position (field inner)
  | messageNested {proto : MessageProto} {position : Nat} {inner : MessageProto}
      (found : proto.nested[position]? = some inner) : Holds (message proto) 3 position (message inner)
  | messageEnum {proto : MessageProto} {position : Nat} {inner : EnumProto}
      (found : proto.enums[position]? = some inner) : Holds (message proto) 4 position (enum inner)
  | enumValue {proto : EnumProto} {position : Nat} {inner : EnumValueProto}
      (found : proto.values[position]? = some inner) : Holds (enum proto) 2 position (enumValue inner)
  | serviceMethod {proto : ServiceProto} {position : Nat} {inner : MethodProto}
      (found : proto.methods[position]? = some inner) : Holds (service proto) 2 position (method inner)

theorem holds_iff {element inner : Element} {number : Int} {position : Nat} :
    (element.held number)[position]? = some inner ↔ Holds element number position inner := by
  constructor
  · intro stands
    unfold held at stands
    split at stands
    case h_9 => simp at stands
    all_goals
      rw [List.getElem?_map] at stands
      obtain ⟨proto, found, rfl⟩ := Option.map_eq_some_iff.mp stands
      constructor
      exact found
  · intro holds
    cases holds with
    | fileMessage found | fileEnum found | fileService found | messageField found | messageNested found
    | messageEnum found | enumValue found | serviceMethod found => simp [held, found]

/-- Elements that hold no others. -/
def isPart : Element → Bool
  | field _ | enumValue _ | method _ => true
  | file _ | message _ | enum _ | service _ => false

theorem Holds.isPart_eq {element part : Element} {position : Nat} (holds : Holds element 2 position part) :
    part.isPart = true := by
  cases holds <;> rfl

theorem Holds.isPart_false {part inner : Element} {number : Int} {position : Nat}
    (holds : Holds part number position inner) : part.isPart = false := by
  cases holds <;> rfl

end Element

/-- The element that a path leads to. -/
def elementAt (file : FileProto) (path : List Int) : Option Element :=
  follow Element.held path (.file file)

/-- An element at its path. -/
structure Site where
  path : List Int
  element : Element

def messageSite (message : Declared MessageProto) : Site :=
  ⟨message.path, .message message.proto⟩

def enumSite (enum : Declared EnumProto) : Site :=
  ⟨enum.path, .enum enum.proto⟩

def serviceSite (entry : ServiceProto × Nat) : Site :=
  ⟨[6, (entry.2 : Int)], .service entry.1⟩

/-- The elements that hold others, where linking finds them. -/
def holders (file : FileProto) : List Site :=
  (messagesOf file).map messageSite ++
    ((enumsOf file).map enumSite ++ file.services.zipIdx.map serviceSite)

/-- The fields of a message, the values of an enum or the methods of a service. -/
def Site.parts (site : Site) : List Site :=
  (site.element.held 2).zipIdx.map fun entry => ⟨site.path ++ [2, (entry.2 : Int)], entry.1⟩

/-- All elements of a file, where linking finds them. -/
def sites (file : FileProto) : List Site :=
  (holders file).flatMap fun holder => holder :: holder.parts

/-- A message, enum or service and the path that leads to it. -/
inductive HolderAt (file : FileProto) : Site → Prop
  | message {path : List Int} {names : List String} {proto : MessageProto}
      (located : MessageAt file path names proto) : HolderAt file ⟨path, .message proto⟩
  | enum {path : List Int} {names : List String} {proto : EnumProto}
      (located : EnumAt file path names proto) : HolderAt file ⟨path, .enum proto⟩
  | service {position : Nat} {proto : ServiceProto} (found : file.services[position]? = some proto) :
      HolderAt file ⟨[6, position], .service proto⟩

section Sites

variable {file : FileProto}

theorem mem_holders {site : Site} : site ∈ holders file ↔ HolderAt file site := by
  rw [holders, List.mem_append, List.mem_append]
  constructor
  · rintro (listed | listed | listed)
    · obtain ⟨declared, member, rfl⟩ := List.mem_map.mp listed
      obtain ⟨names, located, _⟩ := messageAt_iff.mp member
      exact .message located
    · obtain ⟨declared, member, rfl⟩ := List.mem_map.mp listed
      obtain ⟨names, located, _⟩ := enumAt_iff.mp member
      exact .enum located
    · obtain ⟨entry, member, rfl⟩ := List.mem_map.mp listed
      exact .service (List.mk_mem_zipIdx_iff_getElem?.mp member)
  · intro holder
    cases holder with
    | message located =>
      exact .inl (List.mem_map.mpr ⟨_, messageAt_iff.mpr ⟨_, located, rfl⟩, rfl⟩)
    | enum located =>
      exact .inr (.inl (List.mem_map.mpr ⟨_, enumAt_iff.mpr ⟨_, located, rfl⟩, rfl⟩))
    | service found =>
      exact .inr (.inr (List.mem_map.mpr ⟨_, List.mk_mem_zipIdx_iff_getElem?.mpr found, rfl⟩))

theorem elementAt_concat {path : List Int} {outer inner : Element}
    (found : elementAt file path = some outer) {number : Int} {position : Nat}
    (holds : outer.Holds number position inner) :
    elementAt file (path ++ [number, (position : Int)]) = some inner :=
  follow_concat found (Element.holds_iff.mpr holds)

theorem elementAt_top {number : Int} {position : Nat} {inner : Element}
    (holds : (Element.file file).Holds number position inner) :
    elementAt file [number, (position : Int)] = some inner :=
  follow_cons.mpr ⟨position, inner, rfl, Element.holds_iff.mpr holds, rfl⟩

theorem elementAt_message {path : List Int} {names : List String} {proto : MessageProto}
    (located : MessageAt file path names proto) : elementAt file path = some (.message proto) := by
  induction located with
  | top found => exact elementAt_top (.fileMessage found)
  | nested around found ih => exact elementAt_concat ih (.messageNested found)

theorem elementAt_enum {path : List Int} {names : List String} {proto : EnumProto}
    (located : EnumAt file path names proto) : elementAt file path = some (.enum proto) := by
  cases located with
  | top found => exact elementAt_top (.fileEnum found)
  | nested around found => exact elementAt_concat (elementAt_message around) (.messageEnum found)

namespace HolderAt

variable {site : Site} (holder : HolderAt file site)

include holder

theorem leads : elementAt file site.path = some site.element := by
  cases holder with
  | message located => exact elementAt_message located
  | enum located => exact elementAt_enum located
  | service found => exact elementAt_top (.fileService found)

theorem isPart_false : site.element.isPart = false := by
  cases holder <;> rfl

theorem path_ne_nil : site.path ≠ [] := by
  cases holder with
  | message located => cases located <;> simp
  | enum located => cases located <;> simp
  | service found => simp

/-- What a holder holds is a part of it or a holder, too. -/
theorem step {number : Int} {position : Nat} {inner : Element}
    (holds : site.element.Holds number position inner) :
    number = 2 ∨ HolderAt file ⟨site.path ++ [number, (position : Int)], inner⟩ := by
  cases holder with
  | message located =>
    cases holds with
    | messageField found => exact .inl rfl
    | messageNested found => exact .inr (.message (located.nested found))
    | messageEnum found => exact .inr (.enum (.nested located found))
  | enum located =>
    cases holds with
    | enumValue found => exact .inl rfl
  | service placed =>
    cases holds with
    | serviceMethod found => exact .inl rfl

end HolderAt

/-- What a file holds are holders. -/
theorem holderAt_top {number : Int} {position : Nat} {inner : Element}
    (holds : (Element.file file).Holds number position inner) :
    HolderAt file ⟨[number, (position : Int)], inner⟩ := by
  cases holds with
  | fileMessage found => exact .message (.top found)
  | fileEnum found => exact .enum (.top found)
  | fileService found => exact .service found

theorem mem_parts {holder site : Site} :
    site ∈ holder.parts ↔ ∃ (position : Nat) (part : Element),
      holder.element.Holds 2 position part ∧ site = ⟨holder.path ++ [2, (position : Int)], part⟩ := by
  rw [Site.parts, List.mem_map, Prod.exists, exists_comm]
  simp only [List.mk_mem_zipIdx_iff_getElem?, Element.holds_iff, eq_comm (b := site)]

/-- Every element that linking finds stands where its path leads. -/
theorem leads_of_mem_sites {site : Site} (member : site ∈ sites file) :
    elementAt file site.path = some site.element := by
  obtain ⟨holder, listed, here⟩ := List.mem_flatMap.mp member
  have leads := (mem_holders.mp listed).leads
  rcases List.mem_cons.mp here with rfl | part
  · exact leads
  · obtain ⟨position, part, holds, rfl⟩ := mem_parts.mp part
    exact elementAt_concat leads holds

/-- Nothing is found beyond a part. -/
theorem follow_part {part element : Element} {rest : List Int} (leaf : part.isPart = true)
    (found : follow Element.held rest part = some element) : rest = [] ∧ element = part := by
  match rest with
  | [] => exact ⟨rfl, (Option.some.inj found).symm⟩
  | [_] => cases found
  | number :: position :: rest =>
    obtain ⟨place, next, _, stands, _⟩ := follow_cons.mp found
    have holder := (Element.holds_iff.mp stands).isPart_false
    rw [leaf] at holder
    cases holder

/-- Paths that go on from a holder lead to elements that linking finds. -/
theorem mem_sites_of_follow {rest : List Int} {element : Element} :
    ∀ {holder : Site}, HolderAt file holder → follow Element.held rest holder.element = some element →
      ⟨holder.path ++ rest, element⟩ ∈ sites file := by
  match rest with
  | [] =>
    intro holder located found
    cases found
    refine List.mem_flatMap.mpr ⟨holder, mem_holders.mpr located, List.mem_cons.mpr (.inl ?_)⟩
    simp
  | [_] =>
    intro holder _ found
    cases found
  | number :: position :: rest =>
    intro holder located found
    obtain ⟨place, next, rfl, stands, later⟩ := follow_cons.mp found
    have holds := Element.holds_iff.mp stands
    rcases located.step holds with rfl | inner
    · obtain ⟨rfl, rfl⟩ := follow_part holds.isPart_eq later
      refine List.mem_flatMap.mpr ⟨holder, mem_holders.mpr located, List.mem_cons_of_mem _ ?_⟩
      exact mem_parts.mpr ⟨place, _, holds, rfl⟩
    · have further := mem_sites_of_follow inner later
      simpa using further

/-- Linking finds the elements of a file that a path leads to, and no others. -/
theorem mem_sites {path : List Int} {element : Element} :
    ⟨path, element⟩ ∈ sites file ↔ path ≠ [] ∧ elementAt file path = some element := by
  constructor
  · intro member
    refine ⟨?_, leads_of_mem_sites member⟩
    obtain ⟨holder, listed, here⟩ := List.mem_flatMap.mp member
    rcases List.mem_cons.mp here with rfl | part
    · exact (mem_holders.mp listed).path_ne_nil
    · obtain ⟨position, part, _, same⟩ := mem_parts.mp part
      cases same
      simp
  · rintro ⟨nonempty, found⟩
    match path with
    | [] => exact absurd rfl nonempty
    | [_] => cases found
    | number :: position :: rest =>
      obtain ⟨place, next, rfl, stands, later⟩ := follow_cons.mp found
      exact mem_sites_of_follow (holderAt_top (Element.holds_iff.mp stands)) later

theorem nodup_paths_holders (file : FileProto) : ((holders file).map (·.path)).Nodup := by
  have apart {first second : Site} (one : first ∈ holders file) (two : second ∈ holders file)
      (differ : first.element ≠ second.element) : first.path ≠ second.path := by
    intro same
    have leads := (mem_holders.mp one).leads
    rw [same, (mem_holders.mp two).leads] at leads
    exact differ (Option.some.inj leads).symm
  have messages := List.pairwise_map.mp (nodup_paths_messagesOf file)
  have enums := List.pairwise_map.mp (nodup_paths_enumsOf file)
  have services := List.pairwise_map.mp (nodup_positions file.services [6])
  refine List.pairwise_map.mpr (List.pairwise_append.mpr ⟨List.pairwise_map.mpr messages,
    List.pairwise_append.mpr ⟨List.pairwise_map.mpr enums, List.pairwise_map.mpr services, ?_⟩, ?_⟩)
  · intro first one second two
    refine apart (List.mem_append_right _ (List.mem_append_left _ one))
      (List.mem_append_right _ (List.mem_append_right _ two)) ?_
    obtain ⟨_, _, rfl⟩ := List.mem_map.mp one
    obtain ⟨_, _, rfl⟩ := List.mem_map.mp two
    exact Element.noConfusion
  · intro first one second two
    refine apart (List.mem_append_left _ one) (List.mem_append_right _ two) ?_
    obtain ⟨_, _, rfl⟩ := List.mem_map.mp one
    rcases List.mem_append.mp two with listed | listed
    · obtain ⟨_, _, rfl⟩ := List.mem_map.mp listed
      exact Element.noConfusion
    · obtain ⟨_, _, rfl⟩ := List.mem_map.mp listed
      exact Element.noConfusion

/-- A part stands at no path of a holder. -/
theorem HolderAt.path_ne {holder other : Site} (located : HolderAt file holder) (around : HolderAt file other)
    {position : Nat} {part : Element} (holds : other.element.Holds 2 position part) :
    holder.path ≠ other.path ++ [2, (position : Int)] := by
  intro same
  have leads := located.leads
  rw [same, elementAt_concat around.leads holds] at leads
  have leaf := holds.isPart_eq
  rw [Option.some.inj leads, located.isPart_false] at leaf
  cases leaf

/-- Different elements stand at different paths. -/
theorem nodup_paths_sites (file : FileProto) : ((sites file).map (·.path)).Nodup := by
  rw [sites, List.map_flatMap, List.nodup_flatMap]
  constructor
  · intro holder _
    rw [List.map_cons, List.nodup_cons]
    constructor
    · intro member
      obtain ⟨site, listed, same⟩ := List.mem_map.mp member
      obtain ⟨position, part, _, rfl⟩ := mem_parts.mp listed
      simp at same
    · have positions := nodup_positions (holder.element.held 2) (holder.path ++ [2])
      simpa [Site.parts, Function.comp_def] using positions
  · refine (List.pairwise_map.mp (nodup_paths_holders file)).imp_of_mem ?_
    intro first second first_mem second_mem differ path in_first in_second
    have one := mem_holders.mp first_mem
    have two := mem_holders.mp second_mem
    obtain ⟨site, listed, rfl⟩ := List.mem_map.mp in_first
    obtain ⟨other, its_listed, same⟩ := List.mem_map.mp in_second
    rcases List.mem_cons.mp listed with rfl | part
    · rcases List.mem_cons.mp its_listed with rfl | its_part
      · exact differ same.symm
      · obtain ⟨position, inner, holds, rfl⟩ := mem_parts.mp its_part
        exact one.path_ne two holds same.symm
    · obtain ⟨position, inner, holds, rfl⟩ := mem_parts.mp part
      rcases List.mem_cons.mp its_listed with rfl | its_part
      · exact two.path_ne one holds same
      · obtain ⟨place, _, _, rfl⟩ := mem_parts.mp its_part
        exact differ (List.append_inj' same rfl).1.symm

end Sites

end Link

end Subgraph
