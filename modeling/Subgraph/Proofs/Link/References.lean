import Subgraph.Proofs.Link.Declarations
import Subgraph.Proofs.Registry

namespace Subgraph.Link

open Proto Descriptor

section Index

variable {names : List String} {key : String}

theorem nodup_keys (distinct : names.Nodup) : (names.map ("." ++ ·)).Nodup :=
  distinct.map fun _ _ => (String.append_right_inj ".").mp

theorem indexOf_eq (distinct : names.Nodup) :
    indexOf names = names.zipIdx.map fun entry => ("." ++ entry.1, entry.2) := by
  have fresh : (Registry.names (names.zipIdx.map fun entry => ("." ++ entry.1, entry.2))).Nodup := by
    have keys := nodup_keys distinct
    rw [← List.zipIdx_map_fst 0 names, List.map_map] at keys
    rwa [Registry.names, List.map_map]
  have filled := Registry.update_eq_append [] fresh
  rw [Registry.update, List.foldl_map] at filled
  exact filled

theorem names_indexOf (distinct : names.Nodup) : (indexOf names).names = names.map ("." ++ ·) := by
  rw [indexOf_eq distinct, Registry.names, List.map_map]
  conv_rhs => rw [← List.zipIdx_map_fst 0 names, List.map_map]
  rfl

theorem get?_indexOf (distinct : names.Nodup) {place : Nat} :
    (indexOf names).get? key = some place ↔ (names[place]?).map ("." ++ ·) = some key := by
  have once : (indexOf names).names.Nodup := names_indexOf distinct ▸ nodup_keys distinct
  rw [Registry.get?_eq_some once, indexOf_eq distinct, List.mem_map, Option.map_eq_some_iff]
  constructor
  · rintro ⟨⟨name, position⟩, member, same⟩
    cases same
    exact ⟨name, List.mk_mem_zipIdx_iff_getElem?.mp member, rfl⟩
  · rintro ⟨name, found, rfl⟩
    exact ⟨(name, place), List.mk_mem_zipIdx_iff_getElem?.mpr found, rfl⟩

end Index

section Located

variable {α β : Type} {At : FileProto → List Int → List String → α → Prop}
  {declared : FileProto → List (Declared α)} {files : List FileProto}

/-- The file at a position has a declaration with this full name, at this path. -/
def DeclaredAs (At : FileProto → List Int → List String → α → Prop) (files : List FileProto)
    (position : Nat) (path : List Int) (fullName : String) : Prop :=
  ∃ file names proto, files[position]? = some file ∧ At file path names proto ∧
    fullName = dotted file.package names

/-- Declarations at different places, of one file or of two, have different full names. -/
def DistinctNames (At : FileProto → List Int → List String → α → Prop) (files : List FileProto) : Prop :=
  ∀ {fullName position path place other}, DeclaredAs At files position path fullName →
    DeclaredAs At files place other fullName → position = place ∧ path = other

/-- Some file declares what the key, a full name after a dot, stands for. -/
def Declares (At : FileProto → List Int → List String → α → Prop) (files : List FileProto)
    (key : String) : Prop :=
  ∃ position path fullName, DeclaredAs At files position path fullName ∧ key = "." ++ fullName

/-- All declarations of some files, each with its file. -/
def located (declared : FileProto → List (Declared α)) (files : List FileProto) :
    List (FileProto × Declared α) :=
  files.flatMap fun file => (declared file).map (Prod.mk file)

theorem mem_located {declared : FileProto → List (Declared α)} {entry : FileProto × Declared α} :
    entry ∈ located declared files ↔ entry.1 ∈ files ∧ entry.2 ∈ declared entry.1 := by
  obtain ⟨file, element⟩ := entry
  simp [located]

theorem map_located (declared : FileProto → List (Declared α)) (files : List FileProto)
    (image : FileProto → Declared α → β) :
    (located declared files).map (fun entry => image entry.1 entry.2) =
      files.flatMap fun file => (declared file).map (image file) := by
  simp only [located, List.map_flatMap, List.map_map]
  rfl

theorem fullNames_located (declared : FileProto → List (Declared α)) (files : List FileProto) :
    (located declared files).map (·.2.fullName) = (files.flatMap declared).map (·.fullName) := by
  rw [map_located declared files fun _ => Declared.fullName, List.map_flatMap]

theorem declaredAs_iff (lists : Lists At declared) {position : Nat} {path : List Int} {fullName : String} :
    DeclaredAs At files position path fullName ↔
      ∃ file proto, files[position]? = some file ∧ ⟨path, fullName, proto⟩ ∈ declared file := by
  constructor
  · rintro ⟨file, names, proto, found, declares, rfl⟩
    exact ⟨file, proto, found, lists.mem_iff.mpr ⟨names, declares, rfl⟩⟩
  · rintro ⟨file, proto, found, listed⟩
    obtain ⟨names, declares, named⟩ := lists.mem_iff.mp listed
    exact ⟨file, names, proto, found, declares, named⟩

theorem nodup_of_distinctNames (lists : Lists At declared) (distinct : DistinctNames At files) :
    ((files.flatMap declared).map (·.fullName)).Nodup := by
  rw [List.map_flatMap, List.nodup_flatMap]
  constructor
  · intro file member
    obtain ⟨position, found⟩ := List.mem_iff_getElem?.mp member
    refine List.pairwise_map.mpr ((List.pairwise_map.mp (lists.once file)).imp_of_mem ?_)
    intro first second first_mem second_mem differ same
    have first_as := (declaredAs_iff lists).mpr ⟨file, first.proto, found, first_mem⟩
    have second_as := (declaredAs_iff lists).mpr ⟨file, second.proto, found, second_mem⟩
    exact differ (distinct first_as (same ▸ second_as)).2
  · rw [List.pairwise_iff_getElem]
    intro position place position_lt place_lt less name in_first in_second
    obtain ⟨first, first_mem, rfl⟩ := List.mem_map.mp in_first
    obtain ⟨second, second_mem, same⟩ := List.mem_map.mp in_second
    have first_as := (declaredAs_iff lists).mpr
      ⟨_, first.proto, List.getElem?_eq_getElem position_lt, first_mem⟩
    have second_as := (declaredAs_iff lists).mpr
      ⟨_, second.proto, List.getElem?_eq_getElem place_lt, second_mem⟩
    exact Nat.ne_of_lt less (distinct first_as (same ▸ second_as)).1

theorem distinctNames_of_nodup (lists : Lists At declared)
    (distinct : ((files.flatMap declared).map (·.fullName)).Nodup) : DistinctNames At files := by
  rw [List.map_flatMap, List.nodup_flatMap, List.pairwise_iff_getElem] at distinct
  obtain ⟨each, apart⟩ := distinct
  intro fullName position path place other first second
  obtain ⟨file, proto, found, listed⟩ := (declaredAs_iff lists).mp first
  obtain ⟨another, its_proto, its_place, its_listed⟩ := (declaredAs_iff lists).mp second
  have named := List.mem_map_of_mem (f := (·.fullName)) listed
  have its_named := List.mem_map_of_mem (f := (·.fullName)) its_listed
  obtain ⟨position_lt, rfl⟩ := List.getElem?_eq_some_iff.mp found
  obtain ⟨place_lt, rfl⟩ := List.getElem?_eq_some_iff.mp its_place
  rcases Nat.lt_trichotomy position place with less | rfl | more
  · exact (apart position place position_lt place_lt less named its_named).elim
  · have same := List.inj_on_of_nodup_map (each _ (List.getElem_mem position_lt)) listed its_listed rfl
    exact ⟨rfl, congrArg Declared.path same⟩
  · exact (apart place position place_lt position_lt more its_named named).elim

/-- Full names are distinct if they are so in the list of them, which can be computed. -/
theorem distinctNames_iff (lists : Lists At declared) :
    DistinctNames At files ↔ ((files.flatMap declared).map (·.fullName)).Nodup :=
  ⟨fun distinct => nodup_of_distinctNames lists distinct, distinctNames_of_nodup lists⟩

theorem declares_iff (lists : Lists At declared) {key : String} :
    Declares At files key ↔ ∃ entry ∈ located declared files, key = "." ++ entry.2.fullName := by
  constructor
  · rintro ⟨position, path, fullName, declares, rfl⟩
    obtain ⟨file, proto, found, listed⟩ := (declaredAs_iff lists).mp declares
    exact ⟨(file, ⟨path, fullName, proto⟩), mem_located.mpr ⟨List.mem_of_getElem? found, listed⟩, rfl⟩
  · rintro ⟨⟨file, element⟩, member, rfl⟩
    obtain ⟨inside, listed⟩ := mem_located.mp member
    obtain ⟨position, found⟩ := List.mem_iff_getElem?.mp inside
    exact ⟨position, element.path, element.fullName,
      (declaredAs_iff lists).mpr ⟨file, element.proto, found, listed⟩, rfl⟩

/-- A reference leads to the entry that has its key, if some file declares one, and nowhere if none
does. -/
structure LinkedTo (At : FileProto → List Int → List String → α → Prop) (files : List FileProto)
    (fullNames : List String) (key : String) (reference : Option Nat) : Prop where
  found : Declares At files key → ∃ place, reference = some place ∧
    (fullNames[place]?).map ("." ++ ·) = some key
  missing : ¬Declares At files key → reference = none

/-- The index has one entry for each declaration, which leads to where its full name stands. -/
structure Entered (At : FileProto → List Int → List String → α → Prop) (files : List FileProto)
    (fullNames : List String) (index : Index) : Prop where
  once : index.names.Nodup
  key_iff : ∀ key, key ∈ index.names ↔ Declares At files key
  entry_iff : ∀ key place, index.get? key = some place ↔ (fullNames[place]?).map ("." ++ ·) = some key

variable {fullNames : List String} {key : String}

theorem entered_indexOf (lists : Lists At declared) (distinct : DistinctNames At files)
    (named : fullNames = (files.flatMap declared).map (·.fullName)) :
    Entered At files fullNames (indexOf fullNames) := by
  have apart : fullNames.Nodup := named ▸ (distinctNames_iff lists).mp distinct
  refine ⟨names_indexOf apart ▸ nodup_keys apart, fun key => ?_, fun key place => get?_indexOf apart⟩
  rw [names_indexOf apart, declares_iff lists, named, ← fullNames_located]
  simp [eq_comm]

theorem Entered.linkedTo {index : Index} (entered : Entered At files fullNames index) (key : String) :
    LinkedTo At files fullNames key (index.get? key) := by
  constructor
  · intro declares
    have known : index.get? key ≠ none := fun absent =>
      Registry.get?_eq_none.mp absent ((entered.key_iff key).mpr declares)
    obtain ⟨place, found⟩ := Option.ne_none_iff_exists'.mp known
    exact ⟨place, found, (entered.entry_iff key place).mp found⟩
  · intro undeclared
    exact Registry.get?_eq_none.mpr fun known => undeclared ((entered.key_iff key).mp known)

/-- What an index leads to, found in the list of what has been declared. -/
theorem bind_get?_indexOf (lists : Lists At declared) (distinct : DistinctNames At files)
    (image : FileProto → Declared α → β) {entry : β} :
    ((indexOf ((files.flatMap declared).map (·.fullName))).get? key).bind
        ((files.flatMap fun file => (declared file).map (image file))[·]?) = some entry ↔
      ∃ site ∈ located declared files, "." ++ site.2.fullName = key ∧ image site.1 site.2 = entry := by
  rw [← map_located, ← fullNames_located, Option.bind_eq_some_iff]
  have apart : ((located declared files).map (·.2.fullName)).Nodup := by
    rw [fullNames_located]
    exact (distinctNames_iff lists).mp distinct
  constructor
  · rintro ⟨place, leads, found⟩
    rw [List.getElem?_map] at found
    obtain ⟨site, stands, same⟩ := Option.map_eq_some_iff.mp found
    rw [get?_indexOf apart, List.getElem?_map, stands] at leads
    exact ⟨site, List.mem_of_getElem? stands, by simpa using leads, same⟩
  · rintro ⟨site, member, rfl, rfl⟩
    obtain ⟨place, stands⟩ := List.mem_iff_getElem?.mp member
    refine ⟨place, (get?_indexOf apart).mpr ?_, ?_⟩
    · rw [List.getElem?_map, stands]
      rfl
    · rw [List.getElem?_map, stands]
      rfl

end Located

/-- What the references of a field lead to, by its kind. -/
def FieldReferences (files : List FileProto) (pool : Pool) (proto : FieldProto) (field : Field) : Prop :=
  match proto.kind with
  | .message | .group =>
    LinkedTo MessageAt files (pool.messages.map (·.fullName)) proto.typeName field.message ∧
      field.enum = none
  | .enum =>
    field.message = none ∧ LinkedTo EnumAt files (pool.enums.map (·.fullName)) proto.typeName field.enum
  | _ => field.message = none ∧ field.enum = none

structure FieldLinked (files : List FileProto) (pool : Pool) (proto : FieldProto) (field : Field) :
    Prop where
  name : field.name = proto.name
  number : field.number = proto.number
  kind : field.kind = proto.kind
  references : FieldReferences files pool proto field

/-- The fields of a message stand in their order, none of them missing. -/
structure MessageLinked (files : List FileProto) (pool : Pool) (proto : MessageProto) (message : Message) :
    Prop where
  name : message.name = proto.name
  fields : ∃ fields, message.fields = fields.map some ∧
    List.Forall₂ (FieldLinked files pool) proto.fields fields

structure EnumLinked (proto : EnumProto) (enum : Enum) : Prop where
  name : enum.name = proto.name
  values : List.Forall₂ (fun declared value => value.name = declared.name ∧ value.number = declared.number)
    proto.values enum.values

structure MethodLinked (files : List FileProto) (pool : Pool) (proto : MethodProto) (method : Method) :
    Prop where
  name : method.name = proto.name
  input : LinkedTo MessageAt files (pool.messages.map (·.fullName)) proto.input method.input
  output : LinkedTo MessageAt files (pool.messages.map (·.fullName)) proto.output method.output

structure ServiceLinked (files : List FileProto) (pool : Pool) (declared : FileProto × ServiceProto)
    (service : Service) : Prop where
  name : service.name = declared.2.name
  fullName : service.fullName = dotted declared.1.package [declared.2.name]
  methods : ∃ methods, service.methods = methods.map some ∧
    List.Forall₂ (MethodLinked files pool) declared.2.methods methods

/-- The services of the files selected. -/
def wantedServices (files : List FileProto) (selection : Option (List String)) :
    List (FileProto × ServiceProto) :=
  (files.filter fun file => selection.all (·.contains file.name)).flatMap fun file =>
    file.services.map (Prod.mk file)

/-- The message that a key leads to. -/
def Linked.message? (linked : Linked) (key : String) : Option Message :=
  linked.pool.message? (linked.index.messages.get? key)

def Linked.enum? (linked : Linked) (key : String) : Option Enum :=
  linked.pool.enum? (linked.index.enums.get? key)

/-- All that files declare is linked, and so are the services selected. -/
structure Linked.Resolves (linked : Linked) (files : List FileProto) (selection : Option (List String)) :
    Prop where
  messages : Entered MessageAt files (linked.pool.messages.map (·.fullName)) linked.index.messages
  enums : Entered EnumAt files (linked.pool.enums.map (·.fullName)) linked.index.enums
  message : ∀ {file path names proto}, file ∈ files → MessageAt file path names proto →
    ∃ message, linked.message? ("." ++ dotted file.package names) = some message ∧
      message.fullName = dotted file.package names ∧ MessageLinked files linked.pool proto message
  enum : ∀ {file path names proto}, file ∈ files → EnumAt file path names proto →
    ∃ enum, linked.enum? ("." ++ dotted file.package names) = some enum ∧
      enum.fullName = dotted file.package names ∧ EnumLinked proto enum
  services : List.Forall₂ (ServiceLinked files linked.pool) (wantedServices files selection) linked.services

section Link

variable {files : List FileProto} {selection : Option (List String)}

theorem forall₂_zipIdx {α β : Type} {relation : α → β → Prop} {items : List α} {image : α × Nat → β}
    (related : ∀ item position, relation item (image (item, position))) :
    List.Forall₂ relation items (items.zipIdx.map image) := by
  conv => arg 2; rw [← List.zipIdx_map_fst 0 items]
  rw [List.forall₂_map_left_iff, List.forall₂_map_right_iff, List.forall₂_same]
  exact fun entry _ => related entry.1 entry.2

theorem forall₂_flatMap {α β γ : Type} {relation : β → γ → Prop} {items : List α} {first : α → List β}
    {second : α → List γ} (related : ∀ item ∈ items, List.Forall₂ relation (first item) (second item)) :
    List.Forall₂ relation (items.flatMap first) (items.flatMap second) := by
  induction items with
  | nil => exact .nil
  | cons item rest ih =>
    obtain ⟨head, tail⟩ := List.forall_mem_cons.mp related
    exact List.rel_append head (ih tail)

theorem fullNames_messages (files : List FileProto) :
    (poolOf files).messages.map (·.fullName) = (files.flatMap messagesOf).map (·.fullName) := by
  simp only [poolOf, List.map_flatMap, List.map_map]
  rfl

theorem fullNames_enums (files : List FileProto) :
    (poolOf files).enums.map (·.fullName) = (files.flatMap enumsOf).map (·.fullName) := by
  simp only [poolOf, List.map_flatMap, List.map_map]
  rfl

theorem entered_messages (distinct : DistinctNames MessageAt files) :
    Entered MessageAt files ((poolOf files).messages.map (·.fullName)) (indexes files).messages := by
  have entered := entered_indexOf lists_messages distinct (fullNames_messages files)
  rwa [fullNames_messages] at entered ⊢

theorem entered_enums (distinct : DistinctNames EnumAt files) :
    Entered EnumAt files ((poolOf files).enums.map (·.fullName)) (indexes files).enums := by
  have entered := entered_indexOf lists_enums distinct (fullNames_enums files)
  rwa [fullNames_enums] at entered ⊢

theorem fieldLinked (messages : DistinctNames MessageAt files) (enums : DistinctNames EnumAt files)
    (file : FileProto) (path : List Int) (field : FieldProto) :
    FieldLinked files (poolOf files) field (linkField (indexes files) file path field) := by
  refine ⟨rfl, rfl, rfl, ?_⟩
  have message := (entered_messages messages).linkedTo field.typeName
  have enum := (entered_enums enums).linkedTo field.typeName
  unfold FieldReferences linkField
  cases field.kind <;> simp [Kind.isComposite, message, enum]

theorem messageLinked (messages : DistinctNames MessageAt files) (enums : DistinctNames EnumAt files)
    (file : FileProto) (message : Declared MessageProto) :
    MessageLinked files (poolOf files) message.proto (linkMessage (indexes files) file message) := by
  refine ⟨rfl, message.proto.fields.zipIdx.map fun entry =>
    linkField (indexes files) file (fieldPath message.path entry.2) entry.1, ?_, ?_⟩
  · rw [List.map_map]
    rfl
  · exact forall₂_zipIdx fun field position => fieldLinked messages enums file _ field

theorem enumLinked (file : FileProto) (enum : Declared EnumProto) :
    EnumLinked enum.proto (linkEnum file enum) :=
  ⟨rfl, forall₂_zipIdx fun _ _ => ⟨rfl, rfl⟩⟩

theorem serviceLinked (distinct : DistinctNames MessageAt files) (file : FileProto) (position : Nat)
    (service : ServiceProto) :
    ServiceLinked files (poolOf files) (file, service) (linkService (indexes files) file position service) := by
  refine ⟨rfl, (dotted_singleton ..).symm, service.methods.zipIdx.map fun entry =>
    linkMethod (indexes files) file [6, (position : Int), 2, (entry.2 : Int)] entry.1, ?_, ?_⟩
  · rw [List.map_map]
    rfl
  · refine forall₂_zipIdx fun method place => ⟨rfl, ?_, ?_⟩
    · exact (entered_messages distinct).linkedTo method.input
    · exact (entered_messages distinct).linkedTo method.output

theorem missing?_eq_none {names : List String} :
    missing? files names = none ↔ ∀ name ∈ names, ∃ file ∈ files, file.name = name := by
  simp [missing?]

/-- The files linked, where none of those selected is missing. -/
def linkedFiles (files : List FileProto) (selection : Option (List String)) : Linked where
  pool := poolOf files
  index := indexes files
  services := (files.filter fun file => selection.all (·.contains file.name)).flatMap
    (servicesOf (indexes files))
  selected := selection.getD (files.map (·.name))

theorem link_value (present : ∀ name ∈ selection.getD [], ∃ file ∈ files, file.name = name) :
    (link files selection).value = .ok (linkedFiles files selection) := by
  have chosen : files.filter (fun file => (selection.getD (files.map (·.name))).contains file.name) =
      files.filter fun file => selection.all (·.contains file.name) := by
    refine List.filter_congr fun file member => ?_
    cases selection with
    | none => simpa using ⟨file, member, rfl⟩
    | some wanted => rfl
  simp only [link, missing?_eq_none.mpr present, chosen]
  rfl

theorem message?_linkedFiles (distinct : DistinctNames MessageAt files) {key : String} {message : Message} :
    (linkedFiles files selection).message? key = some message ↔
      ∃ site ∈ located messagesOf files, "." ++ site.2.fullName = key ∧
        linkMessage (indexes files) site.1 site.2 = message :=
  bind_get?_indexOf lists_messages distinct _

theorem enum?_linkedFiles (distinct : DistinctNames EnumAt files) {key : String} {enum : Enum} :
    (linkedFiles files selection).enum? key = some enum ↔
      ∃ site ∈ located enumsOf files, "." ++ site.2.fullName = key ∧ linkEnum site.1 site.2 = enum :=
  bind_get?_indexOf lists_enums distinct _

theorem resolves_linkedFiles (messages : DistinctNames MessageAt files) (enums : DistinctNames EnumAt files) :
    (linkedFiles files selection).Resolves files selection where
  messages := entered_messages messages
  enums := entered_enums enums
  message {file path names proto} member declares := by
    have listed := lists_messages.mem_iff.mpr ⟨names, declares, rfl⟩
    refine ⟨_, (message?_linkedFiles messages).mpr
      ⟨(file, ⟨path, _, proto⟩), mem_located.mpr ⟨member, listed⟩, rfl, rfl⟩, rfl, ?_⟩
    exact messageLinked messages enums file ⟨path, _, proto⟩
  enum {file path names proto} member declares := by
    have listed := lists_enums.mem_iff.mpr ⟨names, declares, rfl⟩
    refine ⟨_, (enum?_linkedFiles enums).mpr
      ⟨(file, ⟨path, _, proto⟩), mem_located.mpr ⟨member, listed⟩, rfl, rfl⟩, rfl, ?_⟩
    exact enumLinked file ⟨path, _, proto⟩
  services := by
    refine forall₂_flatMap fun file _ => ?_
    rw [List.forall₂_map_left_iff]
    exact forall₂_zipIdx fun service position => serviceLinked messages file position service

end Link

end Subgraph.Link
