import Subgraph.Proofs.Link.Paths
import Subgraph.Proofs.Link.References

namespace Subgraph.Link

open Proto Descriptor

section Given

/-- The location has no comment. -/
def Silent (location : Location) : Prop :=
  location.leading = "" ∧ location.trailing = ""

/-- The comment that a file gives for a path. It is that of the last location with this path that has
one, where a leading comment comes before a trailing one. -/
inductive Given (file : FileProto) (path : List Int) : String → Prop
  | leading {before after : List Location} {location : Location}
      (split : file.locations = before ++ location :: after) (here : location.path = path)
      (filled : location.leading ≠ "") (last : ∀ later ∈ after, later.path = path → Silent later) :
      Given file path location.leading
  | trailing {before after : List Location} {location : Location}
      (split : file.locations = before ++ location :: after) (here : location.path = path)
      (bare : location.leading = "") (filled : location.trailing ≠ "")
      (last : ∀ later ∈ after, later.path = path → Silent later) :
      Given file path location.trailing
  | missing (silent : ∀ location ∈ file.locations, location.path = path → Silent location) :
      Given file path ""

theorem commentAt_isEmpty {location : Location} :
    (commentAt location).isEmpty = true ↔ Silent location := by
  unfold commentAt Silent
  split
  · rename_i bare
    simp [String.isEmpty_iff.mp bare]
  · rename_i filled
    simp_all

theorem given_of_last {file : FileProto} {path : List Int} {before after : List Location}
    {location : Location} (split : file.locations = before ++ location :: after)
    (here : location.path = path) (speaks : ¬Silent location)
    (last : ∀ later ∈ after, later.path = path → Silent later) :
    Given file path (commentAt location) := by
  unfold commentAt
  by_cases bare : location.leading = ""
  · rw [if_pos (by simpa using bare)]
    exact .trailing split here bare (fun empty => speaks ⟨bare, empty⟩) last
  · rw [if_neg (by simpa using bare)]
    exact .leading split here bare last

theorem given_comment (file : FileProto) (path : List Int) : Given file path (comment file path) := by
  have passes (location : Location) :
      (location.path == path && !(commentAt location).isEmpty) = true ↔
        location.path = path ∧ ¬Silent location := by
    rw [← commentAt_isEmpty]
    simp
  simp only [comment]
  rcases List.eq_nil_or_concat' (file.locations.filter fun location =>
    location.path == path && !(commentAt location).isEmpty) with none | ⟨others, location, shape⟩
  · rw [none]
    refine .missing fun location member here => ?_
    by_contra speaks
    exact List.filter_eq_nil_iff.mp none location member ((passes location).mpr ⟨here, speaks⟩)
  · obtain ⟨front, back, whole, _, ending⟩ := List.filter_eq_append_iff.mp shape
    obtain ⟨skipped, after, rfl, _, found, quiet⟩ := List.filter_eq_cons_iff.mp ending
    obtain ⟨here, speaks⟩ := (passes location).mp found
    rw [shape, List.getLast?_concat]
    refine given_of_last (whole.trans (List.append_assoc ..).symm) here speaks fun later member there => ?_
    by_contra spoken
    exact List.filter_eq_nil_iff.mp quiet later member ((passes later).mpr ⟨there, spoken⟩)

end Given

def Element.name : Element → String
  | file proto => proto.name
  | message proto => proto.name
  | field proto => proto.name
  | enum proto => proto.name
  | enumValue proto => proto.name
  | service proto => proto.name
  | method proto => proto.name

/-- Something linked, by its name and comment. -/
structure Remark where
  name : String
  comment : String

/-- The remark is about the element at the site: the path leads there, and the comment is the one given
for it. -/
structure Noted (file : FileProto) (site : Site) (remark : Remark) : Prop where
  leads : elementAt file site.path = some site.element
  named : remark.name = site.element.name
  given : Given file site.path remark.comment

/-- The remarks are about an element and its parts, in their order. -/
def Annotated (file : FileProto) (site : Site) (remarks : List Remark) : Prop :=
  List.Forall₂ (Noted file) (site :: site.parts) remarks

def messageRemarks (message : Message) : List Remark :=
  ⟨message.name, message.comment⟩ ::
    (message.fields.filterMap id).map fun field => ⟨field.name, field.comment⟩

def enumRemarks (enum : Enum) : List Remark :=
  ⟨enum.name, enum.comment⟩ :: enum.values.map fun value => ⟨value.name, value.comment⟩

def serviceRemarks (service : Service) : List Remark :=
  ⟨service.name, service.comment⟩ ::
    (service.methods.filterMap id).map fun method => ⟨method.name, method.comment⟩

/-- The services of the files selected, each with its file and its position there. -/
def placedServices (files : List FileProto) (selection : Option (List String)) :
    List (FileProto × ServiceProto × Nat) :=
  (files.filter fun file => selection.all (·.contains file.name)).flatMap fun file =>
    file.services.zipIdx.map (Prod.mk file)

/-- All that is linked has the comments of its file. -/
structure Linked.Annotated (linked : Linked) (files : List FileProto) (selection : Option (List String)) :
    Prop where
  messages : List.Forall₂ (fun entry message =>
    Link.Annotated entry.1 (messageSite entry.2) (messageRemarks message))
      (located messagesOf files) linked.pool.messages
  enums : List.Forall₂ (fun entry enum => Link.Annotated entry.1 (enumSite entry.2) (enumRemarks enum))
      (located enumsOf files) linked.pool.enums
  services : List.Forall₂ (fun entry service =>
    Link.Annotated entry.1 (serviceSite entry.2) (serviceRemarks service))
      (placedServices files selection) linked.services

section Annotated

variable {file : FileProto}

theorem annotated_of_parts {α : Type} {site : Site} {protos : List α} (element : α → Element)
    (holder : HolderAt file site) (holds : site.element.held 2 = protos.map element) :
    Annotated file site (⟨site.element.name, comment file site.path⟩ ::
      protos.zipIdx.map fun entry =>
        ⟨(element entry.1).name, comment file (site.path ++ [2, (entry.2 : Int)])⟩) := by
  refine .cons ⟨holder.leads, rfl, given_comment ..⟩ ?_
  rw [Site.parts, holds, List.zipIdx_map, List.map_map, List.forall₂_map_left_iff, List.forall₂_map_right_iff,
    List.forall₂_same]
  rintro ⟨proto, position⟩ member
  refine ⟨elementAt_concat holder.leads (Element.holds_iff.mp ?_), rfl, given_comment ..⟩
  have found := List.mk_mem_zipIdx_iff_getElem?.mp member
  simp [holds, found]

theorem annotated_message (index : Indexes) {declared : Declared MessageProto}
    (member : declared ∈ messagesOf file) :
    Annotated file (messageSite declared) (messageRemarks (linkMessage index file declared)) := by
  obtain ⟨names, located, _⟩ := messageAt_iff.mp member
  have holder : HolderAt file (messageSite declared) := .message located
  have fields : (linkMessage index file declared).fields.filterMap id =
      declared.proto.fields.zipIdx.map fun entry =>
        linkField index file (fieldPath declared.path entry.2) entry.1 := by
    simp [linkMessage]
  rw [messageRemarks, fields, List.map_map]
  exact annotated_of_parts .field holder rfl

theorem annotated_enum {declared : Declared EnumProto} (member : declared ∈ enumsOf file) :
    Annotated file (enumSite declared) (enumRemarks (linkEnum file declared)) := by
  obtain ⟨names, located, _⟩ := enumAt_iff.mp member
  have holder : HolderAt file (enumSite declared) := .enum located
  rw [enumRemarks, linkEnum, List.map_map]
  exact annotated_of_parts .enumValue holder rfl

theorem annotated_service (index : Indexes) {entry : ServiceProto × Nat}
    (member : entry ∈ file.services.zipIdx) :
    Annotated file (serviceSite entry) (serviceRemarks (linkService index file entry.2 entry.1)) := by
  have holder : HolderAt file (serviceSite entry) := .service (List.mk_mem_zipIdx_iff_getElem?.mp member)
  have methods : (linkService index file entry.2 entry.1).methods.filterMap id =
      entry.1.methods.zipIdx.map fun method =>
        linkMethod index file [6, (entry.2 : Int), 2, (method.2 : Int)] method.1 := by
    simp [linkService]
  rw [serviceRemarks, methods, List.map_map]
  exact annotated_of_parts .method holder rfl

end Annotated

section Wire

/-- What a decoded message holds under a number. -/
def heldParts (entries : List Entry) (number : Int) : List (List Entry) :=
  (number.toNat?.map (partsAt entries)).getD []

/-- The element has been read from these entries. -/
def Element.ReadFrom (entries : List Entry) : Element → Prop
  | file proto => proto = FileProto.ofEntries entries
  | message proto => proto = MessageProto.ofEntries entries
  | field proto => proto = FieldProto.ofEntries entries
  | enum proto => proto = EnumProto.ofEntries entries
  | enumValue proto => proto = EnumValueProto.ofEntries entries
  | service proto => proto = ServiceProto.ofEntries entries
  | method proto => proto = MethodProto.ofEntries entries

theorem partsBelow_val (entries : List Entry) (number : Nat) :
    (partsBelow entries number).map (·.val) = partsAt entries number := by
  conv_rhs => rw [← List.attach_map_subtype_val entries]
  rw [partsBelow, partsAt, List.map_filterMap, List.filterMap_map]
  refine List.filterMap_congr fun entry _ => ?_
  obtain ⟨entry, member⟩ := entry
  cases entry with
  | part place inner =>
    by_cases same : place = number <;> simp [same]
  | integer | text | unknown => rfl

theorem messageProto_ofEntries (entries : List Entry) :
    MessageProto.ofEntries entries =
      { name := textAt entries 1
        fields := (partsAt entries 2).map FieldProto.ofEntries
        nested := (partsAt entries 3).map MessageProto.ofEntries
        enums := (partsAt entries 4).map EnumProto.ofEntries
        options := OptionSet.ofEntries (partAt entries 7) } := by
  rw [← partsBelow_val entries 3, List.map_map, MessageProto.ofEntries]
  rfl

theorem exists_part {α : Type} {entries : List Entry} {number position : Nat} {read : List Entry → α}
    {inner : α} (found : ((partsAt entries number).map read)[position]? = some inner) :
    ∃ part, (partsAt entries number)[position]? = some part ∧ inner = read part := by
  rw [List.getElem?_map] at found
  obtain ⟨part, stands, rfl⟩ := Option.map_eq_some_iff.mp found
  exact ⟨part, stands, rfl⟩

/-- What an element holds has been read from the part at the same place. -/
theorem Element.Holds.readFrom {element inner : Element} {number : Int} {position : Nat}
    (holds : element.Holds number position inner) {entries : List Entry} (read : element.ReadFrom entries) :
    ∃ part, (heldParts entries number)[position]? = some part ∧ inner.ReadFrom part := by
  cases holds with
  | fileMessage found | fileEnum found | fileService found | enumValue found | serviceMethod found =>
    cases read
    exact exists_part found
  | messageField found | messageNested found | messageEnum found =>
    cases read
    rw [messageProto_ofEntries] at found
    exact exists_part found

end Wire

/-- The paths of a file are those of its elements. -/
structure Addressed (file : FileProto) : Prop where
  leads : ∀ {path element}, ⟨path, element⟩ ∈ sites file ↔ path ≠ [] ∧ elementAt file path = some element
  distinct : ((sites file).map (·.path)).Nodup
  wire : ∀ {entries}, file = FileProto.ofEntries entries → ∀ site ∈ sites file,
    ∃ part, follow heldParts site.path entries = some part ∧ site.element.ReadFrom part

theorem addressed (file : FileProto) : Addressed file where
  leads := mem_sites
  distinct := nodup_paths_sites file
  wire {entries} read site member := by
    refine follow_related (fun element entries => element.ReadFrom entries) (fun read stands => ?_) read
      (mem_sites.mp member).2
    exact (Element.holds_iff.mp stands).readFrom read

theorem forall₂_placed {α β : Type} {relation : FileProto × α → β → Prop} {files : List FileProto}
    {items : FileProto → List α} {image : FileProto → α → β}
    (related : ∀ file, ∀ item ∈ items file, relation (file, item) (image file item)) :
    List.Forall₂ relation (files.flatMap fun file => (items file).map (Prod.mk file))
      (files.flatMap fun file => (items file).map (image file)) := by
  refine forall₂_flatMap fun file _ => ?_
  rw [List.forall₂_map_left_iff, List.forall₂_map_right_iff, List.forall₂_same]
  exact related file

theorem annotated_linkedFiles (files : List FileProto) (selection : Option (List String)) :
    (linkedFiles files selection).Annotated files selection where
  messages := forall₂_placed fun _ _ member => annotated_message _ member
  enums := forall₂_placed fun _ _ member => annotated_enum member
  services := forall₂_placed fun _ _ member => annotated_service _ member

/-- Where the files selected are there, all that is linked has the comment of the last location with
its path that has one. This path leads to it, and to nothing else. -/
theorem comments_attributed (files : List FileProto) (selection : Option (List String))
    (present : ∀ name ∈ selection.getD [], ∃ file ∈ files, file.name = name) :
    (∃ linked, (link files selection).value = .ok linked ∧ linked.Annotated files selection) ∧
      ∀ file ∈ files, Addressed file :=
  ⟨⟨_, link_value present, annotated_linkedFiles files selection⟩, fun file _ => addressed file⟩

/-- The number 4 stands for the messages of the file and for the enums of a message. -/
def shelfFile : FileProto where
  name := "shelf.proto"
  messages :=
    [{ name := "Shelf"
       fields := [{ name := "code" }]
       nested := [{ name := "Book", enums := [{ name := "Binding", values := [{ name := "CLOTH" }] }] }] },
     { name := "Room" }]
  services := [{ name := "Library", methods := [{ name := "GetShelf" }] }]
  locations :=
    [{ path := [4, 0], leading := "Replaced." },
     { path := [4, 0], trailing := "A row of books." },
     { path := [4, 0] },
     { path := [4, 0, 3, 0, 4, 0], leading := "How a book is bound.", trailing := "Not read." },
     { path := [4, 0, 3, 0, 4, 0, 2, 0], leading := "In cloth." },
     { path := [6, 0, 2, 0], leading := "Finds a shelf." }]

theorem comments_attributed_shelf :
    (∃ linked, (link [shelfFile] (some ["shelf.proto"])).value = .ok linked ∧
      linked.Annotated [shelfFile] (some ["shelf.proto"]) ∧
      linked.pool.messages.map (·.comment) = ["A row of books.", "", ""] ∧
      linked.pool.enums.map (·.comment) = ["How a book is bound."]) ∧ Addressed shelfFile := by
  have present : ∀ name ∈ (some ["shelf.proto"]).getD [], ∃ file ∈ [shelfFile], file.name = name := by
    decide
  obtain ⟨⟨linked, done, annotated⟩, addressed⟩ :=
    comments_attributed [shelfFile] (some ["shelf.proto"]) present
  refine ⟨⟨linked, done, annotated, ?_, ?_⟩, addressed shelfFile (List.mem_singleton.mpr rfl)⟩
  all_goals
    cases (link_value present).symm.trans done
    rfl

end Subgraph.Link
