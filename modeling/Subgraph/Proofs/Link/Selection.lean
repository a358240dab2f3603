import Subgraph.Proofs.Link.References

namespace Subgraph.Link

open Proto Descriptor

/-- The services of files with this name are wanted. Without a selection all are. -/
def Wanted (selection : Option (List String)) (name : String) : Prop :=
  ∀ names, selection = some names → name ∈ names

/-- No file has the name. -/
def Lacks (files : List FileProto) (name : String) : Prop :=
  ∀ file ∈ files, file.name ≠ name

/-- The name is the first of those selected that no file has. -/
def FirstLacking (files : List FileProto) (selection : Option (List String)) (name : String) : Prop :=
  Lacks files name ∧ ∃ earlier later, selection = some (earlier ++ name :: later) ∧
    ∀ known ∈ earlier, ¬Lacks files known

variable {files : List FileProto} {selection : Option (List String)}

theorem wanted_iff {name : String} : Wanted selection name ↔ selection.all (·.contains name) = true := by
  cases selection <;> simp [Wanted]

theorem missing?_eq_some {name : String} :
    missing? files (selection.getD []) = some name ↔ FirstLacking files selection name := by
  have absent (other : String) : (!(files.map (·.name)).contains other) = true ↔ Lacks files other := by
    simp [Lacks]
  rw [missing?, List.find?_eq_some_iff_append, absent, FirstLacking]
  simp only [Bool.not_eq_true', ← Bool.not_eq_true, absent]
  cases selection <;> simp

theorem link_error_iff {fault : Fault} :
    (link files selection).value = .error fault ↔
      ∃ name, FirstLacking files selection name ∧ fault = .fileMissing name := by
  simp only [← missing?_eq_some]
  unfold link
  cases missing? files (selection.getD []) with
  | some name => simp [eq_comm]
  | none => simp

/-- Of names that no file has, if there are any, one is the first. -/
theorem exists_firstLacking :
    (∃ name, FirstLacking files selection name) ↔
      ∃ names, selection = some names ∧ ∃ name ∈ names, Lacks files name := by
  constructor
  · rintro ⟨name, lacking, earlier, later, rfl, -⟩
    exact ⟨_, rfl, name, by simp, lacking⟩
  · rintro ⟨names, rfl, name, member, lacking⟩
    have present : missing? files ((some names).getD []) ≠ none := by
      rw [Ne, Option.getD_some, missing?_eq_none]
      intro all
      obtain ⟨file, listed, named⟩ := all name member
      exact lacking file listed named
    obtain ⟨first, found⟩ := Option.ne_none_iff_exists'.mp present
    exact ⟨first, missing?_eq_some.mp found⟩

theorem link_ok_iff {linked : Linked} :
    (link files selection).value = .ok linked ↔
      (∀ name, ¬FirstLacking files selection name) ∧ linked = linkedFiles files selection := by
  simp only [← missing?_eq_some, ← Option.eq_none_iff_forall_ne_some]
  constructor
  · intro done
    have none_missing : missing? files (selection.getD []) = none := by
      cases found : missing? files (selection.getD []) with
      | none => rfl
      | some name =>
        have failed := link_error_iff.mpr ⟨name, missing?_eq_some.mp found, rfl⟩
        rw [done] at failed
        cases failed
    have value := link_value (missing?_eq_none.mp none_missing)
    rw [done] at value
    exact ⟨none_missing, Except.ok.inj value⟩
  · rintro ⟨none_missing, rfl⟩
    exact link_value (missing?_eq_none.mp none_missing)

section Places

/-- The service that is declared at a place: the position of its file, then its own one there. -/
def ServiceAt (files : List FileProto) (index : Indexes) (place : Nat × Nat) (service : Service) : Prop :=
  ∃ file declared, files[place.1]? = some file ∧ file.services[place.2]? = some declared ∧
    service = linkService index file place.2 declared

/-- The places of the services that are wanted, by files and then by declarations. -/
def wantedPlaces (files : List FileProto) (selection : Option (List String)) : List (Nat × Nat) :=
  (files.zipIdx.filter fun entry => selection.all (·.contains entry.1.name)).flatMap fun entry =>
    entry.1.services.zipIdx.map fun service => (entry.2, service.2)

theorem mem_wantedPlaces {position place : Nat} :
    (position, place) ∈ wantedPlaces files selection ↔
      ∃ file, files[position]? = some file ∧ Wanted selection file.name ∧ place < file.services.length := by
  simp only [wantedPlaces, List.mem_flatMap, List.mem_filter, List.mem_map, Prod.exists, ← wanted_iff,
    List.mk_mem_zipIdx_iff_getElem?]
  constructor
  · rintro ⟨file, _, ⟨stands, wanted⟩, service, _, declared, same⟩
    cases same
    exact ⟨file, stands, wanted, (List.getElem?_eq_some_iff.mp declared).1⟩
  · rintro ⟨file, stands, wanted, within⟩
    exact ⟨file, position, ⟨stands, wanted⟩, _, place, List.getElem?_eq_getElem within, rfl⟩

theorem pairwise_wantedPlaces (files : List FileProto) (selection : Option (List String)) :
    (wantedPlaces files selection).Pairwise (Prod.Lex (· < ·) (· < ·)) := by
  rw [wantedPlaces, List.pairwise_flatMap]
  constructor
  · intro entry _
    exact List.pairwise_map.mpr ((pairwise_lt_zipIdx _).imp fun less => .right _ less)
  · refine ((pairwise_lt_zipIdx files).filter _).imp fun less place within other beyond => ?_
    obtain ⟨service, _, rfl⟩ := List.mem_map.mp within
    obtain ⟨later, _, rfl⟩ := List.mem_map.mp beyond
    exact .left _ _ less

theorem services_linkedFiles (files : List FileProto) (selection : Option (List String)) :
    List.Forall₂ (ServiceAt files (indexes files)) (wantedPlaces files selection)
      (linkedFiles files selection).services := by
  have numbered : (files.filter fun file => selection.all (·.contains file.name)) =
      (files.zipIdx.filter fun entry => selection.all (·.contains entry.1.name)).map Prod.fst := by
    conv_lhs => rw [← List.zipIdx_map_fst 0 files, List.filter_map]
    rfl
  rw [linkedFiles, numbered, List.flatMap_map, wantedPlaces]
  refine forall₂_flatMap fun entry member => ?_
  have stands := List.mk_mem_zipIdx_iff_getElem?.mp (List.mem_of_mem_filter member)
  rw [servicesOf, List.forall₂_map_left_iff, List.forall₂_map_right_iff, List.forall₂_same]
  intro service listed
  exact ⟨entry.1, service.1, stands, List.mk_mem_zipIdx_iff_getElem?.mp listed, rfl⟩

end Places

/-- A full name leads to what has been declared under it last. -/
theorem exists_get?_indexOf {names : List String} {name : String} (member : name ∈ names) :
    ∃ place, (indexOf names).get? ("." ++ name) = some place ∧ names[place]? = some name := by
  have entries : indexOf names =
      Registry.update [] (names.zipIdx.map fun entry => ("." ++ entry.1, entry.2)) := by
    rw [Registry.update, List.foldl_map]
    rfl
  have found : ((names.zipIdx.map fun entry => ("." ++ entry.1, entry.2)).reverse.lookup
      ("." ++ name)).isSome = true := by
    obtain ⟨place, stands⟩ := List.mem_iff_getElem?.mp member
    rw [List.lookup_isSome_iff]
    refine ⟨("." ++ name, place), List.mem_reverse.mpr (List.mem_map.mpr ⟨(name, place), ?_, rfl⟩), by simp⟩
    exact List.mk_mem_zipIdx_iff_getElem?.mpr stands
  obtain ⟨place, leads⟩ := Option.isSome_iff_exists.mp found
  refine ⟨place, ?_, ?_⟩
  · rw [entries, Registry.get?_update, leads, Option.some_or]
  · obtain ⟨before, after, shape, -⟩ := List.lookup_eq_some_iff.mp leads
    have listed : ("." ++ name, place) ∈ names.zipIdx.map fun entry => ("." ++ entry.1, entry.2) := by
      rw [← List.mem_reverse, shape]
      simp
    obtain ⟨⟨other, position⟩, stands, same⟩ := List.mem_map.mp listed
    obtain ⟨named, rfl⟩ := Prod.mk.inj same
    obtain rfl : other = name := (String.append_right_inj ".").mp named
    exact List.mk_mem_zipIdx_iff_getElem?.mp stands

/-- Messages of all files can be referred to, whatever is selected. -/
theorem message?_of_messageAt {file : FileProto} {path : List Int} {names : List String} {proto : MessageProto}
    (member : file ∈ files) (declared : MessageAt file path names proto) :
    ∃ message, (linkedFiles files selection).message? ("." ++ dotted file.package names) = some message ∧
      message.fullName = dotted file.package names := by
  have listed : dotted file.package names ∈ (files.flatMap messagesOf).map (·.fullName) :=
    List.mem_map.mpr ⟨_, List.mem_flatMap.mpr ⟨file, member, mem_messagesOf_of_messageAt declared⟩, rfl⟩
  obtain ⟨place, leads, stands⟩ := exists_get?_indexOf listed
  rw [← fullNames_messages, List.getElem?_map] at stands
  obtain ⟨message, found, named⟩ := Option.map_eq_some_iff.mp stands
  refine ⟨message, ?_, named⟩
  exact Option.bind_eq_some_iff.mpr ⟨place, leads, found⟩

/-- The services linked are those of the files selected, by files and then by declarations, each once. None
of them is of another file, while messages of all files can be referred to. -/
structure Linked.Selects (linked : Linked) (files : List FileProto) (selection : Option (List String)) :
    Prop where
  services : ∃ places : List (Nat × Nat), places.Pairwise (Prod.Lex (· < ·) (· < ·)) ∧
    (∀ position place, (position, place) ∈ places ↔
      ∃ file, files[position]? = some file ∧ Wanted selection file.name ∧ place < file.services.length) ∧
    List.Forall₂ (ServiceAt files linked.index) places linked.services
  sources : ∀ service ∈ linked.services, Wanted selection service.source
  linkable : ∀ {file path names proto}, file ∈ files → MessageAt file path names proto →
    ∃ message, linked.message? ("." ++ dotted file.package names) = some message ∧
      message.fullName = dotted file.package names

theorem wanted_of_mem_services {service : Service} (member : service ∈ (linkedFiles files selection).services) :
    Wanted selection service.source := by
  obtain ⟨file, chosen, listed⟩ := List.mem_flatMap.mp member
  obtain ⟨declared, -, rfl⟩ := List.mem_map.mp listed
  exact wanted_iff.mpr (List.mem_filter.mp chosen).2

theorem selects_linkedFiles : (linkedFiles files selection).Selects files selection where
  services := ⟨wantedPlaces files selection, pairwise_wantedPlaces files selection,
    fun _ _ => mem_wantedPlaces, services_linkedFiles files selection⟩
  sources _ := wanted_of_mem_services
  linkable := message?_of_messageAt

/-- What is selected counts as a set of names. -/
theorem services?_congr {names others : List String} (same : ∀ name, name ∈ names ↔ name ∈ others) :
    (link files (some names)).value.toOption.map (·.services) =
      (link files (some others)).value.toOption.map (·.services) := by
  have both : (∃ name, FirstLacking files (some names) name) ↔ ∃ name, FirstLacking files (some others) name := by
    simp [exists_firstLacking, same]
  by_cases lacking : ∃ name, FirstLacking files (some names) name
  · obtain ⟨name, first⟩ := lacking
    obtain ⟨other, first_too⟩ := both.mp ⟨name, first⟩
    rw [link_error_iff.mpr ⟨name, first, rfl⟩, link_error_iff.mpr ⟨other, first_too, rfl⟩]
    rfl
  · have complete := not_exists.mp lacking
    have complete_too := not_exists.mp (mt both.mpr lacking)
    rw [link_ok_iff.mpr ⟨complete, rfl⟩, link_ok_iff.mpr ⟨complete_too, rfl⟩]
    have chosen : (files.filter fun file => names.contains file.name) =
        files.filter fun file => others.contains file.name := by
      refine List.filter_congr fun file _ => ?_
      rw [Bool.eq_iff_iff, List.contains_iff_mem, List.contains_iff_mem, same]
    exact congrArg (fun wanted => some (wanted.flatMap (servicesOf (indexes files)))) chosen

/-- Linking fails for a selection with a name that no file has, and tells the first such name. Otherwise the
services are those of the files selected, for selections with the same names the same ones. -/
theorem services_selected (files : List FileProto) (selection : Option (List String)) :
    ((∃ fault, (link files selection).value = .error fault) ↔
        ∃ names, selection = some names ∧ ∃ name ∈ names, Lacks files name) ∧
      (∀ fault, (link files selection).value = .error fault → ∃ name, FirstLacking files selection name ∧
        fault.message = "File to generate '" ++ name ++ "' not found in descriptor set") ∧
      (∀ linked, (link files selection).value = .ok linked → linked.Selects files selection) ∧
      ∀ names others, (∀ name, name ∈ names ↔ name ∈ others) →
        (link files (some names)).value.toOption.map (·.services) =
          (link files (some others)).value.toOption.map (·.services) := by
  refine ⟨?_, ?_, ?_, fun names others => services?_congr⟩
  · rw [← exists_firstLacking]
    simp only [link_error_iff]
    constructor
    · rintro ⟨fault, name, first, -⟩
      exact ⟨name, first⟩
    · rintro ⟨name, first⟩
      exact ⟨_, name, first, rfl⟩
  · intro fault failed
    obtain ⟨name, first, rfl⟩ := link_error_iff.mp failed
    exact ⟨name, first, rfl⟩
  · intro linked done
    obtain ⟨-, rfl⟩ := link_ok_iff.mp done
    exact selects_linkedFiles

/-- Three files with services. The last one refers to a message of the second. -/
def deskFiles : List FileProto :=
  [{ name := "order.proto", services := [{ name := "Desk" }, { name := "Stock" }] },
   { name := "note.proto", messages := [{ name := "Note" }], services := [{ name := "Notes" }] },
   { name := "board.proto"
     services := [{ name := "Board", methods := [{ name := "GetNote", input := ".Note", output := ".Note" }] }] }]

theorem services_selected_desk :
    (∃ linked, (link deskFiles (some ["board.proto", "order.proto", "board.proto"])).value = .ok linked ∧
        linked.services.map (·.name) = ["Desk", "Stock", "Board"] ∧
        linked.Selects deskFiles (some ["board.proto", "order.proto", "board.proto"])) ∧
      (link deskFiles (some ["note.proto", "lost.proto", "gone.proto"])).value =
          .error (.fileMissing "lost.proto") ∧
        ∃ name, FirstLacking deskFiles (some ["note.proto", "lost.proto", "gone.proto"]) name ∧
          (Fault.fileMissing "lost.proto").message =
            "File to generate '" ++ name ++ "' not found in descriptor set" := by
  have failed : (link deskFiles (some ["note.proto", "lost.proto", "gone.proto"])).value =
      .error (.fileMissing "lost.proto") := rfl
  exact ⟨⟨_, rfl, by decide +kernel, (services_selected deskFiles _).2.2.1 _ rfl⟩, failed,
    (services_selected deskFiles _).2.1 _ failed⟩

end Subgraph.Link
