import Mathlib.Data.List.Induction
import Mathlib.Data.List.Nodup
import Mathlib.Data.List.ReduceOption
import Subgraph.Generate
import Subgraph.Proofs.Registry
import Subgraph.Proofs.Sdl.Service

namespace Subgraph

open Descriptor

namespace Logged

variable {α β : Type}

theorem value_foldlM (step : α → β → Logged α) (start : α) (items : List β) :
    (items.foldlM step start).value = items.foldl (fun state item => (step state item).value) start := by
  induction items generalizing start with
  | nil => rfl
  | cons first rest ih => simp only [List.foldlM_cons, value_bind, List.foldl_cons, ih]

/-- Where a step reports the same in every state, the reports of a run stand one after another. -/
theorem events_foldlM {step : α → β → Logged α} {report : β → List Event}
    (reports : ∀ state item, (step state item).events = report item) (start : α) (items : List β) :
    (items.foldlM step start).events = items.flatMap report := by
  induction items generalizing start with
  | nil => rfl
  | cons first rest ih =>
    have apart : (List.foldlM step start (first :: rest)).events =
        (step start first).events ++ (rest.foldlM step (step start first).value).events := rfl
    rw [apart, reports, ih, List.flatMap_cons]

end Logged

theorem eraseDups_eq_self {names : List String} (distinct : names.Nodup) : names.eraseDups = names := by
  induction names with
  | nil => rfl
  | cons first rest ih =>
    obtain ⟨absent, distinct⟩ := List.nodup_cons.mp distinct
    have others : rest.filter (fun name => !name == first) = rest :=
      List.filter_eq_self.mpr fun name member => by
        simp only [Bool.not_eq_eq_eq_not, Bool.not_true, beq_eq_false_iff_ne]
        rintro rfl
        exact absent member
    rw [List.eraseDups_cons, others, ih distinct]

theorem eraseDups_concat (names : List String) (name : String) :
    (names ++ [name]).eraseDups = if name ∈ names then names.eraseDups else names.eraseDups ++ [name] := by
  have single : [name].eraseDups = [name] := rfl
  by_cases known : name ∈ names <;> simp [List.eraseDups_append, List.cons_removeAll, known, single]

theorem nodup_eraseDups (names : List String) : names.eraseDups.Nodup := by
  induction names using List.reverseRecOn with
  | nil => exact List.nodup_nil
  | append_singleton rest last ih =>
    rw [eraseDups_concat]
    split
    · exact ih
    · rename_i fresh
      rw [← List.concat_eq_append]
      exact ih.concat (by simpa using fresh)

namespace Generation

/-- The full names of the services that are there. -/
def fullNames (services : List (Option Service)) : List String :=
  services.reduceOption.map (·.fullName)

/-- The service is listed, and none that is listed after it has its full name. -/
def LastOfName (services : List (Option Service)) (service : Service) : Prop :=
  ∃ before after, services = before ++ some service :: after ∧ service.fullName ∉ fullNames after

/-- The last service of a full name. -/
def lastNamed? (services : List (Option Service)) (name : String) : Option Service :=
  services.reduceOption.findRev? (·.fullName == name)

/-- The services that count: for each full name, in the order in which these first come, the last service
of that name. -/
def counted (services : List (Option Service)) : List Service :=
  (fullNames services).eraseDups.filterMap (lastNamed? services)

/-- What a service comes to by itself. -/
def alone (layout : Layout) (pool : Pool) (service : Service) : Except RenderFault GeneratedFile :=
  (layout.render (Build.build pool service).value).map (⟨service.fullName ++ ".graphql", ·⟩)

def fault? : Except RenderFault GeneratedFile → Option RenderFault
  | .ok _ => none
  | .error fault => some fault

/-- What services come to, sorted into files and faults. -/
def collect (outcomes : List (Except RenderFault GeneratedFile)) : Generation where
  files := outcomes.filterMap (·.toOption)
  faults := outcomes.filterMap fault?

/-- What is reported while services are built. -/
def buildReport (pool : Pool) : Option Service → List Event
  | none => [.serviceMissing]
  | some service => (Build.build pool service).events

/-- What is reported while a service is rendered. -/
def renderReport (layout : Layout) (pool : Pool) (service : Service) : List Event :=
  ((Validation.validate (Build.build pool service).value).map fun issue =>
    .schemaIssue service.fullName issue.message) ++
  match alone layout pool service with
  | .ok file => [.fileGenerated file.name]
  | .error fault => [.failed fault.message]

section Counted

variable (services : List (Option Service))

theorem fullNames_append (more : List (Option Service)) :
    fullNames (services ++ more) = fullNames services ++ fullNames more := by
  simp [fullNames, List.reduceOption_append]

theorem lastNamed?_concat_none (name : String) :
    lastNamed? (services ++ [none]) name = lastNamed? services name := by
  simp [lastNamed?, List.reduceOption_append]

theorem lastNamed?_concat_some (service : Service) (name : String) :
    lastNamed? (services ++ [some service]) name =
      if service.fullName = name then some service else lastNamed? services name := by
  by_cases same : service.fullName = name <;>
    simp [lastNamed?, List.reduceOption_append, List.findRev?_eq_find?_reverse, same]

theorem lastNamed?_isSome_iff {name : String} :
    (lastNamed? services name).isSome ↔ name ∈ fullNames services := by
  simp [lastNamed?, fullNames, List.findRev?_eq_find?_reverse]

theorem fullName_of_lastNamed? {name : String} {service : Service}
    (found : lastNamed? services name = some service) : service.fullName = name := by
  rw [lastNamed?, List.findRev?_eq_find?_reverse] at found
  simpa using List.find?_some found

theorem lastOfName_of_lastNamed? {name : String} {service : Service}
    (found : lastNamed? services name = some service) : LastOfName services service := by
  have named := fullName_of_lastNamed? services found
  induction services using List.reverseRecOn with
  | nil => simp [lastNamed?] at found
  | append_singleton rest last ih =>
    have extend : lastNamed? rest name = some service → service.fullName ∉ fullNames [last] →
        LastOfName (rest ++ [last]) service := by
      intro earlier unlike
      obtain ⟨before, after, split, none_after⟩ := ih earlier
      refine ⟨before, after ++ [last], by simp [split], ?_⟩
      rw [fullNames_append, List.mem_append, not_or]
      exact ⟨none_after, unlike⟩
    cases last with
    | none =>
      rw [lastNamed?_concat_none] at found
      exact extend found (by simp [fullNames])
    | some other =>
      rw [lastNamed?_concat_some] at found
      split at found
      · cases found
        exact ⟨rest, [], rfl, by simp [fullNames]⟩
      · rename_i unlike
        exact extend found (by simpa [fullNames, named, eq_comm] using unlike)

theorem counted_concat_none : counted (services ++ [none]) = counted services := by
  have same : lastNamed? (services ++ [none]) = lastNamed? services :=
    funext (lastNamed?_concat_none services)
  simp [counted, same, fullNames, List.reduceOption_append]

theorem counted_concat_some (service : Service) :
    counted (services ++ [some service]) =
      if service.fullName ∈ fullNames services then
        (counted services).map fun old => if old.fullName = service.fullName then service else old
      else counted services ++ [service] := by
  have names : fullNames (services ++ [some service]) = fullNames services ++ [service.fullName] :=
    fullNames_append ..
  unfold counted
  rw [names, eraseDups_concat]
  split
  · rw [List.map_filterMap]
    refine List.filterMap_congr fun name member => ?_
    have known := (lastNamed?_isSome_iff services).mpr (List.mem_eraseDups.mp member)
    obtain ⟨old, found⟩ := Option.isSome_iff_exists.mp known
    rw [lastNamed?_concat_some, found, Option.map_some, fullName_of_lastNamed? services found]
    by_cases same : service.fullName = name
    · rw [if_pos same, if_pos same.symm]
    · rw [if_neg same, if_neg (Ne.symm same)]
  · rename_i fresh
    have earlier : ∀ name ∈ (fullNames services).eraseDups,
        lastNamed? (services ++ [some service]) name = lastNamed? services name := by
      intro name member
      have unlike : service.fullName ≠ name := fun same =>
        fresh (same ▸ List.mem_eraseDups.mp member)
      rw [lastNamed?_concat_some, if_neg unlike]
    rw [List.filterMap_append, List.filterMap_congr earlier]
    simp [lastNamed?_concat_some]

theorem fullNames_counted : (counted services).map (·.fullName) = (fullNames services).eraseDups := by
  unfold counted
  rw [List.map_filterMap]
  refine (List.filterMap_congr fun name member => ?_).trans List.filterMap_some
  have known := (lastNamed?_isSome_iff services).mpr (List.mem_eraseDups.mp member)
  obtain ⟨service, found⟩ := Option.isSome_iff_exists.mp known
  rw [found, Option.map_some, fullName_of_lastNamed? services found]

theorem LastOfName.lastNamed?_eq {service : Service} (last : LastOfName services service) :
    lastNamed? services service.fullName = some service := by
  obtain ⟨before, after, rfl, none_after⟩ := last
  have later : (after.reduceOption.reverse).find? (·.fullName == service.fullName) = none := by
    simp only [List.find?_eq_none, List.mem_reverse, beq_iff_eq]
    rintro other listed same
    exact none_after (same ▸ List.mem_map_of_mem listed)
  simp [lastNamed?, List.reduceOption_append, List.findRev?_eq_find?_reverse, later]

/-- The services that count are those that are last of their name. -/
theorem mem_counted_iff {service : Service} : service ∈ counted services ↔ LastOfName services service := by
  unfold counted
  rw [List.mem_filterMap]
  constructor
  · rintro ⟨name, _, found⟩
    exact lastOfName_of_lastNamed? services found
  · intro last
    have found := last.lastNamed?_eq
    refine ⟨service.fullName, ?_, found⟩
    rw [List.mem_eraseDups, ← lastNamed?_isSome_iff, found]
    rfl

/-- Where no full name is shared, every service counts. -/
theorem counted_of_nodup (distinct : (fullNames services).Nodup) :
    counted services = services.reduceOption := by
  have own : ∀ service ∈ services.reduceOption,
      lastNamed? services service.fullName = some service := by
    intro service member
    have known := (lastNamed?_isSome_iff services).mpr (List.mem_map_of_mem member)
    obtain ⟨last, found⟩ := Option.isSome_iff_exists.mp known
    have listed : last ∈ services.reduceOption := by
      rw [lastNamed?, List.findRev?_eq_find?_reverse] at found
      simpa using List.mem_of_find?_eq_some found
    rw [found, List.inj_on_of_nodup_map distinct listed member (fullName_of_lastNamed? services found)]
  rw [counted, eraseDups_eq_self distinct, fullNames, List.filterMap_map]
  exact (List.filterMap_congr own).trans List.filterMap_some

end Counted

section Generate

variable (layout : Layout) (pool : Pool) (services : List (Option Service))

theorem buildAll_value :
    (Build.buildAll pool services).value =
      (counted services).map fun service => (service.fullName, (Build.build pool service).value) := by
  rw [Build.buildAll, Logged.value_foldlM]
  induction services using List.reverseRecOn with
  | nil => rfl
  | append_singleton rest last ih =>
    rw [List.foldl_append, ih]
    cases last with
    | none => rw [counted_concat_none]; rfl
    | some service =>
      have names : Registry.names ((counted rest).map fun service =>
          (service.fullName, (Build.build pool service).value)) = (fullNames rest).eraseDups := by
        rw [← fullNames_counted, Registry.names, List.map_map]
        rfl
      have added : (Build.addService pool ((counted rest).map fun service =>
            (service.fullName, (Build.build pool service).value)) (some service)).value =
          Registry.put service.fullName (Build.build pool service).value ((counted rest).map fun service =>
            (service.fullName, (Build.build pool service).value)) := rfl
      rw [List.foldl_cons, List.foldl_nil, added, counted_concat_some]
      split
      · rename_i known
        rw [Registry.put_of_mem (names ▸ nodup_eraseDups _) (names ▸ List.mem_eraseDups.mpr known),
          List.map_map, List.map_map]
        refine List.map_congr_left fun old _ => ?_
        by_cases same : old.fullName = service.fullName <;> simp [same]
      · rename_i fresh
        rw [Registry.put_of_not_mem (by rwa [names, List.mem_eraseDups])]
        simp

theorem buildAll_events : (Build.buildAll pool services).events = services.flatMap (buildReport pool) := by
  refine Logged.events_foldlM (fun schemas service? => ?_) [] services
  cases service? with
  | none => rfl
  | some service => exact List.append_nil _

theorem collect_append (first second : List (Except RenderFault GeneratedFile)) :
    collect (first ++ second) =
      ⟨(collect first).files ++ (collect second).files, (collect first).faults ++ (collect second).faults⟩ := by
  simp [collect]

theorem outcomes_of_no_faults {outcomes : List (Except RenderFault GeneratedFile)}
    (clean : (collect outcomes).faults = []) : outcomes = (collect outcomes).files.map .ok := by
  induction outcomes with
  | nil => rfl
  | cons first rest ih =>
    cases first with
    | error fault => simp [collect, fault?] at clean
    | ok file => exact congrArg (.ok file :: ·) (ih (by simpa [collect, fault?] using clean))

theorem alone_eq_ok {layout : Layout} {pool : Pool} {service : Service} {file : GeneratedFile}
    (outcome : alone layout pool service = .ok file) :
    file.name = service.fullName ++ ".graphql" ∧
      layout.render (Build.build pool service).value = .ok file.content := by
  unfold alone at outcome
  cases rendered : layout.render (Build.build pool service).value with
  | error fault => simp [rendered, Except.map] at outcome
  | ok content =>
    simp only [rendered, Except.map, Except.ok.injEq] at outcome
    subst outcome
    exact ⟨rfl, rfl⟩

theorem add_eq (generation : Generation) (service : Service) :
    generation.add layout service.fullName (Build.build pool service).value =
      { value :=
          { files := generation.files ++ (collect [alone layout pool service]).files
            faults := generation.faults ++ (collect [alone layout pool service]).faults }
        events := renderReport layout pool service } := by
  unfold add renderReport alone
  cases layout.render (Build.build pool service).value with
  | ok content => simp [collect, fault?, Except.map, Except.toOption, Naming.schemaFile]
  | error fault => simp [collect, fault?, Except.map, Except.toOption]

/-- A service that cannot be rendered is named by its fault. -/
theorem service_of_alone {service : Service} {fault : RenderFault}
    (fails : alone layout pool service = .error fault) : fault.service = service.fullName := by
  have heading := Build.heading_build pool service
  simp only [Build.heading, Prod.mk.injEq] at heading
  unfold alone Layout.render at fails
  cases layout with
  | standard => cases fails
  | custom name template =>
    cases rendered : template (Build.build pool service).value with
    | ok content =>
      simp only [rendered] at fails
      cases fails
    | error cause =>
      simp only [rendered] at fails
      cases fails
      exact heading.1

theorem foldl_add (start : Generation) (chosen : List Service) :
    chosen.foldl (fun generation service =>
        (generation.add layout service.fullName (Build.build pool service).value).value) start =
      { files := start.files ++ (collect (chosen.map (alone layout pool))).files
        faults := start.faults ++ (collect (chosen.map (alone layout pool))).faults } := by
  induction chosen generalizing start with
  | nil => simp [collect]
  | cons first rest ih =>
    have outcomes : (first :: rest).map (alone layout pool) =
        [alone layout pool first] ++ rest.map (alone layout pool) := rfl
    rw [List.foldl_cons, add_eq, ih, outcomes, collect_append]
    simp only [List.append_assoc]

/-- Generation takes the services that count one by one, each by itself. -/
theorem generate_eq :
    generate layout pool services =
      { value := collect ((counted services).map (alone layout pool))
        events := services.flatMap (buildReport pool) ++
          (counted services).flatMap (renderReport layout pool) } := by
  have value : (generate layout pool services).value = collect ((counted services).map (alone layout pool)) := by
    simp only [generate, Logged.value_bind, buildAll_value, Logged.value_foldlM, List.foldl_map]
    rw [foldl_add]
    rfl
  have reports : ∀ (generation : Generation) (entry : String × Schema),
      (generation.add layout entry.1 entry.2).events = (({} : Generation).add layout entry.1 entry.2).events := by
    intro generation entry
    unfold add
    cases layout.render entry.2 <;> rfl
  have events : (generate layout pool services).events =
      services.flatMap (buildReport pool) ++ (counted services).flatMap (renderReport layout pool) := by
    have apart : (generate layout pool services).events = (Build.buildAll pool services).events ++
        ((Build.buildAll pool services).value.foldlM
          (fun generation entry => add layout generation entry.1 entry.2) {}).events := rfl
    rw [apart, buildAll_events, Logged.events_foldlM reports, buildAll_value, List.flatMap_map]
    simp only [add_eq]
  rw [← value, ← events]

/-- Where no full name is shared, every service has its own outcome, in the place of the service. -/
theorem generate_value_of_nodup (distinct : (fullNames services).Nodup) :
    (generate layout pool services).value = collect (services.reduceOption.map (alone layout pool)) := by
  rw [generate_eq, counted_of_nodup services distinct]

end Generate

section Distinct

variable {layout : Layout} {pool : Pool} {services : List (Option Service)}

theorem value_perm (distinct : (fullNames services).Nodup) {reordered : List (Option Service)}
    (same : reordered.Perm services) :
    (generate layout pool reordered).value.files.Perm (generate layout pool services).value.files ∧
      (generate layout pool reordered).value.faults.Perm (generate layout pool services).value.faults := by
  have present : reordered.reduceOption.Perm services.reduceOption := same.filterMap id
  have distinct' : (fullNames reordered).Nodup := (present.map _).nodup_iff.mpr distinct
  rw [generate_value_of_nodup _ _ _ distinct, generate_value_of_nodup _ _ _ distinct']
  exact ⟨(present.map _).filterMap _, (present.map _).filterMap _⟩

theorem value_without_failing {before after : List (Option Service)} {failing : Service} {fault : RenderFault}
    (distinct : (fullNames (before ++ some failing :: after)).Nodup)
    (fails : alone layout pool failing = .error fault) :
    (generate layout pool (before ++ some failing :: after)).value.files =
        (generate layout pool (before ++ after)).value.files ∧
      (generate layout pool (before ++ some failing :: after)).value.faults =
        (generate layout pool before).value.faults ++ fault :: (generate layout pool after).value.faults := by
  have names : fullNames (before ++ some failing :: after) =
      fullNames before ++ failing.fullName :: fullNames after := fullNames_append ..
  have others : (fullNames (before ++ after)).Nodup := by
    rw [names] at distinct
    rw [fullNames_append]
    exact distinct.sublist (by simp)
  have first := others
  rw [fullNames_append, List.nodup_append] at first
  rw [generate_value_of_nodup _ _ _ distinct, generate_value_of_nodup _ _ _ others,
    generate_value_of_nodup _ _ _ first.1, generate_value_of_nodup _ _ _ first.2.1]
  simp [List.reduceOption_append, collect, fails, fault?, Except.toOption]

end Distinct

end Generation

open Generation in
/-- Each full name is taken once, where it first comes, for its last service, and this service comes to
what it comes to alone. If no full name is shared, then the order of services is but the order of what
they come to, and a service that fails leaves out nothing but its own file. -/
theorem services_isolated (layout : Layout) (pool : Pool) (services : List (Option Service)) :
    (counted services).map (·.fullName) = (fullNames services).eraseDups ∧
    (∀ service ∈ counted services, LastOfName services service ∧
      ∀ fault, alone layout pool service = .error fault → fault.service = service.fullName) ∧
    (generate layout pool services).value = collect ((counted services).map (alone layout pool)) ∧
    (generate layout pool services).events =
      services.flatMap (buildReport pool) ++ (counted services).flatMap (renderReport layout pool) ∧
    ((fullNames services).Nodup →
      (∀ reordered, reordered.Perm services →
        (generate layout pool reordered).value.files.Perm (generate layout pool services).value.files ∧
        (generate layout pool reordered).value.faults.Perm (generate layout pool services).value.faults) ∧
      ∀ before failing after fault, services = before ++ some failing :: after →
        alone layout pool failing = .error fault →
        (generate layout pool services).value.files = (generate layout pool (before ++ after)).value.files ∧
        (generate layout pool services).value.faults =
          (generate layout pool before).value.faults ++ fault :: (generate layout pool after).value.faults) := by
  refine ⟨fullNames_counted services, fun service member => ⟨?_, fun _ => service_of_alone layout pool⟩, ?_, ?_,
    fun distinct => ⟨?_, ?_⟩⟩
  · exact (mem_counted_iff services).mp member
  · rw [generate_eq]
  · rw [generate_eq]
  · exact fun reordered => value_perm distinct
  · rintro before failing after fault rfl fails
    exact value_without_failing distinct fails

/-- Prints the first mutation of a service. -/
def firstMutation : Layout :=
  .custom "first.j2" (Template.render
    [.print (.member (.item (.member (.member (.name "schema") "root_mutation") "fields") (.int 0)) "name")])

/-- A service that only reads. -/
def deskService : Service where
  name := "Desk"
  fullName := "shop.Desk"
  methods := [some { name := "GetOrder", input := some 2, output := some 0 }]

open Generation in
theorem services_isolated_shop :
    (fullNames [some deskService, none, some Build.shopService]).Nodup ∧
    [some Build.shopService, none, some deskService].Perm [some deskService, none, some Build.shopService] ∧
    (generate firstMutation Build.shopPool [some Build.shopService, none, some deskService]).value.files.Perm
      (generate firstMutation Build.shopPool [some deskService, none, some Build.shopService]).value.files ∧
    ∃ fault, alone firstMutation Build.shopPool deskService = .error fault ∧
      (generate firstMutation Build.shopPool [some deskService, none, some Build.shopService]).value.files =
        (generate firstMutation Build.shopPool [none, some Build.shopService]).value.files := by
  have distinct : (fullNames [some deskService, none, some Build.shopService]).Nodup := by decide +kernel
  have reordered : [some Build.shopService, none, some deskService].Perm
      [some deskService, none, some Build.shopService] :=
    List.reverse_perm [some deskService, none, some Build.shopService]
  have fails : ∃ fault, alone firstMutation Build.shopPool deskService = .error fault := ⟨_, rfl⟩
  obtain ⟨fault, fails⟩ := fails
  obtain ⟨_, _, _, _, apart⟩ :=
    services_isolated firstMutation Build.shopPool [some deskService, none, some Build.shopService]
  obtain ⟨permuted, failing⟩ := apart distinct
  exact ⟨distinct, reordered, (permuted _ reordered).1, fault, fails, (failing [] _ _ fault rfl fails).1⟩

end Subgraph
