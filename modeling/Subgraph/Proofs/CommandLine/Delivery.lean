import Subgraph.Proofs.CommandLine.Work
import Subgraph.Proofs.FileTree

namespace Subgraph.CommandLine

open Descriptor Generation

/-- The file of a schema in a directory. -/
def schemaPlace (home : Place) (service : Service) : Place :=
  home ++ [service.fullName ++ ".graphql"]

/-- The tree has changed by what a call is for: `home` is the directory that is written into, the
services that count have their renderings in it, and all other changes are directories on the way
there. -/
structure Delivered {tree : FileTree} {call : Call} (work : Work tree call) (counts : Service → Prop)
    (home : Place) (after : FileTree) : Prop where
  directory : after.IsAt work.directory home
  rendered : ∀ service, counts service → ∃ content,
    work.layout.render (Build.build work.linked.pool service).value = .ok content ∧
      after.node? (schemaPlace home service) = some (.file (Utf8.encode content))
  others : ∀ place, after.node? place ≠ tree.node? place →
    (∃ service ∈ work.linked.services, place = schemaPlace home service) ∨
    tree.node? place = none ∧ after.node? place = some .directory ∧
      ∃ count, after.place? (work.directory.upTo count) = .ok place

theorem ofString_schemaFile {name : String} (plain : '/' ∉ name.toList) :
    Path.ofString (name ++ ".graphql") = { parts := [name ++ ".graphql"] } ∧ name ++ ".graphql" ≠ ".." := by
  have longer : ∀ {short : String}, short.length < 8 → name ++ ".graphql" ≠ short := by
    rintro short bound rfl
    have ending : ".graphql".length = 8 := by decide
    rw [String.length_append] at bound
    omega
  refine ⟨Path.ofString_name ?_ (longer (by decide)) (longer (by decide)), longer (by decide)⟩
  rw [String.toList_append, List.mem_append, not_or]
  exact ⟨plain, by decide⟩

theorem writeAll_wroteInto {directory : Path} {home : Place} {tree after : FileTree} {files : List GeneratedFile}
    (there : tree.IsAt directory home)
    (plain : ∀ file ∈ files, Path.ofString file.name = { parts := [file.name] } ∧ file.name ≠ "..")
    (distinct : (files.map (·.name)).Nodup) (done : writeAll directory tree files = (after, none)) :
    tree.WroteInto home (files.map fun file => (file.name, Utf8.encode file.content)) after := by
  induction files generalizing tree with
  | nil =>
    cases done
    exact ⟨fun _ => id, by simp, fun _ _ => rfl⟩
  | cons file rest ih =>
    obtain ⟨name, down⟩ := plain file (List.mem_cons_self ..)
    obtain ⟨fresh, distinct⟩ := List.nodup_cons.mp distinct
    rw [writeAll, name] at done
    split at done
    · cases done
    · rename_i middle written
      have first := FileTree.write_wroteInto there down written
      have later := ih (there.of_keeps first.kept)
        (fun other member => plain other (List.mem_cons_of_mem _ member)) distinct done
      exact first.cons later (by simpa [List.map_map] using fresh)

section Work

variable {tree : FileTree} {call : Call} (work : Work tree call)

/-- Without faults every service that counts has its file, in order. -/
theorem Work.files_of_rendered (rendered : work.generation.faults = []) :
    (counted work.services).map (alone work.layout work.linked.pool) = work.generation.files.map .ok := by
  unfold generation at rendered ⊢
  rw [generate_eq] at rendered ⊢
  exact outcomes_of_no_faults rendered

theorem Work.file_of_mem_counted (rendered : work.generation.faults = []) {service : Service}
    (member : service ∈ counted work.services) :
    ∃ file ∈ work.generation.files, alone work.layout work.linked.pool service = .ok file := by
  have listed : alone work.layout work.linked.pool service ∈ work.generation.files.map .ok :=
    work.files_of_rendered rendered ▸ List.mem_map_of_mem member
  obtain ⟨file, listed, same⟩ := List.mem_map.mp listed
  exact ⟨file, listed, same.symm⟩

theorem Work.service_of_mem_files (rendered : work.generation.faults = []) {file : GeneratedFile}
    (member : file ∈ work.generation.files) :
    ∃ service ∈ counted work.services, alone work.layout work.linked.pool service = .ok file := by
  have listed : .ok file ∈ (counted work.services).map (alone work.layout work.linked.pool) :=
    work.files_of_rendered rendered ▸ List.mem_map_of_mem member
  exact List.mem_map.mp listed

theorem Work.mem_services {service : Service} (counts : service ∈ counted work.services) :
    service ∈ work.linked.services := by
  obtain ⟨before, after, split, _⟩ := (mem_counted_iff work.services).mp counts
  have listed : some service ∈ work.linked.services.map some := by
    have whole : work.linked.services.map some = before ++ some service :: after := split
    simp [whole]
  simpa using listed

theorem Work.nodup_names (rendered : work.generation.faults = []) :
    (work.generation.files.map (·.name)).Nodup := by
  have outcomes : List.Forall₂ (· = ·) ((counted work.services).map (alone work.layout work.linked.pool))
      (work.generation.files.map .ok) := by
    rw [work.files_of_rendered rendered]
    exact List.forall₂_refl _
  rw [List.forall₂_map_left_iff, List.forall₂_map_right_iff] at outcomes
  have named : List.Forall₂ (· = ·) ((counted work.services).map (·.fullName ++ ".graphql"))
      (work.generation.files.map (·.name)) := by
    rw [List.forall₂_map_left_iff, List.forall₂_map_right_iff]
    exact outcomes.imp fun _ _ outcome => (alone_eq_ok outcome).1.symm
  rw [List.forall₂_eq_eq_eq] at named
  have names : (counted work.services).map (·.fullName ++ ".graphql") =
      (fullNames work.services).eraseDups.map (· ++ ".graphql") := by
    rw [← fullNames_counted, List.map_map]
    rfl
  rw [← named, names]
  exact (nodup_eraseDups _).map fun _ _ => (String.append_left_inj _).mp

/-- A call that ends well has delivered what it works on. -/
theorem delivered_of_wrote (rendered : work.generation.faults = [])
    (plain : ∀ service ∈ work.linked.services, '/' ∉ service.fullName.toList) {outcome : Outcome}
    (wrote : Wrote tree work.directory work.generation.files outcome) :
    ∃ home, Delivered work (LastOfName work.services) home outcome.tree := by
  obtain ⟨made, making, writing⟩ := wrote.written
  have along := FileTree.makeDirectories_madeAlong making
  obtain ⟨home, there⟩ := along.home
  have names : ∀ file ∈ work.generation.files,
      Path.ofString file.name = { parts := [file.name] } ∧ file.name ≠ ".." := by
    intro file member
    obtain ⟨service, counts, outcome⟩ := work.service_of_mem_files rendered member
    rw [(alone_eq_ok outcome).1]
    exact ofString_schemaFile (plain service (work.mem_services counts))
  have wrote := writeAll_wroteInto there names (work.nodup_names rendered) writing
  refine ⟨home, there.of_keeps wrote.kept, fun service last => ?_, fun place changed => ?_⟩
  · obtain ⟨file, member, outcome⟩ :=
      work.file_of_mem_counted rendered ((mem_counted_iff work.services).mpr last)
    obtain ⟨name, content⟩ := alone_eq_ok outcome
    have written := wrote.written (file.name, Utf8.encode file.content) (List.mem_map_of_mem member)
    exact ⟨file.content, content, by rw [schemaPlace, ← name]; exact written⟩
  · by_cases schema : ∃ file ∈ work.generation.files, place = home ++ [file.name]
    · obtain ⟨file, member, rfl⟩ := schema
      obtain ⟨service, counts, outcome⟩ := work.service_of_mem_files rendered member
      exact .inl ⟨service, work.mem_services counts, by rw [schemaPlace, (alone_eq_ok outcome).1]⟩
    · have untouched : outcome.tree.node? place = made.node? place := by
        refine wrote.others place fun entry listed same => schema ?_
        obtain ⟨file, member, rfl⟩ := List.mem_map.mp listed
        exact ⟨file, member, same⟩
      rw [untouched] at changed ⊢
      obtain ⟨directory, count, leads⟩ := along.made place changed
      have new : tree.node? place = none :=
        Option.eq_none_iff_forall_ne_some.mpr fun node before =>
          changed ((along.kept place node before).trans before.symm)
      exact .inr ⟨new, directory, count, FileTree.place?_of_keeps wrote.kept leads⟩

theorem Work.faults_of_alone {service : Service} {fault : RenderFault} (last : LastOfName work.services service)
    (fails : alone work.layout work.linked.pool service = .error fault) : work.generation.faults ≠ [] := by
  intro rendered
  obtain ⟨file, _, outcome⟩ := work.file_of_mem_counted rendered ((mem_counted_iff work.services).mpr last)
  cases fails.symm.trans outcome

end Work

section Untouched

variable {tree : FileTree} {input : List UInt8}

theorem tree_runPlugin : (runPlugin tree input).tree = tree := by
  simp only [runPlugin]
  split
  · rfl
  · split <;> rfl

theorem tree_runTemplate {output : Setting} {force : Bool}
    (failed : (runTemplate tree output force).exit = .ok 1) :
    (runTemplate tree output force).tree = tree := by
  simp only [runTemplate] at failed ⊢
  split
  · rfl
  · split
    · rfl
    · split
      · rfl
      · simp_all

theorem exit_runTemplate {path : String} (named : path ≠ "")
    (there : tree.exists? (Path.ofString path) = true) :
    (runTemplate tree (.text path) false).exit = .ok 1 := by
  have given : ((Setting.text path).text?.filter (!·.isEmpty)) = some path := by
    simp [Setting.text?, Option.filter, named]
  simp [runTemplate, given, there]

theorem tree_perform {invocation : Invocation} (failed : (perform tree input invocation).exit = .ok 1) :
    (perform tree input invocation).tree = tree := by
  cases invocation with
  | plugin => exact tree_runPlugin
  | template output force => exact tree_runTemplate failed
  | generate descriptorSet out template config logLevel files =>
    exact (perform_ends ⟨descriptorSet, out, template, config, logLevel, files⟩ tree input).tree_eq failed

theorem tree_run {arguments : List String} (failed : (run tree input arguments).exit = .ok 1) :
    (run tree input arguments).tree = tree := by
  unfold run at failed ⊢
  split
  · rename_i ending _
    cases ending <;> rfl
  · simp_all [tree_perform]

end Untouched

/-- A call that ends with 1 leaves the tree as it was. Such are calls that cannot render a service and
calls that would write a template over a file without being told to. A call that generates schemas and
ends with 0 has delivered, where names are fit for files, the rendering of the last service of each
full name, and nothing else. -/
theorem tree_of_exit (tree : FileTree) (input : List UInt8) (arguments : List String) :
    ((run tree input arguments).exit = .ok 1 → (run tree input arguments).tree = tree) ∧
    (∀ path, readArguments arguments = .ok (.template (.text path) false) → path ≠ "" →
      tree.exists? (Path.ofString path) = true → (run tree input arguments).exit = .ok 1) ∧
    ∀ call : Call, readArguments arguments = .ok call.invocation →
      ((run tree input arguments).exit = .ok 0 → Nonempty (Work tree call)) ∧
      ∀ work : Work tree call,
        (∀ service fault, LastOfName work.services service →
          alone work.layout work.linked.pool service = .error fault →
          (run tree input arguments).exit = .ok 1) ∧
        ((run tree input arguments).exit = .ok 0 →
          (∀ service ∈ work.linked.services, '/' ∉ service.fullName.toList) →
          ∃ home, Delivered work (LastOfName work.services) home (run tree input arguments).tree) := by
  refine ⟨tree_run, fun path reads named there => ?_, fun call reads => ?_⟩
  · rw [run, reads]
    exact exit_runTemplate named there
  · have performs : run tree input arguments = perform tree input call.invocation := by rw [run, reads]
    rw [performs]
    refine ⟨fun success => ?_, fun work => ⟨fun service fault last fails => ?_, fun success plain => ?_⟩⟩
    · obtain ⟨work, _⟩ := (perform_ends call tree input).exists_work success
      exact ⟨work⟩
    · exact work.exit_of_faults (work.faults_of_alone last fails)
    · obtain ⟨other, rendered, wrote⟩ := (perform_ends call tree input).exists_work success
      obtain rfl := work.unique other
      exact delivered_of_wrote work rendered plain wrote

/-- A descriptor set of two files with a service `S` each. -/
def sharedSet : List UInt8 :=
  [10, 8, 10, 1, 97, 50, 3, 10, 1, 83, 10, 8, 10, 1, 98, 50, 3, 10, 1, 83]

def sharedProtos : List Proto.FileProto :=
  [{ name := "a", services := [{ name := "S" }] }, { name := "b", services := [{ name := "S" }] }]

def sharedLinked : Link.Linked where
  pool := Link.poolOf sharedProtos
  index := Link.indexes sharedProtos
  services := sharedProtos.flatMap (Link.servicesOf (Link.indexes sharedProtos))
  selected := ["a", "b"]

/-- The service in the set's second file. -/
def lastShared : Service where
  name := "S"
  fullName := "S"
  source := "b"

/-- The set beside a template that nothing can be rendered with. -/
def sharedTree : FileTree where
  nodes := [(["d.pb"], .file sharedSet), (["t.j2"], .file (Utf8.encode "\x7b\x7b other.name \x7d\x7d"))]

theorem readDescriptorSet_shared : readDescriptorSet sharedTree (Path.ofString "d.pb") = .ok sharedProtos := by
  have bytes : sharedTree.read (Path.ofString "d.pb") = .ok sharedSet := by decide +kernel
  have protos : Proto.decodeFileSet sharedSet = .ok sharedProtos := by with_unfolding_all rfl
  rw [readDescriptorSet, bytes]
  exact congrArg (Except.mapError _) protos

theorem linkChosen_shared : (linkChosen sharedProtos []).value = .ok sharedLinked := by
  with_unfolding_all rfl

def sharedWork : Work sharedTree { descriptorSet := .text "d.pb", out := .text "out/sdl" } where
  config := { outputDir := "out/sdl" }
  protos := sharedProtos
  linked := sharedLinked
  template := none
  configured := by with_unfolding_all rfl
  read := ⟨"d.pb", rfl, readDescriptorSet_shared⟩
  chosen := linkChosen_shared
  named := rfl

def faultyWork : Work sharedTree { descriptorSet := .text "d.pb", template := .text "t.j2" } where
  config := { templatePath := some (.text "t.j2") }
  protos := sharedProtos
  linked := sharedLinked
  template := some "t.j2"
  configured := by with_unfolding_all rfl
  read := ⟨"d.pb", rfl, readDescriptorSet_shared⟩
  chosen := linkChosen_shared
  named := rfl

theorem alone_lastShared :
    ∃ fault, alone faultyWork.layout faultyWork.linked.pool lastShared = .error fault := by
  have fails : (alone faultyWork.layout faultyWork.linked.pool lastShared).toOption = none := by decide +kernel
  cases outcome : alone faultyWork.layout faultyWork.linked.pool lastShared with
  | error fault => exact ⟨fault, rfl⟩
  | ok file => simp [outcome, Except.toOption] at fails

theorem exit_shared : (run sharedTree [] ["generate", "-d", "d.pb", "--out=out/sdl"]).exit = .ok 0 := by
  decide +kernel

theorem plain_shared : ∀ service ∈ sharedWork.linked.services, '/' ∉ service.fullName.toList := by
  decide +kernel

theorem tree_of_exit_shared :
    (run sharedTree [] ["generate", "-d", "d.pb", "--out=out/sdl"]).exit = .ok 0 ∧
    (∃ home, Delivered sharedWork (LastOfName sharedWork.services) home
      (run sharedTree [] ["generate", "-d", "d.pb", "--out=out/sdl"]).tree) ∧
    (run sharedTree [] ["generate", "-d", "d.pb", "-t", "t.j2"]).exit = .ok 1 ∧
    (run sharedTree [] ["generate", "-d", "d.pb", "-t", "t.j2"]).tree = sharedTree ∧
    (run sharedTree [] ["template", "-o", "t.j2"]).exit = .ok 1 := by
  obtain ⟨fault, fails⟩ := alone_lastShared
  obtain ⟨_, _, delivering⟩ := tree_of_exit sharedTree [] ["generate", "-d", "d.pb", "--out=out/sdl"]
  obtain ⟨unchanged, _, failing⟩ := tree_of_exit sharedTree [] ["generate", "-d", "d.pb", "-t", "t.j2"]
  obtain ⟨_, keeping, _⟩ := tree_of_exit sharedTree [] ["template", "-o", "t.j2"]
  have delivered := ((delivering _ (by decide +kernel)).2 sharedWork).2 exit_shared plain_shared
  have failed := ((failing _ (by decide +kernel)).2 faultyWork).1 lastShared fault
    ⟨[_], [], rfl, by decide⟩ fails
  exact ⟨exit_shared, delivered, failed, unchanged failed,
    keeping "t.j2" (by decide +kernel) (by decide) (by decide +kernel)⟩

/-- Services that share a full name share a file, so their renderings are delivered only if they are the
same. -/
theorem Delivered.rendering_eq {tree after : FileTree} {call : Call} {work : Work tree call}
    {counts : Service → Prop} {home : Place} (delivered : Delivered work counts home after)
    {first last : Service} (counted : counts first ∧ counts last) (same : first.fullName = last.fullName) :
    (work.layout.render (Build.build work.linked.pool first).value).map Utf8.encode =
      (work.layout.render (Build.build work.linked.pool last).value).map Utf8.encode := by
  obtain ⟨content, rendered, written⟩ := delivered.rendered first counted.1
  obtain ⟨content', rendered', written'⟩ := delivered.rendered last counted.2
  rw [schemaPlace, same] at written
  have equal : Utf8.encode content = Utf8.encode content' :=
    Node.file.inj (Option.some.inj (written.symm.trans written'))
  rw [rendered, rendered']
  exact congrArg Except.ok equal

/-- The first service `S` is not delivered, though the call ends with 0. -/
theorem shared_name_undelivered :
    readArguments ["generate", "-d", "d.pb", "--out=out/sdl"] =
      .ok (Call.invocation { descriptorSet := .text "d.pb", out := .text "out/sdl" }) ∧
    (run sharedTree [] ["generate", "-d", "d.pb", "--out=out/sdl"]).exit = .ok 0 ∧
    (∀ service ∈ sharedWork.linked.services, '/' ∉ service.fullName.toList) ∧
    ∀ home, ¬Delivered sharedWork (· ∈ sharedWork.linked.services) home
      (run sharedTree [] ["generate", "-d", "d.pb", "--out=out/sdl"]).tree := by
  refine ⟨by decide +kernel, exit_shared, plain_shared, fun home delivered => ?_⟩
  have listed : { lastShared with source := "a" } ∈ sharedWork.linked.services ∧
      lastShared ∈ sharedWork.linked.services :=
    ⟨.head _, .tail _ (.head _)⟩
  exact absurd (delivered.rendering_eq listed rfl) (by decide +kernel)

end Subgraph.CommandLine
