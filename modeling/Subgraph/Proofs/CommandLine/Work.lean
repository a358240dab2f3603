import Subgraph.CommandLine
import Subgraph.Proofs.Isolation

namespace Subgraph.CommandLine

open Generation

/-- The flags of a call that generates schemas. -/
structure Call where
  descriptorSet : Setting
  out : Setting := .absent
  template : Setting := .absent
  config : Setting := .absent
  logLevel : Setting := .absent
  files : List (Option String) := []

namespace Call

def invocation (call : Call) : Invocation :=
  .generate call.descriptorSet call.out call.template call.config call.logLevel call.files

/-- The configuration that a call leads to. -/
def resolve (call : Call) (tree : FileTree) : Except (Failure Config.Fault) Config :=
  Config.resolve tree call.config.text? [Config.override "template_path" call.template,
    Config.override "output_dir" call.out, Config.override "log_level" call.logLevel]

end Call

/-- What a call works on once all that it needs has been read. -/
structure Work (tree : FileTree) (call : Call) where
  config : Config
  protos : List Proto.FileProto
  linked : Link.Linked
  template : Option String
  configured : call.resolve tree = .ok config
  read : ∃ path, call.descriptorSet = .text path ∧ readDescriptorSet tree (Path.ofString path) = .ok protos
  chosen : (linkChosen protos call.files).value = .ok linked
  named : config.templateText = .ok template

namespace Work

variable {tree : FileTree} {call : Call} (work : Work tree call)

def layout : Layout :=
  (Layout.load tree work.template).value

def services : List (Option Descriptor.Service) :=
  work.linked.services.map some

def generation : Generation :=
  (generate work.layout work.linked.pool work.services).value

def directory : Path :=
  Path.ofString work.config.outputDir

end Work

section Endings

variable {tree : FileTree} {input : List UInt8} {call : Call}

theorem perform_eq (call : Call) (tree : FileTree) (input : List UInt8) :
    perform tree input call.invocation =
      match call.resolve tree with
      | .error (.breakdown cause) => { exit := .error cause, tree := tree }
      | .error (.fault fault) => { exit := .ok 1, messages := errorLine fault.message, tree := tree }
      | .ok config => runGenerate tree config call.descriptorSet call.files := rfl

theorem text?_eq_some {setting : Setting} {text : String} :
    setting.text? = some text ↔ setting = .text text := by
  cases setting <;> simp [Setting.text?]

/-- All that was read before something could be generated. -/
theorem work_of_generateFrom {config : Config} {generation : Generation}
    (configured : call.resolve tree = .ok config)
    (generated : (generateFrom tree config call.descriptorSet call.files).value = .ok generation) :
    ∃ work : Work tree call, work.config = config ∧ work.generation = generation := by
  unfold generateFrom at generated
  split at generated
  · cases generated
  · rename_i path named
    split at generated
    · cases generated
    · rename_i protos read
      simp only [Logged.value_bind] at generated
      split at generated
      · cases generated
      · rename_i linked chosen
        split at generated
        · cases generated
        · rename_i template templated
          cases generated
          exact ⟨⟨config, protos, linked, template, configured, ⟨path, text?_eq_some.mp named, read⟩, chosen,
            templated⟩, rfl, rfl⟩

/-- Nothing of what a call works on is left open. -/
theorem Work.unique (work other : Work tree call) : work = other := by
  obtain ⟨config, protos, linked, template, configured, ⟨path, named, read⟩, chosen, templated⟩ := work
  obtain ⟨config', protos', linked', template', configured', ⟨path', named', read'⟩, chosen', templated'⟩ := other
  obtain rfl : config = config' := Except.ok.inj (configured.symm.trans configured')
  obtain rfl : path = path' := Setting.text.inj (named.symm.trans named')
  obtain rfl : protos = protos' := Except.ok.inj (read.symm.trans read')
  obtain rfl : linked = linked' := Except.ok.inj (chosen.symm.trans chosen')
  obtain rfl : template = template' := Except.ok.inj (templated.symm.trans templated')
  rfl

theorem Work.generateFrom_eq (work : Work tree call) :
    (generateFrom tree work.config call.descriptorSet call.files).value = .ok work.generation := by
  obtain ⟨path, named, read⟩ := work.read
  simp only [generateFrom, text?_eq_some.mpr named, read, Logged.value_bind, work.chosen, work.named]
  rfl

theorem success_iff {generation : Generation} : generation.success = true ↔ generation.faults = [] :=
  List.isEmpty_iff

/-- What a call has written: files, one after another, into a directory that is made if need be. Its
output names them in the same order. -/
structure Wrote (tree : FileTree) (directory : Path) (files : List GeneratedFile) (outcome : Outcome) :
    Prop where
  written : ∃ made, tree.makeDirectories directory = .ok made ∧
    writeAll directory made files = (outcome.tree, none)
  listed : outcome.output = Utf8.encode (String.join
    (files.map fun file => s!"Generated {(directory.join (Path.ofString file.name)).text}\n"))

theorem writeGeneration_of_exit {directory : Path} {files : List GeneratedFile} {messages : String} {code : Nat}
    (exit : (writeGeneration tree directory files messages).exit = .ok code) :
    code = 0 ∧ Wrote tree directory files (writeGeneration tree directory files messages) := by
  revert exit
  unfold writeGeneration
  split
  · rintro ⟨⟩
  · rename_i made making
    split
    · rintro ⟨⟩
    · rename_i written writing
      rintro ⟨⟩
      exact ⟨rfl, ⟨made, making, writing⟩, rfl⟩

/-- The ways in which a call ends: it breaks down, it fails and nothing is written, or all that it works
on has been read and rendered and is written. -/
inductive Ends (tree : FileTree) (call : Call) (outcome : Outcome) : Prop
  | broken {cause : Breakdown} (exit : outcome.exit = .error cause)
  | failed (exit : outcome.exit = .ok 1) (untouched : outcome.tree = tree)
  | delivered (work : Work tree call) (exit : outcome.exit = .ok 0) (rendered : work.generation.faults = [])
      (wrote : Wrote tree work.directory work.generation.files outcome)

theorem Ends.tree_eq {outcome : Outcome} (ends : Ends tree call outcome) (failed : outcome.exit = .ok 1) :
    outcome.tree = tree := by
  cases ends with
  | broken exit => cases exit.symm.trans failed
  | failed _ untouched => exact untouched
  | delivered _ exit _ _ => cases exit.symm.trans failed

theorem Ends.exists_work {outcome : Outcome} (ends : Ends tree call outcome) (success : outcome.exit = .ok 0) :
    ∃ work : Work tree call, work.generation.faults = [] ∧
      Wrote tree work.directory work.generation.files outcome := by
  cases ends with
  | broken exit => cases exit.symm.trans success
  | failed exit _ => cases exit.symm.trans success
  | delivered work _ rendered wrote => exact ⟨work, rendered, wrote⟩

theorem writeGeneration_ends (work : Work tree call) (rendered : work.generation.faults = [])
    (messages : String) :
    Ends tree call (writeGeneration tree work.directory work.generation.files messages) := by
  cases exit : (writeGeneration tree work.directory work.generation.files messages).exit with
  | error cause => exact .broken exit
  | ok code =>
    obtain ⟨rfl, wrote⟩ := writeGeneration_of_exit exit
    exact .delivered work exit rendered wrote

theorem runGenerate_ends {config : Config} (configured : call.resolve tree = .ok config) :
    Ends tree call (runGenerate tree config call.descriptorSet call.files) := by
  simp only [runGenerate]
  split
  · exact .broken rfl
  · exact .failed rfl rfl
  · rename_i generation generated
    obtain ⟨work, rfl, rfl⟩ := work_of_generateFrom configured generated
    split
    · rename_i success
      exact writeGeneration_ends work (success_iff.mp success) _
    · exact .failed rfl rfl

theorem perform_ends (call : Call) (tree : FileTree) (input : List UInt8) :
    Ends tree call (perform tree input call.invocation) := by
  rw [perform_eq]
  split
  · exact .broken rfl
  · exact .failed rfl rfl
  · rename_i config configured
    exact runGenerate_ends configured

/-- A call fails if something that it works on cannot be rendered. -/
theorem Work.exit_of_faults (work : Work tree call) (faulty : work.generation.faults ≠ []) :
    (perform tree input call.invocation).exit = .ok 1 := by
  have failed : ¬work.generation.success = true := success_iff.not.mpr faulty
  rw [perform_eq, work.configured]
  simp only [runGenerate, work.generateFrom_eq, if_neg failed]

end Endings

end Subgraph.CommandLine
