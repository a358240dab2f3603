import Subgraph.Proofs.CommandLine.Flags
import Subgraph.Proofs.CommandLine.Work
import Subgraph.Proofs.Reporting

namespace Subgraph.CommandLine

/-- What both a request and a call can be told. -/
structure Options where
  config : Option String := none
  template : Option String := none
  logLevel : Option String := none

namespace Options

variable (options : Options)

/-- The options as a parameter has them. -/
def registry : Registry String :=
  (options.config.map ("config", ·)).toList ++ (options.template.map ("template_path", ·)).toList ++
    (options.logLevel.map ("log_level", ·)).toList

/-- The values of a parameter say no more and no less than the options. -/
structure Carried (values : Registry String) : Prop where
  config : values.get? "config" = options.config
  template : values.get? "template_path" = options.template
  logLevel : values.get? "log_level" = options.logLevel

/-- The options as a call's flags. -/
def givens : List Given :=
  (options.config.map (Flag.config, ·)).toList ++ (options.template.map (Flag.template, ·)).toList ++
    (options.logLevel.map (Flag.logLevel, ·)).toList

/-- The flags of a call with the options. -/
def flags (set : String) (out : Option String) (names : List String) : List Given :=
  (.descriptorSet, set) :: (out.map (Flag.out, ·)).toList ++ options.givens ++ names.map (Flag.file, ·)

def call (set : String) (out : Option String) (names : List String) : Call where
  descriptorSet := .text set
  out := .ofText? out
  template := .ofText? options.template
  config := .ofText? options.config
  logLevel := .ofText? options.logLevel
  files := names.map some

theorem writable (noComma : ∀ option ∈ options.registry, ',' ∉ option.2.toList)
    (trimmed : ∀ option ∈ options.registry, Text.trim option.2.toList = option.2.toList) :
    Parameter.Writable options.registry := by
  refine ⟨?_, ?_, noComma, trimmed⟩
  all_goals
    obtain ⟨config, template, logLevel⟩ := options
    cases config <;> cases template <;> cases logLevel <;> simp [registry, Registry.names, Parameter.keys]

theorem carried_registry : options.Carried options.registry := by
  obtain ⟨config, template, logLevel⟩ := options
  cases config <;> cases template <;> cases logLevel <;> constructor <;> rfl

theorem filter_files (names : List String) (flag : Flag) :
    (names.map (Flag.file, ·)).filter (·.1 = flag) = if flag = .file then names.map (Flag.file, ·) else [] := by
  split
  · rename_i file
    simp [file]
  · rename_i other
    simp [Ne.symm other]

theorem invocation_flags (set : String) (out : Option String) (names : List String) :
    Command.generate.invocation ((options.flags set out names).map pieceOf) =
      (options.call set out names).invocation := by
  obtain ⟨config, template, logLevel⟩ := options
  simp only [Command.invocation, settingOf, values_pieceOf, flags, givens, List.filter_append, List.filter_cons,
    filter_files, call, Call.invocation]
  cases out <;> cases config <;> cases template <;> cases logLevel <;> simp [Setting.ofText?]

theorem readArguments_flags {set : String} {out : Option String} {names : List String}
    (joinable : Joinable (options.flags set out names)) :
    readArguments ("generate" :: (options.flags set out names).map joined) =
      .ok (options.call set out names).invocation := by
  rw [readArguments_joined joinable (List.mem_cons_self ..), invocation_flags]

end Options

section Call

variable {tree : FileTree} {set : String} {names : List String} {files : List Proto.FileProto}

theorem linkChosen_names (named : names ≠ []) (files : List Proto.FileProto) :
    (linkChosen files (names.map some)).value =
      (Link.link files (some names)).value.mapError fun fault => .fault (.unlinkable fault) := by
  have some : (names.map some).isEmpty = false := by simpa using named
  simp [linkChosen, some]

/-- What a call on some files of a set generates. -/
theorem generateFrom_names (config : Config) (named : names ≠ [])
    (read : readDescriptorSet tree (Path.ofString set) = .ok files) :
    (generateFrom tree config (.text set) (names.map some)).value =
      match (Link.link files (some names)).value, config.templateText with
      | .error fault, _ => .error (.fault (.unlinkable fault))
      | .ok _, .error cause => .error (.breakdown cause)
      | .ok linked, .ok template => .ok (Plugin.generation (Layout.load tree template).value linked) := by
  simp only [generateFrom, Setting.text?, read, Logged.value_bind, linkChosen_names named]
  cases (Link.link files (some names)).value with
  | error fault => rfl
  | ok linked =>
    cases config.templateText <;> rfl

end Call

section Agreement

variable {tree : FileTree} {options : Options} {values : Registry String}

theorem Options.resolve_call (set : String) (out : Option String) (names : List String) :
    (options.call set out names).resolve tree =
      Config.resolve tree options.config [Config.override "template_path" (.ofText? options.template),
        Config.override "output_dir" (.ofText? out),
        Config.override "log_level" (.ofText? options.logLevel)] := by
  unfold Call.resolve call
  cases options.config <;> rfl

/-- A call and a parameter that carry the same options lead to the same template or fail alike. -/
theorem Options.Carried.templatePath_eq (carried : options.Carried values) (tree : FileTree) (set : String)
    (out : Option String) (names : List String) :
    ((options.call set out names).resolve tree).map (·.templatePath) =
      (Config.ofValues tree values).map (·.templatePath) := by
  rw [resolve_call, Config.templatePath_resolve, Config.ofValues, carried.config, carried.template,
    carried.logLevel]

/-- A call that fails says so by its exit code, as a response does by its error. -/
structure Agrees (tree : FileTree) (call : Call) (outcome : Outcome) (response : Response) : Prop where
  failure : outcome.exit = .ok 1 ↔ response.error.isSome = true
  success : outcome.exit = .ok 0 → ∃ config, call.resolve tree = .ok config ∧
    Wrote tree (Path.ofString config.outputDir) response.files outcome

theorem agrees_of_failure {call : Call} {outcome : Outcome} {response : Response} (exit : outcome.exit = .ok 1)
    (reported : response.error.isSome = true) : Agrees tree call outcome response where
  failure := iff_of_true exit reported
  success := fun success => by cases exit.symm.trans success

theorem agrees_of_generation {call : Call} {config : Config} (configured : call.resolve tree = .ok config)
    {generation : Generation} (generated :
      (generateFrom tree config call.descriptorSet call.files).value = .ok generation)
    {code : Nat} (exit : (runGenerate tree config call.descriptorSet call.files).exit = .ok code) :
    Agrees tree call (runGenerate tree config call.descriptorSet call.files) (.ofGeneration generation) := by
  simp only [runGenerate, generated] at exit ⊢
  cases success : generation.success with
  | false => exact agrees_of_failure (by simp) (by simp [Response.ofGeneration, success])
  | true =>
    rw [if_pos success] at exit
    have clean : (Response.ofGeneration generation).error = none := by simp [Response.ofGeneration, success]
    obtain ⟨rfl, wrote⟩ := writeGeneration_of_exit exit
    rw [if_pos rfl]
    exact ⟨by simp [clean, exit], fun _ => ⟨config, configured, wrote⟩⟩

/-- The configuration of a call beside that of a parameter which carries the same options. -/
theorem Options.Carried.ofValues_of_error (carried : options.Carried values) {set : String} {out : Option String}
    {names : List String} {failure : Failure Config.Fault}
    (failed : (options.call set out names).resolve tree = .error failure) :
    Config.ofValues tree values = .error failure := by
  have same := carried.templatePath_eq tree set out names
  rw [failed] at same
  cases settled : Config.ofValues tree values with
  | error other =>
    rw [settled] at same
    cases same
    rfl
  | ok config =>
    rw [settled] at same
    cases same

theorem Options.Carried.templateOf_of_ok (carried : options.Carried values) {set : String} {out : Option String}
    {names : List String} {config : Config}
    (configured : (options.call set out names).resolve tree = .ok config) :
    Config.templateOf tree values = config.templateText.mapError .breakdown := by
  have same := carried.templatePath_eq tree set out names
  rw [configured] at same
  cases settled : Config.ofValues tree values with
  | error failure =>
    rw [settled] at same
    cases same
  | ok other =>
    rw [settled] at same
    rw [Config.templateOf_of_ok settled, Config.templateText_congr (Except.ok.inj same)]
    simp only [Breakdown.lift_self]

theorem exit_of_unlinkable {config : Config} {descriptorSet : Setting} {names : List (Option String)}
    {fault : DescriptorFault}
    (failed : (generateFrom tree config descriptorSet names).value = .error (.fault fault)) :
    (runGenerate tree config descriptorSet names).exit = .ok 1 := by
  simp only [runGenerate, failed]

/-- In a tree a template's path always leads to a layout. -/
theorem answer_of_templateOf {request : Proto.Request} (valid : Parameter.parse request.parameter = .ok values)
    {template : Option String} (settled : Config.templateOf tree values = .ok template) :
    (Plugin.answer tree request).result = .ok (Plugin.outcome request (Layout.load tree template).value) := by
  rw [Plugin.answer_of_values valid, settled]
  dsimp only
  rw [Layout.loadOn_tree]
  exact Plugin.deliver_tree ..

/-- Under the same options a call on a set of files and a request for the same files agree, unless one of
them breaks down. -/
theorem perform_agrees {request : Proto.Request} (named : request.filesToGenerate ≠ [])
    (valid : Parameter.parse request.parameter = .ok values) (carried : options.Carried values) {set : String}
    (read : readDescriptorSet tree (Path.ofString set) = .ok request.files) (out : Option String)
    (input : List UInt8) {response : Response} (answered : (Plugin.answer tree request).result = .ok response)
    {code : Nat}
    (exit : (perform tree input (options.call set out request.filesToGenerate).invocation).exit = .ok code) :
    Agrees tree (options.call set out request.filesToGenerate)
      (perform tree input (options.call set out request.filesToGenerate).invocation) response := by
  rw [perform_eq] at exit ⊢
  cases configured : (options.call set out request.filesToGenerate).resolve tree with
  | error failure =>
    rw [configured] at exit
    rw [Plugin.answer_of_values valid,
      Config.templateOf_of_error (carried.ofValues_of_error configured)] at answered
    cases failure with
    | breakdown cause => cases exit
    | fault fault =>
      dsimp only at answered
      rw [Plugin.deliver_tree] at answered
      cases answered
      exact agrees_of_failure rfl rfl
  | ok config =>
    rw [configured] at exit
    have templated := carried.templateOf_of_ok configured
    have generated := generateFrom_names config named read
    cases text : config.templateText with
    | error cause =>
      rw [Plugin.answer_of_values valid, templated, text] at answered
      cases answered
    | ok template =>
      rw [text] at templated generated
      rw [answer_of_templateOf valid templated, Plugin.outcome] at answered
      cases linked : (Link.link request.files (some request.filesToGenerate)).value with
      | error fault =>
        rw [linked] at answered generated
        cases answered
        exact agrees_of_failure (exit_of_unlinkable generated) rfl
      | ok linked' =>
        rw [linked] at answered generated
        cases answered
        exact agrees_of_generation configured generated exit

end Agreement

/-- A request whose parameter carries options, and a call with the same options as flags on a set of the
same files: the call fails if and only if the response has an error, and otherwise it writes the files of
the response. The words of the flags lead to this call unless one of their values is `--`. -/
theorem modes_agree (tree : FileTree) (input setBytes requestBytes : List UInt8) (request : Proto.Request)
    (options : Options) (set : String) (out : Option String) (named : request.filesToGenerate ≠ [])
    (noComma : ∀ option ∈ options.registry, ',' ∉ option.2.toList)
    (trimmed : ∀ option ∈ options.registry, Text.trim option.2.toList = option.2.toList)
    (carrying : request.parameter = Parameter.write options.registry)
    (requested : Proto.Request.decode requestBytes = .ok request)
    (stored : tree.read (Path.ofString set) = .ok setBytes)
    (same : Proto.decodeFileSet setBytes = .ok request.files) :
    (Joinable (options.flags set out request.filesToGenerate) →
      run tree input ("generate" :: (options.flags set out request.filesToGenerate).map joined) =
        perform tree input (options.call set out request.filesToGenerate).invocation) ∧
    ∃ answered, Plugin.run tree requestBytes = .ok answered ∧
      ∀ response code, answered.result = .ok response →
        (perform tree input (options.call set out request.filesToGenerate).invocation).exit = .ok code →
        Agrees tree (options.call set out request.filesToGenerate)
          (perform tree input (options.call set out request.filesToGenerate).invocation) response := by
  have read : readDescriptorSet tree (Path.ofString set) = .ok request.files := by
    rw [readDescriptorSet, stored]
    exact congrArg (Except.mapError _) same
  have valid : Parameter.parse request.parameter = .ok options.registry := by
    rw [carrying]
    exact Parameter.parse_write (options.writable noComma trimmed)
  have runs : Plugin.run tree requestBytes = .ok (Plugin.answer tree request) := by
    rw [Plugin.run, requested]
    rfl
  refine ⟨fun joinable => ?_, _, runs, fun response code answered exit => ?_⟩
  · rw [run, options.readArguments_flags joinable]
  · exact perform_agrees named valid options.carried_registry read out input answered exit

/-- A set of one file with a service. -/
def singleSet : List UInt8 :=
  [10, 8, 10, 1, 97, 50, 3, 10, 1, 83]

def singleTree : FileTree where
  nodes := [(["d.pb"], .file singleSet)]

/-- A request for the same file, with a parameter. -/
def singleBytes : List UInt8 :=
  [10, 1, 97, 18, 15, 108, 111, 103, 95, 108, 101, 118, 101, 108, 61, 101, 114, 114, 111, 114,
    122, 8, 10, 1, 97, 50, 3, 10, 1, 83]

def singleRequest : Proto.Request where
  filesToGenerate := ["a"]
  parameter := "log_level=error"
  files := [{ name := "a", services := [{ name := "S" }] }]

def singleOptions : Options where
  logLevel := some "error"

def singleArguments : List String :=
  ["generate", "--descriptor-set=d.pb", "--out=sdl", "--log-level=error", "--file=a"]

def singleResponse : Response where
  files := [{
    name := "S.graphql"
    content := "# Code generated by protoc-gen-graphql. DO NOT EDIT.\n# source: a\n# service: S\n\n" ++
      "type Query \x7b\n  _empty: Boolean\n\x7d\n" }]

theorem answer_single : (Plugin.answer singleTree singleRequest).result = .ok singleResponse := by
  decide +kernel

theorem modes_agree_single :
    (run singleTree [] singleArguments).exit = .ok 0 ∧
    (Plugin.answer singleTree singleRequest).result = .ok singleResponse ∧
    ∃ config, (singleOptions.call "d.pb" (some "sdl") ["a"]).resolve singleTree = .ok config ∧
      Wrote singleTree (Path.ofString config.outputDir) singleResponse.files
        (run singleTree [] singleArguments) := by
  have requested : Proto.Request.decode singleBytes = .ok singleRequest := by with_unfolding_all rfl
  have exit : (run singleTree [] singleArguments).exit = .ok 0 := by decide +kernel
  obtain ⟨reads, answered, runs, agree⟩ := modes_agree singleTree [] singleSet singleBytes singleRequest
    singleOptions "d.pb" (some "sdl") (by decide) (by decide) (by decide) (by decide) requested
    (by decide +kernel) (by with_unfolding_all rfl)
  have same : answered = Plugin.answer singleTree singleRequest := by
    rw [Plugin.run, requested] at runs
    exact (Except.ok.inj runs).symm
  have performs : run singleTree [] singleArguments = _ := reads (by decide)
  rw [performs] at exit ⊢
  exact ⟨exit, answer_single, (agree _ _ (same ▸ answer_single) exit).success exit⟩

end Subgraph.CommandLine
