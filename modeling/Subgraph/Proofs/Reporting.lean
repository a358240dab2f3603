import Subgraph.Plugin
import Subgraph.Proofs.Config
import Subgraph.Proofs.Registration

namespace Subgraph

namespace Proto

mutual

/-- Whether all texts of an entry are in UTF-8. -/
def Entry.isLegible : Entry → Bool
  | .text _ content => (Utf8.decode content).isOk
  | .part _ entries => areLegible entries
  | _ => true

def areLegible : List Entry → Bool
  | [] => true
  | entry :: rest => entry.isLegible && areLegible rest

end

end Proto

variable {σ ε : Type} [Host σ ε] {host : σ}

namespace Layout

/-- The layout that a template's path leads to. A template that has no text, or whose text is none, is
replaced by the standard layout. -/
inductive Chosen (host : σ) (template : Option String) : Layout → Prop
  | unnamed (unnamed : template.filter (!·.isEmpty) = none) : Chosen host template .standard
  | unreadable {path report : String} (named : template.filter (!·.isEmpty) = some path)
      (unread : Host.readSource host (Path.ofString path) = .ok (.error report)) :
    Chosen host template .standard
  | invalid {path source : String} {fault : Template.Fault}
      (named : template.filter (!·.isEmpty) = some path)
      (read : Host.readSource host (Path.ofString path) = .ok (.ok source))
      (invalid : Host.readTemplate host source = .ok (.error fault)) : Chosen host template .standard
  | custom {path source : String} {rendering : Rendering}
      (named : template.filter (!·.isEmpty) = some path)
      (read : Host.readSource host (Path.ofString path) = .ok (.ok source))
      (valid : Host.readTemplate host source = .ok (.ok rendering)) :
    Chosen host template (.custom (Path.ofString path).name rendering)

variable {template : Option String}

theorem loadOn_tree (tree : FileTree) (template : Option String) :
    loadOn tree template = .ok (load tree template) := by
  unfold load
  cases loadOn tree template with
  | error exception => cases exception
  | ok loading => rfl

end Layout

namespace Plugin

/-- What a request's services come to in a layout. -/
def generation (layout : Layout) (linked : Link.Linked) : Generation :=
  (generate layout linked.pool (linked.services.map some)).value

/-- A request that is configured so that its files can be linked and generated. -/
def Configured (host : σ) (request : Proto.Request) (layout : Layout) : Prop :=
  ∃ values template, Parameter.parse request.parameter = .ok values ∧ Config.Settled host values template ∧
    Layout.Chosen host template layout

/-- The response to a request whose layout is known. -/
def outcome (request : Proto.Request) (layout : Layout) : Response :=
  match (Link.link request.files (some request.filesToGenerate)).value with
  | .error fault => { error := some fault.message }
  | .ok linked => .ofGeneration (generation layout linked)

/-- The response that is due for a request. -/
inductive Due (host : σ) (request : Proto.Request) : Response → Prop
  | parameter {fault : Parameter.Fault} (invalid : Parameter.parse request.parameter = .error fault) :
    Due host request { error := some fault.message }
  | config {values : Registry String} (valid : Parameter.parse request.parameter = .ok values)
      {fault : Config.Fault} (faulty : Config.Faulty host values fault) :
    Due host request { error := some fault.message }
  | configured {layout : Layout} (configured : Configured host request layout) :
    Due host request (outcome request layout)

/-- The host raises an exception for the first of some texts that it does not take. -/
def Refuses (host : σ) (texts : List String) (exception : ε) : Prop :=
  ∃ front text rest, texts = front ++ text :: rest ∧ (∀ early ∈ front, Host.putText host early = .ok ()) ∧
    Host.putText host text = .error exception

/-- What is reported for a request: a fault of its parameter or of the configuration, the first file to
generate that is missing, or all services that cannot be rendered. -/
inductive Reported (host : σ) (request : Proto.Request) : String → Prop
  | parameter {fault : Parameter.Fault} (invalid : Parameter.parse request.parameter = .error fault) :
    Reported host request fault.message
  | config {values : Registry String} (valid : Parameter.parse request.parameter = .ok values)
      {fault : Config.Fault} (faulty : Config.Faulty host values fault) : Reported host request fault.message
  | missing {layout : Layout} (configured : Configured host request layout) {name : String}
      (missing : Link.missing? request.files request.filesToGenerate = some name) :
    Reported host request (Link.Fault.fileMissing name).message
  | rendering {layout : Layout} (configured : Configured host request layout) {linked : Link.Linked}
      (links : (Link.link request.files (some request.filesToGenerate)).value = .ok linked)
      (faulty : (generation layout linked).faults ≠ []) :
    Reported host request ("\n".intercalate ((generation layout linked).faults.map (·.message)))

section Delivery

variable {response : Response}

theorem forM_putText_or_refuses (host : σ) (texts : List String) :
    texts.forM (Host.putText host) = .ok () ∨ ∃ exception : ε, Refuses host texts exception := by
  induction texts with
  | nil => exact .inl rfl
  | cons text texts ih =>
    cases put : Host.putText host text with
    | error exception => exact .inr ⟨exception, [], text, texts, rfl, by simp, put⟩
    | ok _ =>
      refine ih.imp (fun rest => ?_) ?_
      · rw [List.forM, put]
        exact rest
      · rintro ⟨exception, front, refused, rest, rfl, earlier, raises⟩
        exact ⟨exception, text :: front, refused, rest, rfl, List.forall_mem_cons.mpr ⟨put, earlier⟩, raises⟩

/-- A response is delivered as it is, unless the host refuses one of its texts. -/
theorem deliver_or_refuses (host : σ) (response : Response) :
    deliver host response = .ok response ∨ ∃ exception : ε, Refuses host response.texts exception := by
  refine (forM_putText_or_refuses host response.texts).imp_left fun put => ?_
  rw [deliver, put]

theorem deliver_tree (tree : FileTree) (response : Response) : deliver tree response = .ok response := by
  obtain delivered | ⟨exception, _⟩ := deliver_or_refuses tree response
  · exact delivered
  · cases exception

end Delivery

variable {request : Proto.Request}

theorem respond_of_templateText {config : Config} {template : Option String}
    (named : config.templateText = .ok template) :
    (respond host config request).value =
      match Layout.loadOn host template with
      | .error exception => .error (.raised exception)
      | .ok loading => deliver host (outcome request loading.value) := by
  simp only [respond, named]
  cases Layout.loadOn host template with
  | error exception => rfl
  | ok loading =>
    simp only [Logged.value_bind, outcome]
    cases (Link.link request.files (some request.filesToGenerate)).value <;> rfl

theorem answer_of_values {values : Registry String} (valid : Parameter.parse request.parameter = .ok values) :
    (answer host request).result =
      match Config.templateOf host values with
      | .error (.breakdown cause) => .error cause
      | .error (.fault fault) => deliver host { error := some fault.message }
      | .ok template =>
        match Layout.loadOn host template with
        | .error exception => .error (.raised exception)
        | .ok loading => deliver host (outcome request loading.value) := by
  unfold answer
  rw [Config.ofParameter_eq, valid]
  dsimp only
  cases settled : Config.ofValues host values with
  | error failure =>
    rw [Config.templateOf_of_error settled]
    cases failure <;> rfl
  | ok config =>
    rw [Config.templateOf_of_ok settled]
    cases named : config.templateText with
    | error cause =>
      simp only [respond, named]
      rfl
    | ok template => exact respond_of_templateText named

theorem error_ofGeneration {generation : Generation} :
    (Response.ofGeneration generation).error =
      if generation.faults = [] then none else some ("\n".intercalate (generation.faults.map (·.message))) := by
  simp only [Response.ofGeneration, Generation.success, List.isEmpty_iff]

theorem link_of_missing {files : List Proto.FileProto} {names : List String} {name : String}
    (missing : Link.missing? files names = some name) :
    (Link.link files (some names)).value = .error (.fileMissing name) := by
  simp only [Link.link, Option.getD_some, missing]

theorem link_of_not_missing {files : List Proto.FileProto} {names : List String}
    (found : Link.missing? files names = none) :
    ∃ linked, (Link.link files (some names)).value = .ok linked := by
  simp only [Link.link, Option.getD_some, found]
  exact ⟨_, rfl⟩

/-- The error of a response that is due is reported. -/
theorem Due.reported {response : Response} (due : Due host request response) {message : String}
    (error : response.error = some message) : Reported host request message := by
  cases due with
  | parameter invalid =>
    cases error
    exact .parameter invalid
  | config valid faulty =>
    cases error
    exact .config valid faulty
  | configured configured =>
    cases missing : Link.missing? request.files request.filesToGenerate with
    | some name =>
      rw [outcome, link_of_missing missing] at error
      cases error
      exact .missing configured missing
    | none =>
      obtain ⟨linked, links⟩ := link_of_not_missing missing
      rw [outcome, links] at error
      dsimp only at error
      rw [error_ofGeneration] at error
      split at error
      · cases error
      · rename_i faulty
        cases error
        exact .rendering configured links faulty

/-- What is reported is the error of a response that is due. -/
theorem Reported.due {message : String} (reported : Reported host request message) :
    ∃ response, Due host request response ∧ response.error = some message := by
  cases reported with
  | parameter invalid => exact ⟨_, .parameter invalid, rfl⟩
  | config valid faulty => exact ⟨_, .config valid faulty, rfl⟩
  | missing configured missing =>
    refine ⟨_, .configured configured, ?_⟩
    rw [outcome, link_of_missing missing]
  | rendering configured links faulty =>
    refine ⟨_, .configured configured, ?_⟩
    rw [outcome, links]
    exact error_ofGeneration.trans (if_neg faulty)

end Plugin

end Subgraph
