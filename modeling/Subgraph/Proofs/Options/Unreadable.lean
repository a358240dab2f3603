import Subgraph.Proofs.Draft.Termination
import Subgraph.Proofs.Options.Change

namespace Subgraph

open Descriptor

namespace OptionSet

/-- What an option is meant to hold. -/
inductive Form where
  | truth
  | text
  deriving DecidableEq, Repr

/-- Truth values are written as numbers, texts in UTF-8. -/
def Form.fits : Form → Wire.Payload → Bool
  | truth, .varint _ => true
  | text, .bytes content => (Utf8.decode content).isOk
  | _, _ => false

/-- The options that are read from messages. -/
def messageForms : List (Nat × Form) :=
  [(entityOption, .truth)]

/-- The options that are read from fields. -/
def fieldForms : List (Nat × Form) :=
  [(keyOption, .truth), (externalOption, .truth), (requiresOption, .text), (computedFromOption, .text)]

/-- The option is given, but its last entry does not hold what it should. -/
def isBroken (options : OptionSet) (number : Nat) (form : Form) : Bool :=
  (options.last? number).any (!form.fits ·)

/-- Takes out, with all their entries, those of the options listed that are broken. -/
def dropBroken (forms : List (Nat × Form)) (options : OptionSet) : OptionSet where
  fields := options.fields.filter fun entry => !(forms.lookup entry.number).any (options.isBroken entry.number)

theorem last?_filter (options : OptionSet) (keep : Nat → Bool) (number : Nat) :
    last? ⟨options.fields.filter (keep ·.number)⟩ number =
      if keep number then options.last? number else none := by
  unfold last?
  rw [← List.filter_reverse, List.find?_filter]
  split
  case isTrue kept =>
    congr 2
    funext entry
    by_cases found : entry.number = number <;> simp [found, kept]
  case isFalse dropped =>
    rw [Option.map_eq_none_iff, List.find?_eq_none]
    intro entry _
    by_cases found : entry.number = number <;> simp [found, dropped]

/-- An option that is listed keeps its last entry, or loses all of them if that one does not fit. -/
theorem last?_dropBroken {forms : List (Nat × Form)} {number : Nat} {form : Form}
    (listed : forms.lookup number = some form) (options : OptionSet) :
    (options.dropBroken forms).last? number = (options.last? number).filter form.fits := by
  rw [dropBroken, last?_filter options fun number => !(forms.lookup number).any (options.isBroken number),
    listed, Option.any_some, isBroken]
  cases options.last? number with
  | none => rfl
  | some payload => simp [Option.filter_some]

end OptionSet

/-- What would be reported if options that cannot be read were not there. -/
def Event.asAbsent : Event → List Event
  | optionUnreadable subject fault => [optionAbsent fault.number subject]
  | directiveUnreadable .. => []
  | event => [event]

/-- The first comes to what the second comes to, and reports what the second would report if options that
cannot be read were not there. -/
structure Logged.AsAbsent {α : Type} (first second : Logged α) : Prop where
  value : first.value = second.value
  events : first.events = second.events.flatMap Event.asAbsent

namespace Logged.AsAbsent

variable {α β : Type}

theorem pure (value : α) : (Pure.pure value : Logged α).AsAbsent (Pure.pure value) :=
  ⟨rfl, rfl⟩

theorem bind {first second : Logged α} {next follow : α → Logged β} (start : first.AsAbsent second)
    (later : ∀ value, (next value).AsAbsent (follow value)) : (first >>= next).AsAbsent (second >>= follow) := by
  have after : (next first.value).AsAbsent (follow second.value) := start.value ▸ later first.value
  refine ⟨after.value, ?_⟩
  change first.events ++ (next first.value).events = (second.events ++ (follow second.value).events).flatMap _
  rw [start.events, after.events, List.flatMap_append]

theorem ite {condition : Prop} [Decidable condition] {first second first' second' : Logged α}
    (positive : first.AsAbsent second) (negative : first'.AsAbsent second') :
    (if condition then first else first').AsAbsent (if condition then second else second') := by
  split
  · exact positive
  · exact negative

end Logged.AsAbsent

/-- Takes the options that cannot be read out of messages and fields. -/
def OptionChange.dropBroken : OptionChange where
  onMessages := OptionSet.dropBroken OptionSet.messageForms
  onFields := OptionSet.dropBroken OptionSet.fieldForms

namespace Federation

open OptionSet

theorem resolve_dropBroken {forms : List (Nat × Form)} {number : Nat}
    (listed : forms.lookup number = some .truth) (options : OptionSet) (subject : Subject)
    {byName : Logged Bool} (named : byName.AsAbsent byName) :
    (resolve (options.dropBroken forms) number subject byName).AsAbsent
      (resolve options number subject byName) := by
  have decided : (do return Resolution.byName (← byName)).AsAbsent (do return Resolution.byName (← byName)) :=
    .bind named fun _ => .pure _
  unfold resolve bool?
  rw [last?_dropBroken listed]
  rcases options.last? number with _ | payload
  · exact .bind ⟨rfl, rfl⟩ fun _ => decided
  · cases payload with
    | varint value => exact .pure _
    | _ =>
      rw [Option.filter_some_neg rfl]
      exact .bind ⟨rfl, rfl⟩ fun _ => decided

variable (field : Field)

theorem resolveKey_dropBroken :
    (resolveKey (OptionChange.dropBroken.field field)).AsAbsent (resolveKey field) := by
  refine resolve_dropBroken rfl field.options (.field field.name) ?_
  exact .ite (.bind ⟨rfl, rfl⟩ fun _ => .pure _) (.pure _)

theorem resolveEntity_dropBroken (message : Message) (hasKey : Bool) :
    (resolveEntity (OptionChange.dropBroken.message message) (some hasKey)).AsAbsent
      (resolveEntity message (some hasKey)) := by
  refine resolve_dropBroken rfl message.options (.message message.name) ?_
  exact .ite (.bind ⟨rfl, rfl⟩ fun _ => .pure _) (.pure _)

theorem isExternal_dropBroken :
    (isExternal (OptionChange.dropBroken.field field)).AsAbsent (isExternal field) := by
  have read : (OptionChange.dropBroken.field field).options.last? externalOption = _ :=
    last?_dropBroken rfl field.options
  unfold isExternal bool?
  rw [read]
  rcases field.options.last? externalOption with _ | payload
  · exact .pure _
  · cases payload with
    | varint value => exact .pure _
    | _ => exact ⟨rfl, rfl⟩

theorem textOption_dropBroken {number : Nat} (listed : fieldForms.lookup number = some .text)
    (directive : String) :
    (textOption (OptionChange.dropBroken.field field) number directive).AsAbsent
      (textOption field number directive) := by
  have read : (OptionChange.dropBroken.field field).options.last? number = _ :=
    last?_dropBroken listed field.options
  unfold textOption text?
  rw [read]
  rcases field.options.last? number with _ | payload
  · exact .pure _
  · cases payload with
    | bytes content =>
      cases decoded : Utf8.decode content with
      | ok text =>
        have fits : Form.text.fits (.bytes content) = true := by
          simp [Form.fits, decoded, Except.isOk, Except.toBool]
        simp only [Option.filter_some_pos fits, decoded]
        exact .pure _
      | error fault =>
        have unfit : Form.text.fits (.bytes content) = false := by
          simp [Form.fits, decoded, Except.isOk, Except.toBool]
        simp only [Option.filter_some_neg unfit, decoded]
        exact ⟨rfl, rfl⟩
    | _ => exact ⟨rfl, rfl⟩

end Federation

namespace Build

open OptionChange (dropBroken)

variable (pool : Pool)

theorem outputField_dropBroken (field : Field) :
    outputField (dropBroken.pool pool) (dropBroken.field field) = outputField pool field := by
  have key : isKey (dropBroken.field field) = isKey field :=
    congrArg Federation.Resolution.holds (Federation.resolveKey_dropBroken field).value
  have external := (Federation.isExternal_dropBroken field).value
  have required : (Federation.requiredSelection (dropBroken.field field)).value = _ :=
    (Federation.textOption_dropBroken field rfl "requires").value
  have computed : (Federation.computedFrom (dropBroken.field field)).value = _ :=
    (Federation.textOption_dropBroken field rfl "computed_from").value
  have plain : plainField (dropBroken.pool pool) objectName (dropBroken.field field) = _ :=
    dropBroken.plainField_field pool (fun _ => rfl) field
  rw [outputField, plain, key, external, required, computed]
  rfl

theorem shownKey?_dropBroken (message : Message) :
    shownKey? (dropBroken.pool pool) (dropBroken.message message) =
      (shownKey? pool message).map dropBroken.field := by
  rw [shownKey?, OptionChange.keptFields_message, List.find?_map, shownKey?]
  congr 2
  funext field
  exact congrArg Federation.Resolution.holds (Federation.resolveKey_dropBroken field).value

theorem entity_dropBroken (message : Message) :
    (entity (dropBroken.pool pool) (dropBroken.message message)).AsAbsent (entity pool message) := by
  unfold entity
  simp only [shownKey?_dropBroken, Option.isSome_map, Option.isNone_map]
  refine .bind (Federation.resolveEntity_dropBroken message _) fun resolution => ?_
  exact .ite (.bind ⟨rfl, rfl⟩ fun _ => .pure _) (.pure _)

theorem objectType_dropBroken (message : Message) :
    objectType (dropBroken.pool pool) (dropBroken.message message) = objectType pool message := by
  have fields : ((dropBroken.pool pool).keptFields (dropBroken.message message)).map
      (outputField (dropBroken.pool pool)) = (pool.keptFields message).map (outputField pool) := by
    rw [OptionChange.keptFields_message, List.map_map]
    exact List.map_congr_left fun field _ => outputField_dropBroken pool field
  rw [objectType, (entity_dropBroken pool message).value, shownKey?_dropBroken, fields, objectType]
  cases (entity pool message).value <;> cases shownKey? pool message <;> rfl

theorem outputEvents_dropBroken (step : Step) :
    outputEvents (dropBroken.pool pool) (dropBroken.step step) =
      (outputEvents pool step).flatMap Event.asAbsent := by
  cases step with
  | enter message => rfl
  | skip field => rfl
  | leave message => exact (entity_dropBroken pool message).events
  | field field =>
    have external := (Federation.isExternal_dropBroken field).events
    have required : (Federation.requiredSelection (dropBroken.field field)).events = _ :=
      (Federation.textOption_dropBroken field rfl "requires").events
    have computed : (Federation.computedFrom (dropBroken.field field)).events = _ :=
      (Federation.textOption_dropBroken field rfl "computed_from").events
    have key := (Federation.resolveKey_dropBroken field).events
    simp only [outputEvents, OptionChange.step, external, required, computed, key, List.flatMap_append]
    rfl

variable (schema : Schema)

theorem addOutput_dropBroken (place : Nat) :
    (addOutput (dropBroken.pool pool) schema place).AsAbsent (addOutput pool schema place) := by
  have agree : (addOutput (dropBroken.pool pool) schema place).value.AgreeUnder id _ :=
    addOutput_agree (fun _ => rfl) (objectType_dropBroken pool) (.refl schema) place
  refine ⟨agree.eq, ?_⟩
  have steps : Walk.visit (dropBroken.pool pool) objectName (schema.types.map (·.name)) place = _ :=
    OptionChange.visit_pool pool (fun _ => rfl) ..
  simp only [addOutput, steps, List.flatMap_map, List.flatMap_assoc, outputEvents_dropBroken]

theorem addInput_dropBroken (place : Nat) :
    (addInput (dropBroken.pool pool) schema place).AsAbsent (addInput pool schema place) := by
  have agree : (addInput (dropBroken.pool pool) schema place).value.AgreeUnder id _ :=
    addInput_agree (.refl schema) place
  refine ⟨agree.eq, ?_⟩
  have steps : Walk.visit (dropBroken.pool pool) inputName (schema.inputs.map (·.name)) place = _ :=
    OptionChange.visit_pool pool (fun _ => rfl) ..
  simp only [addInput, steps, List.flatMap_map, List.flatMap_assoc]
  refine List.flatMap_congr fun step _ => ?_
  cases step <;> rfl

theorem addMethod_dropBroken (method : Method) :
    (addMethod (dropBroken.pool pool) schema method).AsAbsent (addMethod pool schema method) := by
  unfold addMethod
  rw [OptionChange.output?_pool]
  cases output? pool method with
  | none => exact ⟨rfl, rfl⟩
  | some entry =>
    refine .bind (addOutput_dropBroken pool schema entry.1) fun walked => ?_
    have request := OptionChange.request?_pool dropBroken pool method
    have root := OptionChange.rootField_pool dropBroken pool method entry.2
    simp only [request, root]
    cases request? pool method with
    | none => exact .bind (.pure _) fun _ => .pure _
    | some taken => exact .bind (addInput_dropBroken pool walked taken.1) fun _ => .pure _

theorem addMethods_dropBroken (service : String) (methods : List (Option Method)) :
    (addMethods (dropBroken.pool pool) service schema methods).AsAbsent
      (addMethods pool service schema methods) := by
  induction methods generalizing schema with
  | nil => exact .pure _
  | cons method? rest ih =>
    cases method? with
    | none => exact .bind ⟨rfl, rfl⟩ fun _ => ih schema
    | some method => exact .bind (addMethod_dropBroken pool schema method) fun next => ih next

/-- A schema is built whatever the options hold, and those that cannot be read might as well not be
there: only what is reported of them differs. -/
theorem unreadable_options_ignored (service : Service) :
    (∃ draft, Draft.run pool (fun _ => pool.messages.length) service.methods = some draft ∧
      draft.schema service = (build pool service).value) ∧
    (build (dropBroken.pool pool) service).value = (build pool service).value ∧
    (build (dropBroken.pool pool) service).events =
      (build pool service).events.flatMap Event.asAbsent := by
  obtain ⟨draft, done⟩ := Draft.run_pool pool service.methods
  have absent : (build (dropBroken.pool pool) service).AsAbsent (build pool service) :=
    .bind (addMethods_dropBroken pool (emptySchema service) service.fullName service.methods)
      fun _ => .bind ⟨rfl, rfl⟩ fun _ => .pure _
  exact ⟨⟨draft, done, Draft.schema_run done service⟩, absent.value, absent.events⟩

end Build

end Subgraph
