import Mathlib.Data.List.Basic
import Subgraph.Proofs.Config
import Subgraph.Proofs.Registry

namespace Subgraph

namespace Config

open Yaml

/-- Nothing but null stands for what is not given. -/
def given (overrides : Entries) : Entries :=
  overrides.filter fun entry => !entry.2.isNull

/-- Entries with layers set over them, one after another. -/
def overlaid (entries : Entries) (layers : List Entries) : Entries :=
  layers.foldl (fun entries layer => entries.update (given layer)) entries

section Keys

theorem mem_strangeKeys {entries : Entries} {key : Scalar} :
    key ∈ strangeKeys entries ↔ key ∈ entries.names ∧ key ∉ keys.map Scalar.text := by
  rw [strangeKeys, List.mem_filter, Bool.not_eq_true', Bool.eq_false_iff, Ne, List.contains_iff_mem]

theorem strangeKeys_put (entries : Entries) (key : Scalar) (value : Value) :
    strangeKeys (entries.put key value) =
      if key ∈ keys.map Scalar.text ∨ key ∈ strangeKeys entries then strangeKeys entries
      else strangeKeys entries ++ [key] := by
  rw [strangeKeys, Registry.names_put]
  by_cases there : key ∈ entries.names
  · have counted : key ∈ keys.map Scalar.text ∨ key ∈ strangeKeys entries := by
      rw [mem_strangeKeys]
      by_cases known : key ∈ keys.map Scalar.text
      · exact .inl known
      · exact .inr ⟨there, known⟩
    rw [if_pos there, if_pos counted]
    rfl
  · have absent : key ∉ strangeKeys entries := fun member => there (mem_strangeKeys.mp member).1
    rw [if_neg there, List.filter_append]
    by_cases known : key ∈ keys.map Scalar.text
    · rw [if_pos (.inl known), List.filter_cons_of_neg (by simpa using known), List.filter_nil, List.append_nil]
      rfl
    · have counted : ¬(key ∈ keys.map Scalar.text ∨ key ∈ strangeKeys entries) := not_or.mpr ⟨known, absent⟩
      rw [if_neg counted, List.filter_cons_of_pos (by simpa using known), List.filter_nil]
      rfl

/-- The unknown keys after setting others depend on no more than those from before. -/
theorem strangeKeys_update {first second : Entries} (same : strangeKeys first = strangeKeys second)
    (others : Entries) : strangeKeys (first.update others) = strangeKeys (second.update others) := by
  induction others generalizing first second with
  | nil => exact same
  | cons entry rest ih =>
    obtain ⟨key, value⟩ := entry
    refine ih ?_
    rw [strangeKeys_put, strangeKeys_put, same]

theorem strangeKeys_eq_nil {entries : Entries} :
    strangeKeys entries = [] ↔ ∀ key ∈ entries.names, key ∈ keys.map Scalar.text := by
  simp only [List.eq_nil_iff_forall_not_mem, mem_strangeKeys, not_and, not_not]

/-- Over known keys nothing but an unknown key is strange. -/
theorem strangeKeys_update_eq_nil {entries others : Entries} (known : strangeKeys entries = []) :
    strangeKeys (entries.update others) = [] ↔ strangeKeys others = [] := by
  simp only [strangeKeys_eq_nil, Registry.mem_names_update]
  constructor
  · intro all key member
    exact all key (.inr member)
  · rintro all key (old | new)
    · exact strangeKeys_eq_nil.mp known key old
    · exact all key new

end Keys

section Settled

theorem name_of_ofName? {text : String} {threshold : Threshold} (found : Threshold.ofName? text = some threshold) :
    threshold.name = text := by
  simpa using List.find?_some found

/-- Each level is read from its name, and the name is in upper case. -/
theorem name_settled (threshold : Threshold) : Threshold.ofName? threshold.name = some threshold ∧
    levelName (some (.text threshold.name)) = threshold.name := by
  have each : (Threshold.all.all fun threshold => Threshold.ofName? threshold.name == some threshold &&
      levelName (some (.text threshold.name)) == threshold.name) = true := by decide +kernel
  have listed : threshold ∈ Threshold.all := by cases threshold <;> decide
  simpa using List.all_eq_true.mp each threshold listed

/-- What a configuration is made of, key by key. -/
theorem ofEntries_eq_ok_iff {entries : Entries} {config : Config} :
    ofEntries entries = .ok config ↔ strangeKeys entries = [] ∧
      config.templatePath = (entries.get? "template_path").filter (·.isTruthy) ∧
      config.threshold.name = levelName (entries.get? "log_level") ∧
      config.outputDir = ((entries.get? "output_dir").map (·.display)).getD "." := by
  rw [ofEntries_eq]
  by_cases known : strangeKeys entries = []
  · rw [if_pos known, settle]
    constructor
    · intro settled
      cases named : Threshold.ofName? (levelName (entries.get? "log_level")) with
      | none =>
        rw [named] at settled
        cases settled
      | some threshold =>
        rw [named] at settled
        cases settled
        exact ⟨known, rfl, name_of_ofName? named, rfl⟩
    · rintro ⟨-, template, level, directory⟩
      rw [← level, (name_settled _).1, ← template, ← directory]
  · rw [if_neg known]
    exact iff_of_false (by simp) fun parts => known parts.1

theorem settle_congr {template otherTemplate level otherLevel directory otherDirectory : Option Value}
    (sameTemplate : template.filter (·.isTruthy) = otherTemplate.filter (·.isTruthy))
    (sameLevel : levelName level = levelName otherLevel)
    (sameDirectory : (directory.map (·.display)).getD "." = (otherDirectory.map (·.display)).getD ".") :
    settle template level directory = settle otherTemplate otherLevel otherDirectory := by
  simp only [settle, sameTemplate, sameLevel, sameDirectory]

/-- A template's path that is left out once is left out again. -/
theorem filter_isTruthy_getD (value : Option Value) :
    (some ((value.filter (·.isTruthy)).getD .null)).filter (·.isTruthy) = value.filter (·.isTruthy) := by
  have null : Value.null.isTruthy = false := rfl
  cases value with
  | none => simp [Option.filter, null]
  | some value => by_cases truthy : value.isTruthy = true <;> simp [Option.filter, truthy, null]

/-- A configuration has its own entries in place of those it was made from. Whatever is set over the ones comes
to the same over the others. -/
theorem ofEntries_toEntries_update {entries : Entries} {config : Config} (made : ofEntries entries = .ok config)
    (others : Entries) : ofEntries (config.toEntries.update others) = ofEntries (entries.update others) := by
  obtain ⟨known, template, level, directory⟩ := ofEntries_eq_ok_iff.mp made
  have own : strangeKeys config.toEntries = [] := rfl
  have strange := strangeKeys_update (own.trans known.symm) others
  have settled :
      settle (Entries.get? (config.toEntries.update others) "template_path")
          (Entries.get? (config.toEntries.update others) "log_level")
          (Entries.get? (config.toEntries.update others) "output_dir") =
        settle (Entries.get? (entries.update others) "template_path")
          (Entries.get? (entries.update others) "log_level")
          (Entries.get? (entries.update others) "output_dir") := by
    simp only [Entries.get?, Registry.get?_update]
    apply settle_congr
    · cases others.reverse.lookup (.text "template_path") with
      | some value => rfl
      | none =>
        change (some (config.templatePath.getD .null)).filter (·.isTruthy) = _
        rw [template, filter_isTruthy_getD]
        rfl
    · cases others.reverse.lookup (.text "log_level") with
      | some value => rfl
      | none =>
        change levelName (some (.text config.threshold.name)) = _
        rw [(name_settled _).2, level]
        rfl
    · cases others.reverse.lookup (.text "output_dir") with
      | some value => rfl
      | none =>
        change config.outputDir = _
        rw [directory]
        rfl
  rw [ofEntries_eq, ofEntries_eq, strange, settled]

end Settled

/-- The value for a key: the last one given, or else the one of the entries. -/
def chosen (entries overrides : Entries) (key : String) : Option Value :=
  ((given overrides).reverse.lookup (.text key)).or (entries.get? key)

section Layers

variable {entries : Entries} {config : Config} (made : ofEntries entries = .ok config)

include made

theorem merge_of_made (overrides : Entries) :
    config.merge overrides = ofEntries (entries.update (given overrides)) :=
  ofEntries_toEntries_update made (given overrides)

/-- As long as merging succeeds, each layer leaves a configuration that the entries with all layers so far make. -/
theorem ofEntries_overlaid {layers : List Entries} {merged : Config}
    (run : layers.foldlM merge config = .ok merged) : ofEntries (overlaid entries layers) = .ok merged := by
  induction layers generalizing entries config with
  | nil =>
    cases run
    exact made
  | cons layer layers ih =>
    rw [List.foldlM_cons] at run
    cases step : config.merge layer with
    | error failure =>
      rw [step] at run
      cases run
    | ok next =>
      rw [step] at run
      exact ih ((merge_of_made made layer).symm.trans step) run

/-- Layers that are merged one after another come to what one merged map comes to, be it a configuration or a
failure of the last layer. -/
theorem foldlM_merge {layers : List Entries} (middle : (layers.dropLast.foldlM merge config).isOk = true) :
    layers.foldlM merge config = ofEntries (overlaid entries layers) := by
  rcases List.eq_nil_or_concat' layers with rfl | ⟨front, last, rfl⟩
  · exact made.symm
  · rw [List.dropLast_concat] at middle
    rw [List.foldlM_append, overlaid, List.foldl_append]
    cases run : front.foldlM merge config with
    | error failure =>
      rw [run] at middle
      cases middle
    | ok merged =>
      have whole := merge_of_made (ofEntries_overlaid made run) last
      change [last].foldlM merge merged = ofEntries ((overlaid entries front).update (given last))
      rw [List.foldlM_cons, whole]
      cases ofEntries ((overlaid entries front).update (given last)) <;> rfl

end Layers

/-- Layers that are set over a configuration one after another come to what its entries with all of them come
to, as long as those before the last one can be set. So a run is configured by the last value that is given for
a key, or else by that of the file, or else by a default, whatever the other keys have. -/
theorem layers_merge_as_one :
    (∀ entries config, ofEntries entries = .ok config → ∀ layers : List Entries,
        (layers.dropLast.foldlM merge config).isOk = true →
          layers.foldlM merge config = ofEntries (overlaid entries layers)) ∧
      ∀ (tree : FileTree) named entries config, FileEntries tree named entries → ofEntries entries = .ok config →
        ∀ overrides : Entries,
          resolve tree named overrides = ofEntries (entries.update (given overrides)) ∧
          ∀ resolved : Config, resolve tree named overrides = .ok resolved ↔
            strangeKeys (given overrides) = [] ∧
              resolved.templatePath = (chosen entries overrides "template_path").filter (·.isTruthy) ∧
              resolved.threshold.name = levelName (chosen entries overrides "log_level") ∧
              resolved.outputDir = ((chosen entries overrides "output_dir").map (·.display)).getD "." := by
  refine ⟨fun entries config made layers middle => foldlM_merge made middle,
    fun tree named entries config source made overrides => ?_⟩
  have merged : resolve tree named overrides = ofEntries (entries.update (given overrides)) := by
    have base := base_of_fileEntries source
    rw [Failure.mapError_lift_self, made] at base
    rw [resolve_of_base base, Failure.mapError_lift_self, merge_of_made made]
  refine ⟨merged, fun resolved => ?_⟩
  rw [merged, ofEntries_eq_ok_iff, strangeKeys_update_eq_nil (ofEntries_eq_ok_iff.mp made).1,
    Entries.get?, Entries.get?, Entries.get?, Registry.get?_update, Registry.get?_update, Registry.get?_update]
  rfl

theorem layers_merge_as_one_reset :
    ofEntries [(.text "log_level", .text "warning"), (.text "template_path", .text "a.j2")] =
        .ok { templatePath := some (.text "a.j2"), threshold := .warning } ∧
      [[(.text "template_path", .text ""), (.text "log_level", .null)], [(.text "output_dir", .text "out")]].foldlM
          merge { templatePath := some (.text "a.j2"), threshold := .warning } =
        ofEntries [(.text "log_level", .text "warning"), (.text "template_path", .text ""),
          (.text "output_dir", .text "out")] ∧
      resolve ({} : FileTree) none [(.text "log_level", .text "Debug")] = .ok { threshold := .debug } := by
  have made : ofEntries [(.text "log_level", .text "warning"), (.text "template_path", .text "a.j2")] =
      .ok { templatePath := some (.text "a.j2"), threshold := .warning } :=
    ofEntries_eq_ok_iff.mpr ⟨by decide +kernel, rfl, by decide +kernel, rfl⟩
  have empty : ofEntries [] = .ok {} := ofEntries_eq_ok_iff.mpr ⟨rfl, rfl, by decide +kernel, rfl⟩
  have absent : FileEntries ({} : FileTree) none [] := .absent rfl (by decide +kernel)
  refine ⟨made, layers_merge_as_one.1 _ _ made _ (by decide +kernel), ?_⟩
  exact ((layers_merge_as_one.2 _ _ _ _ absent empty _).2 _).mpr ⟨by decide +kernel, rfl, by decide +kernel, rfl⟩

end Config

end Subgraph
