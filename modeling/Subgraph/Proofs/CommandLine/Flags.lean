import Subgraph.CommandLine.Arguments
import Subgraph.Proofs.Parameter

namespace Subgraph.CommandLine

/-- A flag with a value. -/
abbrev Given := Flag × String

def Flag.longName (flag : Flag) : String :=
  flag.names.headD ""

/-- A flag with its value as one word. -/
def joined (given : Given) : String :=
  given.1.longName ++ "=" ++ given.2

/-- The flags with values of a call that generates schemas. -/
def valueFlags : List Flag :=
  Command.generate.flags.filter (·.takesValue)

theorem longName_plain : ∀ flag ∈ valueFlags, '=' ∉ flag.longName.toList ∧
    flag.longName.toList.take 2 = ['-', '-'] ∧
    (namedFlags Command.generate.flags).lookup flag.longName = some flag ∧
    (namedFlags mainFlags).lookup flag.longName = none ∧
    (namedFlags mainFlags).filter (fun entry => Text.startsWith flag.longName entry.1) = [] := by
  decide

theorem toList_joined (given : Given) :
    (joined given).toList = given.1.longName.toList ++ '=' :: given.2.toList := by
  simp [joined]

section Word

variable {given : Given} (member : given.1 ∈ valueFlags)

include member

theorem splitEquals_joined : splitEquals (joined given) = (given.1.longName, some given.2) := by
  obtain ⟨plain, _⟩ := longName_plain given.1 member
  obtain ⟨name, rest⟩ := Text.span_equals plain given.2.toList
  simp only [splitEquals, toList_joined, name, rest, String.ofList_toList]

theorem joined_start : ∃ rest, (joined given).toList = '-' :: '-' :: rest := by
  obtain ⟨_, dashes, _⟩ := longName_plain given.1 member
  rw [toList_joined, ← List.take_append_drop 2 given.1.longName.toList, dashes]
  exact ⟨_, rfl⟩

end Word

/-- A word with an equals sign is no flag's name. -/
theorem lookup_joined (given : Given) {flags : List Flag}
    (plain : ∀ entry ∈ namedFlags flags, '=' ∉ entry.1.toList) :
    (namedFlags flags).lookup (joined given) = none := by
  refine List.lookup_eq_none_iff.mpr fun entry listed => ?_
  have equals : '=' ∈ (joined given).toList := by simp [toList_joined]
  have other : joined given ≠ entry.1 := fun same => plain entry listed (same ▸ equals)
  simpa using other

theorem lookup_generate_joined (given : Given) :
    (namedFlags Command.generate.flags).lookup (joined given) = none :=
  lookup_joined given (by decide)

theorem lookup_main_joined (given : Given) : (namedFlags mainFlags).lookup (joined given) = none :=
  lookup_joined given (by decide)

theorem joined_ne_divider (given : Given) : joined given ≠ divider := by
  intro same
  have equals : '=' ∈ (joined given).toList := by simp [toList_joined]
  rw [same] at equals
  exact absurd equals (by decide)

section Look

variable {given : Given} (member : given.1 ∈ valueFlags)

include member

theorem look_joined :
    look Command.generate.flags (joined given) = .ok (.flag ⟨given.1, given.1.longName, some given.2⟩) := by
  obtain ⟨rest, chars⟩ := joined_start member
  obtain ⟨_, _, found, _⟩ := longName_plain given.1 member
  simp only [look, chars, lookup_generate_joined, splitEquals_joined member, found]

/-- Before a command the words of its flags mean nothing, but they are no mistake either. -/
theorem look_main_joined : ∃ word, look mainFlags (joined given) = .ok word := by
  obtain ⟨rest, chars⟩ := joined_start member
  obtain ⟨_, _, _, unknown, none⟩ := longName_plain given.1 member
  simp only [look, chars, lookup_main_joined, splitEquals_joined member, unknown, longMatches, none,
    beq_self_eq_true, if_true, List.map_nil]
  split
  · exact ⟨_, rfl⟩
  · exact ⟨_, rfl⟩

end Look

theorem lookAll_joined {flags : List Flag} {givens : List Given} (word : Given → Word)
    (looks : ∀ given ∈ givens, look flags (joined given) = .ok (word given)) :
    lookAll flags (givens.map joined) = .ok (givens.map fun given => (joined given, word given)) := by
  induction givens with
  | nil => rfl
  | cons given rest ih =>
    have later := ih fun other member => looks other (List.mem_cons_of_mem _ member)
    rw [List.map_cons, lookAll, if_neg (by simpa using joined_ne_divider given),
      looks given (List.mem_cons_self ..), later]
    rfl

/-- Flags that can be given with their values joined to them. -/
def Joinable (givens : List Given) : Prop :=
  ∀ given ∈ givens, given.1 ∈ valueFlags ∧ given.2 ≠ divider

instance (givens : List Given) : Decidable (Joinable givens) :=
  inferInstanceAs (Decidable (∀ given ∈ givens, given.1 ∈ valueFlags ∧ given.2 ≠ divider))

def pieceOf (given : Given) : Piece :=
  .given given.1 (some given.2)

def hitOf (given : Given) : Hit :=
  ⟨given.1, given.1.longName, some given.2⟩

theorem unfold_hitOf {given : Given} (member : given.1 ∈ valueFlags) (value : given.2 ≠ divider) :
    (hitOf given).unfold Command.generate.flags = .ok ([pieceOf given], none) := by
  have takes : given.1.takesValue = true := (List.mem_filter.mp member).2
  have text : given.2.toList ≠ divider.toList := fun same => value (String.toList_inj.mp same)
  simp [Hit.unfold, hitOf, unfoldJoined.eq_def, takes, joinedValue, text, pieceOf]

theorem scan_joined {givens : List Given} (joinable : Joinable givens) :
    scan Command.generate.flags false (givens.map fun given => (joined given, .flag (hitOf given))) =
      { pieces := givens.map pieceOf } := by
  induction givens with
  | nil => rfl
  | cons given rest ih =>
    obtain ⟨member, value⟩ := joinable given (List.mem_cons_self ..)
    have later := ih fun other member => joinable other (List.mem_cons_of_mem _ member)
    rw [List.map_cons, scan, unfold_hitOf member value, later]
    rfl

theorem readPart_generate {givens : List Given} (joinable : Joinable givens) :
    readPart (some .generate) Command.generate.flags (givens.map joined) = .ok (givens.map pieceOf, []) := by
  have looked := lookAll_joined (fun given => .flag (hitOf given)) fun given member =>
    look_joined (joinable given member).1
  have texts : (givens.map pieceOf).find?
      (fun piece => piece == .given .help none || piece == .given .version none) = none := by
    refine List.find?_eq_none.mpr fun piece listed => ?_
    obtain ⟨given, _, rfl⟩ := List.mem_map.mp listed
    simp [pieceOf]
  rw [readPart, looked]
  change (do let pieces ← settle _ (scan _ false _); return (pieces, (scan _ false _).command)) = _
  rw [scan_joined joinable]
  simp only [settle, texts]
  rfl

theorem readPart_main {givens : List Given} (joinable : Joinable givens) :
    readPart none mainFlags ("generate" :: givens.map joined) = .ok ([], "generate" :: givens.map joined) := by
  have looks : ∀ given ∈ givens,
      look mainFlags (joined given) = .ok ((look mainFlags (joined given)).toOption.getD .plain) := by
    intro given member
    obtain ⟨word, looked⟩ := look_main_joined (joinable given member).1
    rw [looked]
    rfl
  have command : look mainFlags "generate" = .ok .plain := by decide
  rw [readPart, lookAll, if_neg (by decide), command, lookAll_joined _ looks]
  change Except.ok (_, "generate" :: _) = _
  rw [List.map_map]
  rfl

theorem values_pieceOf (givens : List Given) (flag : Flag) :
    valuesOf (givens.map pieceOf) flag = (givens.filter (·.1 = flag)).map fun given => some given.2 := by
  induction givens with
  | nil => rfl
  | cons given rest ih =>
    by_cases same : given.1 = flag
    · simp_all [valuesOf, pieceOf]
    · simp_all [valuesOf, pieceOf]

theorem extras_pieceOf (givens : List Given) : extras (givens.map pieceOf) = [] := by
  induction givens with
  | nil => rfl
  | cons given rest ih => exact ih

theorem readCommand_joined {givens : List Given} (joinable : Joinable givens) {path : String}
    (set : (.descriptorSet, path) ∈ givens) :
    readCommand "generate" (givens.map joined) = .ok (Command.generate.invocation (givens.map pieceOf), []) := by
  have required :
      (Command.generate.required.filter fun flag => (valuesOf (givens.map pieceOf) flag).isEmpty) = [] := by
    have some : valuesOf (givens.map pieceOf) .descriptorSet ≠ [] := by
      rw [values_pieceOf]
      exact List.ne_nil_of_mem (List.mem_map_of_mem (List.mem_filter.mpr ⟨set, by simp⟩))
    simpa [Command.required] using some
  have name : Command.ofName? "generate" = some .generate := by decide
  simp only [readCommand, name, readPart_generate joinable, Bind.bind, Except.bind, required, extras_pieceOf]
  rfl

/-- Flags with joined values are read as they are given. -/
theorem readArguments_joined {givens : List Given} (joinable : Joinable givens) {path : String}
    (set : (.descriptorSet, path) ∈ givens) :
    readArguments ("generate" :: givens.map joined) = .ok (Command.generate.invocation (givens.map pieceOf)) := by
  simp only [readArguments, readPart_main joinable, readCommand_joined joinable set, Bind.bind, Except.bind]
  rfl

end Subgraph.CommandLine
