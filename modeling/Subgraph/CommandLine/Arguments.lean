import Subgraph.Basic
import Subgraph.CommandLine.Flag
import Subgraph.Text.Chars
import Subgraph.Text.Quoted

namespace Subgraph.CommandLine

/-- Why arguments make no sense. -/
inductive Misuse where
  | ambiguous (word : String) (names : List String)
  | valueMissing (flag : Flag)
  | valueIgnored (flag : Flag) (value : String)
  | flagsMissing (flags : List Flag)
  | unknownCommand (word : String)
  | unrecognized (words : List String)
  deriving DecidableEq, Repr

def Misuse.message : Misuse → String
  | ambiguous word names =>
    let candidates := ", ".intercalate names
    s!"ambiguous option: {word} could match {candidates}"
  | valueMissing flag => s!"argument {flag.title}: expected one argument"
  | valueIgnored flag value => s!"argument {flag.title}: ignored explicit argument {Text.quoted value}"
  | flagsMissing flags =>
    let titles := ", ".intercalate (flags.map (·.title))
    s!"the following arguments are required: {titles}"
  | unknownCommand word =>
    let choices := ", ".intercalate (Command.all.map fun command => Text.quoted command.name)
    s!"argument command: invalid choice: {Text.quoted word} (choose from {choices})"
  | unrecognized words =>
    let rest := " ".intercalate words
    s!"unrecognized arguments: {rest}"

/-- A flag with the name it was given by, and the value that is joined to it, if one is. -/
structure Hit where
  flag : Flag
  name : String
  value : Option String := none
  deriving DecidableEq, Repr

/-- What a word is by its looks. -/
inductive Word where
  | plain
  | divider
  | flag (hit : Hit)
  | unknownFlag
  deriving DecidableEq, Repr

/-- All names of flags, each with its flag. -/
def namedFlags (flags : List Flag) : List (String × Flag) :=
  flags.flatMap fun flag => flag.names.map (·, flag)

/-- The parts of a word in front of and behind its first equals sign. -/
def splitEquals (word : String) : String × Option String :=
  match word.toList.dropWhile (· != '=') with
  | [] => (word, none)
  | _ :: value => (String.ofList (word.toList.takeWhile (· != '=')), some (String.ofList value))

/-- Flags that a word with two dashes may be short for. -/
def longMatches (flags : List Flag) (word : String) : List Hit :=
  let (start, value) := splitEquals word
  ((namedFlags flags).filter fun (name, _) => Text.startsWith start name).map fun (name, flag) =>
    ⟨flag, name, value⟩

/-- Flags of one letter that a word may start with. -/
def shortMatches (flags : List Flag) (word : String) : List Hit :=
  let start := String.ofList (word.toList.take 2)
  let value := String.ofList (word.toList.drop 2)
  (namedFlags flags).filterMap fun (name, flag) =>
    if name == start then some ⟨flag, name, some value⟩
    else if Text.startsWith word name then some ⟨flag, name, none⟩
    else none

/-- A text without one line end at its end. -/
def dropLineEnd (text : List Char) : List Char :=
  if text.getLast? = some '\n' then text.dropLast else text

/-- Whether a word is a dash with a number after it. The number may have a line end after it. -/
def isNegativeNumber (word : String) : Bool :=
  match dropLineEnd word.toList with
  | '-' :: number =>
    match number.dropWhile Text.isDecimalDigit with
    | [] => !number.isEmpty
    | '.' :: places => !places.isEmpty && places.all Text.isDecimalDigit
    | _ => false
  | _ => false

/-- What a word is among the flags of a command. -/
def look (flags : List Flag) (word : String) : Except Misuse Word :=
  let exact (name : String) := (namedFlags flags).lookup name
  match word.toList, exact word, splitEquals word with
  | '-' :: rest, none, (start, value) =>
    match rest, value, exact start with
    | [], _, _ => .ok .plain
    | _, some value, some flag => .ok (.flag ⟨flag, start, some value⟩)
    | second :: _, _, _ =>
      match if second == '-' then longMatches flags word else shortMatches flags word with
      | [hit] => .ok (.flag hit)
      | [] =>
        if isNegativeNumber word || word.toList.contains ' ' then .ok .plain else .ok .unknownFlag
      | hits => .error (.ambiguous word (hits.map (·.name)))
  | '-' :: _, some flag, _ => .ok (.flag ⟨flag, word, none⟩)
  | _, _, _ => .ok .plain

/-- The word behind which all words are plain. -/
def divider : String := "--"

/-- Words with what they are. -/
def lookAll (flags : List Flag) : List String → Except Misuse (List (String × Word))
  | [] => .ok []
  | word :: rest =>
    if word == divider then .ok ((word, .divider) :: rest.map (·, .plain))
    else do
      let looked ← look flags word
      return (word, looked) :: (← lookAll flags rest)

/-- A flag that is given, with its value if it has one, or a word that belongs to nothing. -/
inductive Piece where
  | given (flag : Flag) (value : Option String)
  | extra (word : String)
  deriving DecidableEq, Repr

/-- What a word with a flag comes to, and the flag whose value the next word has to be. -/
abbrev Unfolded := List Piece × Option Flag

/-- A flag without a value joined to it. -/
def unfoldBare (flag : Flag) : Unfolded :=
  if flag.takesValue then ([], some flag) else ([.given flag none], none)

/-- The value that a text joined to a flag is. The divider is none: joined texts follow the standard
argument parser as it was before release 3.11.9, which keeps the divider and, behind a flag such as `-h`,
passes over letters that name no flag. -/
def joinedValue (text : List Char) : Option String :=
  if text = divider.toList then none else some (String.ofList text)

/-- A flag with text joined to it. Behind a flag of one letter that takes no value, the text goes on
with the next letter's flag. -/
def unfoldJoined (flags : List Flag) (flag : Flag) (short : Bool) (text : List Char) : Except Misuse Unfolded :=
  if flag.takesValue then .ok ([.given flag (joinedValue text)], none)
  else
    match text with
    | [] => .error (.valueIgnored flag "")
    | letter :: rest =>
      match (namedFlags flags).lookup (String.ofList ['-', letter]), short with
      | some next, true => do
        let (pieces, waiting) ←
          if rest.isEmpty then .ok (unfoldBare next) else unfoldJoined flags next true rest
        return (.given flag none :: pieces, waiting)
      | _, _ => .error (.valueIgnored flag (String.ofList text))

def Hit.unfold (flags : List Flag) (hit : Hit) : Except Misuse Unfolded :=
  match hit.value with
  | none => .ok (unfoldBare hit.flag)
  | some value => unfoldJoined flags hit.flag (!Text.startsWith "--" hit.name) value.toList

/-- Words read up to their end, to a mistake, or to the word that names a command. -/
structure Scanned where
  pieces : List Piece := []
  misuse : Option Misuse := none
  /-- The word that names a command and those after it. -/
  command : List String := []
  deriving DecidableEq, Repr

def Scanned.push (pieces : List Piece) (scanned : Scanned) : Scanned :=
  { scanned with pieces := pieces ++ scanned.pieces }

/-- Reads words from left to right. Where commands are expected, the first plain word ends the
reading; a divider in front of it goes with it. -/
def scan (flags : List Flag) (commands : Bool) : List (String × Word) → Scanned
  | [] => {}
  | (word, .plain) :: rest =>
    if commands then { command := word :: rest.map (·.1) }
    else (scan flags commands rest).push [.extra word]
  | (word, .divider) :: rest =>
    if commands && !rest.isEmpty then { command := word :: rest.map (·.1) }
    else (scan flags commands rest).push [.extra word]
  | (word, .unknownFlag) :: rest => (scan flags commands rest).push [.extra word]
  | (_, .flag hit) :: rest =>
    match hit.unfold flags with
    | .error misuse => { misuse := some misuse }
    | .ok (pieces, none) => (scan flags commands rest).push pieces
    | .ok (pieces, some waiting) =>
      match rest with
      | (value, .plain) :: rest => (scan flags commands rest).push (pieces ++ [.given waiting (some value)])
      | _ => { misuse := some (.valueMissing waiting) }

/-- What a call asks for. -/
inductive Invocation where
  | plugin
  | generate (descriptorSet out template config logLevel : Setting) (files : List (Option String))
  | template (output : Setting) (force : Bool)
  deriving DecidableEq, Repr

/-- How the reading of arguments ends early. The command is the one whose part of the arguments is
meant. -/
inductive Ending where
  | help (command : Option Command)
  | version
  | misuse (command : Option Command) (misuse : Misuse)
  deriving DecidableEq, Repr

/-- The pieces of a part of the arguments. A flag that asks for a text ends the reading, and so does a
mistake after it. -/
def settle (command : Option Command) (scanned : Scanned) : Except Ending (List Piece) :=
  match scanned.pieces.find? fun piece => piece == .given .help none || piece == .given .version none with
  | some (.given .version _) => .error .version
  | some _ => .error (.help command)
  | none =>
    match scanned.misuse with
    | some misuse => .error (.misuse command misuse)
    | none => .ok scanned.pieces

def readPart (command : Option Command) (flags : List Flag) (words : List String) :
    Except Ending (List Piece × List String) := do
  let looked ← (lookAll flags words).mapError (.misuse command)
  let scanned := scan flags command.isNone looked
  return (← settle command scanned, scanned.command)

/-- All values of a flag, nothing where it is given without one. -/
def valuesOf (pieces : List Piece) (flag : Flag) : List (Option String) :=
  pieces.filterMap fun
    | .given given value => if given = flag then some value else none
    | _ => none

/-- What a flag is set to by the last time that it is given. -/
def settingOf (pieces : List Piece) (flag : Flag) : Setting :=
  match (valuesOf pieces flag).getLast? with
  | none => .absent
  | some none => .empty
  | some (some value) => .text value

def extras (pieces : List Piece) : List String :=
  pieces.filterMap fun
    | .extra word => some word
    | _ => none

def Command.invocation (command : Command) (pieces : List Piece) : Invocation :=
  match command with
  | plugin => .plugin
  | generate =>
    .generate (settingOf pieces .descriptorSet) (settingOf pieces .out) (settingOf pieces .template)
      (settingOf pieces .config) (settingOf pieces .logLevel) (valuesOf pieces .file)
  | template => .template (settingOf pieces .output) (pieces.contains (.given .force none))

/-- Reads a command with its own arguments. -/
def readCommand (word : String) (words : List String) : Except Ending (Invocation × List String) := do
  match Command.ofName? word with
  | none => throw (.misuse none (.unknownCommand word))
  | some command =>
    let (pieces, _) ← readPart (some command) command.flags words
    let missing := command.required.filter fun flag => (valuesOf pieces flag).isEmpty
    if !missing.isEmpty then throw (.misuse (some command) (.flagsMissing missing))
    return (command.invocation pieces, extras pieces)

/-- Reads the arguments of a call. Without a command the program is a plugin. -/
def readArguments (words : List String) : Except Ending Invocation := do
  let (pieces, command) ← readPart none mainFlags words
  let (invocation, more) ←
    match command with
    | [] => .ok (Invocation.plugin, [])
    | word :: rest => readCommand word rest
  match extras pieces ++ more with
  | [] => return invocation
  | words => throw (.misuse none (.unrecognized words))

end Subgraph.CommandLine
