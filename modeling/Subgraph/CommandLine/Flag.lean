namespace Subgraph.CommandLine

inductive Flag where
  | help | version
  | descriptorSet | out | template | config | file | logLevel
  | output | force
  deriving DecidableEq, Repr

namespace Flag

def names : Flag → List String
  | help => ["-h", "--help"]
  | version => ["--version"]
  | descriptorSet => ["--descriptor-set", "-d"]
  | out => ["--out", "-o"]
  | template => ["--template", "-t"]
  | config => ["--config", "-c"]
  | file => ["--file", "-f"]
  | logLevel => ["--log-level"]
  | output => ["--output", "-o"]
  | force => ["--force"]

def takesValue : Flag → Bool
  | help | version | force => false
  | _ => true

/-- The flag as reports name it. -/
def title (flag : Flag) : String :=
  "/".intercalate flag.names

end Flag

inductive Command where
  | plugin
  | generate
  | template
  deriving DecidableEq, Repr

namespace Command

def name : Command → String
  | plugin => "plugin"
  | generate => "generate"
  | template => "template"

def all : List Command :=
  [plugin, generate, template]

def ofName? (text : String) : Option Command :=
  all.find? (·.name == text)

end Command

/-- The flags that may be given before a command. -/
def mainFlags : List Flag :=
  [.help, .version]

def Command.flags : Command → List Flag
  | plugin => [.help]
  | generate => [.help, .descriptorSet, .out, .template, .config, .file, .logLevel]
  | template => [.help, .output, .force]

/-- The flags that must be given. -/
def Command.required : Command → List Flag
  | generate => [.descriptorSet]
  | _ => []

end Subgraph.CommandLine
