import Subgraph.CommandLine.Flag

namespace Subgraph.CommandLine

def programName : String :=
  "protoc-gen-graphql"

def versionText : String :=
  s!"{programName} 0.1.0\n"

/-- The name that errors are reported under. -/
def callName : Option Command → String
  | none => programName
  | some command => s!"{programName} {command.name}"

def usage : Option Command → String
  | none => s!"usage: {programName} [-h] [--version] \x7bplugin,generate,template\x7d ...\n"
  | some .plugin => s!"usage: {programName} plugin [-h]\n"
  | some .generate =>
    s!"usage: {programName} generate [-h] --descriptor-set DESCRIPTOR_SET\n" ++
    "                                   [--out OUT] [--template TEMPLATE]\n" ++
    "                                   [--config CONFIG] [--file FILE]\n" ++
    "                                   [--log-level LOG_LEVEL]\n"
  | some .template => s!"usage: {programName} template [-h] [--output OUTPUT] [--force]\n"

def details : Option Command → String
  | none =>
    "Generate federated GraphQL schemas from protobuf services. Without a command,\n" ++
    "runs as a protoc plugin.\n" ++
    "\n" ++
    "positional arguments:\n" ++
    "  \x7bplugin,generate,template\x7d\n" ++
    "                        Available commands\n" ++
    "    plugin              Run as protoc plugin (default)\n" ++
    "    generate            Generate schemas from a descriptor set\n" ++
    "    template            Print the embedded default template\n" ++
    "\n" ++
    "options:\n" ++
    "  -h, --help            show this help message and exit\n" ++
    "  --version             show program's version number and exit\n"
  | some .plugin =>
    "options:\n" ++
    "  -h, --help  show this help message and exit\n"
  | some .generate =>
    "options:\n" ++
    "  -h, --help            show this help message and exit\n" ++
    "  --descriptor-set DESCRIPTOR_SET, -d DESCRIPTOR_SET\n" ++
    "                        Serialized FileDescriptorSet\n" ++
    "  --out OUT, -o OUT     Output directory\n" ++
    "  --template TEMPLATE, -t TEMPLATE\n" ++
    "                        Custom template path\n" ++
    "  --config CONFIG, -c CONFIG\n" ++
    "                        Config file (default: protoc-gen-graphql.yaml if\n" ++
    "                        present)\n" ++
    "  --file FILE, -f FILE  Only generate services of this proto file (repeatable)\n" ++
    "  --log-level LOG_LEVEL\n" ++
    "                        Log level (DEBUG, INFO, WARNING, ERROR)\n"
  | some .template =>
    "options:\n" ++
    "  -h, --help            show this help message and exit\n" ++
    "  --output OUTPUT, -o OUTPUT\n" ++
    "                        Write to file instead of stdout\n" ++
    "  --force               Overwrite existing file\n"

def help (command : Option Command) : String :=
  usage command ++ "\n" ++ details command

end Subgraph.CommandLine
