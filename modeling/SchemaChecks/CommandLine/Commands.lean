import SchemaChecks.CommandLine.Declaration
import SchemaChecks.Scaffold

/-!
The commands of the program and their options.
-/

namespace SchemaChecks.CommandLine

def programName : String := "contract-validators"
def programVersion : String := "0.1.0"

def verboseOption : Opt := ⟨some 'v', "verbose", .flag, false, none, "Enable debug logging."⟩
def versionOption : Opt := ⟨none, "version", .version, false, none, "Show the version and exit."⟩

def scaffoldOption : Opt :=
  ⟨none, "output", .path, false, some Scaffold.defaultName,
    "Path to the YAML compile configuration template to write"⟩

def configOption : Opt :=
  ⟨none, "config", .path, true, none, "Path to YAML/JSON compile configuration file"⟩

def outputOption : Opt :=
  ⟨none, "output", .path, false, none, "Override the generated module path from the configuration"⟩

def schemaOption : Opt :=
  ⟨none, "schema", .path, true, none, "Path to the YAML/JSON schema document"⟩

def nameOption : Opt := ⟨none, "name", .text, true, none, "Schema name to validate against"⟩

def instanceOption : Opt :=
  ⟨none, "instance", .path, true, none, "Path to a YAML/JSON instance document"⟩

def collectionOption : Opt :=
  ⟨none, "collection", .text, false, none, "Dotted path to the named schema collection"⟩

def program : Command :=
  ⟨[programName], "Schema-driven validator compiler.", [versionOption, verboseOption, helpOption],
    ["COMMAND", "[ARGS]..."]⟩

inductive Verb where
  | generateConfig
  | compile
  | describe
  | check
  deriving DecidableEq, Repr

namespace Verb

def all : List Verb := [.generateConfig, .compile, .describe, .check]

def name : Verb → String
  | .generateConfig => "generate-config"
  | .compile => "compile"
  | .describe => "describe"
  | .check => "check"

def summary : Verb → String
  | .generateConfig => "Generate a placeholder YAML compile configuration with guidance comments."
  | .compile => "Compile schema constraints into a Python validator module."
  | .describe => "Print the ordered checks extracted for every schema."
  | .check => "Validate one instance document against a named schema."

def options : Verb → List Opt
  | .generateConfig => [scaffoldOption]
  | .compile => [configOption, outputOption]
  | .describe => [schemaOption, collectionOption]
  | .check => [schemaOption, nameOption, instanceOption, collectionOption]

def command (v : Verb) : Command :=
  ⟨[programName, v.name], v.summary, v.options ++ [helpOption], []⟩

def ofName? (name : String) : Option Verb := all.find? (·.name = name)

end Verb

end SchemaChecks.CommandLine
