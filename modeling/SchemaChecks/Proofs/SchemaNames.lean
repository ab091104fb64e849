import SchemaChecks.Proofs.Conversion
import SchemaChecks.Proofs.Reference
import SchemaChecks.Proofs.Taxonomy
import SchemaChecks.Proofs.WrittenModule

/-!
Names of schemas. A name is the text of a key, and two keys of a YAML mapping that are not the same
may have one text. Definitions keep both schemas, the extraction keeps the last of them that is
constrained, and a compile run counts the others as skipped.
-/

namespace SchemaChecks

/-! ### Collections of loaded documents -/

namespace Tree

end Tree

namespace Reading

end Reading

namespace Reading

variable {root : Tree} {path : Option String} {entries : List (String × Tree)} {e : Extraction}

end Reading

open Program Host

namespace CompileRun

variable {h : Host} {r : CompileRequest}

namespace Sample

def repeatedText : String :=
  "$defs:\n 1: \x7btype: object, properties: \x7ba: \x7btype: string, minLength: 1\x7d\x7d\x7d\n" ++
    " '1': \x7btype: object, properties: \x7bb: \x7btype: integer, minimum: 1\x7d\x7d\x7d\n"

def repeated : Host where
  disk := ⟨[(["work"], .directory), (["work", "api.yaml"], fileOf repeatedText),
    (["work", "run.yaml"], fileOf
      "schema: \x7bpath: api.yaml\x7d\noutput: \x7bpath: out.py\x7d\n")]⟩
  here := ["work"]
  log := .unset
  written := []

end Sample

end CompileRun

end SchemaChecks
