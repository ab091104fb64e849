import SchemaChecks.Fault

/-!
What can go wrong in a YAML document. A document that breaks the grammar or the rules of its tags is
malformed, whatever the place. A scalar that its tag promises to be readable, and is not, has a
fault of its own.
-/

namespace SchemaChecks.Yaml

inductive Fault where
  | malformed
  | tooDeep
  | scalar (f : ScalarFault)
  deriving DecidableEq, Repr

end SchemaChecks.Yaml
