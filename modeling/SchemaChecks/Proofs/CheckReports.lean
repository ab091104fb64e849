import SchemaChecks.Proofs.CommandEffects
import SchemaChecks.Proofs.YamlFaults

/-!
When a check reports. Whatever bytes the file of the instance holds, a check of schemas that can be
had ends with a verdict or with one message, unless the instance breaks it off: it nests too deep,
one of its scalars cannot be read for a reason other than a wrong value, or it violates a bound that
has too many digits to be told.
-/

namespace SchemaChecks

open Program Host

namespace Yaml

end Yaml

namespace Rejection

end Rejection

namespace Log

end Log

namespace CommandLine

variable {h : Host} {o : Outcome} {args : List String}

namespace Outcome

end Outcome

section

variable {e : Extraction} {s : ValidatorSet} {schema : String} {bytes : List UInt8}
  {f : SchemaChecks.Fault}

end

variable {l : Line} {d : Document} {e : Extraction} {bytes : List UInt8}

namespace Sample

end Sample

end CommandLine

end SchemaChecks
