/-!
Names of validator functions: the words of a schema's name in lower case with underscores between
them. A name that is taken gets the least number from two on that makes it free.
-/

namespace SchemaChecks.FunctionName

def isLower (c : Char) : Bool := 'a' ≤ c && c ≤ 'z'
def isUpper (c : Char) : Bool := 'A' ≤ c && c ≤ 'Z'
def isDigit (c : Char) : Bool := '0' ≤ c && c ≤ '9'

def isWord (c : Char) : Bool := isLower c || isUpper c || isDigit c

/-- Whether a word starts between `a` and `b`, where `next` follows them: at a capital after a small
letter or a digit, and at the last of several capitals if a small letter follows. -/
def isBoundary (a b : Char) (next : Option Char) : Bool :=
  ((isLower a || isDigit a) && isUpper b) || (isUpper a && isUpper b && next.any isLower)

def mark : List Char → List Char
  | a :: b :: rest =>
    if isBoundary a b rest.head? then a :: '_' :: mark (b :: rest) else a :: mark (b :: rest)
  | cs => cs

def squeeze : List Char → List Char
  | [] => []
  | c :: rest =>
    if isWord c then c :: squeeze rest
    else match squeeze rest with
      | '_' :: more => '_' :: more
      | more => '_' :: more

def dropUnderscore : List Char → List Char
  | '_' :: rest => rest
  | cs => cs

def snake (cs : List Char) : List Char :=
  let squeezed := squeeze (mark cs)
  (dropUnderscore (dropUnderscore squeezed).reverse).reverse.map Char.toLower

/-- The name of the function of a schema; a name without words counts as `schema`. -/
def ofSchema (schema : String) : String :=
  match snake schema.toList with
  | [] => "validate_schema"
  | cs => "validate_" ++ String.ofList cs

def numbered (base : String) (k : Nat) : String := s!"{base}_{k}"

/-- The first numbered name from `k` on that is not taken, with `tries` of them tested. -/
def firstFree (taken : List String) (base : String) : Nat → Nat → String
  | 0, k => numbered base k
  | tries + 1, k =>
    if numbered base k ∈ taken then firstFree taken base tries (k + 1) else numbered base k

def free (taken : List String) (base : String) : String :=
  if base ∈ taken then firstFree taken base taken.length 2 else base

def assignAfter (taken : List String) : List String → List String
  | [] => []
  | schema :: rest =>
    let name := free taken (ofSchema schema)
    name :: assignAfter (name :: taken) rest

def assign (schemas : List String) : List String := assignAfter [] schemas

end SchemaChecks.FunctionName
