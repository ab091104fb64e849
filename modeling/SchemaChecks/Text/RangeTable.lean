/-!
Sets of code points as tables of closed ranges, ascending and apart, searched by halving.
-/

namespace SchemaChecks.Text

abbrev RangeTable := Array (Nat × Nat)

namespace RangeTable

/-- The range that holds `n` among those with an index from `lo` up to, not with, `hi`. -/
def search (t : RangeTable) (n : Nat) : Nat → Nat → Nat → Option (Nat × Nat)
  | 0, _, _ => none
  | fuel + 1, lo, hi =>
    if lo ≥ hi then none
    else
      let mid := (lo + hi) / 2
      match t[mid]? with
      | none => none
      | some r =>
        if n < r.1 then t.search n fuel lo mid
        else if r.2 < n then t.search n fuel (mid + 1) hi
        else some r

def rangeOf? (t : RangeTable) (n : Nat) : Option (Nat × Nat) :=
  t.search n (t.size.log2 + 2) 0 t.size

def contains (t : RangeTable) (n : Nat) : Bool := (t.rangeOf? n).isSome

end RangeTable

end SchemaChecks.Text
