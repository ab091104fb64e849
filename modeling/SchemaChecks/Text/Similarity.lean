/-!
How alike two texts are: the longest part that both have in common, then the same to the left and to
the right of it, and so on. The ratio is twice the length of the common parts to the length of both
texts.
-/

namespace SchemaChecks.Text.Similarity

def commonStart : List Char → List Char → Nat
  | a :: as, b :: bs => if a = b then commonStart as bs + 1 else 0
  | _, _ => 0

structure Block where
  left : Nat
  right : Nat
  size : Nat

def longestFrom (i : Nat) (as : List Char) : Nat → List Char → Block → Block
  | _, [], best => best
  | j, b :: bs, best =>
    let size := commonStart as (b :: bs)
    longestFrom i as (j + 1) bs (if best.size < size then ⟨i, j, size⟩ else best)

/-- The first longest common part, in the order of the left text and then of the right one. -/
def longest (right : List Char) : Nat → List Char → Block → Block
  | _, [], best => best
  | i, a :: as, best => longest right (i + 1) as (longestFrom i (a :: as) 0 right best)

/-- The length of the common parts; `fuel` is at least the length of the left text. -/
def matched : Nat → List Char → List Char → Nat
  | 0, _, _ => 0
  | fuel + 1, as, bs =>
    let b := longest bs 0 as ⟨0, 0, 0⟩
    if b.size = 0 then 0
    else
      matched fuel (as.take b.left) (bs.take b.right) + b.size +
        matched fuel (as.drop (b.left + b.size)) (bs.drop (b.right + b.size))

structure Score where
  text : String
  common : Nat
  total : Nat

def score (word candidate : String) : Score :=
  let as := candidate.toList
  let bs := word.toList
  ⟨candidate, 2 * matched as.length as bs, as.length + bs.length⟩

def Score.isClose (s : Score) : Bool := s.total = 0 || 3 * s.total ≤ 5 * s.common

/-- Whether `s` comes before `t`: the higher ratio, or the same ratio and the later text. -/
def Score.before (s t : Score) : Bool :=
  t.common * s.total < s.common * t.total ||
    (t.common * s.total = s.common * t.total && t.text ≤ s.text)

def closeTo (word : String) (candidates : List String) : List String :=
  ((((candidates.map (score word)).filter Score.isClose).mergeSort Score.before).take 3).map
    (·.text)

end SchemaChecks.Text.Similarity
