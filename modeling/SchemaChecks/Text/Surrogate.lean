/-!
Lone surrogates. Escapes in documents may put code points from U+D800 to U+DFFF into a text, which
no file holds and no character is. A character far up in the last private range stands for each of
them, U+10D800 for U+D800 and so on; texts that hold one of these characters themselves are left
out.
-/

namespace SchemaChecks.Text

def isSurrogateCode (n : Nat) : Bool := 0xd800 ≤ n && n < 0xe000

/-- How far above a surrogate its stand-in is. -/
def standInOffset : Nat := 0x100000

def charOfCode (n : Nat) : Char :=
  Char.ofNat (if isSurrogateCode n then n + standInOffset else n)

def isSurrogate (c : Char) : Bool :=
  0xd800 + standInOffset ≤ c.toNat && c.toNat < 0xe000 + standInOffset

def codeOf (c : Char) : Nat := if isSurrogate c then c.toNat - standInOffset else c.toNat

/-- Surrogates that stand for a byte in the name of a file. -/
def isByteSurrogate (c : Char) : Bool :=
  isSurrogate c && 0xdc80 ≤ codeOf c && codeOf c < 0xdd00

end SchemaChecks.Text
