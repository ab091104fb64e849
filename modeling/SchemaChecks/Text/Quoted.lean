import SchemaChecks.Text.Printable
import SchemaChecks.Text.Surrogate

/-!
Quoted texts: a text between quotes on one line, with every character that cannot stand there
replaced by a backslash form. The quote is a double one exactly when the text holds a single quote
and no double one.
-/

namespace SchemaChecks.Text

namespace Quoted

def hexDigit (n : Nat) : Char :=
  if n < 10 then Char.ofNat (0x30 + n) else Char.ofNat (0x57 + n)

/-- The last `width` hexadecimal digits of `n`, highest first. -/
def hexDigits : Nat → Nat → List Char
  | 0, _ => []
  | width + 1, n => hexDigits width (n / 16) ++ [hexDigit (n % 16)]

def encodeChar (quote c : Char) : List Char :=
  if c = quote || c = '\\' then ['\\', c]
  else if c = '\t' then ['\\', 't']
  else if c = '\n' then ['\\', 'n']
  else if c = '\r' then ['\\', 'r']
  else if isPrintable c then [c]
  else if codeOf c ≤ 0xff then '\\' :: 'x' :: hexDigits 2 (codeOf c)
  else if codeOf c ≤ 0xffff then '\\' :: 'u' :: hexDigits 4 (codeOf c)
  else '\\' :: 'U' :: hexDigits 8 (codeOf c)

def quoteFor (cs : List Char) : Char :=
  if cs.contains '\'' && !cs.contains '"' then '"' else '\''

def encode (cs : List Char) : List Char :=
  let quote := quoteFor cs
  quote :: cs.flatMap (encodeChar quote) ++ [quote]

end Quoted

def quoted (s : String) : String := String.ofList (Quoted.encode s.toList)

/-- The quoted form of a byte string: all but printable ASCII is written as `\xhh`. -/
def quotedBytes (bytes : List UInt8) : String :=
  let cs := bytes.map fun b => Char.ofNat b.toNat
  let quote := Quoted.quoteFor cs
  let body := cs.flatMap fun c =>
    if c.toNat < 0x80 then Quoted.encodeChar quote c
    else '\\' :: 'x' :: Quoted.hexDigits 2 c.toNat
  String.ofList ('b' :: quote :: body ++ [quote])

end SchemaChecks.Text
