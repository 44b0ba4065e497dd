import RayScene.Text.Hex
import RayScene.Text.Loose
import RayScene.Text.Printable

/-!
# Quoted text

Messages show a text between single quotes, or between double quotes when it holds a single quote
and no double one. Backslashes, the quote in use, unprintable characters and surrogates are escaped.
-/

namespace RayScene.Text

def quoteFor (points : List CodePoint) : Char :=
  if points.contains (.char '\x27') && !points.contains (.char '"') then '"' else '\x27'

def escapeChar (quote c : Char) : List Char :=
  if c = quote ∨ c = '\\' then ['\\', c]
  else if c = '\n' then ['\\', 'n']
  else if c = '\r' then ['\\', 'r']
  else if c = '\t' then ['\\', 't']
  else if isPrintable c then [c]
  else if c.toNat < 0x100 then '\\' :: 'x' :: hexDigits c.toNat 2
  else if c.toNat < 0x10000 then '\\' :: 'u' :: hexDigits c.toNat 4
  else '\\' :: 'U' :: hexDigits c.toNat 8

def escapePoint (quote : Char) : CodePoint → List Char
  | .char c => escapeChar quote c
  | .surrogate unit => '\\' :: 'u' :: hexDigits unit 4

def quoted (t : LooseText) : String :=
  let points := t.points
  let quote := quoteFor points
  String.ofList (quote :: points.flatMap (escapePoint quote) ++ [quote])

end RayScene.Text
