import Preflight.Text.Hex

/-!
Writing texts and lists of texts as JSON, without insignificant white space. Quotes, backslashes
and the control characters below U+0020 are escaped, the control characters in their short form
where JSON has one; every other character stands for itself.
-/

namespace Preflight.Json

/-! ## 1. Strings -/

def escape (c : Char) : List Char :=
  if c = '"' then ['\\', '"']
  else if c = '\\' then ['\\', '\\']
  else if c = '\x08' then ['\\', 'b']
  else if c = '\t' then ['\\', 't']
  else if c = '\n' then ['\\', 'n']
  else if c = '\x0c' then ['\\', 'f']
  else if c = '\r' then ['\\', 'r']
  else if c.toNat < 0x20 then
    ['\\', 'u', '0', '0', Text.Hex.digit (c.toNat / 16), Text.Hex.digit (c.toNat % 16)]
  else [c]

def string (cs : List Char) : List Char :=
  '"' :: cs.flatMap escape ++ ['"']

/-! ## 2. Lists -/

-- the items behind the first one, each after a comma
def moreStrings : List (List Char) → List Char
  | [] => []
  | cs :: rest => ',' :: string cs ++ moreStrings rest

def strings : List (List Char) → List Char
  | [] => ['[', ']']
  | cs :: rest => '[' :: string cs ++ moreStrings rest ++ [']']

def textArray (items : List String) : String :=
  String.ofList (strings (items.map String.toList))

end Preflight.Json
