import ApiLowering.Json.Basic

/-!
# The text of free-form values

Compact text: no blanks, members in the order of their keys, characters beyond ASCII as they are.

## Main definitions

* `Json.quote` — a text between double quotes.
* `Json.render` — the compact text of a value.
-/

namespace ApiLowering.Json

/-- A lower-case hexadecimal digit. -/
def hexDigit (n : Nat) : Char :=
  if n < 10 then Char.ofNat (48 + n) else Char.ofNat (87 + n)

/-- One character of a string. Control characters take a short escape or four hexadecimal digits. -/
def quoteChar (c : Char) : List Char :=
  if c = '"' then ['\\', '"']
  else if c = '\\' then ['\\', '\\']
  else if 0x20 ≤ c.toNat then [c]
  else if c.toNat = 0x08 then ['\\', 'b']
  else if c.toNat = 0x0C then ['\\', 'f']
  else if c = '\n' then ['\\', 'n']
  else if c = '\r' then ['\\', 'r']
  else if c = '\t' then ['\\', 't']
  else ['\\', 'u', '0', '0', hexDigit (c.toNat / 16), hexDigit (c.toNat % 16)]

/-- A text between double quotes. -/
def quote (s : String) : String := String.ofList ('"' :: (s.toList.flatMap quoteChar ++ ['"']))

mutual

/-- The compact text of a value. -/
def render : Json → String
  | .null => "null"
  | .bool b => if b then "true" else "false"
  | .number n => n.text
  | .string s => quote s
  | .array xs => "[" ++ ",".intercalate (renderItems xs) ++ "]"
  | .members es => "\x7b" ++ ",".intercalate (renderMembers es) ++ "\x7d"

/-- The texts of the items of an array. -/
def renderItems : List Json → List String
  | [] => []
  | x :: xs => render x :: renderItems xs

/-- The texts of the members of an object. -/
def renderMembers : List (String × Json) → List String
  | [] => []
  | e :: es => renderMember e :: renderMembers es

/-- The text of one member. -/
def renderMember : String × Json → String
  | (k, v) => quote k ++ ":" ++ render v

end

/-- The text of a value in running text: a string without its quotes, all else compactly. -/
def plainText : Json → String
  | .string s => s
  | v => v.render

end ApiLowering.Json
