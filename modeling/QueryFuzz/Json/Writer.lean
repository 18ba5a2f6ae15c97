/-
  QueryFuzz.Json.Writer
  ─────────────────────
  **FROM A JSON TREE TO TEXT.**

  Written without blanks.  In strings the quote, the backslash and characters
  below U+0020 are escaped, and nothing else.
-/
import QueryFuzz.Json.Basic

namespace QueryFuzz.Json

private def lowerHex (n : Nat) : Char := Nat.digitChar n

/-- A character inside a string. -/
def escapeChar (c : Char) : List Char :=
  if c = '"' then ['\\', '"']
  else if c = '\\' then ['\\', '\\']
  else if c = '\n' then ['\\', 'n']
  else if c = '\r' then ['\\', 'r']
  else if c = '\t' then ['\\', 't']
  else if c = '\x08' then ['\\', 'b']
  else if c = '\x0C' then ['\\', 'f']
  else if c.toNat < 0x20 then
    ['\\', 'u', '0', '0', lowerHex (c.toNat / 16), lowerHex (c.toNat % 16)]
  else [c]

/-- A string with its quotes. -/
def renderString (s : String) : String :=
  "\"" ++ String.ofList (s.toList.flatMap escapeChar) ++ "\""

/-- A key as text. -/
def Key.render (k : Key) : String :=
  match k.text with
  | .ok s => renderString s
  | .error _ => "\"\""

mutual

/-- A value as text.  A cut, and a string without text, is written as null. -/
def render : Json → String
  | cut .. => "null"
  | null _ => "null"
  | bool b _ => toString b
  | number n _ => n.render
  | string (.error _) _ => "null"
  | string (.ok s) _ => renderString s
  | array items _ _ => "[" ++ renderItems items ++ "]"
  | object members _ _ => "\x7b" ++ renderMembers members ++ "\x7d"

/-- Elements with commas between them. -/
def renderItems : List Json → String
  | [] => ""
  | v :: vs => v.render ++ renderItemsTail vs

/-- Elements behind a first one. -/
def renderItemsTail : List Json → String
  | [] => ""
  | v :: vs => "," ++ v.render ++ renderItemsTail vs

/-- Members with commas between them. -/
def renderMembers : List (Key × Json) → String
  | [] => ""
  | (k, v) :: ms => k.render ++ ":" ++ v.render ++ renderMembersTail ms

/-- Members behind a first one. -/
def renderMembersTail : List (Key × Json) → String
  | [] => ""
  | (k, v) :: ms => "," ++ k.render ++ ":" ++ v.render ++ renderMembersTail ms

end

end QueryFuzz.Json
