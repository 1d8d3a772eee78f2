/-!
JSON documents, written with one entry on each line and an indentation of two spaces.
-/

namespace Figment.Json

inductive Value where
  | null
  | number (n : Nat)
  | text (s : String)
  | array (items : List Value)
  | object (fields : List (String × Value))

def texts (ss : List String) : Value :=
  .array (ss.map .text)

def hexDigit (n : Nat) : Char :=
  Char.ofNat (if n < 10 then '0'.toNat + n else 'a'.toNat + (n - 10))

/-- A character as it stands in a string: quotes, backslashes and control characters are escaped. -/
def escaped (c : Char) : List Char :=
  if c = '"' then ['\\', '"']
  else if c = '\\' then ['\\', '\\']
  else if c = '\n' then ['\\', 'n']
  else if c = '\r' then ['\\', 'r']
  else if c = '\t' then ['\\', 't']
  else if c = '\x08' then ['\\', 'b']
  else if c = '\x0c' then ['\\', 'f']
  else if c.toNat < 0x20 then ['\\', 'u', '0', '0', hexDigit (c.toNat / 16), hexDigit (c.toNat % 16)]
  else [c]

def quoted (s : String) : String :=
  "\"" ++ .ofList (s.toList.flatMap escaped) ++ "\""

def indent (depth : Nat) : String :=
  "\n" ++ .ofList (List.replicate (2 * depth) ' ')

/-- Entries between brackets, each on a line of its own; without entries the brackets alone. -/
def block (opening closing : String) (depth : Nat) (entries : List String) : String :=
  if entries = [] then opening ++ closing
  else
    opening ++ ",".intercalate (entries.map (indent (depth + 1) ++ ·)) ++ indent depth ++ closing

mutual

def Value.renderAt (depth : Nat) : Value → String
  | .null => "null"
  | .number n => toString n
  | .text s => quoted s
  | .array items => block "[" "]" depth (renderItems depth items)
  | .object fields => block "\x7b" "\x7d" depth (renderFields depth fields)

def renderItems (depth : Nat) : List Value → List String
  | [] => []
  | v :: rest => v.renderAt (depth + 1) :: renderItems depth rest

def renderFields (depth : Nat) : List (String × Value) → List String
  | [] => []
  | (name, v) :: rest =>
    (quoted name ++ ": " ++ v.renderAt (depth + 1)) :: renderFields depth rest

end

def Value.render (v : Value) : String :=
  v.renderAt 0

end Figment.Json
