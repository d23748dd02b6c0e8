import GodotAtlas.Text.Quoted

namespace GodotAtlas.Render

inductive Json where
  | null
  | bool (b : Bool)
  | number (n : Nat)
  | string (s : String)
  | array (items : List Json)
  | object (fields : List (String × Json))

namespace Json

def escapeChar (c : Char) : List Char :=
  if c = '"' then ['\\', '"']
  else if c = '\\' then ['\\', '\\']
  else if c = '\x08' then ['\\', 'b']
  else if c = '\x0c' then ['\\', 'f']
  else if c = '\n' then ['\\', 'n']
  else if c = '\r' then ['\\', 'r']
  else if c = '\t' then ['\\', 't']
  else if c.toNat < 0x20 then
    ['\\', 'u', '0', '0', Nat.digitChar (c.toNat / 16), Nat.digitChar (c.toNat % 16)]
  else [c]

def stringText (s : String) : List Char :=
  '"' :: s.toList.flatMap escapeChar ++ ['"']

def lineBreak (level : Nat) : List Char :=
  '\n' :: List.replicate (2 * level) ' '

mutual

def text (level : Nat) : Json → List Char
  | null => ['n', 'u', 'l', 'l']
  | bool true => ['t', 'r', 'u', 'e']
  | bool false => ['f', 'a', 'l', 's', 'e']
  | number n => Nat.toDigits 10 n
  | string s => stringText s
  | array [] => ['[', ']']
  | array (j :: js) =>
    '[' :: lineBreak (level + 1) ++ text (level + 1) j ++ itemsText (level + 1) js
      ++ lineBreak level ++ [']']
  | object [] => ['\x7b', '\x7d']
  | object ((k, j) :: fs) =>
    '\x7b' :: lineBreak (level + 1) ++ stringText k ++ [':', ' '] ++ text (level + 1) j
      ++ fieldsText (level + 1) fs ++ lineBreak level ++ ['\x7d']

def itemsText (level : Nat) : List Json → List Char
  | [] => []
  | j :: js => ',' :: lineBreak level ++ text level j ++ itemsText level js

def fieldsText (level : Nat) : List (String × Json) → List Char
  | [] => []
  | (k, j) :: fs =>
    ',' :: lineBreak level ++ stringText k ++ [':', ' '] ++ text level j ++ fieldsText level fs

end

def document (j : Json) : String :=
  String.ofList (text 0 j ++ ['\n'])

def optional {α : Type} (f : α → Json) : Option α → Json
  | some a => f a
  | none => null

def list {α : Type} (f : α → Json) (items : List α) : Json :=
  array (items.map f)

def strings (ss : List String) : Json :=
  list string ss

end Json

end GodotAtlas.Render
