import GodotAtlas.SortedMap
import GodotAtlas.Text.Matcher

namespace GodotAtlas.Format

open Text

def resScheme : String := "res://"

def resToRelative (path : String) : String :=
  match skip? resScheme.toList path.toList with
  | some rest => String.ofList rest
  | none => path

-- The body of a quoted value up to its closing quote, kept as written. A backslash takes the next
-- character along, which must not be a line end.
def quotedBody? : List Char → Option (List Char × List Char)
  | [] => none
  | ['\\'] => none
  | '\\' :: c :: cs =>
    if c = '\n' then none else (quotedBody? cs).map fun (t, r) => ('\\' :: c :: t, r)
  | c :: cs =>
    if c = '"' then some ([], cs) else (quotedBody? cs).map fun (t, r) => (c :: t, r)

def quotedValue? (cs : List Char) : Option (List Char × List Char) :=
  (skip? ['"'] cs).bind fun cs => (quotedBody? cs).map fun (t, r) => ('"' :: t ++ ['"'], r)

def callValue? (cs : List Char) : Option (List Char × List Char) :=
  (word? cs).bind fun (w, cs) =>
    (skip? ['('] cs).bind fun cs => (until? ')' cs).map fun (t, r) => (w ++ '(' :: t ++ [')'], r)

def arrayValue? (cs : List Char) : Option (List Char × List Char) :=
  (skip? ['['] cs).bind fun cs => (until? ']' cs).map fun (t, r) => ('[' :: t ++ [']'], r)

def bareValue? (cs : List Char) : Option (List Char × List Char) :=
  run? (fun c => !isBlank c && c != ']') cs

def value? (cs : List Char) : Option (List Char × List Char) :=
  (quotedValue? cs).or ((callValue? cs).or ((arrayValue? cs).or (bareValue? cs)))

def unescapeQuotes : List Char → List Char
  | '\\' :: '"' :: cs => '"' :: unescapeQuotes cs
  | c :: cs => c :: unescapeQuotes cs
  | [] => []

def unquote (cs : List Char) : List Char :=
  match cs with
  | '"' :: c :: rest =>
    if (c :: rest).getLast? = some '"' then unescapeQuotes (c :: rest).dropLast else cs
  | _ => cs

def keyValue : Matcher (String × String) := fun _ cs =>
  (word? cs).bind fun (key, cs) =>
    (skip? ['='] (trimStart cs)).bind fun cs =>
      (value? (trimStart cs)).map fun (v, rest) =>
        ((String.ofList key, String.ofList (unquote v)), rest)

def attributes (cs : List Char) : SortedMap String String :=
  .ofList (keyValue.all cs)

structure Header where
  kind : String
  attrs : SortedMap String String

namespace Header

-- The text between the white space behind the kind and the bracket that closes the header; it stays
-- on one line.
def attributeText? (cs : List Char) : Option (List Char) :=
  (blank? cs).bind fun cs =>
    if cs.getLast? = some ']' && !cs.contains '\n' then some cs.dropLast else none

def ofLine? (line : List Char) : Option Header :=
  (skip? ['['] (trim line)).bind fun cs =>
    (word? cs).bind fun (kind, cs) =>
      let kind := String.ofList kind
      if cs = [']'] then some { kind, attrs := .empty }
      else (attributeText? cs).map fun text => { kind, attrs := attributes text }

def get? (h : Header) (key : String) : Option String :=
  h.attrs.get? key

def nonEmpty? (h : Header) (key : String) : Option String :=
  (h.get? key).filter (!·.isEmpty)

def all (text : List Char) : List Header :=
  (lines text).filterMap ofLine?

end Header

def extResourceCall : Matcher String := fun _ cs =>
  (skip? "ExtResource(".toList cs).bind fun cs =>
    let cs := trimStart cs
    let cs := (skip? ['"'] cs).getD cs
    (run? (fun c => c != '"' && c != ')' && !isBlank c) cs).bind fun (id, cs) =>
      let cs := (skip? ['"'] cs).getD cs
      (skip? [')'] (trimStart cs)).map fun rest => (String.ofList id, rest)

def extResourceId? (value : String) : Option String :=
  extResourceCall.find? value.toList

end GodotAtlas.Format
