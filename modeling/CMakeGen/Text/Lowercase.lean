import CMakeGen.Text.CaseTable

/-!
# Lower case

Identifiers of toolsets, systems and architectures are compared up to letter case, in every
script. Almost every character is mapped by itself. Two are not: the dotted capital I becomes
two characters, and the capital sigma has a form of its own at the end of a word, so its image
depends on the letters around it.
-/

namespace CMakeGen.Text

/-- The lower-case form of one character, the capital sigma read inside a word. -/
def lowerChar (c : Char) : List Char :=
  let n := c.toNat
  if n < 0x80 then [c.toLower]
  else if c = '\u0130' then ['i', '\u0307']
  else match lowercaseRuns.find? fun (first, last, step, _) =>
      first ≤ n && n ≤ last && (n - first) % step == 0 with
    | some (first, _, _, form) => [Char.ofNat (form + (n - first))]
    | none => [c]

/-- Whether the first character that is not passed over has case. -/
def startsCased (cs : List Char) : Bool :=
  match cs.find? (! isCaseIgnorable ·) with
  | some c => isCased c
  | none => false

/-- The lower-case form of a text; `before` is what precedes it, nearest first. -/
def lowerFrom (before : List Char) : List Char → List Char
  | [] => []
  | c :: rest =>
    let image :=
      if c = 'Σ' then
        [if startsCased before && ! startsCased rest then 'ς' else 'σ']
      else lowerChar c
    image ++ lowerFrom (c :: before) rest

/-- The lower-case form of a text. -/
def lowercase (s : String) : String := String.ofList (lowerFrom [] s.toList)

end CMakeGen.Text
