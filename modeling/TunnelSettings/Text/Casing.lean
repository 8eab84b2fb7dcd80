import TunnelSettings.Text.CaseTable

/-!
Letter case of whole texts. `lower` writes every letter small; a capital sigma that ends a word
becomes the final small sigma. `title` writes the first letter of every run of cased letters in title
case and the others small.
-/
namespace TunnelSettings.Text

def isCased (c : Char) : Bool := within cased c

def isCaseIgnorable (c : Char) : Bool := within caseIgnorable c

/-- Whether a capital sigma ends its word: a cased letter comes before it and none after it, where
case-ignorable characters are looked through. `before` holds the nearest character first. -/
def sigmaIsFinal (before after : List Char) : Bool :=
  let cased? (cs : List Char) := ((cs.dropWhile isCaseIgnorable).head?.map isCased).getD false
  cased? before && !cased? after

/-- The small form of a character apart from its neighbours. -/
def lowerChar (c : Char) : List Char :=
  if c.toNat < 128 then [c.toLower] else
    match lowerSpecial.lookup c.toNat with
    | some cs => cs.map Char.ofNat
    | none => [Char.ofNat (shifted lowerRuns c.toNat)]

/-- The form of a character at the start of a word. -/
def titleChar (c : Char) : List Char :=
  if c.toNat < 128 then [c.toUpper] else
    match titleSpecial.lookup c.toNat with
    | some cs => cs.map Char.ofNat
    | none => [Char.ofNat (shifted titleRuns c.toNat)]

/-- The small form of `c` between its neighbours. -/
def lowerBetween (before : List Char) (c : Char) (after : List Char) : List Char :=
  if c = 'Σ' then (if sigmaIsFinal before after then ['ς'] else ['σ']) else lowerChar c

def lowerFrom (before : List Char) : List Char → List Char
  | [] => []
  | c :: cs => lowerBetween before c cs ++ lowerFrom (c :: before) cs

/-- A text in small letters. -/
def lower (s : String) : String := .ofList (lowerFrom [] s.toList)

def titleFrom (before : List Char) : List Char → List Char
  | [] => []
  | c :: cs =>
    let inWord := (before.head?.map isCased).getD false
    (if inWord then lowerBetween before c cs else titleChar c) ++ titleFrom (c :: before) cs

/-- A text with every word capitalised. -/
def title (s : String) : String := .ofList (titleFrom [] s.toList)

end TunnelSettings.Text
