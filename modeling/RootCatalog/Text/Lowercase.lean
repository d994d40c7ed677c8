import RootCatalog.Text.CaseTable
/-! Lower-casing of a text, one character at a time. Two characters need more than the table: the
capital I with a dot becomes two characters, and the capital sigma has a form of its own at the end
of a word. -/
namespace RootCatalog.Text

def isCased (c : Char) : Bool := CodeRange.contain c.toNat casedRanges

def isCaseIgnorable (c : Char) : Bool := CodeRange.contain c.toNat caseIgnorableRanges

def lowerCode (n : Nat) : List LoweringRun → Nat
  | [] => n
  | r :: rest =>
    if n < r.first then n
    else if n ≤ r.last then (if (n - r.first) % r.step = 0 then r.image + (n - r.first) else n)
    else lowerCode n rest

def lowerChar (c : Char) : List Char :=
  if c.toNat < 128 then [c.toLower]
  else if c = 'İ' then ['i', '\u0307']
  else [Char.ofNat (lowerCode c.toNat loweringRuns)]

def casedNext (rest : List Char) : Bool :=
  match rest.dropWhile isCaseIgnorable with
  | [] => false
  | c :: _ => isCased c

def casedAfter (before : Bool) (c : Char) : Bool :=
  if isCaseIgnorable c then before else isCased c

def lowerChars (before : Bool) : List Char → List Char
  | [] => []
  | c :: rest =>
    (if c = 'Σ' then [if before && !casedNext rest then 'ς' else 'σ'] else lowerChar c) ++
      lowerChars (casedAfter before c) rest

def lowercase (s : String) : String := String.ofList (lowerChars false s.toList)

end RootCatalog.Text
