import HtmlTemplate.Text.CaseData

/-!
# Lower case

Full lower-casing of text: every letter by its partner, capital I with a dot as two characters,
and a capital sigma as the final form where it ends a word. Names are compared in lower case when
a renderer is looked up, and ignoring the case of ASCII letters only when a statement is asked for
its name.
-/

set_option autoImplicit false

namespace HtmlTemplate.Text

namespace CaseData

/-- The partner of a code point in a run, if it is one of the run's letters. -/
def Run.lower? (run : Run) (code : Nat) : Option Nat :=
  if run.first ≤ code ∧ code ≤ run.last ∧ (code - run.first) % run.step = 0 then
    some (run.lower + (code - run.first))
  else none

end CaseData

/-- The lower-case form of one character outside any word. -/
def lowerChar (c : Char) : List Char :=
  if c = '\u0130' then ['i', '\u0307']
  else
    match CaseData.runs.findSome? fun run => run.lower? c.toNat with
    | some code => [Char.ofNat code]
    | none => [c]

def isCased (c : Char) : Bool :=
  inClass CaseData.cased c.toNat

def isCaseIgnorable (c : Char) : Bool :=
  inClass CaseData.ignorable c.toNat

/-- Whether the first character that case does not ignore is a letter with case. -/
def meetsCased (cs : List Char) : Bool :=
  match cs.dropWhile isCaseIgnorable with
  | [] => false
  | c :: _ => isCased c

/-- Lower-casing of `cs`, where `before` holds what precedes it, nearest character first. A capital
sigma is final when a letter with case precedes it and none follows in the same word. -/
def lowerChars (before : List Char) : List Char → List Char
  | [] => []
  | c :: cs =>
    let lowered :=
      if c = '\u03a3' then
        if meetsCased before && !meetsCased cs then ['\u03c2'] else ['\u03c3']
      else lowerChar c
    lowered ++ lowerChars (c :: before) cs

def lowercase (s : String) : String :=
  String.ofList (lowerChars [] s.toList)

/-- Equality of texts up to the case of ASCII letters. -/
def sameIgnoringAsciiCase (a b : String) : Bool :=
  a.toList.map Char.toLower == b.toList.map Char.toLower

end HtmlTemplate.Text
