set_option autoImplicit false

namespace RecordFilter

/-- A part of an expression. The wildcards stand for every character, line breaks too. -/
inductive RegexPart where
  | textStart | textEnd
  | anyOne | anyRun
  | exactly (c : Char)
deriving DecidableEq

abbrev Regex := List RegexPart

namespace Regex

/-- Given at which ends of a text the rest of an expression matches, the longest first, tells at which it does so
with a run of any characters in front: at those with a matching end inside. -/
def afterAnyRun : List Bool → List Bool
  | [] => []
  | b :: bs =>
    let rest := afterAnyRun bs
    (b || rest.headD false) :: rest

def afterOne (test : Char → Bool) : List Char → List Bool → List Bool
  | c :: cs, _ :: b :: bs => (test c && b) :: afterOne test cs (b :: bs)
  | _, _ => [false]

def onlyFirst : List Bool → List Bool
  | [] => []
  | b :: bs => b :: bs.map fun _ => false

def onlyLast : List Bool → List Bool
  | [] => []
  | [b] => [b]
  | _ :: b :: bs => false :: onlyLast (b :: bs)

/-- For every end of the text, from the whole text down to the empty one, whether the expression matches there. -/
def matchesAt (text : List Char) : Regex → List Bool
  | [] => List.replicate (text.length + 1) true
  | .textStart :: r => onlyFirst (matchesAt text r)
  | .textEnd :: r => onlyLast (matchesAt text r)
  | .anyOne :: r => afterOne (fun _ => true) text (matchesAt text r)
  | .anyRun :: r => afterAnyRun (matchesAt text r)
  | .exactly d :: r => afterOne (fun c => c == d) text (matchesAt text r)

def isFound (r : Regex) (text : List Char) : Bool := (matchesAt text r).any id

end Regex

end RecordFilter
