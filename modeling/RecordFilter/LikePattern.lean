import RecordFilter.Regex

set_option autoImplicit false

/-!
# Patterns

Patterns of texts: a percent sign stands for any run of characters, an underscore for any one, a backslash makes
the character after it stand for itself, and every other character does so anyway. The whole text has to match: a
pattern is translated to a regular expression with anchors at both ends.
-/

namespace RecordFilter

structure LikePattern where
  text : String
deriving DecidableEq

namespace LikePattern

def escape : Char := '\\'

/-- What stands between the anchors. A backslash at the very end of a pattern stands for nothing. -/
def parts : List Char → Regex
  | [] => []
  | '\\' :: [] => []
  | '\\' :: c :: cs => .exactly c :: parts cs
  | '%' :: cs => .anyRun :: parts cs
  | '_' :: cs => .anyOne :: parts cs
  | c :: cs => .exactly c :: parts cs

def regex (p : LikePattern) : Regex := .textStart :: parts p.text.toList ++ [.textEnd]

def isMatch (p : LikePattern) (s : String) : Bool := p.regex.isFound s.toList

def escaped (cs : List Char) : List Char :=
  cs.flatMap fun c => if c = '\\' ∨ c = '%' ∨ c = '_' then ['\\', c] else [c]

def containing (s : String) : LikePattern := ⟨String.ofList ('%' :: escaped s.toList ++ ['%'])⟩

def startingWith (s : String) : LikePattern := ⟨String.ofList (escaped s.toList ++ ['%'])⟩

def endingWith (s : String) : LikePattern := ⟨String.ofList ('%' :: escaped s.toList)⟩

end LikePattern

end RecordFilter
