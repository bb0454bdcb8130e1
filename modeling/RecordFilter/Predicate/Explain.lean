import RecordFilter.Predicate.Basic

set_option autoImplicit false

namespace RecordFilter

/-- A path with dots between the names; the element itself is shown as `@`. -/
def FieldRef.shown (field : FieldRef) : List Char :=
  match field with
  | [] => ['@']
  | names => (String.intercalate "." names).toList

namespace Predicate

def call (name : String) (argument : List Char) : List Char := name.toList ++ '(' :: argument ++ [')']

def shownField (field : FieldRef) (foldCase onDate : Bool) : List Char :=
  if foldCase then call "LOWER" field.shown
  else if onDate then call "DATE" field.shown
  else field.shown

mutual

def shown : Predicate → List Char
  | always => "TRUE".toList
  | and [] => "TRUE".toList
  | or [] => "FALSE".toList
  | and (p :: ps) => '(' :: shown p ++ shownRest " AND ".toList ps
  | or (p :: ps) => '(' :: shown p ++ shownRest " OR ".toList ps
  | not p => "NOT ".toList ++ shown p
  | isNull field => field.shown ++ " IS NULL".toList
  | isNotNull field => field.shown ++ " IS NOT NULL".toList
  | compare field op value foldCase =>
    shownField field foldCase value.isDate ++ ' ' :: op.symbol.toList ++ ' ' :: value.shown
  | like field pattern foldCase negated =>
    shownField field foldCase false ++ (if negated then " NOT LIKE ".toList else " LIKE ".toList) ++
      Literal.quoted pattern.text.toList ++ " ESCAPE ".toList ++ Literal.quoted [LikePattern.escape]
  | anyElement collection p => call "ANY" (collection.shown ++ ':' :: ' ' :: shown p)

def shownRest (separator : List Char) : List Predicate → List Char
  | [] => [')']
  | p :: ps => separator ++ shown p ++ shownRest separator ps

end

def explain (p : Predicate) : String := String.ofList p.shown

end Predicate

end RecordFilter
