/-!
C++ names: plain identifiers, an identifier made from any text, and a class template's bare name.
-/

namespace ScriptBinding.Code

def isLetter (c : Char) : Bool := ('A' ≤ c && c ≤ 'Z') || ('a' ≤ c && c ≤ 'z')

def isDigit (c : Char) : Bool := '0' ≤ c && c ≤ '9'

def isNameChar (c : Char) : Bool := isLetter c || isDigit c || c = '_'

/-- A letter or underscore followed by name characters; one newline may end the text. -/
def isIdentifierChars : List Char → Bool
  | [] => false
  | c :: cs => (isLetter c || c = '_') && (cs.dropWhile isNameChar matches [] | ['\n'])

def isIdentifier (name : String) : Bool := isIdentifierChars name.toList

def bridgeGaps (inGap : Bool) : List Char → List Char
  | [] => []
  | c :: cs =>
    if isNameChar c then c :: bridgeGaps false cs
    else if inGap then bridgeGaps true cs
    else '_' :: bridgeGaps true cs

def trimUnderscores (cs : List Char) : List Char :=
  ((cs.dropWhile (· = '_')).reverse.dropWhile (· = '_')).reverse

def guardDigit : List Char → List Char
  | [] => []
  | c :: cs => if isDigit c then '_' :: c :: cs else c :: cs

def identifierChars (cs : List Char) : List Char :=
  guardDigit (trimUnderscores (bridgeGaps false cs))

/-- A class name turned into a part of an identifier: `Vector<int>` gives `Vector_int`. -/
def identifierOf (name : String) : String := String.ofList (identifierChars name.toList)

/-- The name of a class without its template arguments: `Vector<int>` gives `Vector`. -/
def templateName (name : String) : String :=
  String.ofList (name.toList.takeWhile (· ≠ '<'))

end ScriptBinding.Code
