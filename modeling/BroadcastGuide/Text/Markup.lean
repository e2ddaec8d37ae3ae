/-!
Characters that markup reserves, and the entities that stand for them.
-/

namespace BroadcastGuide.Text

def escapeChar (c : Char) : List Char :=
  if c = '&' then ['&', 'a', 'm', 'p', ';']
  else if c = '<' then ['&', 'l', 't', ';']
  else if c = '>' then ['&', 'g', 't', ';']
  else [c]

def escapeChars (s : List Char) : List Char := s.flatMap escapeChar

def escape (s : String) : String := String.ofList (escapeChars s.toList)

def escapeAttributeChar (c : Char) : List Char :=
  if c = '"' then ['&', 'q', 'u', 'o', 't', ';'] else escapeChar c

def escapeAttribute (s : String) : String :=
  String.ofList (s.toList.flatMap escapeAttributeChar)

/-- Undoes the entities of character data in one pass from the left. -/
def unescapeChars : List Char → List Char
  | '&' :: 'a' :: 'm' :: 'p' :: ';' :: rest => '&' :: unescapeChars rest
  | '&' :: 'l' :: 't' :: ';' :: rest => '<' :: unescapeChars rest
  | '&' :: 'g' :: 't' :: ';' :: rest => '>' :: unescapeChars rest
  | c :: rest => c :: unescapeChars rest
  | [] => []

def unescape (s : String) : String := String.ofList (unescapeChars s.toList)

end BroadcastGuide.Text
