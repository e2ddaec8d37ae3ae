/-!
Decimal text with a comma between groups of three digits.
-/

namespace BroadcastGuide.Numeral

/-- Puts a comma after every third character of a reversed digit list that goes on. -/
def groupReversed : List Char → List Char
  | a :: b :: c :: d :: rest => a :: b :: c :: ',' :: groupReversed (d :: rest)
  | short => short

def grouped (n : Int) : String :=
  let digits := (groupReversed (Nat.toDigits 10 n.natAbs).reverse).reverse
  String.ofList (if n < 0 then '-' :: digits else digits)

end BroadcastGuide.Numeral
