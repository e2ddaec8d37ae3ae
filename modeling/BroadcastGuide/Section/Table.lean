import BroadcastGuide.Numeral.Hexadecimal

/-!
Table numbers of sections, and which of them carry event information.
-/

namespace BroadcastGuide.Table

/-- Present and following events of this stream. -/
def presentActual : Int := 0x4E

/-- Present and following events of other streams. -/
def presentOther : Int := 0x4F

/-- Event information is carried by the present tables and the schedule tables after them. -/
def isEventInformation (id : Int) : Bool := presentActual ≤ id && id ≤ 0x6F

def describe (id : Int) : String :=
  if id = presentActual then "EIT p/f actual"
  else if id = presentOther then "EIT p/f other"
  else if 0x50 ≤ id ∧ id ≤ 0x5F then "EIT schedule actual #" ++ toString (id - 0x50)
  else if 0x60 ≤ id ∧ id ≤ 0x6F then "EIT schedule other #" ++ toString (id - 0x60)
  else "table 0x" ++ Numeral.hexUpper 2 id

end BroadcastGuide.Table
