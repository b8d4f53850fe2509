import TapeMachine.Decimal.Shortest
import TapeMachine.Text.Quoted

/-! The length of the tape. A caller may offer any value for it; only an integer from one on is a
length, and a truth value is no integer. -/

namespace TapeMachine

open Text (ofString)

/-- A tape has at least one cell. -/
structure TapeLength where
  cells : Nat
  positive : 0 < cells
  deriving DecidableEq

namespace TapeLength

def standard : TapeLength := ⟨30000, by decide⟩

inductive Offer where
  | integer (n : Int)
  | truth (b : Bool)
  | nothing
  | text (t : Text)
  | real (x : Float)

inductive Refusal where
  | notInteger (offer : Offer)
  | notPositive (n : Int)

def Offer.written : Offer → Text
  | integer n => Numeral.ofInt n
  | truth true => ofString "True"
  | truth false => ofString "False"
  | nothing => ofString "None"
  | text t => t.quoted
  | real x => FloatLayout.standard.written (.ofFloat x)

def Refusal.message : Refusal → Text
  | notInteger offer => ofString "memory_words must be an int, got " ++ offer.written
  | notPositive n => ofString "memory_words must be positive, got " ++ Numeral.ofInt n

def check : Offer → Except Refusal TapeLength
  | .integer n => if h : 1 ≤ n then .ok ⟨n.toNat, by omega⟩ else .error (.notPositive n)
  | offer => .error (.notInteger offer)

end TapeLength

end TapeMachine
