import FramePath.Picture

/-!
# Who takes the finished pictures

A listener is handed each finished picture and answers whether it acknowledges it. The answer may
depend on everything it was handed so far.
-/

namespace FramePath

/-- The receiving end of a pipeline. -/
inductive Consumer where
  /-- Nobody listens; a picture goes nowhere and is not acknowledged. -/
  | absent
  /-- A listener with the pictures it was handed, the latest first; `answer` is asked about that list. -/
  | listener (answer : List Picture → Bool) (received : List Picture)

namespace Consumer

/-- Hand over a picture and hear the answer. -/
def take (picture : Picture) : Consumer → Bool × Consumer
  | absent => (false, absent)
  | listener answer received =>
      let received := picture :: received
      (answer received, listener answer received)

/-- The pictures handed over so far, the latest first. -/
def received : Consumer → List Picture
  | absent => []
  | listener _ received => received

/-- The same listener with another mind about what to acknowledge. -/
def withAnswer (answer : List Picture → Bool) : Consumer → Consumer
  | absent => absent
  | listener _ received => listener answer received

end Consumer

end FramePath
