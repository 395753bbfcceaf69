/-!
# Levels of events

* `Level` — how much an event matters.
-/

namespace JudgeDesk

/-- **How much an event matters**, from the most to the least. -/
inductive Level where
  /-- something failed -/
  | error
  /-- something is not as it should be -/
  | warn
  /-- something happened -/
  | info
  /-- something for those who look for a fault -/
  | debug
  /-- everything else -/
  | trace
  deriving DecidableEq, Repr

namespace Level

/-- The name of a level. -/
def word : Level → String
  | error => "ERROR"
  | warn => "WARN"
  | info => "INFO"
  | debug => "DEBUG"
  | trace => "TRACE"

/-- The rank of a level: the less it matters, the higher. -/
def rank : Level → Nat
  | error => 1
  | warn => 2
  | info => 3
  | debug => 4
  | trace => 5

end Level

end JudgeDesk
