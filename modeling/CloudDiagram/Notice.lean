/-!
# Notices

What an operation reports beside its result.

* `Level`, `Notice`: a message and its weight;
* `Noted`: a result with the notices that were given on the way, in order.
-/

namespace CloudDiagram

/-- The weight of a notice. -/
inductive Level
  | debug
  | info
  | warning
  | error
  deriving DecidableEq

/-- The name of a level. -/
def Level.name : Level → String
  | debug => "DEBUG"
  | info => "INFO"
  | warning => "WARN"
  | error => "ERROR"

/-- The weight of a level as a number. -/
def Level.weight : Level → Nat
  | debug => 0
  | info => 1
  | warning => 2
  | error => 3

/-- **A notice.** -/
structure Notice where
  level : Level
  text : String
  deriving DecidableEq

/-- The line that shows a notice. -/
def Notice.line (n : Notice) : String := n.level.name ++ " " ++ n.text

/-- **A result with notices.** -/
structure Noted (α : Type) where
  result : α
  notices : List Notice
  deriving DecidableEq

instance : Monad Noted where
  pure a := ⟨a, []⟩
  bind x f := ⟨(f x.result).result, x.notices ++ (f x.result).notices⟩

/-- A single notice. -/
def Noted.say (level : Level) (text : String) : Noted Unit := ⟨(), [⟨level, text⟩]⟩

end CloudDiagram
