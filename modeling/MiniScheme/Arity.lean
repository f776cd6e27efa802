/- The argument counts that a primitive accepts. -/
namespace MiniScheme

/-- A set of argument counts. -/
inductive Arity where
  /-- Only `n` arguments. -/
  | exactly (n : Nat)
  /-- At least `n` arguments. -/
  | atLeast (n : Nat)
  /-- From `least` to `most` arguments, both included. -/
  | between (least most : Nat)
  /-- Any number of arguments. -/
  | any
  deriving DecidableEq, Repr

namespace Arity

/-- The count is one of those accepted. -/
def admits : Arity → Nat → Bool
  | exactly n, count => count == n
  | atLeast n, count => n ≤ count
  | between least most, count => least ≤ count && count ≤ most
  | any, _ => true

/-- The accepted counts in words. -/
def description : Arity → String
  | exactly n => s!"exactly {n}"
  | atLeast n => s!"at least {n}"
  | between least most => s!"between {least} and {most}"
  | any => ""

end Arity

end MiniScheme
