/- Sets of characters given by ranges of code points. `within` tests
   membership; `ofPairs` makes a table from pairs of end points, both
   included. -/
namespace MiniScheme.Text

/-- The characters from `first` to `last`, both included. -/
structure Range where
  first : Nat
  last : Nat

def Range.contains (r : Range) (c : Char) : Bool :=
  r.first ≤ c.toNat && c.toNat ≤ r.last

/-- A table of ranges from their end points. -/
def ofPairs (pairs : List (Nat × Nat)) : List Range :=
  pairs.map fun p => ⟨p.1, p.2⟩

def within (table : List Range) (c : Char) : Bool :=
  table.any fun r => r.contains c

end MiniScheme.Text
