/-!
# Words

The sizes of machine words and the powers of ten, as natural numbers.
-/

namespace BuildYard

/-- How many values a word of so many bits has. -/
def wordSize (bits : Nat) : Nat := Nat.pow 2 bits

/-- Ten to a power. -/
def tenTo (n : Nat) : Nat := Nat.pow 10 n

end BuildYard
