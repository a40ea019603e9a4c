/-!
# Numbers of 64 bits

The bounds of whole numbers that fit into 64 bits, with and without a sign.
-/

namespace ComposeCheck

/-- The number of natural numbers of 64 bits. -/
def wordCount : Nat := 18446744073709551616

/-- Whether a natural number has 64 bits. -/
def fitsWord (n : Nat) : Bool := n < wordCount

/-- Whether an integer has 64 bits, one of them for its sign. -/
def fitsSignedWord (n : Int) : Bool :=
  -9223372036854775808 ≤ n && n ≤ 9223372036854775807

end ComposeCheck
