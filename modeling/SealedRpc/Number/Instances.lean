/-!
# Instances for numerals

The instances that powers of natural numbers and numerals of code points are read with.
Other libraries declare instances of the same classes, equal to these but not the same
term, so the choice is made here once, below every module that writes such a numeral.
-/

-- The second attribute is for powers with a literal exponent, whose type is a default too.
attribute [instance (high), default_instance 20000] instPowNat

namespace SealedRpc

/-- The zero is named, since which one is found depends on the libraries in scope. -/
instance (priority := high) instNeZeroCodePoints : @NeZero Nat Zero.ofOfNat0 0x110000 :=
  ⟨Nat.succ_ne_zero _⟩

end SealedRpc
