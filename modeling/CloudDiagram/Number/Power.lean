/-!
# Powers of two and ten

* `twoTo`, `tenTo`: the powers that numbers of 64 bits and decimals are measured in.
-/

namespace CloudDiagram

/-- A power of two. -/
abbrev twoTo (k : Nat) : Nat := Nat.pow 2 k

/-- A power of ten. -/
abbrev tenTo (k : Nat) : Nat := Nat.pow 10 k

end CloudDiagram
