/-! A class of characters is a list of closed ranges of code points in ascending order. -/

namespace OpcodeTrace.Ranges

/-- One of the ranges holds a code point. The ranges ascend, so the search ends at the first range
that starts past the code point. -/
def cover (ranges : List (Nat × Nat)) (code : Nat) : Bool :=
  match ranges with
  | [] => false
  | (first, last) :: rest => first ≤ code && (code ≤ last || cover rest code)

end OpcodeTrace.Ranges
