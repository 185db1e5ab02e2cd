/-
This file names the fixed-width words of the C sources, and the instances by
which every module reads the literals of a small index type in the same way.
-/

import Mathlib.Algebra.GroupWithZero.Nat
import Mathlib.Tactic.Common

namespace LionsOS

abbrev UInt8T := BitVec 8
abbrev UInt16T := BitVec 16
abbrev UInt32T := BitVec 32
abbrev UInt64T := BitVec 64

/-! ### Small index types -/

instance neZeroOne : NeZero (1 : Nat) := ⟨by decide⟩
instance neZeroTwo : NeZero (2 : Nat) := ⟨by decide⟩
instance neZeroThree : NeZero (3 : Nat) := ⟨by decide⟩
instance neZeroFour : NeZero (4 : Nat) := ⟨by decide⟩
instance neZeroFive : NeZero (5 : Nat) := ⟨by decide⟩
instance neZeroSix : NeZero (6 : Nat) := ⟨by decide⟩

end LionsOS
