import Mathlib.Data.Finset.Fold
import Mathlib.Tactic.Common

/-!
# Sets of flags as bit vectors

Names with non-zero bit patterns that do not overlap.  A set of names is the
union of its patterns, and testing the union against one pattern tells whether
the name is in the set.  A bit vector is determined by the bit vectors that it
does not meet, so two encodings are compared by what they do not meet.
-/

namespace Flags

variable {w : ℕ}

theorem and_or_eq_zero_iff {x a b : BitVec w} :
    x &&& (a ||| b) = 0 ↔ x &&& a = 0 ∧ x &&& b = 0 := by
  rw [BitVec.and_or_distrib_left]
  exact BitVec.or_eq_zero_iff

theorem and_ite_eq_zero_iff {x a : BitVec w} {p : Prop} [Decidable p] :
    x &&& (if p then a else 0) = 0 ↔ (p → x &&& a = 0) := by
  by_cases hp : p
  · simp [hp]
  · simp [hp]

theorem eq_of_and_eq_zero_iff {a b : BitVec w} (h : ∀ x, x &&& a = 0 ↔ x &&& b = 0) : a = b := by
  have hab : ~~~b &&& a = 0 := by
    rw [h, BitVec.and_comm]
    exact BitVec.and_not_self b
  have hba : ~~~a &&& b = 0 := by
    rw [← h, BitVec.and_comm]
    exact BitVec.and_not_self a
  apply BitVec.eq_of_getLsbD_eq
  intro i hi
  have hai := congrArg (BitVec.getLsbD · i) hab
  have hbi := congrArg (BitVec.getLsbD · i) hba
  simp only [BitVec.getLsbD_and, BitVec.getLsbD_not, hi, decide_true, Bool.true_and] at hai hbi
  cases ha : a.getLsbD i with
  | false => simpa [ha] using hbi
  | true => simpa [ha] using hai

/-- Bit patterns for the names in `F`. -/
structure Code (F : Type) (w : ℕ) where
  bits : F → BitVec w
  bits_ne_zero : ∀ f, bits f ≠ 0
  disjoint : ∀ f g, f ≠ g → bits f &&& bits g = 0

namespace Code

variable {F : Type} (c : Code F w)

def encode (S : Finset F) : BitVec w := S.fold (· ||| ·) 0 c.bits

@[simp] theorem encode_empty : c.encode ∅ = 0 := rfl

variable [DecidableEq F] {S : Finset F} {x : BitVec w} {f : F}

theorem encode_insert (hf : f ∉ S) : c.encode (insert f S) = c.bits f ||| c.encode S :=
  Finset.fold_insert hf

theorem and_encode_eq_zero_iff : x &&& c.encode S = 0 ↔ ∀ f ∈ S, x &&& c.bits f = 0 := by
  induction S using Finset.induction_on with
  | empty => simp
  | insert f S hf ih =>
      rw [c.encode_insert hf, and_or_eq_zero_iff, ih]
      exact (Finset.forall_mem_insert f S fun g ↦ x &&& c.bits g = 0).symm

/-- The test for one name. -/
theorem encode_and_bits_ne_zero_iff : c.encode S &&& c.bits f ≠ 0 ↔ f ∈ S := by
  rw [BitVec.and_comm, Ne, c.and_encode_eq_zero_iff]
  constructor
  · intro h
    by_contra hf
    apply h
    intro g hg
    apply c.disjoint
    rintro rfl
    exact hf hg
  · intro hf h
    have hself := h f hf
    rw [BitVec.and_self] at hself
    exact c.bits_ne_zero f hself

theorem encode_ne_zero (h : S.Nonempty) : c.encode S ≠ 0 := by
  obtain ⟨f, hf⟩ := h
  intro hzero
  have htest := c.encode_and_bits_ne_zero_iff.mpr hf
  rw [hzero] at htest
  exact htest BitVec.zero_and

end Code

end Flags
