import Mathlib.Data.Fin.Rev
import Mathlib.Data.Fin.SuccPred
import Mathlib.Algebra.Order.Ring.Nat
import Mathlib.Tactic.Common
import Mathlib.Tactic.Ring

/-!
# Byte images and host byte orders

An object in memory is the sequence of its bytes.  Fields are read and written
at fixed offsets, and an unsigned integer is stored in one of two byte orders.
Storing what was loaded restores the bytes in either order, so code that only
moves an integer through a register copies memory.
-/

namespace Octets

abbrev Image (n : ℕ) := Fin n → UInt8

namespace Image

variable {n k j : ℕ}

def read (m : Image n) (off k : ℕ) (h : off + k ≤ n := by decide) : Image k :=
  fun i ↦ m ⟨off + i, by omega⟩

def write (m : Image n) (off : ℕ) (b : Image k) : Image n :=
  fun i ↦ if h : off ≤ i.1 ∧ i.1 < off + k then b ⟨i.1 - off, by omega⟩ else m i

def byte (x : UInt8) : Image 1 := fun _ ↦ x

def zeros (n : ℕ) : Image n := fun _ ↦ 0

@[simp] theorem read_write (m : Image n) (off : ℕ) (b : Image k) (h : off + k ≤ n) :
    (m.write off b).read off k h = b := by
  funext i
  have hi : off ≤ off + i.1 ∧ off + i.1 < off + k := by omega
  simp [read, write, hi]

theorem read_write_of_disjoint (m : Image n) {off off' : ℕ} (b : Image j) (h : off + k ≤ n)
    (hd : off + k ≤ off' ∨ off' + j ≤ off) :
    (m.write off' b).read off k h = m.read off k h := by
  funext i
  have hi : ¬ (off' ≤ off + i.1 ∧ off + i.1 < off' + j) := by omega
  simp only [read, write, dif_neg hi]

theorem write_write (m : Image n) (off : ℕ) (b c : Image k) :
    (m.write off b).write off c = m.write off c := by
  funext i
  by_cases hi : off ≤ i.1 ∧ i.1 < off + k
  · simp only [write, dif_pos hi]
  · simp only [write, dif_neg hi]

theorem write_byte_of_ne (m : Image n) {off : ℕ} (x : UInt8) {i : Fin n} (h : i.1 ≠ off) :
    m.write off (byte x) i = m i := by
  have hi : ¬ (off ≤ i.1 ∧ i.1 < off + 1) := by omega
  simp only [write, dif_neg hi]

theorem read_zero_self (m : Image n) (h : 0 + n ≤ n) : m.read 0 n h = m := by
  funext i
  simp [read]

@[simp] theorem write_zero_self (m b : Image n) : m.write 0 b = b := by
  funext i
  simp [write]

theorem read_congr_add {m m' : Image n} {off j k : ℕ} (h : off + (j + k) ≤ n)
    (hj : m.read off j (by omega) = m'.read off j (by omega))
    (hk : m.read (off + j) k (by omega) = m'.read (off + j) k (by omega)) :
    m.read off (j + k) h = m'.read off (j + k) h := by
  funext i
  by_cases hi : i.1 < j
  · exact congrFun hj ⟨i.1, hi⟩
  · have hrest := congrFun hk ⟨i.1 - j, by omega⟩
    have hindex : off + j + (i.1 - j) = off + i.1 := by omega
    simpa only [read, hindex] using hrest

end Image

inductive ByteOrder where
  | bigEndian
  | littleEndian
  deriving DecidableEq

/-- Reverse the bytes exactly when the order is big-endian: the least
significant byte comes first afterwards. -/
def ByteOrder.arrange {k : ℕ} : ByteOrder → Image k → Image k
  | .bigEndian, b => fun i ↦ b i.rev
  | .littleEndian, b => b

@[simp] theorem ByteOrder.arrange_arrange {k : ℕ} (o : ByteOrder) (b : Image k) :
    o.arrange (o.arrange b) = b := by
  cases o <;> simp [ByteOrder.arrange]

/-- Digits of `x` to the base 256, least significant first. -/
def digits (k x : ℕ) : Image k := fun i ↦ UInt8.ofNat (x / 256 ^ i.1)

def ofDigits : {k : ℕ} → Image k → ℕ
  | 0, _ => 0
  | _ + 1, b => (b 0).toNat + 256 * ofDigits fun i ↦ b i.succ

theorem digits_ofDigits {k : ℕ} (b : Image k) : digits k (ofDigits b) = b := by
  induction k with
  | zero => exact Subsingleton.elim _ _
  | succ k ih =>
      funext i
      have hb : (b 0).toNat < 256 := (b 0).toNat_lt
      refine Fin.cases ?_ (fun i ↦ ?_) i
      · apply UInt8.toNat_inj.mp
        simp only [digits, ofDigits, Fin.val_zero, pow_zero, Nat.div_one, UInt8.toNat_ofNat']
        omega
      · have htail := congrFun (ih fun i ↦ b i.succ) i
        have hdiv : ofDigits b / 256 ^ (i.1 + 1) = ofDigits (fun i ↦ b i.succ) / 256 ^ i.1 := by
          rw [pow_succ', ← Nat.div_div_eq_div_mul]
          congr 1
          simp only [ofDigits]
          omega
        simpa only [digits, Fin.val_succ, hdiv] using htail

theorem digits_zero (k : ℕ) : digits k 0 = Image.zeros k := by
  funext i
  simp [digits, Image.zeros]

theorem ofDigits_digits (k x : ℕ) : ofDigits (digits k x) = x % 256 ^ k := by
  induction k generalizing x with
  | zero => simp [ofDigits, Nat.mod_one]
  | succ k ih =>
      have htail : (fun i : Fin k ↦ digits (k + 1) x i.succ) = digits k (x / 256) := by
        funext i
        simp only [digits, Fin.val_succ, pow_succ', Nat.div_div_eq_div_mul]
      rw [ofDigits, htail, ih, pow_succ', Nat.mod_mul]
      simp [digits]

def store (o : ByteOrder) (k x : ℕ) : Image k := o.arrange (digits k x)

def load {k : ℕ} (o : ByteOrder) (b : Image k) : ℕ := ofDigits (o.arrange b)

@[simp] theorem store_load {k : ℕ} (o : ByteOrder) (b : Image k) : store o k (load o b) = b := by
  rw [store, load, digits_ofDigits, ByteOrder.arrange_arrange]

@[simp] theorem load_store (o : ByteOrder) (k x : ℕ) : load o (store o k x) = x % 256 ^ k := by
  rw [load, store, ByteOrder.arrange_arrange, ofDigits_digits]

@[simp] theorem store_zero (o : ByteOrder) (k : ℕ) : store o k 0 = Image.zeros k := by
  rw [store, digits_zero]
  cases o <;> rfl

/-- The 16-bit value whose bytes in the host order `o` are those of `x` in
network order. -/
def htons (o : ByteOrder) (x : UInt16) : UInt16 :=
  UInt16.ofNat (load o (store .bigEndian 2 x.toNat))

/-- The value of the two network-order bytes that `x` has in the host order. -/
def ntohs (o : ByteOrder) (x : UInt16) : UInt16 :=
  UInt16.ofNat (load .bigEndian (store o 2 x.toNat))

theorem load_lt {k : ℕ} (o : ByteOrder) (b : Image k) : load o b < 256 ^ k := by
  have h := load_store o k (load o b)
  rw [store_load] at h
  rw [h]
  exact Nat.mod_lt _ (Nat.pow_pos (by decide))

theorem store_htons (o : ByteOrder) (x : UInt16) :
    store o 2 (htons o x).toNat = store .bigEndian 2 x.toNat := by
  have hlt := load_lt o (store .bigEndian 2 x.toNat)
  rw [htons, UInt16.toNat_ofNat', Nat.mod_eq_of_lt (by simpa using hlt), store_load]

theorem ntohs_load (o : ByteOrder) (b : Image 2) :
    ntohs o (UInt16.ofNat (load o b)) = UInt16.ofNat (load .bigEndian b) := by
  have hlt := load_lt o b
  rw [ntohs, UInt16.toNat_ofNat', Nat.mod_eq_of_lt (by simpa using hlt), store_load]

@[simp] theorem store_port (o : ByteOrder) (b : Image 2) :
    store o 2 (UInt16.ofNat (load o b)).toNat = b := by
  have hlt := load_lt o b
  rw [UInt16.toNat_ofNat', Nat.mod_eq_of_lt (by simpa using hlt), store_load]

theorem store_bigEndian_port (x : UInt16) :
    store .bigEndian 2 x.toNat 0 = UInt8.ofNat (x.toNat / 256) ∧
      store .bigEndian 2 x.toNat 1 = UInt8.ofNat (x.toNat % 256) := by
  refine ⟨?_, ?_⟩
  · simp [store, digits, ByteOrder.arrange]
  · apply UInt8.toNat_inj.mp
    simp [store, digits, ByteOrder.arrange]

@[simp] theorem load_bigEndian_port (x : UInt16) :
    UInt16.ofNat (load .bigEndian (store .bigEndian 2 x.toNat)) = x := by
  have hx : x.toNat < 65536 := x.toNat_lt
  rw [load_store]
  apply UInt16.toNat_inj.mp
  rw [UInt16.toNat_ofNat']
  omega

end Octets
