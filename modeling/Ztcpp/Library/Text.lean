import Mathlib.Data.Int.Notation
import Mathlib.Data.List.Basic
import Mathlib.Tactic.Common

/-!
# Texts made of parts

A part is read back from a text when it is followed by a character that it does
not contain; numbers are read back from their digits.
-/

namespace Text

/-- The part before the first separator and the rest after it are determined. -/
theorem append_cons_inj {α : Type} {sep : α} {a b c d : List α} (ha : sep ∉ a) (hb : sep ∉ b)
    (h : a ++ sep :: c = b ++ sep :: d) : a = b ∧ c = d := by
  induction a generalizing b with
  | nil =>
      cases b with
      | nil => exact ⟨rfl, List.tail_eq_of_cons_eq h⟩
      | cons y b =>
          obtain ⟨rfl, -⟩ := List.cons.inj h
          exact absurd List.mem_cons_self hb
  | cons x a ih =>
      cases b with
      | nil =>
          obtain ⟨rfl, -⟩ := List.cons.inj h
          exact absurd List.mem_cons_self ha
      | cons y b =>
          obtain ⟨rfl, htail⟩ := List.cons.inj h
          rw [List.mem_cons, not_or] at ha hb
          obtain ⟨rfl, hrest⟩ := ih ha.2 hb.2 htail
          exact ⟨rfl, hrest⟩

/-- Two texts with a label between them, the first without the label's first character. -/
theorem append_label_inj {label a a' b b' : String} {c : Char}
    (hlabel : label.toList.head? = some c) (ha : c ∉ a.toList) (ha' : c ∉ a'.toList) :
    a ++ (label ++ b) = a' ++ (label ++ b') ↔ a = a' ∧ b = b' := by
  constructor
  · intro h
    obtain ⟨rest, hrest⟩ := List.head?_eq_some_iff.mp hlabel
    have hlist := congrArg String.toList h
    rw [String.toList_append, String.toList_append, String.toList_append, String.toList_append,
      hrest, List.cons_append, List.cons_append] at hlist
    obtain ⟨hfront, hback⟩ := append_cons_inj ha ha' hlist
    exact ⟨String.toList_inj.mp hfront, String.toList_inj.mp (List.append_cancel_left hback)⟩
  · rintro ⟨rfl, rfl⟩
    rfl

/-! ## Digits -/

variable {b m n : ℕ}

theorem digitChar_injective {d e : ℕ} (hd : d < 16) (he : e < 16)
    (h : Nat.digitChar d = Nat.digitChar e) : d = e := by
  have hall : ∀ d e : Fin 16, Nat.digitChar d = Nat.digitChar e → d = e := by decide
  exact congrArg Fin.val (hall ⟨d, hd⟩ ⟨e, he⟩ h)

theorem exists_digitChar (hb : 1 < b) {c : Char} (h : c ∈ Nat.toDigits b n) :
    ∃ d, c = Nat.digitChar d := by
  induction n using Nat.strongRecOn with
  | ind n ih =>
      rw [Nat.toDigits_eq_if hb] at h
      split_ifs at h with hlt
      · exact ⟨n, List.mem_singleton.mp h⟩
      · rcases List.mem_append.mp h with h | h
        · have hpos : 0 < n := by omega
          exact ih (n / b) (Nat.div_lt_self hpos hb) h
        · exact ⟨n % b, List.mem_singleton.mp h⟩

theorem toDigits_injective (hb : 1 < b) (hb16 : b ≤ 16) (h : Nat.toDigits b m = Nat.toDigits b n) :
    m = n := by
  induction m using Nat.strongRecOn generalizing n with
  | ind m ih =>
      have hm := Nat.toDigits_eq_if hb (n := m)
      have hn := Nat.toDigits_eq_if hb (n := n)
      rw [h] at hm
      split_ifs at hm hn with hmb hnb hnb
      · apply digitChar_injective (by omega) (by omega)
        exact List.singleton_inj.mp (hm.symm.trans hn)
      · have hlength := congrArg List.length (hm.symm.trans hn)
        have hpos : 0 < (Nat.toDigits b (n / b)).length := Nat.length_toDigits_pos
        simp only [List.length_append, List.length_singleton] at hlength
        omega
      · have hlength := congrArg List.length (hm.symm.trans hn)
        have hpos : 0 < (Nat.toDigits b (m / b)).length := Nat.length_toDigits_pos
        simp only [List.length_append, List.length_singleton] at hlength
        omega
      · obtain ⟨hfront, hlast⟩ := List.append_inj' (hm.symm.trans hn) rfl
        have hdiv : m / b = n / b := ih (m / b) (Nat.div_lt_self (by omega) hb) hfront
        have hmod : m % b = n % b := by
          have hmlt := Nat.mod_lt m (by omega : 0 < b)
          have hnlt := Nat.mod_lt n (by omega : 0 < b)
          apply digitChar_injective (by omega) (by omega)
          exact List.singleton_inj.mp hlast
        rw [← Nat.div_add_mod m b, ← Nat.div_add_mod n b, hdiv, hmod]

theorem notMem_toDigits (hb : 1 < b) {c : Char} (hc : ∀ d, Nat.digitChar d ≠ c) :
    c ∉ Nat.toDigits b n := by
  intro h
  obtain ⟨d, hd⟩ := exists_digitChar hb h
  exact hc d hd.symm

theorem toList_toString (n : ℤ) : (toString n).toList =
    if 0 ≤ n then Nat.toDigits 10 n.toNat else '-' :: Nat.toDigits 10 (-n).toNat := by
  rw [Int.toString_eq_repr, Int.repr_eq_if]
  split_ifs
  · exact Nat.toList_repr
  · simp

theorem notMem_toString (n : ℤ) {c : Char} (hsign : c ≠ '-') (hc : ∀ d, Nat.digitChar d ≠ c) :
    c ∉ (toString n).toList := by
  rw [toList_toString]
  split_ifs
  · exact notMem_toDigits (by decide) hc
  · rw [List.mem_cons, not_or]
    exact ⟨hsign, notMem_toDigits (by decide) hc⟩

theorem toString_injective {m n : ℤ} (h : (toString m).toList = (toString n).toList) : m = n := by
  have hsign : ∀ k, '-' ∉ Nat.toDigits 10 k := fun k ↦
    notMem_toDigits (by decide) fun d ↦ Nat.digitChar_ne '-' (by decide)
  rw [toList_toString, toList_toString] at h
  split_ifs at h with hm hn hn
  · have hnat := toDigits_injective (by decide) (by decide) h
    omega
  · exact absurd (h ▸ List.mem_cons_self) (hsign m.toNat)
  · exact absurd (h ▸ List.mem_cons_self) (hsign n.toNat)
  · have hnat := toDigits_injective (by decide) (by decide) (List.cons.inj h).2
    omega

end Text
