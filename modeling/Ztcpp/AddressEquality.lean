import Mathlib.Data.List.OfFn
import Ztcpp.Construction

/-!
# Equality of addresses

`operator==` compares the families and all 16 bytes of the buffers.  An IPv4
factory writes only four of them, and an invalid object has whatever the memory
held, so the comparison looks at bytes that no code wrote.
-/

namespace Ztcpp

open Octets

namespace IpAddress

/-- The bytes of `_addressBuf` that an IPv4 address does not use. -/
def unusedBytes (a : IpAddress) : Image 12 := a.addressBuf.read 4 12

variable {x y z : IpAddress}

theorem operatorEq_iff :
    x.operatorEq y ↔ x.getAddressFamily = y.getAddressFamily ∧ x.addressBuf = y.addressBuf := by
  rw [operatorEq, Bool.and_eq_true, decide_eq_true_iff, memcmpEq, decide_eq_true_iff,
    funext_iff]
  rfl

theorem addressBuf_eq_iff :
    x.addressBuf = y.addressBuf ↔
      x.addressBuf.read 0 4 = y.addressBuf.read 0 4 ∧ x.unusedBytes = y.unusedBytes := by
  constructor
  · intro h
    rw [unusedBytes, unusedBytes, h]
    exact ⟨rfl, rfl⟩
  · rintro ⟨hused, hunused⟩
    have hall : x.addressBuf.read 0 (4 + 12) = y.addressBuf.read 0 (4 + 12) :=
      Image.read_congr_add _ hused hunused
    rwa [Image.read_zero_self, Image.read_zero_self] at hall

theorem octets_eq_of_operatorEq (h : x.operatorEq y) : x.octets = y.octets := by
  obtain ⟨hfamily, hbuf⟩ := operatorEq_iff.mp h
  unfold octets
  rw [show x.addressFamily = y.addressFamily from hfamily, hbuf]

/-- Addresses of one named family with the same octets have equal buffers, if
they are IPv6 addresses or agree on the unused bytes as well. -/
theorem operatorEq_iff_of_octets (hnamed : x.getAddressFamily = .ipv4 ∨ x.getAddressFamily = .ipv6)
    (hfamily : x.getAddressFamily = y.getAddressFamily) (hoctets : x.octets = y.octets) :
    x.operatorEq y ↔ x.getAddressFamily = .ipv4 → x.unusedBytes = y.unusedBytes := by
  rw [operatorEq_iff, and_iff_right hfamily]
  rcases hnamed with h4 | h6
  · rw [octets_of_ipv4 h4, octets_of_ipv4 (hfamily.symm.trans h4)] at hoctets
    rw [addressBuf_eq_iff, and_iff_right (List.ofFn_injective hoctets)]
    simp [h4]
  · rw [octets_of_ipv6 h6, octets_of_ipv6 (hfamily.symm.trans h6)] at hoctets
    have hbuf := List.ofFn_injective hoctets
    rw [getIPv6AddressInNetworkOrder, getIPv6AddressInNetworkOrder, Image.read_zero_self,
      Image.read_zero_self] at hbuf
    simp [hbuf, h6]

end IpAddress

section

variable [Platform]

/-- What the comparison of `x` with `y` is to mean. -/
structure EqualityExact (x y : IpAddress) : Prop where
  denotation : x.isValid → y.isValid →
    (x.operatorEq y ↔ x.getAddressFamily = y.getAddressFamily ∧ x.octets = y.octets)
  invalid : x.isValid ≠ y.isValid → x.operatorNe y
  reflexive : x.operatorEq x
  symmetric : x.operatorEq y = y.operatorEq x
  transitive : ∀ z : IpAddress, x.operatorEq y → y.operatorEq z → x.operatorEq z
  encoded : ∀ stack stack' port s s', x.operatorEq y → toSockaddr stack x port = some s →
    toSockaddr stack' y port = some s' →
      s.octets x.getAddressFamily = s'.octets y.getAddressFamily

/-- The second condition is `operator!=` itself, on the fields: it fails where an
invalid address has the family and the buffer of the valid one.  The default
constructor, and with it a sockaddr of an unknown family, leaves both as the
memory was; a text that does not parse leaves the buffer. -/
theorem equality_exact_iff [Inet] {x y : IpAddress} (hx : x.Obtained) :
    EqualityExact x y ↔
      (x.isValid → y.isValid → x.getAddressFamily = .ipv4 → y.getAddressFamily = .ipv4 →
        x.octets = y.octets → x.unusedBytes = y.unusedBytes) ∧
      (x.isValid ≠ y.isValid → x.getAddressFamily = y.getAddressFamily →
        x.addressBuf ≠ y.addressBuf) := by
  constructor
  · intro h
    refine ⟨?_, ?_⟩
    · intro hvx hvy h4 h4' hoctets
      have heq := (h.denotation hvx hvy).mpr ⟨h4.trans h4'.symm, hoctets⟩
      exact (IpAddress.addressBuf_eq_iff.mp (IpAddress.operatorEq_iff.mp heq).2).2
    · intro hv hfamily hbuf
      have hne := h.invalid hv
      rw [IpAddress.operatorNe, IpAddress.operatorEq_iff.mpr ⟨hfamily, hbuf⟩] at hne
      cases hne
  · rintro ⟨hunused, hinvalid⟩
    refine ⟨?_, ?_, ?_, ?_, ?_, ?_⟩
    · intro hvx hvy
      constructor
      · intro heq
        exact ⟨(IpAddress.operatorEq_iff.mp heq).1, IpAddress.octets_eq_of_operatorEq heq⟩
      · rintro ⟨hfamily, hoctets⟩
        rw [IpAddress.operatorEq_iff_of_octets (hx.family hvx) hfamily hoctets]
        intro h4
        exact hunused hvx hvy h4 (hfamily ▸ h4) hoctets
    · intro hv
      rw [IpAddress.operatorNe, Bool.not_eq_true', Bool.eq_false_iff]
      intro heq
      obtain ⟨hfamily, hbuf⟩ := IpAddress.operatorEq_iff.mp heq
      exact hinvalid hv hfamily hbuf
    · exact IpAddress.operatorEq_iff.mpr ⟨rfl, rfl⟩
    · rw [Bool.eq_iff_iff, IpAddress.operatorEq_iff, IpAddress.operatorEq_iff]
      exact and_congr eq_comm eq_comm
    · intro z hxy hyz
      rw [IpAddress.operatorEq_iff] at hxy hyz ⊢
      exact ⟨hxy.1.trans hyz.1, hxy.2.trans hyz.2⟩
    · intro stack stack' port s s' heq hs hs'
      rw [(encodes_of_toSockaddr hs).2.octets, (encodes_of_toSockaddr hs').2.octets,
        IpAddress.octets_eq_of_operatorEq heq]

end

theorem equality_exact_distinct :
    EqualityExact (ipv4In 0 [127, 0, 0, 1].get) (ipv4In 1 [10, 0, 0, 1].get) := by
  refine (equality_exact_iff (ipv4In_obtained 0 _)).mpr ⟨?_, ?_⟩
  · intro _ _ _ _ hoctets
    exact absurd hoctets (by decide)
  · intro hv
    exact absurd rfl hv

/-- Two objects for one address, made in memory with different contents. -/
theorem equal_addresses_differ :
    ¬ ∀ x y : IpAddress, x.Obtained → y.Obtained → EqualityExact x y := by
  intro h
  have hexact := h _ _ (ipv4In_obtained 0 [127, 0, 0, 1].get) (ipv4In_obtained 1 [127, 0, 0, 1].get)
  have heq := (hexact.denotation rfl rfl).mpr ⟨rfl, by decide⟩
  exact absurd heq (by decide)

end Ztcpp
