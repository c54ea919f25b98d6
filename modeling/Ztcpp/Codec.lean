import Ztcpp.Construction

/-!
# Socket addresses byte for byte

What `ToSockaddr` writes fixes every byte of a `zts_sockaddr_in6`, and the
first 16 bytes of the storage it returns for an IPv4 address.  The other 12
bytes are those that lie behind its local `zts_sockaddr_in` on the stack.
-/

namespace Ztcpp

open Octets

section

variable [Platform] {stack stack' s t : SockaddrStorage} {a b : IpAddress} {port : UInt16}

/-- `s` begins with a `zts_sockaddr_in` as `ToSockaddr` fills it. -/
structure IsSockaddrIn (s : SockaddrStorage) (port : Image 2) (addr : Image 4) : Prop where
  len : s.len = 16
  family : s.family = ztsAfInet
  port : s.port = port
  sinAddr : s.sinAddr = addr
  sinZero : s.sinZero = Image.zeros 8

/-- `s` is a `zts_sockaddr_in6` as `ToSockaddr` fills it. -/
structure IsSockaddrIn6 (s : SockaddrStorage) (port : Image 2) (addr : Image 16) : Prop where
  len : s.len = 28
  family : s.family = ztsAfInet6
  port : s.port = port
  sin6Flowinfo : s.sin6Flowinfo = Image.zeros 4
  sin6Addr : s.sin6Addr = addr
  sin6ScopeId : s.sin6ScopeId = Image.zeros 4

omit [Platform] in
theorem read_header_congr (hlen : s.len = t.len) (hfamily : s.family = t.family)
    (hport : s.port = t.port) : s.read 0 (1 + (1 + 2)) = t.read 0 (1 + (1 + 2)) := by
  have hbyte : ∀ {u v : Image 1}, u 0 = v 0 → u = v := by
    intro u v h
    funext i
    rwa [Subsingleton.elim i 0]
  exact Image.read_congr_add _ (hbyte hlen) (Image.read_congr_add _ (hbyte hfamily) hport)

theorem IsSockaddrIn.read_congr {p : Image 2} {addr : Image 4} (hs : IsSockaddrIn s p addr)
    (ht : IsSockaddrIn t p addr) : s.read 0 sizeofSockaddrIn = t.read 0 sizeofSockaddrIn := by
  have hheader := read_header_congr (hs.len.trans ht.len.symm) (hs.family.trans ht.family.symm)
    (hs.port.trans ht.port.symm)
  have haddr := hs.sinAddr.trans ht.sinAddr.symm
  have hzero := hs.sinZero.trans ht.sinZero.symm
  exact Image.read_congr_add _ hheader (Image.read_congr_add _ haddr hzero)

theorem IsSockaddrIn6.unique {p : Image 2} {addr : Image 16} (hs : IsSockaddrIn6 s p addr)
    (ht : IsSockaddrIn6 t p addr) : s = t := by
  have hheader := read_header_congr (hs.len.trans ht.len.symm) (hs.family.trans ht.family.symm)
    (hs.port.trans ht.port.symm)
  have hflow := hs.sin6Flowinfo.trans ht.sin6Flowinfo.symm
  have haddr := hs.sin6Addr.trans ht.sin6Addr.symm
  have hscope := hs.sin6ScopeId.trans ht.sin6ScopeId.symm
  have hall : s.read 0 sizeofSockaddrStorage = t.read 0 sizeofSockaddrStorage :=
    Image.read_congr_add _ hheader
      (Image.read_congr_add _ hflow (Image.read_congr_add _ haddr hscope))
  rwa [Image.read_zero_self, Image.read_zero_self] at hall

theorem isSockaddrIn_of_toSockaddr (h : toSockaddr stack a port = some s)
    (hf : a.getAddressFamily = .ipv4) :
    IsSockaddrIn s (store .bigEndian 2 port.toNat) (a.addressBuf.read 0 4) ∧
      s.beyondSockaddrIn = stack.beyondSockaddrIn := by
  have hv := (encodes_of_toSockaddr h).1
  simp only [toSockaddr, hv, hf, not_true_eq_false, if_false, Option.some.injEq] at h
  subst h
  refine ⟨⟨?_, ?_, ?_, ?_, ?_⟩, ?_⟩
  · simp (disch := decide) only [SockaddrStorage.len, Image.read_write_of_disjoint,
      Image.read_write, Image.byte]
    rfl
  · simp (disch := decide) only [SockaddrStorage.family, Image.read_write_of_disjoint,
      Image.read_write, Image.byte]
  · simp (disch := decide) only [SockaddrStorage.port, Image.read_write_of_disjoint,
      Image.read_write, store_htons]
  · simp (disch := decide) only [SockaddrStorage.sinAddr, Image.read_write_of_disjoint,
      Image.read_write, IpAddress.store_getIPv4AddressInNetworkOrder]
  · simp only [SockaddrStorage.sinZero, Image.read_write]
  · simp (disch := decide) only [SockaddrStorage.beyondSockaddrIn, Image.read_write_of_disjoint]

theorem isSockaddrIn6_of_toSockaddr (h : toSockaddr stack a port = some s)
    (hf : a.getAddressFamily = .ipv6) :
    IsSockaddrIn6 s (store .bigEndian 2 port.toNat) a.addressBuf := by
  have hv := (encodes_of_toSockaddr h).1
  simp only [toSockaddr, hv, hf, not_true_eq_false, if_false, Option.some.injEq] at h
  subst h
  refine ⟨?_, ?_, ?_, ?_, ?_, ?_⟩
  · simp (disch := decide) only [SockaddrStorage.len, Image.read_write_of_disjoint,
      Image.read_write, Image.byte]
    rfl
  · simp (disch := decide) only [SockaddrStorage.family, Image.read_write_of_disjoint,
      Image.read_write, Image.byte]
  · simp (disch := decide) only [SockaddrStorage.port, Image.read_write_of_disjoint,
      Image.read_write, store_htons]
  · simp (disch := decide) only [SockaddrStorage.sin6Flowinfo, Image.read_write_of_disjoint,
      Image.read_write, store_zero]
  · simp (disch := decide) only [SockaddrStorage.sin6Addr, Image.read_write_of_disjoint,
      Image.read_write, IpAddress.getIPv6AddressInNetworkOrder, Image.read_zero_self]
  · simp only [SockaddrStorage.sin6ScopeId, Image.read_write, store_zero]

theorem exists_toSockaddr (stack : SockaddrStorage) (port : UInt16) (hv : a.isValid)
    (hf : a.getAddressFamily = .ipv4 ∨ a.getAddressFamily = .ipv6) :
    ∃ s, toSockaddr stack a port = some s :=
  Option.isSome_iff_exists.mp (toSockaddr_isSome_iff.mpr ⟨hv, hf⟩)

theorem encode_decode_ipv4 (stack : SockaddrStorage) (stackIp : IpAddress)
    (hfamily : s.family = ztsAfInet) (hlen : s.len = 16) (hzero : s.sinZero = Image.zeros 8) :
    ∃ s', toSockaddr stack (toIpAddressAndPort stackIp s).1 (toIpAddressAndPort stackIp s).2 =
      some s' ∧ s'.read 0 sizeofSockaddrIn = s.read 0 sizeofSockaddrIn := by
  rw [toIpAddressAndPort_ipv4 stackIp hfamily]
  obtain ⟨s', hs'⟩ := exists_toSockaddr stack (UInt16.ofNat (load .bigEndian s.port))
    (IpAddress.isValid_ipv4FromBinary stackIp s.sinAddr) (.inl rfl)
  obtain ⟨hin, -⟩ := isSockaddrIn_of_toSockaddr hs' rfl
  have haddr : (IpAddress.ipv4FromBinaryRepresentationInNetworkOrder stackIp
      s.sinAddr).addressBuf.read 0 4 = s.sinAddr := Image.read_write ..
  rw [store_port, haddr] at hin
  exact ⟨s', hs', hin.read_congr ⟨hlen, hfamily, rfl, rfl, hzero⟩⟩

theorem encode_decode_ipv6 (stack : SockaddrStorage) (stackIp : IpAddress)
    (hfamily : s.family = ztsAfInet6) (hlen : s.len = 28)
    (hflow : s.sin6Flowinfo = Image.zeros 4) (hscope : s.sin6ScopeId = Image.zeros 4) :
    toSockaddr stack (toIpAddressAndPort stackIp s).1 (toIpAddressAndPort stackIp s).2 =
      some s := by
  rw [toIpAddressAndPort_ipv6 stackIp hfamily]
  obtain ⟨s', hs'⟩ := exists_toSockaddr stack (UInt16.ofNat (load .bigEndian s.port))
    (IpAddress.isValid_ipv6FromBinary stackIp s.sin6Addr) (.inr rfl)
  have hin := isSockaddrIn6_of_toSockaddr hs' rfl
  have haddr : (IpAddress.ipv6FromBinaryRepresentationInNetworkOrder stackIp
      s.sin6Addr).addressBuf = s.sin6Addr := Image.write_zero_self ..
  rw [store_port, haddr] at hin
  rw [hs', hin.unique ⟨hlen, hfamily, rfl, hflow, rfl, hscope⟩]

/-- `ToIpAddressAndPort` undoes `ToSockaddr`, up to the bytes that an address
does not denote; on images of the form that `ToSockaddr` writes it is undone by
it; and it refuses every other family. -/
theorem codec_round_trip [Inet] :
    (∀ (a : IpAddress) (port : UInt16) (stack : SockaddrStorage) (stackIp : IpAddress),
      a.Obtained → a.isValid → ∃ s, toSockaddr stack a port = some s ∧
        (toIpAddressAndPort stackIp s).1.isValid ∧
        (toIpAddressAndPort stackIp s).1.getAddressFamily = a.getAddressFamily ∧
        (toIpAddressAndPort stackIp s).1.octets = a.octets ∧
        (toIpAddressAndPort stackIp s).2 = port ∧
        s.port 0 = UInt8.ofNat (port.toNat / 256) ∧
        s.port 1 = UInt8.ofNat (port.toNat % 256)) ∧
    (∀ (s stack : SockaddrStorage) (stackIp : IpAddress), s.family = ztsAfInet → s.len = 16 →
      s.sinZero = Image.zeros 8 → ∃ s', toSockaddr stack (toIpAddressAndPort stackIp s).1
        (toIpAddressAndPort stackIp s).2 = some s' ∧
          s'.read 0 sizeofSockaddrIn = s.read 0 sizeofSockaddrIn) ∧
    (∀ (s stack : SockaddrStorage) (stackIp : IpAddress), s.family = ztsAfInet6 → s.len = 28 →
      s.sin6Flowinfo = Image.zeros 4 → s.sin6ScopeId = Image.zeros 4 →
        toSockaddr stack (toIpAddressAndPort stackIp s).1 (toIpAddressAndPort stackIp s).2 =
          some s) ∧
    (∀ (s : SockaddrStorage) (stackIp : IpAddress), s.family ≠ ztsAfInet →
      s.family ≠ ztsAfInet6 → (toIpAddressAndPort stackIp s).1.isValid = false ∧
        (toIpAddressAndPort stackIp s).2 = 0) := by
  refine ⟨?_, ?_, ?_, ?_⟩
  · intro a port stack stackIp ha hv
    obtain ⟨s, hs⟩ := exists_toSockaddr stack port hv (ha.family hv)
    have hencodes := (encodes_of_toSockaddr hs).2
    obtain ⟨hvalid, hfamily, hoctets, hport⟩ :=
      @toIpAddressAndPort_of_encodes _ stackIp a s port hencodes
    refine ⟨s, hs, hvalid, hfamily, hoctets, hport, ?_⟩
    rw [hencodes.port]
    exact store_bigEndian_port port
  · intro s stack stackIp hfamily hlen hzero
    exact encode_decode_ipv4 stack stackIp hfamily hlen hzero
  · intro s stack stackIp hfamily hlen hflow hscope
    exact encode_decode_ipv6 stack stackIp hfamily hlen hflow hscope
  · intro s stackIp h4 h6
    rw [toIpAddressAndPort_other stackIp h4 h6]
    exact ⟨rfl, rfl⟩

end

theorem codec_round_trip_loopback :
    ∃ s, toSockaddr (Image.zeros _) (ipv4In 0 [127, 0, 0, 1].get) 80 = some s ∧
      (toIpAddressAndPort (Stack.filled 1).ipAddress s).1.isValid ∧
      (toIpAddressAndPort (Stack.filled 1).ipAddress s).1.getAddressFamily = .ipv4 ∧
      (toIpAddressAndPort (Stack.filled 1).ipAddress s).1.octets = [127, 0, 0, 1] ∧
      (toIpAddressAndPort (Stack.filled 1).ipAddress s).2 = 80 ∧ s.port 0 = 0 ∧ s.port 1 = 80 :=
  codec_round_trip.1 _ 80 _ _ (ipv4In_obtained 0 _) rfl

end Ztcpp
