import DHCPv6Client.Machine

/-!
# The lease a saved packet gives

What `DHCPv6ClientSavePacket` records, from the IA_NA `get_ia_na_addr_code` takes:

* `findIAADDR_eq`: with every nested IAADDR long enough, the search loop takes the first
  IAADDR with a nonzero valid lifetime (`firstLiveIAADDR`) and gives up when that one's
  preferred lifetime is above its valid lifetime; `getIaNaAddrCode_first_live` says
  exactly when an IA_NA and an IAADDR are given back, and which;
* `normalizeLease_eq_spec`: the code's normalisation of the four times is the spec's four
  steps in order (`normalizeLeaseSpec`), except that an infinite valid lifetime also makes
  the preferred lifetime infinite; `savePacket_lease_times` says it of the saved lease;
* `Lease.Normalized`: what the times of every saved lease satisfy
  (`normalized_of_leaseTimesOf`, `savePacket_normalized`), and what Bound's entry
  commits to the kernel from such a lease (`boundEnter_residuals`).
-/

namespace DHCPv6Client

/-! ## Fields -/

theorem foldl_ntoh_lt (bs : List UInt8) (acc : Nat) :
    bs.foldl (fun n b => 256 * n + b.toNat) acc < (acc + 1) * 256 ^ bs.length := by
  induction bs generalizing acc with
  | nil => simp
  | cons b bs ih =>
    have hb : b.toNat < 256 := UInt8.toNat_lt_size b
    calc _ < (256 * acc + b.toNat + 1) * 256 ^ bs.length := ih _
      _ ≤ (256 * (acc + 1)) * 256 ^ bs.length := Nat.mul_le_mul_right _ (by omega)
      _ = (acc + 1) * 256 ^ (b :: bs).length := by rw [List.length_cons, pow_succ]; ring

/-- A `w`-byte field holds less than `256 ^ w`. -/
theorem getField_lt (bs : List UInt8) (i w : Nat) : getField bs i w < 256 ^ w := by
  have h := foldl_ntoh_lt ((bs.drop i).take w) 0
  simp only [zero_add, one_mul] at h
  exact lt_of_lt_of_le h (Nat.pow_le_pow_right (by omega) (List.length_take_le _ _))

/-- A 4-byte lifetime is at most `DHCP_INFINITE_LEASE`. -/
theorem getField_four_le (bs : List UInt8) (i : Nat) : getField bs i 4 ≤ DHCP_INFINITE_LEASE := by
  have := getField_lt bs i 4
  unfold DHCP_INFINITE_LEASE; omega

/-! ## The IAADDR search -/

/-- Every IAADDR of a list is long enough to hold its address and lifetimes. -/
def IAADDRsWellFormed (os : List DHCPv6Option) : Prop :=
  ∀ o ∈ os, o.code = kDHCPv6OPTION_IAADDR → DHCPv6OptionIAADDR_MIN_LENGTH ≤ o.data.length

instance (os : List DHCPv6Option) : Decidable (IAADDRsWellFormed os) :=
  inferInstanceAs (Decidable (∀ o ∈ os, _))

/-- The first IAADDR of a list with a nonzero valid lifetime. -/
def firstLiveIAADDR (os : List DHCPv6Option) : Option (List UInt8) :=
  (os.find? fun o => o.code == kDHCPv6OPTION_IAADDR && iaAddrGetValidLifetime o.data != 0).map
    (·.data)

/-- With every IAADDR long enough, the loop of `get_ia_na_addr_code` takes the first IAADDR
with a nonzero valid lifetime, and only if its preferred lifetime is not above the valid
one: an IAADDR that fails this ends the search. -/
theorem findIAADDR_eq {os : List DHCPv6Option} (hwf : IAADDRsWellFormed os) :
    findIAADDR os = (firstLiveIAADDR os).filter
      fun a => iaAddrGetPreferredLifetime a ≤ iaAddrGetValidLifetime a := by
  induction os with
  | nil => rfl
  | cons o os ih =>
    have ih := ih fun o' ho' => hwf o' (List.mem_cons_of_mem _ ho')
    simp only [firstLiveIAADDR] at ih ⊢
    by_cases hc : o.code = kDHCPv6OPTION_IAADDR
    · have hl := hwf o (List.mem_cons_self _ _) hc
      by_cases hv : iaAddrGetValidLifetime o.data = 0
      · simp [findIAADDR, hc, hv, ih, not_lt.mpr hl]
      · by_cases hp : iaAddrGetValidLifetime o.data < iaAddrGetPreferredLifetime o.data
        · simp [findIAADDR, hc, hv, hp, not_lt.mpr hl, Option.filter, not_le.mpr hp]
        · simp [findIAADDR, hc, hv, hp, not_lt.mpr hl, Option.filter, not_lt.mp hp]
    · simp [findIAADDR, hc, ih]

/-- An IAADDR the loop takes has a nonzero valid lifetime, not below its preferred one. -/
theorem findIAADDR_lifetimes {os : List DHCPv6Option} {a : List UInt8}
    (h : findIAADDR os = some a) :
    iaAddrGetValidLifetime a ≠ 0 ∧ iaAddrGetPreferredLifetime a ≤ iaAddrGetValidLifetime a := by
  induction os with
  | nil => cases h
  | cons o os ih =>
    unfold findIAADDR at h
    split_ifs at h with h1 h2 h3 h4
    · exact ih h
    · exact ih h
    · cases h; exact ⟨h3, not_lt.mp h4⟩

/-- `get_ia_na_addr_code` gives back an IA_NA and an IAADDR exactly when the first IA_NA is
longer than its header, its T1 is not above its T2 (when both are set), its nested options
parse with a readable status, and the search loop finds the IAADDR in them. -/
theorem getIaNaAddrCode_eq_some_iff (options : List DHCPv6Option) (ia a : List UInt8) :
    ((getIaNaAddrCode options).iaNa = some ia ∧ (getIaNaAddrCode options).iaAddr = some a) ↔
      getOption options kDHCPv6OPTION_IA_NA = some ia ∧ DHCPv6OptionIA_NA_MIN_LENGTH < ia.length ∧
      ¬(iaNaGetT1 ia ≠ 0 ∧ iaNaGetT2 ia ≠ 0 ∧ iaNaGetT2 ia < iaNaGetT1 ia) ∧
      ∃ nested, optionListCreate (ia.drop DHCPv6OptionIA_NA_MIN_LENGTH) = some nested ∧
        (getStatusCode nested).isSome ∧ findIAADDR nested = some a := by
  unfold getIaNaAddrCode
  split
  · simp_all [IANAAddr.none]
  rename_i ia' hia
  simp only [hia, Option.some.injEq]
  split_ifs with hl ht
  · simp only [IANAAddr.none, reduceCtorEq, false_and, false_iff, not_and]
    rintro rfl h; omega
  · simp only [IANAAddr.none, reduceCtorEq, false_and, false_iff, not_and]
    rintro rfl - h -; exact h ht.1 ht.2.1 ht.2.2
  split
  · simp only [IANAAddr.none, reduceCtorEq, false_and, false_iff, not_and]
    rintro rfl - - ⟨x, hx, hs, hf⟩; simp_all
  rename_i nested hn
  split
  · simp only [IANAAddr.none, reduceCtorEq, false_and, false_iff, not_and]
    rintro rfl - - ⟨x, hx, hs, hf⟩; simp_all
  split
  · simp only [IANAAddr.none, reduceCtorEq, false_and, false_iff, not_and]
    rintro rfl - - ⟨x, hx, hs, hf⟩; simp_all
  · rename_i code hc _ d hd
    simp only [Option.some.injEq, true_and]
    constructor
    · rintro ⟨rfl, rfl⟩; exact ⟨rfl, not_le.mp hl, ht, nested, hn, by simp [hc], hd⟩
    · rintro ⟨rfl, -, -, x, hx, -, hf⟩
      rw [hn, Option.some.injEq] at hx; subst hx
      rw [hd, Option.some.injEq] at hf
      exact ⟨rfl, hf⟩

/-- With every nested IAADDR long enough, `get_ia_na_addr_code` gives back the IA_NA and
an IAADDR exactly when the IA_NA is longer than its header, its T1 is not above its T2,
its nested options parse with a readable status, and the first IAADDR with a nonzero
valid lifetime has a preferred lifetime not above it; that IAADDR is the one given. -/
theorem getIaNaAddrCode_first_live (options : List DHCPv6Option) (ia a : List UInt8)
    (hwf : ∀ ia nested, getOption options kDHCPv6OPTION_IA_NA = some ia →
      optionListCreate (ia.drop DHCPv6OptionIA_NA_MIN_LENGTH) = some nested →
      IAADDRsWellFormed nested) :
    ((getIaNaAddrCode options).iaNa = some ia ∧ (getIaNaAddrCode options).iaAddr = some a) ↔
      getOption options kDHCPv6OPTION_IA_NA = some ia ∧ DHCPv6OptionIA_NA_MIN_LENGTH < ia.length ∧
      ¬(iaNaGetT1 ia ≠ 0 ∧ iaNaGetT2 ia ≠ 0 ∧ iaNaGetT2 ia < iaNaGetT1 ia) ∧
      ∃ nested, optionListCreate (ia.drop DHCPv6OptionIA_NA_MIN_LENGTH) = some nested ∧
        (getStatusCode nested).isSome ∧ firstLiveIAADDR nested = some a ∧
        iaAddrGetPreferredLifetime a ≤ iaAddrGetValidLifetime a := by
  rw [getIaNaAddrCode_eq_some_iff]
  refine and_congr_right fun hia => and_congr_right fun _ => and_congr_right fun _ =>
    exists_congr fun nested => and_congr_right fun hn => and_congr_right fun _ => ?_
  rw [findIAADDR_eq (hwf ia nested hia hn)]
  cases firstLiveIAADDR nested with
  | none => simp [Option.filter]
  | some b => by_cases hb : b = a <;> simp [Option.filter, hb]

theorem exampleIaNa_first_live :
    ((getIaNaAddrCode [⟨kDHCPv6OPTION_IA_NA, exampleIaNa 100 200⟩]).iaNa = some (exampleIaNa 100 200) ∧
      (getIaNaAddrCode [⟨kDHCPv6OPTION_IA_NA, exampleIaNa 100 200⟩]).iaAddr =
        some (exampleAddress ++ hton 4 100 ++ hton 4 200)) ↔
      getOption [⟨kDHCPv6OPTION_IA_NA, exampleIaNa 100 200⟩] kDHCPv6OPTION_IA_NA =
        some (exampleIaNa 100 200) ∧
      DHCPv6OptionIA_NA_MIN_LENGTH < (exampleIaNa 100 200).length ∧
      ¬(iaNaGetT1 (exampleIaNa 100 200) ≠ 0 ∧ iaNaGetT2 (exampleIaNa 100 200) ≠ 0 ∧
        iaNaGetT2 (exampleIaNa 100 200) < iaNaGetT1 (exampleIaNa 100 200)) ∧
      ∃ nested, optionListCreate ((exampleIaNa 100 200).drop DHCPv6OptionIA_NA_MIN_LENGTH) = some nested ∧
        (getStatusCode nested).isSome ∧
        firstLiveIAADDR nested = some (exampleAddress ++ hton 4 100 ++ hton 4 200) ∧
        iaAddrGetPreferredLifetime (exampleAddress ++ hton 4 100 ++ hton 4 200) ≤
          iaAddrGetValidLifetime (exampleAddress ++ hton 4 100 ++ hton 4 200) :=
  getIaNaAddrCode_first_live _ _ _ fun ia nested h1 h2 => by
    rw [show getOption [⟨kDHCPv6OPTION_IA_NA, exampleIaNa 100 200⟩] kDHCPv6OPTION_IA_NA =
      some (exampleIaNa 100 200) by decide, Option.some.injEq] at h1
    subst h1
    rw [show optionListCreate ((exampleIaNa 100 200).drop DHCPv6OptionIA_NA_MIN_LENGTH) =
      some [⟨kDHCPv6OPTION_IAADDR, exampleAddress ++ hton 4 100 ++ hton 4 200⟩] by decide,
      Option.some.injEq] at h2
    subst h2
    decide

/-- An IA_NA whose first IAADDR has its preferred lifetime above its valid lifetime, and
whose second IAADDR is usable. -/
def confusedIaNa : List UInt8 :=
  hton 4 1 ++ hton 4 0 ++ hton 4 0 ++
    hton 2 kDHCPv6OPTION_IAADDR ++ hton 2 DHCPv6OptionIAADDR_MIN_LENGTH ++ exampleAddress ++
      hton 4 200 ++ hton 4 100 ++
    hton 2 kDHCPv6OPTION_IAADDR ++ hton 2 DHCPv6OptionIAADDR_MIN_LENGTH ++ exampleAddress ++
      hton 4 50 ++ hton 4 100

/-- The usable second IAADDR of `confusedIaNa` is not taken: the first one ends the
search, and the IA_NA is ignored. -/
theorem confusedIaNa_usable_iaAddr_ignored :
    (getIaNaAddrCode [⟨kDHCPv6OPTION_IA_NA, confusedIaNa⟩]).iaAddr = none ∧
    ∃ nested, optionListCreate (confusedIaNa.drop DHCPv6OptionIA_NA_MIN_LENGTH) = some nested ∧
      IAADDRsWellFormed nested ∧ (getStatusCode nested).isSome ∧
      ∃ o ∈ nested, o.code = kDHCPv6OPTION_IAADDR ∧ iaAddrGetValidLifetime o.data ≠ 0 ∧
        iaAddrGetPreferredLifetime o.data ≤ iaAddrGetValidLifetime o.data :=
  ⟨by decide, _, rfl, by decide, by decide,
    ⟨kDHCPv6OPTION_IAADDR, exampleAddress ++ hton 4 50 ++ hton 4 100⟩, by decide, rfl, by decide,
    by decide⟩

/-! ## Normalising the times -/

/-- Modelled from the spec: the normalisation of T1, T2 and the lifetimes on saving a
REPLY, its four steps in order. -/
def normalizeLeaseSpec (t1 t2 preferred valid : Nat) : Nat × Nat × Nat × Nat :=
  -- 1. a preferred lifetime of 0 becomes the valid lifetime
  let preferred := if preferred = 0 then valid else preferred
  -- 2. T1 or T2 of 0: none for an infinite preferred lifetime, else its half and four fifths
  let (t1, t2) :=
    if t1 = 0 ∨ t2 = 0 then
      if preferred = DHCP_INFINITE_LEASE then (0, 0) else (preferred / 2, 4 * preferred / 5)
    else (t1, t2)
  -- 3. T1 or T2 infinite: no T1 or T2, and both lifetimes infinite
  let (t1, t2, preferred, valid) :=
    if t1 = DHCP_INFINITE_LEASE ∨ t2 = DHCP_INFINITE_LEASE then
      (0, 0, DHCP_INFINITE_LEASE, DHCP_INFINITE_LEASE)
    else (t1, t2, preferred, valid)
  -- 4. valid lifetime infinite: no T1 or T2
  if valid = DHCP_INFINITE_LEASE then (0, 0, preferred, valid) else (t1, t2, preferred, valid)

/-- On 32-bit lifetimes, `DHCPv6ClientSavePacket`'s normalisation is the spec's four steps,
except that an infinite valid lifetime makes the preferred lifetime infinite too. -/
theorem normalizeLease_eq_spec {t1 t2 preferred valid : Nat} (hp : preferred ≤ DHCP_INFINITE_LEASE)
    (hv : valid ≤ DHCP_INFINITE_LEASE) :
    normalizeLease t1 t2 preferred valid =
      match normalizeLeaseSpec t1 t2 preferred valid with
      | (t1, t2, preferred, valid) =>
        (t1, t2, if valid = DHCP_INFINITE_LEASE then DHCP_INFINITE_LEASE else preferred, valid) := by
  have hp' : (if preferred = 0 then valid else preferred) ≤ DHCP_INFINITE_LEASE := by
    split <;> assumption
  simp only [normalizeLease, normalizeLeaseSpec]
  generalize (if preferred = 0 then valid else preferred) = p at hp' ⊢
  unfold DHCP_INFINITE_LEASE at *
  by_cases h0 : t1 = 0 ∨ t2 = 0
  · by_cases hpi : p = 4294967295
    · simp [h0, hpi]
    · have hf : ¬(p / 2 = 4294967295 ∨ 4 * p / 5 = 4294967295) := by omega
      by_cases hvi : valid = 4294967295 <;>
        simp [h0, hpi, hf, hvi, show p * 5 / 10 = p / 2 by omega, show p * 8 / 10 = 4 * p / 5 by omega]
  · by_cases hi : t1 = 4294967295 ∨ t2 = 4294967295
    · simp [h0, hi]
    · by_cases hvi : valid = 4294967295 <;> simp [h0, hi, hvi]

/-- The times `DHCPv6ClientSavePacket` records for a packet with a usable IA_NA: the spec's
four steps on its T1 and T2 and its IAADDR's lifetimes, except that an infinite valid
lifetime makes the preferred lifetime infinite too. -/
theorem savePacket_lease_times (w : World) (s : Client) {p : DHCPv6Packet} {ia a : List UInt8}
    (hia : (getIaNaAddrCode p.options).iaNa = some ia)
    (ha : (getIaNaAddrCode p.options).iaAddr = some a) :
    (s.savePacket w p).lease.times =
      match normalizeLeaseSpec (iaNaGetT1 ia) (iaNaGetT2 ia) (iaAddrGetPreferredLifetime a)
          (iaAddrGetValidLifetime a) with
      | (t1, t2, preferred, valid) =>
        (t1, t2, if valid = DHCP_INFINITE_LEASE then DHCP_INFINITE_LEASE else preferred, valid) := by
  have hp : iaAddrGetPreferredLifetime a ≤ DHCP_INFINITE_LEASE := getField_four_le a 16
  have hv : iaAddrGetValidLifetime a ≤ DHCP_INFINITE_LEASE := getField_four_le a 20
  rw [← normalizeLease_eq_spec hp hv]
  simp [Client.savePacket, Lease.ofPacket, leaseTimesOf, hia, ha, Lease.times]

theorem exampleReply_lease_times :
    (getIaNaAddrCode (exampleMessage kDHCPv6MessageREPLY 100 200 []).options).iaNa =
      some (exampleIaNa 100 200) ∧
    (getIaNaAddrCode (exampleMessage kDHCPv6MessageREPLY 100 200 []).options).iaAddr =
      some (exampleAddress ++ hton 4 100 ++ hton 4 200) ∧
    (create.savePacket (exampleWorld 0) (exampleMessage kDHCPv6MessageREPLY 100 200 [])).lease.times =
      match normalizeLeaseSpec (iaNaGetT1 (exampleIaNa 100 200)) (iaNaGetT2 (exampleIaNa 100 200))
          (iaAddrGetPreferredLifetime (exampleAddress ++ hton 4 100 ++ hton 4 200))
          (iaAddrGetValidLifetime (exampleAddress ++ hton 4 100 ++ hton 4 200)) with
      | (t1, t2, preferred, valid) =>
        (t1, t2, if valid = DHCP_INFINITE_LEASE then DHCP_INFINITE_LEASE else preferred, valid) :=
  have hia : (getIaNaAddrCode (exampleMessage kDHCPv6MessageREPLY 100 200 []).options).iaNa =
      some (exampleIaNa 100 200) := by decide
  have ha : (getIaNaAddrCode (exampleMessage kDHCPv6MessageREPLY 100 200 []).options).iaAddr =
      some (exampleAddress ++ hton 4 100 ++ hton 4 200) := by decide
  ⟨hia, ha, savePacket_lease_times _ _ hia ha⟩

/-- A REPLY leaving T1 and T2 to the client, with a preferred lifetime of 100 and an
infinite valid lifetime: the spec's four steps keep the preferred lifetime of 100, the
saved lease makes it infinite. -/
theorem savePacket_infinite_valid_infinite_preferred :
    (getIaNaAddrCode (exampleMessage kDHCPv6MessageREPLY 100 DHCP_INFINITE_LEASE []).options).iaAddr =
      some (exampleAddress ++ hton 4 100 ++ hton 4 DHCP_INFINITE_LEASE) ∧
    (create.savePacket (exampleWorld 0)
      (exampleMessage kDHCPv6MessageREPLY 100 DHCP_INFINITE_LEASE [])).lease.times =
      (0, 0, DHCP_INFINITE_LEASE, DHCP_INFINITE_LEASE) ∧
    normalizeLeaseSpec 0 0 100 DHCP_INFINITE_LEASE = (0, 0, 100, DHCP_INFINITE_LEASE) :=
  ⟨by decide, by decide, by decide⟩

/-! ## What a saved lease satisfies -/

/-- The times of a lease as `DHCPv6ClientSavePacket` leaves them: T1 not after T2, a
32-bit valid lifetime of at least a second and not below the preferred one, and no T1 or
T2 for an infinite lease. -/
structure Lease.Normalized (l : Lease) : Prop where
  t1_le_t2 : l.t1 ≤ l.t2
  valid_pos : 0 < l.validLifetime
  preferred_le_valid : l.preferredLifetime ≤ l.validLifetime
  valid_le : l.validLifetime ≤ DHCP_INFINITE_LEASE
  infinite : l.validLifetime = DHCP_INFINITE_LEASE → l.t1 = 0 ∧ l.t2 = 0

/-- The normalisation of times that `get_ia_na_addr_code` let through. -/
theorem normalizeLease_normalized {t1 t2 preferred valid : Nat}
    (ht : ¬(t1 ≠ 0 ∧ t2 ≠ 0 ∧ t2 < t1)) (hv0 : valid ≠ 0) (hpv : preferred ≤ valid)
    (hv : valid ≤ DHCP_INFINITE_LEASE) {l : Lease}
    (hl : normalizeLease t1 t2 preferred valid = l.times) : l.Normalized := by
  have hp' : (if preferred = 0 then valid else preferred) ≤ valid := by split <;> omega
  simp only [normalizeLease] at hl
  generalize (if preferred = 0 then valid else preferred) = p at hp' hl
  obtain ⟨lt1, lt2, lp, lv⟩ := l
  simp only [Lease.times] at hl
  unfold DHCP_INFINITE_LEASE at *
  split_ifs at hl <;> simp only [Prod.mk.injEq] at hl <;> obtain ⟨rfl, rfl, rfl, rfl⟩ := hl <;>
    refine ⟨?_, ?_, ?_, ?_, ?_⟩ <;> dsimp only [DHCP_INFINITE_LEASE] <;> omega

/-- The lease of a saved packet is normalized. -/
theorem normalized_of_leaseTimesOf {p : DHCPv6Packet} {l : Lease}
    (h : leaseTimesOf p = some l.times) : l.Normalized := by
  unfold leaseTimesOf at h
  split at h
  · rename_i ia a hia ha
    obtain ⟨-, -, ht, nested, -, -, hf⟩ := (getIaNaAddrCode_eq_some_iff _ ia a).mp ⟨hia, ha⟩
    exact normalizeLease_normalized ht (findIAADDR_lifetimes hf).1 (findIAADDR_lifetimes hf).2
      (getField_four_le a 20) (Option.some_injective _ h)
  · cases h

/-- `DHCPv6ClientSavePacket` records a normalized lease from a packet with a usable IA_NA. -/
theorem savePacket_normalized (w : World) (s : Client) {p : DHCPv6Packet}
    (hp : (getIaNaAddrCode p.options).iaNa ≠ none) : (s.savePacket w p).lease.Normalized := by
  obtain ⟨ia, hia⟩ := Option.ne_none_iff_exists'.mp hp
  obtain ⟨a, ha⟩ := Option.ne_none_iff_exists'.mp ((getIaNaAddrCode_iaNa_eq_none _).not.mp hp)
  exact normalized_of_leaseTimesOf (p := p) (by simp [Client.savePacket, Lease.ofPacket, leaseTimesOf, hia, ha,
    Lease.times])

/-- The 32-bit difference is the difference when it does not wrap. -/
theorem u32Sub_eq_sub {a b : Nat} (hb : b ≤ a) (ha : a ≤ DHCP_INFINITE_LEASE) : u32Sub a b = a - b := by
  unfold u32Sub; unfold DHCP_INFINITE_LEASE at ha; omega

/-- Bound's entry on a normalized, finite lease that has not run out: it commits the
address with the valid lifetime less the whole seconds passed, and the preferred lifetime
less them (0 once passed), both as the 32-bit differences of the code, which do not wrap:
the valid one is at least a second and not below the preferred one. -/
theorem boundEnter_residuals (h : Host) (w : World) (a : In6Addr) (s : Client)
    (hn : s.lease.Normalized) (hf : s.lease.validLifetime ≠ DHCP_INFINITE_LEASE)
    (hs : s.lease.start ≤ w.now) (hu : toUInt32 (w.now - s.lease.start) < s.lease.validLifetime) :
    ∃ s₁, boundEnter h w a s =
      boundCommit h w a (u32Sub s.lease.validLifetime (toUInt32 (w.now - s.lease.start)))
        (if toUInt32 (w.now - s.lease.start) < s.lease.preferredLifetime then
          u32Sub s.lease.preferredLifetime (toUInt32 (w.now - s.lease.start)) else 0)
        (w.now - s.lease.start) s₁ ∧
      1 ≤ u32Sub s.lease.validLifetime (toUInt32 (w.now - s.lease.start)) ∧
      (if toUInt32 (w.now - s.lease.start) < s.lease.preferredLifetime then
          u32Sub s.lease.preferredLifetime (toUInt32 (w.now - s.lease.start)) else 0) ≤
        u32Sub s.lease.validLifetime (toUInt32 (w.now - s.lease.start)) := by
  generalize hx : toUInt32 (w.now - s.lease.start) = u at hu
  have hpv := hn.preferred_le_valid
  have hp : (if u < s.lease.preferredLifetime then u32Sub s.lease.preferredLifetime u else 0) =
      if u < s.lease.preferredLifetime then s.lease.preferredLifetime - u else 0 := by
    split_ifs with hup
    · exact u32Sub_eq_sub hup.le (hpv.trans hn.valid_le)
    · rfl
  rw [hp, u32Sub_eq_sub hu.le hn.valid_le]
  simp only [boundEnter, Client.setState, Client.cancelPendingEvents, hf, if_false, not_lt.mpr hs, hx,
    not_le.mpr hu]
  exact ⟨_, rfl, by omega, by split_ifs <;> omega⟩

end DHCPv6Client
