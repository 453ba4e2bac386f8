import DHCPv6Client.Lease

/-!
# The option format, both ways

An option on the wire is a 2-byte code, a 2-byte length and the value, in network order
(`encodeOption`). The reader the client relies on, `DHCPv6OptionListCreate`
(`optionListCreate`), and the writer, `DHCPv6OptionAreaAddOption`, are inverse:

* `ntoh_hton`, `hton_ntoh`: a number written in `w` bytes reads back modulo `256 ^ w`, and
  `w` bytes read as a number are written back as themselves;
* `optionListCreate_eq_some_iff`: a buffer is accepted exactly when it is the encoding of a
  list of options with 16-bit codes and lengths, and it is read as that list: the walk of
  `parseOptions` over the encoding (`parseOptions_encodeOptions`) and the encoding of what
  it accepts (`encodeOptions_of_parseOptions`), each by induction;
* `iaNa_written_decode`: the IA_NA of a SOLICIT and the IA_NA `add_ia_na_option` writes
  for the other messages read back, by the client's own readers, as the IAID, T1 and T2 of
  0, and, for the second, one IAADDR with the address of `ia_addr` and lifetimes of 0, in
  which `get_ia_na_addr_code` finds no address to use;
* `senders_sendMessage`: the senders write the options of a message one by one, each
  checked against the room left in the 1500-byte buffer (`OptionArea.addAll`); as the
  checks only grow (`OptionArea.addAll_eq`), each sender sends its message whole exactly
  when it fits, and nothing otherwise (`Client.sendMessage`), and the client goes on to
  match replies against the DUID the message carried.
-/

namespace DHCPv6Client

/-! ## Numbers in network order -/

theorem toUInt8_toNat (n : Nat) : n.toUInt8.toNat = n % 256 := by
  simp [Nat.toUInt8, UInt8.ofNat, UInt8.toNat, Fin.ofNat]

theorem ntoh_append (xs ys : List UInt8) : ntoh (xs ++ ys) = ntoh xs * 256 ^ ys.length + ntoh ys := by
  induction ys using List.reverseRecOn with
  | nil => simp [ntoh]
  | append_singleton ys y ih =>
    rw [← List.append_assoc]
    simp only [ntoh, List.foldl_append, List.foldl_cons, List.foldl_nil, List.length_append,
      List.length_singleton] at ih ⊢
    rw [ih, pow_succ]; ring

theorem ntoh_cons (b : UInt8) (bs : List UInt8) : ntoh (b :: bs) = b.toNat * 256 ^ bs.length + ntoh bs := by
  rw [show b :: bs = [b] ++ bs from rfl, ntoh_append]; simp [ntoh]

theorem ntoh_lt (bs : List UInt8) : ntoh bs < 256 ^ bs.length := by
  simpa using foldl_ntoh_lt bs 0

theorem hton_succ (w n : Nat) : hton (w + 1) n = (n / 256 ^ w % 256).toUInt8 :: hton w n := by
  simp [hton, List.range_succ]

@[simp] theorem hton_length (w n : Nat) : (hton w n).length = w := by simp [hton]

/-- A number written in `w` bytes reads back modulo `256 ^ w`. -/
theorem ntoh_hton (w n : Nat) : ntoh (hton w n) = n % 256 ^ w := by
  induction w with
  | zero => simp [hton, ntoh, Nat.mod_one]
  | succ w ih =>
    rw [hton_succ, ntoh_cons, ih, hton_length, toUInt8_toNat, Nat.mod_mod, pow_succ, Nat.mod_mul]
    ring

/-- `hton` reads only the number modulo `256 ^ w`. -/
theorem hton_add_mul (w n m : Nat) : hton w (n + m * 256 ^ w) = hton w n := by
  unfold hton
  refine List.map_congr_left fun k hk => ?_
  have hk : k < w := by simpa using hk
  obtain ⟨j, rfl⟩ : ∃ j, w = k + (j + 1) := ⟨w - k - 1, by omega⟩
  rw [show n + m * 256 ^ (k + (j + 1)) = n + 256 ^ k * (m * 256 ^ j * 256) by ring,
    Nat.add_mul_div_left _ _ (by positivity), Nat.add_mul_mod_self_right]

/-- Bytes read as a number are written back as themselves. -/
theorem hton_ntoh (bs : List UInt8) : hton bs.length (ntoh bs) = bs := by
  induction bs with
  | nil => rfl
  | cons b bs ih =>
    have hb : b.toNat < 256 := UInt8.toNat_lt_size b
    have hl := ntoh_lt bs
    rw [List.length_cons, hton_succ, ntoh_cons, add_comm (b.toNat * _), hton_add_mul, ih,
      Nat.add_mul_div_right _ _ (by positivity), Nat.div_eq_of_lt hl, zero_add, Nat.mod_eq_of_lt hb]
    congr 1
    exact UInt8.toNat.inj (by rw [toUInt8_toNat, Nat.mod_eq_of_lt hb])

theorem getField_append (xs ys zs : List UInt8) :
    getField (xs ++ ys ++ zs) xs.length ys.length = ntoh ys := by
  simp [getField, List.drop_left', List.take_left']

/-- A field within the bytes is written back as the bytes it was read from. -/
theorem hton_getField {bs : List UInt8} {i w : Nat} (h : i + w ≤ bs.length) :
    hton w (getField bs i w) = (bs.drop i).take w := by
  have hl : ((bs.drop i).take w).length = w := by simp; omega
  have := hton_ntoh ((bs.drop i).take w)
  rwa [hl] at this

/-! ## Option lists -/

/-- The bytes `DHCPv6OptionAreaAddOption` writes for an option, as `add_ia_na_option` writes
its IAADDR by hand: the code and the length of the value in two bytes each, then the
value. -/
def encodeOption (o : DHCPv6Option) : List UInt8 :=
  hton 2 o.code ++ hton 2 o.data.length ++ o.data

/-- The bytes of an option list, written one option after another. -/
def encodeOptions (os : List DHCPv6Option) : List UInt8 := os.flatMap encodeOption

/-- An option whose code and length fit their two bytes. -/
def DHCPv6Option.Fits (o : DHCPv6Option) : Prop := o.code < 2 ^ 16 ∧ o.data.length < 2 ^ 16

@[simp] theorem encodeOptions_nil : encodeOptions [] = [] := rfl

@[simp] theorem encodeOptions_cons (o : DHCPv6Option) (os : List DHCPv6Option) :
    encodeOptions (o :: os) = encodeOption o ++ encodeOptions os := rfl

@[simp] theorem encodeOptions_append (xs ys : List DHCPv6Option) :
    encodeOptions (xs ++ ys) = encodeOptions xs ++ encodeOptions ys := by
  induction xs with
  | nil => rfl
  | cons x xs ih => simp [ih]

theorem encodeOption_length (o : DHCPv6Option) :
    (encodeOption o).length = DHCPV6_OPTION_HEADER_SIZE + o.data.length := by
  simp [encodeOption, DHCPV6_OPTION_HEADER_SIZE]; omega

theorem encodeOptions_length (os : List DHCPv6Option) :
    (encodeOptions os).length = (os.map fun o => DHCPV6_OPTION_HEADER_SIZE + o.data.length).sum := by
  induction os with
  | nil => rfl
  | cons o os ih => simp [encodeOption_length, ih]

/-- An option of a list takes no more bytes than the whole list. -/
theorem encodeOption_length_le {o : DHCPv6Option} {os : List DHCPv6Option} (ho : o ∈ os) :
    (encodeOption o).length ≤ (encodeOptions os).length := by
  induction os with
  | nil => cases ho
  | cons o' os ih =>
    rw [encodeOptions_cons, List.length_append]
    rcases List.mem_cons.mp ho with rfl | ho
    · exact Nat.le_add_right _ _
    · exact le_add_left (ih ho)

theorem length_le_encodeOptions_length (os : List DHCPv6Option) : os.length ≤ (encodeOptions os).length := by
  induction os with
  | nil => rfl
  | cons o os ih =>
    simp only [encodeOptions_cons, List.length_append, encodeOption_length, List.length_cons,
      DHCPV6_OPTION_HEADER_SIZE]
    omega

/-- One option of a nonempty buffer, as `parseOptions` reads it. -/
theorem parseOptions_succ {fuel : Nat} {bs : List UInt8} (hbs : bs ≠ []) :
    parseOptions (fuel + 1) bs =
      if bs.length < DHCPV6_OPTION_HEADER_SIZE ∨
          (bs.drop DHCPV6_OPTION_HEADER_SIZE).length < getField bs 2 2 then none
      else (parseOptions fuel ((bs.drop DHCPV6_OPTION_HEADER_SIZE).drop (getField bs 2 2))).map
        (⟨getField bs 0 2, (bs.drop DHCPV6_OPTION_HEADER_SIZE).take (getField bs 2 2)⟩ :: ·) := by
  obtain ⟨b, bs, rfl⟩ := List.exists_cons_of_ne_nil hbs
  rfl

theorem parseOptions_encodeOption (fuel : Nat) {o : DHCPv6Option} (ho : o.Fits) (rest : List UInt8) :
    parseOptions (fuel + 1) (encodeOption o ++ rest) = (parseOptions fuel rest).map (o :: ·) := by
  have h16 : (256 : Nat) ^ 2 = 2 ^ 16 := by norm_num
  have hcode : getField (encodeOption o ++ rest) 0 2 = o.code := by
    have := getField_append [] (hton 2 o.code) (hton 2 o.data.length ++ o.data ++ rest)
    simp only [List.nil_append, List.length_nil, hton_length, ntoh_hton, List.append_assoc] at this
    rw [encodeOption, List.append_assoc, List.append_assoc, this, h16, Nat.mod_eq_of_lt ho.1]
  have hlen : getField (encodeOption o ++ rest) 2 2 = o.data.length := by
    have := getField_append (hton 2 o.code) (hton 2 o.data.length) (o.data ++ rest)
    simp only [hton_length, ntoh_hton, List.append_assoc] at this
    rw [encodeOption, List.append_assoc, List.append_assoc, this, h16, Nat.mod_eq_of_lt ho.2]
  have hdrop : (encodeOption o ++ rest).drop DHCPV6_OPTION_HEADER_SIZE = o.data ++ rest := by
    simp [encodeOption, DHCPV6_OPTION_HEADER_SIZE, List.drop_append_eq_append_drop]
  have hl : (encodeOption o ++ rest).length = DHCPV6_OPTION_HEADER_SIZE + o.data.length + rest.length := by
    rw [List.length_append, encodeOption_length]
  rw [parseOptions_succ (List.ne_nil_of_length_pos (by simp only [hl, DHCPV6_OPTION_HEADER_SIZE]; omega)),
    hcode, hlen, hdrop, if_neg (by simp only [hl, List.length_append]; omega), List.drop_left, List.take_left]

/-- `parseOptions` reads the encoding of options that fit back as those options, given a
step per option. -/
theorem parseOptions_encodeOptions {os : List DHCPv6Option} (hos : ∀ o ∈ os, o.Fits) {fuel : Nat}
    (hf : os.length ≤ fuel) : parseOptions fuel (encodeOptions os) = some os := by
  induction os generalizing fuel with
  | nil => cases fuel <;> rfl
  | cons o os ih =>
    obtain ⟨fuel, rfl⟩ : ∃ f, fuel = f + 1 := ⟨fuel - 1, by simp at hf; omega⟩
    rw [encodeOptions_cons, parseOptions_encodeOption _ (hos o (List.mem_cons_self _ _)),
      ih (fun o' ho' => hos o' (List.mem_cons_of_mem _ ho')) (by simpa using hf)]
    rfl

/-- What `parseOptions` accepts is the encoding of what it gives, options that fit. -/
theorem encodeOptions_of_parseOptions {fuel : Nat} {bs : List UInt8} {os : List DHCPv6Option}
    (h : parseOptions fuel bs = some os) : encodeOptions os = bs ∧ ∀ o ∈ os, o.Fits := by
  induction fuel generalizing bs os with
  | zero =>
    cases bs with
    | nil => cases h; simp
    | cons => cases h
  | succ fuel ih =>
    cases bs with
    | nil => cases h; simp
    | cons b bs =>
      rw [parseOptions_succ (List.cons_ne_nil b bs)] at h
      split_ifs at h with hc
      obtain ⟨os', hp, rfl⟩ := Option.map_eq_some'.mp h
      obtain ⟨he, hfits⟩ := ih hp
      simp only [not_or, not_lt, DHCPV6_OPTION_HEADER_SIZE] at hc he ⊢
      have hlen : ((List.drop 4 (b :: bs)).take (getField (b :: bs) 2 2)).length =
          getField (b :: bs) 2 2 := by
        simp only [List.length_take]; omega
      refine ⟨?_, fun o ho => ?_⟩
      · rw [encodeOptions_cons, he, encodeOption, hlen, hton_getField (by omega), hton_getField (by omega),
          List.drop_zero, List.append_assoc, List.append_assoc, List.take_append_drop,
          show List.drop 4 (b :: bs) = List.drop 2 (List.drop 2 (b :: bs)) by simp [List.drop_drop],
          List.take_append_drop, List.take_append_drop]
      rcases List.mem_cons.mp ho with rfl | ho
      · refine ⟨getField_lt (b :: bs) 0 2, ?_⟩
        dsimp only
        rw [hlen]
        exact getField_lt (b :: bs) 2 2
      · exact hfits o ho

/-- `DHCPv6OptionListCreate` accepts a buffer exactly when it is the encoding of a list of
options with 16-bit codes and lengths, and reads it as that list. -/
theorem optionListCreate_eq_some_iff {bs : List UInt8} {os : List DHCPv6Option} :
    optionListCreate bs = some os ↔ bs = encodeOptions os ∧ ∀ o ∈ os, o.Fits := by
  refine ⟨fun h => (encodeOptions_of_parseOptions h).imp_left Eq.symm, ?_⟩
  rintro ⟨rfl, hf⟩
  exact parseOptions_encodeOptions hf (length_le_encodeOptions_length os)

/-! ## The IA_NA the client writes -/

/-- The IAADDR `add_ia_na_option` writes into the IA_NA: the address of `ia_addr`, and
lifetimes of 0. -/
def ourIaAddr (iaAddr : List UInt8) : List UInt8 := iaAddr.take 16 ++ hton 4 0 ++ hton 4 0

theorem solicitIaNa_length (iaid : Nat) : (solicitIaNa iaid).length = DHCPv6OptionIA_NA_MIN_LENGTH := by
  simp [solicitIaNa, DHCPv6OptionIA_NA_MIN_LENGTH]

theorem ourIaAddr_length {a : List UInt8} (ha : 16 ≤ a.length) :
    (ourIaAddr a).length = DHCPv6OptionIAADDR_MIN_LENGTH := by
  simp [ourIaAddr, DHCPv6OptionIAADDR_MIN_LENGTH]; omega

/-- For an `ia_addr` holding an address, the IA_NA `add_ia_na_option` writes is that of a
SOLICIT followed by one option, the IAADDR. -/
theorem ourIaNa_eq (iaid : Nat) {a : List UInt8} (ha : 16 ≤ a.length) :
    ourIaNa iaid a = solicitIaNa iaid ++ encodeOption ⟨kDHCPv6OPTION_IAADDR, ourIaAddr a⟩ := by
  rw [ourIaNa, encodeOption]
  dsimp only
  rw [ourIaAddr_length ha, ourIaAddr]
  simp only [List.append_assoc]

theorem solicitIaNa_fields (iaid : Nat) (rest : List UInt8) :
    getField (solicitIaNa iaid ++ rest) 0 4 = iaid % 2 ^ 32 ∧ iaNaGetT1 (solicitIaNa iaid ++ rest) = 0 ∧
      iaNaGetT2 (solicitIaNa iaid ++ rest) = 0 := by
  have h0 := getField_append [] (hton 4 iaid) (hton 4 0 ++ hton 4 0 ++ rest)
  have h1 := getField_append (hton 4 iaid) (hton 4 0) (hton 4 0 ++ rest)
  have h2 := getField_append (hton 4 iaid ++ hton 4 0) (hton 4 0) rest
  simp only [List.nil_append, List.length_nil, List.length_append, hton_length, ntoh_hton,
    Nat.zero_mod, List.append_assoc] at h0 h1 h2
  simp only [solicitIaNa, iaNaGetT1, iaNaGetT2, List.append_assoc]
  exact ⟨h0, h1, h2⟩

theorem ourIaAddr_fields {a : List UInt8} (ha : 16 ≤ a.length) :
    iaAddrGetAddress (ourIaAddr a) = iaAddrGetAddress a ∧ iaAddrGetPreferredLifetime (ourIaAddr a) = 0 ∧
      iaAddrGetValidLifetime (ourIaAddr a) = 0 := by
  have hl : (a.take 16).length = 16 := by simp; omega
  have h0 := getField_append [] (a.take 16) (hton 4 0 ++ hton 4 0)
  have h1 := getField_append (a.take 16) (hton 4 0) (hton 4 0)
  have h2 := getField_append (a.take 16 ++ hton 4 0) (hton 4 0) []
  simp only [List.nil_append, List.length_nil, List.length_append, hton_length, ntoh_hton, hl,
    Nat.zero_mod, List.append_assoc, List.append_nil] at h0 h1 h2
  simp only [ourIaAddr, iaAddrGetAddress, iaAddrGetPreferredLifetime, iaAddrGetValidLifetime,
    List.append_assoc, h0, h1, h2]
  exact ⟨rfl, trivial, trivial⟩

theorem ourIaNa_nested (iaid : Nat) {a : List UInt8} (ha : 16 ≤ a.length) :
    optionListCreate ((ourIaNa iaid a).drop DHCPv6OptionIA_NA_MIN_LENGTH) =
      some [⟨kDHCPv6OPTION_IAADDR, ourIaAddr a⟩] := by
  rw [ourIaNa_eq iaid ha, ← solicitIaNa_length iaid, List.drop_left, optionListCreate_eq_some_iff]
  refine ⟨by simp, ?_⟩
  simp only [List.mem_singleton, forall_eq]
  refine ⟨(by decide : kDHCPv6OPTION_IAADDR < 2 ^ 16), ?_⟩
  show (ourIaAddr a).length < 2 ^ 16
  rw [ourIaAddr_length ha]; decide

/-- The IA_NA of a SOLICIT and the IA_NA of the other messages, as the client's readers
read them: the IAID in 32 bits, T1 and T2 of 0, and nothing more in the first; in the
second, one nested option, the IAADDR, with the address of `ia_addr` and lifetimes of 0.
`get_ia_na_addr_code` takes neither as a binding: the first is no longer than its
header, and the one IAADDR of the second has a valid lifetime of 0. -/
theorem iaNa_written_decode (iaid : Nat) {a : List UInt8} (ha : 16 ≤ a.length) :
    (getField (solicitIaNa iaid) 0 4 = iaid % 2 ^ 32 ∧ iaNaGetT1 (solicitIaNa iaid) = 0 ∧
      iaNaGetT2 (solicitIaNa iaid) = 0 ∧ (solicitIaNa iaid).length = DHCPv6OptionIA_NA_MIN_LENGTH ∧
      getIaNaAddrCode [⟨kDHCPv6OPTION_IA_NA, solicitIaNa iaid⟩] = .none kDHCPv6StatusCodeSuccess) ∧
    (getField (ourIaNa iaid a) 0 4 = iaid % 2 ^ 32 ∧ iaNaGetT1 (ourIaNa iaid a) = 0 ∧
      iaNaGetT2 (ourIaNa iaid a) = 0 ∧
      optionListCreate ((ourIaNa iaid a).drop DHCPv6OptionIA_NA_MIN_LENGTH) =
        some [⟨kDHCPv6OPTION_IAADDR, ourIaAddr a⟩] ∧
      iaAddrGetAddress (ourIaAddr a) = iaAddrGetAddress a ∧
      iaAddrGetPreferredLifetime (ourIaAddr a) = 0 ∧ iaAddrGetValidLifetime (ourIaAddr a) = 0 ∧
      getIaNaAddrCode [⟨kDHCPv6OPTION_IA_NA, ourIaNa iaid a⟩] = .none kDHCPv6StatusCodeSuccess) := by
  have hs := solicitIaNa_fields iaid []
  have hf := solicitIaNa_fields iaid (encodeOption ⟨kDHCPv6OPTION_IAADDR, ourIaAddr a⟩)
  rw [List.append_nil] at hs
  rw [← ourIaNa_eq iaid ha] at hf
  have hsl := solicitIaNa_length iaid
  have hn := ourIaNa_nested iaid ha
  obtain ⟨ha₀, ha₁, ha₂⟩ := ourIaAddr_fields ha
  have hlen : DHCPv6OptionIA_NA_MIN_LENGTH < (ourIaNa iaid a).length := by
    simp [ourIaNa, solicitIaNa, DHCPv6OptionIA_NA_MIN_LENGTH]; omega
  refine ⟨⟨hs.1, hs.2.1, hs.2.2, hsl, by simp [getIaNaAddrCode, getOption, hsl]⟩,
    ⟨hf.1, hf.2.1, hf.2.2, hn, ha₀, ha₁, ha₂, ?_⟩⟩
  simp [getIaNaAddrCode, getOption, not_le.mpr hlen, hf.2.1, hn, getStatusCode, findIAADDR, ha₂,
    ourIaAddr_length ha, (by decide : kDHCPv6OPTION_IAADDR ≠ kDHCPv6OPTION_STATUS_CODE)]

theorem exampleAddress_iaNa_decode :
    16 ≤ exampleAddress.length ∧
      getIaNaAddrCode [⟨kDHCPv6OPTION_IA_NA, ourIaNa 1 exampleAddress⟩] = .none kDHCPv6StatusCodeSuccess :=
  ⟨by decide, (iaNa_written_decode 1 (by decide : 16 ≤ exampleAddress.length)).2.2.2.2.2.2.2.2⟩

/-! ## The buffer -/

/-- Options added to an area one after another, as the senders do. -/
def OptionArea.addAll (os : List DHCPv6Option) (oa : OptionArea) : Option OptionArea :=
  os.foldlM (fun oa o => oa.addOption o.code o.data) oa

@[simp] theorem OptionArea.addAll_nil (oa : OptionArea) : oa.addAll [] = some oa := rfl

theorem OptionArea.addAll_cons (o : DHCPv6Option) (os : List DHCPv6Option) (oa : OptionArea) :
    oa.addAll (o :: os) = (oa.addOption o.code o.data).bind (OptionArea.addAll os) := rfl

@[simp] theorem OptionArea.addAll_singleton (o : DHCPv6Option) (oa : OptionArea) :
    oa.addAll [o] = oa.addOption o.code o.data := by
  simp [OptionArea.addAll_cons]

theorem OptionArea.addAll_append (xs ys : List DHCPv6Option) (oa : OptionArea) :
    oa.addAll (xs ++ ys) = (oa.addAll xs).bind (OptionArea.addAll ys) := by
  simp [OptionArea.addAll, List.foldlM_append]

/-- The bytes used are those of the options written. -/
theorem OptionArea.used_eq (oa : OptionArea) : oa.used = (encodeOptions oa.options).length :=
  (encodeOptions_length _).symm

/-- Writing options one at a time, each checked against the room left, fails exactly when
the whole does not fit. -/
theorem OptionArea.addAll_eq (os : List DHCPv6Option) {oa : OptionArea} (h : oa.used ≤ oa.size) :
    oa.addAll os =
      if oa.used + (encodeOptions os).length ≤ oa.size then some { oa with options := oa.options ++ os }
      else none := by
  induction os generalizing oa with
  | nil => simp [h]
  | cons o os ih =>
    have hu : ({ oa with options := oa.options ++ [o] } : OptionArea).used =
        oa.used + DHCPV6_OPTION_HEADER_SIZE + o.data.length := by
      rw [OptionArea.used_eq, OptionArea.used_eq]
      simp only [encodeOptions_append, List.length_append, encodeOptions_cons, encodeOption_length,
        encodeOptions_nil, List.length_nil]
      omega
    have hl : (encodeOptions (o :: os)).length =
        DHCPV6_OPTION_HEADER_SIZE + o.data.length + (encodeOptions os).length := by
      rw [encodeOptions_cons, List.length_append, encodeOption_length]
    rw [OptionArea.addAll_cons, OptionArea.addOption, hl]
    by_cases h₁ : oa.used + DHCPV6_OPTION_HEADER_SIZE + o.data.length ≤ oa.size
    · rw [if_pos h₁, Option.some_bind, ih (hu ▸ h₁), hu]
      simp only [List.append_assoc, List.singleton_append, ← add_assoc]
    · rw [if_neg h₁, Option.none_bind, if_neg (by omega)]

section

variable (h : Host) (w : World)

/-- The options `DHCPv6ClientMakePacket` writes, in order: our DUID, the ORO of the
requested options, and the elapsed time. -/
def packetOptions (s : Client) : List DHCPv6Option :=
  [⟨kDHCPv6OPTION_CLIENTID, s.currentDUID h w⟩,
   ⟨kDHCPv6OPTION_ORO, s.requestedOptions.flatMap (hton 2)⟩,
   ⟨kDHCPv6OPTION_ELAPSED_TIME, hton 2 (getElapsedTime w.now s)⟩]

/-- A message of the client's transaction with these options, handed to the socket when
its header and options fit the 1500 bytes of the buffer, and dropped whole otherwise. -/
def Client.sendMessage (msgType : Nat) (os : List DHCPv6Option) (s : Client) : Client :=
  if DHCPV6_PACKET_HEADER_LENGTH + (encodeOptions os).length ≤ 1500 then
    s.emit (.transmit ⟨msgType, s.transactionId, os⟩)
  else s

theorem makePacket_eq (s : Client) :
    makePacket h w s =
      (⟨1500 - DHCPV6_PACKET_HEADER_LENGTH, []⟩ : OptionArea).addAll (packetOptions h w s) := by
  simp [makePacket, packetOptions, OptionArea.addAll_cons, OptionArea.addOptionRequestOption]

theorem transmit_addAll (t : Nat) (os : List DHCPv6Option) (s : Client) :
    transmit t ((⟨1500 - DHCPV6_PACKET_HEADER_LENGTH, []⟩ : OptionArea).addAll os) s =
      s.sendMessage t os := by
  rw [OptionArea.addAll_eq os (by decide), Client.sendMessage]
  simp only [OptionArea.used, List.map_nil, List.sum_nil, zero_add, List.nil_append,
    DHCPV6_PACKET_HEADER_LENGTH]
  by_cases hf : 4 + (encodeOptions os).length ≤ 1500
  · rw [if_pos (by omega), if_pos hf]; rfl
  · rw [if_neg (by omega), if_neg hf]; rfl

theorem addServerId_eq (t : Nat) (sid : List UInt8) (oa : OptionArea) :
    addServerId t sid oa =
      oa.addAll (if t = kDHCPv6MessageREBIND ∨ t = kDHCPv6MessageCONFIRM then []
        else [⟨kDHCPv6OPTION_SERVERID, sid⟩]) := by
  unfold addServerId; split_ifs <;> simp

/-- One option added is a list of one added. -/
theorem OptionArea.addOption_eq_addAll (code : Nat) (d : List UInt8) :
    (fun oa : OptionArea => oa.addOption code d) = OptionArea.addAll [⟨code, d⟩] :=
  funext fun oa => (OptionArea.addAll_singleton ⟨code, d⟩ oa).symm

theorem sendInform_sendMessage (s : Client) :
    sendInform h w s =
      (s.getDUID w).sendMessage kDHCPv6MessageINFORMATION_REQUEST (packetOptions h w s) := by
  rw [sendInform, makePacket_eq, transmit_addAll]

theorem sendSolicit_sendMessage (s : Client) :
    sendSolicit h w s = (s.getDUID w).sendMessage kDHCPv6MessageSOLICIT
      (packetOptions h w s ++ [⟨kDHCPv6OPTION_IA_NA, solicitIaNa (s.getIAID h)⟩]) := by
  rw [sendSolicit, makePacket_eq, OptionArea.addOption_eq_addAll, ← OptionArea.addAll_append,
    transmit_addAll]

theorem sendPacket_sendMessage (s : Client) :
    sendPacket h w s =
      match s.iaNa, s.serverId, sendPacketType s.cstate with
      | some _, some sid, some t =>
        (s.getDUID w).sendMessage t (packetOptions h w s ++
          (if t = kDHCPv6MessageREBIND ∨ t = kDHCPv6MessageCONFIRM then []
            else [⟨kDHCPv6OPTION_SERVERID, sid⟩]) ++
          [⟨kDHCPv6OPTION_IA_NA, ourIaNa (s.getIAID h) (s.iaAddr.getD [])⟩])
      | _, _, _ => s := by
  rcases hn : s.iaNa with _ | ia <;> rcases hs : s.serverId with _ | sid <;>
    rcases ht : sendPacketType s.cstate with _ | t <;> simp only [sendPacket, hn, hs, ht]
  rw [makePacket_eq, OptionArea.addOption_eq_addAll, funext (addServerId_eq t sid),
    ← OptionArea.addAll_append, ← OptionArea.addAll_append, transmit_addAll]

theorem getDUID_currentDUID (s : Client) (w' : World) :
    (s.getDUID w).currentDUID h w' = s.currentDUID h w := by
  unfold Client.getDUID Client.currentDUID
  by_cases hp : s.privateAddress <;> cases hd : s.duid <;> simp [hp, hd]

/-- Each sender sends its message whole when it fits the buffer, and nothing otherwise:
INFORMATION-REQUEST the options of `DHCPv6ClientMakePacket`, SOLICIT those and an IA_NA
with no address, and `DHCPv6ClientSendPacket` the message of the state with the SERVERID
(but to REBIND and CONFIRM) and the IA_NA of `add_ia_na_option`. The DUID the message
carries is the one the client matches replies against from then on. -/
theorem senders_sendMessage (s : Client) :
    sendInform h w s =
      (s.getDUID w).sendMessage kDHCPv6MessageINFORMATION_REQUEST (packetOptions h w s) ∧
    sendSolicit h w s = (s.getDUID w).sendMessage kDHCPv6MessageSOLICIT
      (packetOptions h w s ++ [⟨kDHCPv6OPTION_IA_NA, solicitIaNa (s.getIAID h)⟩]) ∧
    sendPacket h w s =
      (match s.iaNa, s.serverId, sendPacketType s.cstate with
      | some _, some sid, some t =>
        (s.getDUID w).sendMessage t (packetOptions h w s ++
          (if t = kDHCPv6MessageREBIND ∨ t = kDHCPv6MessageCONFIRM then []
            else [⟨kDHCPv6OPTION_SERVERID, sid⟩]) ++
          [⟨kDHCPv6OPTION_IA_NA, ourIaNa (s.getIAID h) (s.iaAddr.getD [])⟩])
      | _, _, _ => s) ∧
    ∀ w', (s.getDUID w).currentDUID h w' = s.currentDUID h w :=
  ⟨sendInform_sendMessage h w s, sendSolicit_sendMessage h w s, sendPacket_sendMessage h w s,
    getDUID_currentDUID h w s⟩

end

end DHCPv6Client
