import DHCPv6Client.State

/-!
# Building and sending packets

`makePacket` (`DHCPv6ClientMakePacket`) writes the options every client message starts
with: CLIENTID, the ORO of the requested options and ELAPSED_TIME (`getElapsedTime`). The
three senders add what their message needs and hand it to the socket, which the model
records as an `Effect.transmit`: `sendSolicit` an empty IA_NA, `sendInform` nothing more,
and `sendPacket` (REQUEST, RENEW, REBIND, RELEASE, CONFIRM, DECLINE by state) the SERVERID
(not for REBIND and CONFIRM) and an IA_NA holding the saved IAADDR's address.

A sender changes nothing of the client but the DUID cache and the effects
(`sendPacket_eq`, `sendSolicit_eq`, `sendInform_eq`).
-/

namespace DHCPv6Client

/-- `DHCPv6OptionArea`, whose code is not under src/: the buffer `DHCPv6OptionAreaInit` is
given, of the packet's size less its header, written in order. Taken to refuse an option
that does not fit, which is how `DHCPv6ClientMakePacket` and `S_insert_duid` read its failure
("failed to add ..."). -/
structure OptionArea where
  size : Nat
  options : List DHCPv6Option

/-- The bytes used so far. -/
def OptionArea.used (oa : OptionArea) : Nat :=
  (oa.options.map fun o => DHCPV6_OPTION_HEADER_SIZE + o.data.length).sum

/-- `DHCPv6OptionAreaAddOption`: appends the option when its header and value still fit. -/
def OptionArea.addOption (code : Nat) (data : List UInt8) (oa : OptionArea) :
    Option OptionArea :=
  if oa.used + DHCPV6_OPTION_HEADER_SIZE + data.length ≤ oa.size then
    some { oa with options := oa.options ++ [⟨code, data⟩] }
  else none

/-- `DHCPv6OptionAreaAddOptionRequestOption`, not under src/: an ORO whose value is the
requested codes, two bytes each. -/
def OptionArea.addOptionRequestOption (codes : List Nat) (oa : OptionArea) :
    Option OptionArea :=
  oa.addOption kDHCPv6OPTION_ORO (codes.flatMap (hton 2))

def MAX_ELAPSED : Nat := 0xffff

/-- `get_elapsed_time`: 0 on the first try, else the hundredths of a second since
`start_time`, at most `MAX_ELAPSED`. -/
def getElapsedTime (now : ℚ) (s : Client) : Nat :=
  if s.tries = 1 then 0
  else
    let elapsed := toUInt32 ((now - s.startTime) * 100)
    if MAX_ELAPSED < elapsed then MAX_ELAPSED else elapsed

variable (h : Host) (w : World)

/-- `DHCPv6ClientMakePacket`'s options, in a 1500-byte buffer less the header. -/
def makePacket (s : Client) : Option OptionArea := do
  let oa : OptionArea := ⟨1500 - DHCPV6_PACKET_HEADER_LENGTH, []⟩
  let oa ← oa.addOption kDHCPv6OPTION_CLIENTID (s.currentDUID h w)
  let oa ← oa.addOptionRequestOption s.requestedOptions
  oa.addOption kDHCPv6OPTION_ELAPSED_TIME (hton 2 (getElapsedTime w.now s))

/-- The IA_NA value of a SOLICIT: the IAID, and T1 and T2 of 0. -/
def solicitIaNa (iaid : Nat) : List UInt8 := hton 4 iaid ++ hton 4 0 ++ hton 4 0

/-- `add_ia_na_option`'s IA_NA value: the IAID, T1 and T2 of 0, and one IAADDR with the
address of `ia_addr` and lifetimes of 0. -/
def ourIaNa (iaid : Nat) (iaAddr : List UInt8) : List UInt8 :=
  solicitIaNa iaid ++ hton 2 kDHCPv6OPTION_IAADDR ++ hton 2 DHCPv6OptionIAADDR_MIN_LENGTH ++
    iaAddr.take 16 ++ hton 4 0 ++ hton 4 0

/-- The message `DHCPv6ClientSendPacket` sends in each state. -/
def sendPacketType : ClientState → Option Nat
  | .request => some kDHCPv6MessageREQUEST
  | .renew => some kDHCPv6MessageRENEW
  | .rebind => some kDHCPv6MessageREBIND
  | .release => some kDHCPv6MessageRELEASE
  | .confirm => some kDHCPv6MessageCONFIRM
  | .decline => some kDHCPv6MessageDECLINE
  | _ => none

/-- The SERVERID `DHCPv6ClientSendPacket` adds, except to REBIND and CONFIRM. -/
def addServerId (msgType : Nat) (serverId : List UInt8) (oa : OptionArea) :
    Option OptionArea :=
  if msgType = kDHCPv6MessageREBIND ∨ msgType = kDHCPv6MessageCONFIRM then some oa
  else oa.addOption kDHCPv6OPTION_SERVERID serverId

/-- Hand a packet of the client's transaction to the socket, if it was built. -/
def transmit (msgType : Nat) (oa : Option OptionArea) (s : Client) : Client :=
  match oa with
  | some oa => s.emit (.transmit ⟨msgType, s.transactionId, oa.options⟩)
  | none => s

/-- `DHCPv6ClientSendSolicit`. -/
def sendSolicit (s : Client) : Client :=
  transmit kDHCPv6MessageSOLICIT
    ((makePacket h w s).bind (·.addOption kDHCPv6OPTION_IA_NA (solicitIaNa (s.getIAID h))))
    (s.getDUID w)

/-- `DHCPv6ClientSendInform`. -/
def sendInform (s : Client) : Client :=
  transmit kDHCPv6MessageINFORMATION_REQUEST (makePacket h w s) (s.getDUID w)

/-- `DHCPv6ClientSendPacket`: nothing without an IA_NA and a server id, or in a state
that sends nothing. `ia_addr` is set with `ia_na` (`getIaNaAddrCode_iaNa_eq_none`), so
the empty address is never read. -/
def sendPacket (s : Client) : Client :=
  match s.iaNa, s.serverId, sendPacketType s.cstate with
  | some _, some sid, some t =>
    transmit t
      (((makePacket h w s).bind (addServerId t sid)).bind
        (·.addOption kDHCPv6OPTION_IA_NA (ourIaNa (s.getIAID h) (s.iaAddr.getD []))))
      (s.getDUID w)
  | _, _, _ => s

/-! ## What a sender changes -/

theorem transmit_eq (t : Nat) (oa : Option OptionArea) (s : Client) :
    ∃ o, transmit t oa s = { s with out := o } := by
  unfold transmit Client.emit; split <;> exact ⟨_, rfl⟩

theorem getDUID_eq (s : Client) : ∃ d, s.getDUID w = { s with duid := d } := by
  unfold Client.getDUID; split <;> exact ⟨_, rfl⟩

/-- A send changes only the DUID cache and the effects. -/
theorem sendPacket_eq (s : Client) : ∃ d o, sendPacket h w s = { s with duid := d, out := o } := by
  unfold sendPacket
  split
  · obtain ⟨d, hd⟩ := getDUID_eq w s
    obtain ⟨o, ho⟩ := transmit_eq _ _ (s.getDUID w)
    exact ⟨d, o, by rw [ho, hd]⟩
  · exact ⟨s.duid, s.out, rfl⟩

theorem sendSolicit_eq (s : Client) :
    ∃ d o, sendSolicit h w s = { s with duid := d, out := o } := by
  obtain ⟨d, hd⟩ := getDUID_eq w s
  obtain ⟨o, ho⟩ := transmit_eq _ _ (s.getDUID w)
  exact ⟨d, o, by rw [sendSolicit, ho, hd]⟩

/-! ## What `sendPacket` sends -/

theorem OptionArea.addOption_options {oa oa' : OptionArea} {code : Nat} {data : List UInt8}
    (h : oa.addOption code data = some oa') : oa'.options = oa.options ++ [⟨code, data⟩] := by
  unfold OptionArea.addOption at h
  split at h
  · cases h; rfl
  · cases h

theorem addServerId_options {t : Nat} {sid : List UInt8} {oa oa' : OptionArea}
    (h : addServerId t sid oa = some oa') (ht : t ≠ kDHCPv6MessageREBIND ∧ t ≠ kDHCPv6MessageCONFIRM) :
    oa'.options = oa.options ++ [⟨kDHCPv6OPTION_SERVERID, sid⟩] := by
  unfold addServerId at h
  rw [if_neg (by tauto)] at h
  exact OptionArea.addOption_options h

/-- What `sendPacket` hands the socket: nothing, or one packet of the state's message and
the client's transaction, with the SERVERID (except in a REBIND or a CONFIRM) and an IA_NA
holding the address of the saved IAADDR. -/
theorem sendPacket_out (s : Client) : ∃ sent : Option DHCPv6Packet,
    (sendPacket h w s).out = s.out ++ (sent.map .transmit).toList ∧
    ∀ pkt ∈ sent, ∃ sid t, s.serverId = some sid ∧ s.iaNa.isSome ∧ sendPacketType s.cstate = some t ∧
      pkt.msgType = t ∧ pkt.transactionId = s.transactionId ∧
      (t ≠ kDHCPv6MessageREBIND ∧ t ≠ kDHCPv6MessageCONFIRM →
        ⟨kDHCPv6OPTION_SERVERID, sid⟩ ∈ pkt.options) ∧
      ⟨kDHCPv6OPTION_IA_NA, ourIaNa (s.getIAID h) (s.iaAddr.getD [])⟩ ∈ pkt.options := by
  obtain ⟨d, hd⟩ := getDUID_eq w s
  unfold sendPacket
  split
  · rename_i ia sid t hia hsid ht
    rw [hd]
    cases hb : ((makePacket h w s).bind (addServerId t sid)).bind
        (·.addOption kDHCPv6OPTION_IA_NA (ourIaNa (s.getIAID h) (s.iaAddr.getD []))) with
    | none => exact ⟨none, by simp [transmit], by simp⟩
    | some oa =>
      obtain ⟨oa1, h1, h2⟩ := Option.bind_eq_some.mp hb
      obtain ⟨oa0, -, h0⟩ := Option.bind_eq_some.mp h1
      refine ⟨some ⟨t, s.transactionId, oa.options⟩, by simp [transmit, Client.emit], ?_⟩
      rintro _ ⟨⟩
      refine ⟨sid, t, hsid, by simp [hia], ht, rfl, rfl, fun hn => ?_, ?_⟩ <;>
        rw [OptionArea.addOption_options h2]
      · simp [addServerId_options h0 hn]
      · simp
  · exact ⟨none, by simp, by simp⟩

theorem sendInform_eq (s : Client) :
    ∃ d o, sendInform h w s = { s with duid := d, out := o } := by
  obtain ⟨d, hd⟩ := getDUID_eq w s
  obtain ⟨o, ho⟩ := transmit_eq _ _ (s.getDUID w)
  exact ⟨d, o, by rw [sendInform, ho, hd]⟩

end DHCPv6Client
