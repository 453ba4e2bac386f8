import DHCPv6Client.Machine

/-!
# The options asked for and accepted

`DHCPv6ClientSetRequestedOptions` installs the requested options that `makePacket` puts in
the ORO of every message, and `DHCPv6ClientOptionIsOK` (`optionIsOK`) accepts an option a
DHCPv6 client always handles or one of them:

* `optionIsOK_iff`: the options accepted are the client's own and the requested ones;
* `makePacket_oro`: every message built carries the requested options as its ORO;
* `setRequestedOptions_foldl`: after a sequence of calls, the requested options are the
  list of the last call when it is not empty, and the static default otherwise: an
  override replaces the default, it is not added to it.
-/

namespace DHCPv6Client

/-! ## Constants -/

def kDHCPv6OPTION_IA_TA : Nat := 4
def kDHCPv6OPTION_RELAY_MSG : Nat := 9
def kDHCPv6OPTION_AUTH : Nat := 11
def kDHCPv6OPTION_UNICAST : Nat := 12
def kDHCPv6OPTION_RAPID_COMMIT : Nat := 14
def kDHCPv6OPTION_USER_CLASS : Nat := 15
def kDHCPv6OPTION_VENDOR_CLASS : Nat := 16
def kDHCPv6OPTION_VENDOR_OPTS : Nat := 17
def kDHCPv6OPTION_INTERFACE_ID : Nat := 18
def kDHCPv6OPTION_RECONF_MSG : Nat := 19
def kDHCPv6OPTION_RECONF_ACCEPT : Nat := 20

/-- `DHCPv6RequestedOptionsStatic`. -/
def DHCPv6RequestedOptionsStatic : List Nat :=
  [kDHCPv6OPTION_DNS_SERVERS, kDHCPv6OPTION_DOMAIN_LIST, kDHCPv6OPTION_CAPTIVE_PORTAL_URL]

/-- The options of the `switch` of `DHCPv6ClientOptionIsOK`: those a DHCPv6 client always
handles. -/
def clientOptions : List Nat :=
  [kDHCPv6OPTION_CLIENTID, kDHCPv6OPTION_SERVERID, kDHCPv6OPTION_ORO, kDHCPv6OPTION_ELAPSED_TIME,
   kDHCPv6OPTION_UNICAST, kDHCPv6OPTION_RAPID_COMMIT, kDHCPv6OPTION_IA_NA, kDHCPv6OPTION_IAADDR,
   kDHCPv6OPTION_STATUS_CODE, kDHCPv6OPTION_IA_TA, kDHCPv6OPTION_PREFERENCE,
   kDHCPv6OPTION_RELAY_MSG, kDHCPv6OPTION_AUTH, kDHCPv6OPTION_USER_CLASS,
   kDHCPv6OPTION_VENDOR_CLASS, kDHCPv6OPTION_VENDOR_OPTS, kDHCPv6OPTION_INTERFACE_ID,
   kDHCPv6OPTION_RECONF_MSG, kDHCPv6OPTION_RECONF_ACCEPT]

/-- `DHCPv6ClientOptionIsOK`: the `switch`, then the loop over the requested options. -/
def optionIsOK (option : Nat) (s : Client) : Bool :=
  clientOptions.contains option || s.requestedOptions.any (· == option)

/-- The options accepted are the client's own and the requested ones. -/
theorem optionIsOK_iff (option : Nat) (s : Client) :
    optionIsOK option s = true ↔ option ∈ clientOptions ∨ option ∈ s.requestedOptions := by
  simp [optionIsOK]

/-- Every message built carries the requested options as its ORO, in order, two bytes
each. -/
theorem makePacket_oro (h : Host) (w : World) (s : Client) {oa : OptionArea}
    (hm : makePacket h w s = some oa) :
    ⟨kDHCPv6OPTION_ORO, s.requestedOptions.flatMap (hton 2)⟩ ∈ oa.options := by
  simp only [makePacket, Option.bind_eq_bind, Option.bind_eq_some] at hm
  obtain ⟨oa₁, -, oa₂, h₂, h₃⟩ := hm
  rw [OptionArea.addOption_options h₃, OptionArea.addOption_options h₂]
  simp

/-- The requested options after a sequence of `DHCPv6ClientSetRequestedOptions`: the
list of the last call when it is not empty, the static default when it is, and what they
were when there was no call. -/
theorem setRequestedOptions_foldl (calls : List (List Nat)) (s : Client) :
    (calls.foldl (fun s l => setRequestedOptions l s) s).requestedOptions =
      match calls.getLast? with
      | none => s.requestedOptions
      | some l => if l ≠ [] then l else DHCPv6RequestedOptionsStatic := by
  induction calls using List.reverseRecOn with
  | nil => rfl
  | append_singleton calls l _ => simp [setRequestedOptions, DHCPv6RequestedOptionsStatic]

/-- After any sequence of `DHCPv6ClientSetRequestedOptions`, an option is accepted exactly
when a client always handles it or it is requested; the requested options are the ORO of
every message built, and they are the list of the last call when it is not empty, and the
static default when it is. -/
theorem optionIsOK_after_setRequestedOptions (calls : List (List Nat)) (s : Client) (option : Nat) :
    (optionIsOK option (calls.foldl (fun s l => setRequestedOptions l s) s) = true ↔
      option ∈ clientOptions ∨
        option ∈ (calls.foldl (fun s l => setRequestedOptions l s) s).requestedOptions) ∧
    (∀ h w oa, makePacket h w (calls.foldl (fun s l => setRequestedOptions l s) s) = some oa →
      ⟨kDHCPv6OPTION_ORO,
        (calls.foldl (fun s l => setRequestedOptions l s) s).requestedOptions.flatMap (hton 2)⟩ ∈
        oa.options) ∧
    (calls.foldl (fun s l => setRequestedOptions l s) s).requestedOptions =
      match calls.getLast? with
      | none => s.requestedOptions
      | some l => if l ≠ [] then l else DHCPv6RequestedOptionsStatic :=
  ⟨optionIsOK_iff _ _, fun h w _ hm => makePacket_oro h w _ hm, setRequestedOptions_foldl calls s⟩

/-- After an override of DNS_SERVERS alone, DOMAIN_LIST, of the static default, is no
longer accepted. -/
theorem setRequestedOptions_replaces_static :
    kDHCPv6OPTION_DOMAIN_LIST ∈ DHCPv6RequestedOptionsStatic ∧
    optionIsOK kDHCPv6OPTION_DOMAIN_LIST
      ([[kDHCPv6OPTION_DNS_SERVERS]].foldl (fun s l => setRequestedOptions l s) create) = false := by
  decide

end DHCPv6Client
