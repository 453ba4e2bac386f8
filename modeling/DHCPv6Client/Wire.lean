import Mathlib.Data.List.Basic
import Mathlib.Algebra.Group.Nat.Basic

/-!
# DHCPv6 on the wire: options, packets and the IA_NA lookup

What the client reads of a packet. A received packet is its message type, its transaction
id and its option list (`DHCPv6Packet`); an option is its code and the bytes of its value
(`DHCPv6Option`). On these, the lookups of `DHCPv6Client.c`:

* `getOption`: `DHCPv6OptionListGetOptionDataAndLength` without a start index;
* `getPreferenceValueFromOptions`, `duidMatches` (`S_duid_matches`) and `serverIdValid`,
  the SERVERID test every receive handler makes;
* `getIaNaAddrCode` (`get_ia_na_addr_code`): the IA_NA, its nested options, and the first
  usable IAADDR among them (`findIAADDR`), with `getIaNaAddrCode_iaNa_eq_none` saying the
  IA_NA is given back exactly when an IAADDR is.

`DHCPv6Options.c` and `DHCPv6.h` are not under `src/`: the option-list parser
(`optionListCreate`), the status-code lookup (`getStatusCode`) and the constants follow the
spec and the standard DHCPv6 values.
-/

namespace DHCPv6Client

/-! ## Constants -/

def kDHCPv6MessageSOLICIT : Nat := 1
def kDHCPv6MessageADVERTISE : Nat := 2
def kDHCPv6MessageREQUEST : Nat := 3
def kDHCPv6MessageCONFIRM : Nat := 4
def kDHCPv6MessageRENEW : Nat := 5
def kDHCPv6MessageREBIND : Nat := 6
def kDHCPv6MessageREPLY : Nat := 7
def kDHCPv6MessageRELEASE : Nat := 8
def kDHCPv6MessageDECLINE : Nat := 9
def kDHCPv6MessageINFORMATION_REQUEST : Nat := 11

def kDHCPv6OPTION_CLIENTID : Nat := 1
def kDHCPv6OPTION_SERVERID : Nat := 2
def kDHCPv6OPTION_IA_NA : Nat := 3
def kDHCPv6OPTION_IAADDR : Nat := 5
def kDHCPv6OPTION_ORO : Nat := 6
def kDHCPv6OPTION_PREFERENCE : Nat := 7
def kDHCPv6OPTION_ELAPSED_TIME : Nat := 8
def kDHCPv6OPTION_STATUS_CODE : Nat := 13
def kDHCPv6OPTION_DNS_SERVERS : Nat := 23
def kDHCPv6OPTION_DOMAIN_LIST : Nat := 24
def kDHCPv6OPTION_CAPTIVE_PORTAL_URL : Nat := 103

def kDHCPv6StatusCodeSuccess : Nat := 0
def kDHCPv6StatusCodeNoAddrsAvail : Nat := 2
def kDHCPv6StatusCodeNotOnLink : Nat := 4

def DHCPV6_PACKET_HEADER_LENGTH : Nat := 4
def DHCPV6_OPTION_HEADER_SIZE : Nat := 4
def DHCPv6OptionIA_NA_MIN_LENGTH : Nat := 12
def DHCPv6OptionIAADDR_MIN_LENGTH : Nat := 24
def DHCPv6OptionPREFERENCE_MIN_LENGTH : Nat := 1
def kDHCPv6OptionPREFERENCEMinValue : Nat := 0
def kDHCPv6OptionPREFERENCEMaxValue : Nat := 255

/-- `DHCP_INFINITE_LEASE`: a lifetime that never runs out. -/
def DHCP_INFINITE_LEASE : Nat := 0xffffffff

/-! ## Bytes -/

/-- The value of bytes in network order. -/
def ntoh (bs : List UInt8) : Nat :=
  bs.foldl (fun n b => 256 * n + b.toNat) 0

/-- The `w`-byte field at offset `i`, in network order. -/
def getField (bs : List UInt8) (i w : Nat) : Nat :=
  ntoh ((bs.drop i).take w)

/-- `n` as `w` bytes in network order. -/
def hton (w n : Nat) : List UInt8 :=
  (List.range w).reverse.map fun k => (n / 256 ^ k % 256).toUInt8

/-- An IPv6 address, `struct in6_addr`: sixteen bytes. -/
abbrev In6Addr := BitVec 128

/-! ## Options and packets -/

/-- An option of an option list: its code and the bytes of its value. -/
structure DHCPv6Option where
  code : Nat
  data : List UInt8
deriving DecidableEq, Repr

/-- A packet as the socket hands it to a receive handler (`DHCPv6SocketReceiveData`): the
message type and transaction id of its header, and its option list. -/
structure DHCPv6Packet where
  msgType : Nat
  transactionId : Nat
  options : List DHCPv6Option
deriving DecidableEq, Repr

/-- `DHCPv6OptionListGetOptionDataAndLength(options, code, &len, NULL)`: the value of the
first option with that code. -/
def getOption (options : List DHCPv6Option) (code : Nat) : Option (List UInt8) :=
  (options.find? (·.code == code)).map (·.data)

/-- `DHCPv6OptionListCreate`, whose code is not under src/, reads a buffer as options in
the layout `DHCPv6Client.c` writes them in (`add_ia_na_option` puts a value
`DHCPV6_OPTION_HEADER_SIZE` bytes after its option's start): a 2-byte code and a 2-byte
length, then `length` bytes of value. Taken to fail the whole list on an option whose header
or value spills past the buffer, which `get_ia_na_addr_code` reads as "contains no
options". Each option takes at least its header, so `fuel` (the buffer's length) is never
what stops the walk. -/
def parseOptions : Nat → List UInt8 → Option (List DHCPv6Option)
  | _, [] => some []
  | 0, _ :: _ => none
  | fuel + 1, bs@(_ :: _) =>
    let rest := bs.drop DHCPV6_OPTION_HEADER_SIZE
    let len := getField bs 2 2
    if bs.length < DHCPV6_OPTION_HEADER_SIZE ∨ rest.length < len then none
    else (parseOptions fuel (rest.drop len)).map (⟨getField bs 0 2, rest.take len⟩ :: ·)

/-- `DHCPv6OptionListCreate` over the whole buffer. -/
def optionListCreate (bs : List UInt8) : Option (List DHCPv6Option) :=
  parseOptions bs.length bs

/-- `DHCPv6OptionListGetStatusCode`, whose code is not under src/ and which the spec does
not define beyond its callers' use. Taken to give the code of the first STATUS_CODE option,
success when there is none (every caller goes on to bind or save a packet with no
STATUS_CODE only so), and to fail on an option too short to hold the two-byte code, which
its callers drop as "bad data". -/
def getStatusCode (options : List DHCPv6Option) : Option Nat :=
  match getOption options kDHCPv6OPTION_STATUS_CODE with
  | none => some kDHCPv6StatusCodeSuccess
  | some d => if d.length < 2 then none else some (getField d 0 2)

/-- `get_preference_value_from_options`: the server's PREFERENCE, 0 when absent or
empty. -/
def getPreferenceValueFromOptions (options : List DHCPv6Option) : Nat :=
  match getOption options kDHCPv6OPTION_PREFERENCE with
  | some d =>
    if DHCPv6OptionPREFERENCE_MIN_LENGTH ≤ d.length then getField d 0 1
    else kDHCPv6OptionPREFERENCEMinValue
  | none => kDHCPv6OptionPREFERENCEMinValue

/-- `S_duid_matches`: the first CLIENTID option is `duid`, byte for byte. -/
def duidMatches (duid : List UInt8) (options : List DHCPv6Option) : Bool :=
  getOption options kDHCPv6OPTION_CLIENTID == some duid

/-- The SERVERID test of every receive handler: present, and a DUID that `isValid`
(`DHCPDUIDIsValid`) accepts. -/
def serverIdValid (isValid : List UInt8 → Bool) (options : List DHCPv6Option) : Bool :=
  match getOption options kDHCPv6OPTION_SERVERID with
  | some d => isValid d
  | none => false

/-! ## IA_NA and IAADDR -/

def iaNaGetT1 (ia : List UInt8) : Nat := getField ia 4 4
def iaNaGetT2 (ia : List UInt8) : Nat := getField ia 8 4
def iaAddrGetAddress (a : List UInt8) : In6Addr := BitVec.ofNat 128 (getField a 0 16)
def iaAddrGetPreferredLifetime (a : List UInt8) : Nat := getField a 16 4
def iaAddrGetValidLifetime (a : List UInt8) : Nat := getField a 20 4

/-- The loop of `get_ia_na_addr_code` over the IA_NA's nested IAADDR options, in order: it
skips one whose valid lifetime is 0, and gives up at one too short or whose preferred
lifetime exceeds its valid lifetime. -/
def findIAADDR : List DHCPv6Option → Option (List UInt8)
  | [] => none
  | o :: os =>
    if o.code ≠ kDHCPv6OPTION_IAADDR then findIAADDR os
    else if o.data.length < DHCPv6OptionIAADDR_MIN_LENGTH then none
    else if iaAddrGetValidLifetime o.data = 0 then findIAADDR os
    else if iaAddrGetValidLifetime o.data < iaAddrGetPreferredLifetime o.data then none
    else some o.data

/-- What `get_ia_na_addr_code` gives back: the IA_NA, the IAADDR (`*ret_ia_addr`) and the
IA_NA's status code (`*ret_code`). -/
structure IANAAddr where
  iaNa : Option (List UInt8)
  iaAddr : Option (List UInt8)
  code : Nat
deriving DecidableEq, Repr

/-- Nothing usable, with status code `code`. -/
def IANAAddr.none (code : Nat) : IANAAddr := ⟨Option.none, Option.none, code⟩

/-- `get_ia_na_addr_code`: the first IA_NA, if it is longer than its header, its T1 is not
above its T2 (when both are set), its nested options parse with a readable status, and
`findIAADDR` finds an address in them. -/
def getIaNaAddrCode (options : List DHCPv6Option) : IANAAddr :=
  match getOption options kDHCPv6OPTION_IA_NA with
  | none => .none kDHCPv6StatusCodeSuccess
  | some ia =>
    if ia.length ≤ DHCPv6OptionIA_NA_MIN_LENGTH then .none kDHCPv6StatusCodeSuccess
    else if iaNaGetT1 ia ≠ 0 ∧ iaNaGetT2 ia ≠ 0 ∧ iaNaGetT2 ia < iaNaGetT1 ia then
      .none kDHCPv6StatusCodeSuccess
    else
      match optionListCreate (ia.drop DHCPv6OptionIA_NA_MIN_LENGTH) with
      | none => .none kDHCPv6StatusCodeSuccess
      | some nested =>
        match getStatusCode nested with
        | none => .none kDHCPv6StatusCodeSuccess
        | some code =>
          match findIAADDR nested with
          | none => .none code
          | some a => ⟨some ia, some a, code⟩

/-- The IA_NA is given back exactly when an IAADDR is. -/
theorem getIaNaAddrCode_iaNa_eq_none (options : List DHCPv6Option) :
    (getIaNaAddrCode options).iaNa = none ↔ (getIaNaAddrCode options).iaAddr = none := by
  unfold getIaNaAddrCode
  repeat' split
  all_goals simp [IANAAddr.none]

end DHCPv6Client
