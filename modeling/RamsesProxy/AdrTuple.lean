import Mathlib.Data.Prod.Lex
import Mathlib.Order.Defs.LinearOrder
import Mathlib.Order.Fin.Basic
import RamsesProxy.Lib.CText
import RamsesProxy.Lib.OrderedMap

set_option autoImplicit false

namespace Rart

open CText

-- boost::asio::ip::address as the router uses it. Its < is a total order that agrees
-- with its ==; from_string has no value where the library throws.
class AsioAddress (Addr : Type) extends LinearOrder Addr where
  isV4 : Addr → Bool
  toText : Addr → Bytes
  fromText : Bytes → Option Addr

structure DottedDecimal (Addr : Type) [AsioAddress Addr] : Prop where
  printed : ∀ adr : Addr, AsioAddress.isV4 adr = true → ∃ a b c d : Nat, a < 256 ∧ b < 256 ∧ c < 256 ∧ d < 256 ∧
    AsioAddress.toText adr = List.intercalate [46] [decimal a, decimal b, decimal c, decimal d]
  parsed : ∀ adr : Addr, AsioAddress.isV4 adr = true → AsioAddress.fromText (AsioAddress.toText adr) = some adr

inductive TransportType where
  | none
  | udp
  | tcp
deriving DecidableEq, Repr

def TransportType.rank : TransportType → Nat
  | .none => 0
  | .udp => 1
  | .tcp => 2

structure AdrTuple (Addr : Type) where
  transport : TransportType
  adr : Addr
  port : UInt32
deriving DecidableEq

namespace AdrTuple

section Order

variable {Addr : Type} [LinearOrder Addr]

def equal (left right : AdrTuple Addr) : Bool :=
  left.transport == right.transport && left.adr == right.adr && left.port == right.port

def notEqual (left right : AdrTuple Addr) : Bool :=
  left.transport != right.transport || left.adr != right.adr || left.port != right.port

def less (left right : AdrTuple Addr) : Bool :=
  if left.transport.rank < right.transport.rank then true
  else if left.transport.rank > right.transport.rank then false
  else if left.adr < right.adr then true
  else if left.adr == right.adr then left.port < right.port
  else false

theorem equal_iff (left right : AdrTuple Addr) : left.equal right = true ↔ left = right := by
  cases left with
  | mk leftTransport leftAdr leftPort =>
      cases right with
      | mk rightTransport rightAdr rightPort => simp [equal, and_assoc]

theorem rank_inj (left right : TransportType) (same : left.rank = right.rank) : left = right := by
  cases left <;> cases right <;> first | rfl | cases same

theorem less_iff (left right : AdrTuple Addr) :
    left.less right = true ↔
      left.transport.rank < right.transport.rank ∨ (left.transport.rank = right.transport.rank ∧
        (left.adr < right.adr ∨ (left.adr = right.adr ∧ left.port.toNat < right.port.toNat))) := by
  unfold less
  split
  · rename_i below
    simp [below]
  · rename_i notBelow
    split
    · rename_i above
      have different : left.transport.rank ≠ right.transport.rank := by omega
      simp [notBelow, different]
    · rename_i notAbove
      have same : left.transport.rank = right.transport.rank := by omega
      split
      · rename_i adrBelow
        simp [same, adrBelow]
      · rename_i adrNotBelow
        by_cases adrSame : left.adr = right.adr
        · simp [same, adrSame, UInt32.lt_iff_toNat_lt]
        · simp [same, adrNotBelow, adrSame]

def sortKey (tuple : AdrTuple Addr) : Nat ×ₗ Addr ×ₗ Nat := toLex (tuple.transport.rank, toLex (tuple.adr, tuple.port.toNat))

theorem less_sort_key (left right : AdrTuple Addr) : left.less right = true ↔ left.sortKey < right.sortKey := by
  rw [less_iff, sortKey, sortKey, Prod.Lex.toLex_lt_toLex, Prod.Lex.toLex_lt_toLex]

omit [LinearOrder Addr] in
theorem sort_key_injective (left right : AdrTuple Addr) (same : left.sortKey = right.sortKey) : left = right := by
  cases left with
  | mk leftTransport leftAdr leftPort =>
      cases right with
      | mk rightTransport rightAdr rightPort =>
          obtain ⟨ranks, rest⟩ := Prod.mk.inj (toLex_inj.mp same)
          obtain ⟨adrs, ports⟩ := Prod.mk.inj (toLex_inj.mp rest)
          rw [mk.injEq]
          exact ⟨rank_inj _ _ ranks, adrs, UInt32.toNat_inj.mp ports⟩

instance : StrictTotal (less : AdrTuple Addr → AdrTuple Addr → Bool) :=
  strict_total_of_rank less sortKey less_sort_key sort_key_injective

theorem not_equal_negates (left right : AdrTuple Addr) : left.notEqual right = !left.equal right := by
  simp only [notEqual, equal, bne, Bool.not_and]

theorem equal_eq_false_iff (left right : AdrTuple Addr) : left.equal right = false ↔ left ≠ right := by
  rw [Bool.eq_false_iff, ne_eq, equal_iff]

-- What std::map takes for granted of the keys of UdpSessionsMap.
structure TotallyOrdered (Addr : Type) [LinearOrder Addr] : Prop where
  irrefl : ∀ a : AdrTuple Addr, a.less a = false
  trans : ∀ a b c : AdrTuple Addr, a.less b = true → b.less c = true → a.less c = true
  exactlyOne : ∀ a b : AdrTuple Addr,
    (a.less b = true ∧ a.equal b = false ∧ b.less a = false) ∨
    (a.less b = false ∧ a.equal b = true ∧ b.less a = false) ∨
    (a.less b = false ∧ a.equal b = false ∧ b.less a = true)
  equivalent : ∀ a b : AdrTuple Addr, a.less b = false ∧ b.less a = false ↔ a.equal b = true
  negated : ∀ a b : AdrTuple Addr, a.notEqual b = !a.equal b

theorem less_exactly_one (a b : AdrTuple Addr) :
    (a.less b = true ∧ a.equal b = false ∧ b.less a = false) ∨
    (a.less b = false ∧ a.equal b = true ∧ b.less a = false) ∨
    (a.less b = false ∧ a.equal b = false ∧ b.less a = true) := by
  rcases OrderedMap.compare_cases less a b with ⟨below, apart⟩ | ⟨notBelow, above, apart⟩ | ⟨notBelow, notAbove, same⟩
  · exact .inl ⟨below, (equal_eq_false_iff a b).mpr apart, OrderedMap.not_less_of_less less a b below⟩
  · exact .inr (.inr ⟨notBelow, (equal_eq_false_iff a b).mpr apart, above⟩)
  · exact .inr (.inl ⟨notBelow, (equal_iff a b).mpr same, notAbove⟩)

theorem tuples_totally_ordered : TotallyOrdered Addr where
  irrefl := StrictTotal.irrefl
  trans := StrictTotal.trans
  exactlyOne := less_exactly_one
  equivalent a b := by rw [OrderedMap.equivalent_iff_eq, equal_iff]
  negated := not_equal_negates

end Order

def toText {Addr : Type} [AsioAddress Addr] (tuple : AdrTuple Addr) : Bytes :=
  AsioAddress.toText tuple.adr ++ 58 :: decimal tuple.port.toNat

end AdrTuple

-- An endpoint of either protocol; asio keeps its port in 16 bits.
structure Endpoint (Addr : Type) where
  adr : Addr
  port : UInt16
deriving DecidableEq

-- The peer text is cut at its first colon into the callers' two buffers. There is no
-- result where strcpy would read through a null token or run past the end of a buffer.
def splitAddr (ipPort : Bytes) (ipSize portSize : Nat) : Option (Bytes × Bytes) :=
  match strtok (· == 58) ipPort with
  | none => none
  | some (ip, rest) =>
      let port := match strtok (fun _ => false) rest with
        | some (port, _) => port
        | none => []
      if ip.length < ipSize ∧ port.length < portSize then some (ip, port) else none

section DottedText

variable {Addr : Type} [AsioAddress Addr]

theorem dotted_byte (byte : UInt8) (a b c d : Nat)
    (member : byte ∈ List.intercalate [46] [decimal a, decimal b, decimal c, decimal d]) :
    isDigit byte = true ∨ byte = 46 := by
  simp only [List.intercalate, List.intersperse, List.flatten_cons, List.flatten_nil, List.append_nil,
    List.mem_append, List.mem_singleton] at member
  rcases member with first | dot | second | dot | third | dot | fourth
  · exact .inl (decimal_digits a byte first)
  · exact .inr dot
  · exact .inl (decimal_digits b byte second)
  · exact .inr dot
  · exact .inl (decimal_digits c byte third)
  · exact .inr dot
  · exact .inl (decimal_digits d byte fourth)

theorem octet_length (octet : Nat) (small : octet < 256) : (decimal octet).length ≤ 3 :=
  decimal_length octet 3 (by decide) (by omega)

theorem dotted_length (a b c d : Nat) (aSmall : a < 256) (bSmall : b < 256) (cSmall : c < 256) (dSmall : d < 256) :
    (List.intercalate [46] [decimal a, decimal b, decimal c, decimal d]).length ≤ 15 := by
  have first := octet_length a aSmall
  have second := octet_length b bSmall
  have third := octet_length c cSmall
  have fourth := octet_length d dSmall
  simp only [List.intercalate, List.intersperse, List.flatten_cons, List.flatten_nil, List.append_nil,
    List.length_append, List.length_singleton]
  omega

theorem dotted_nonempty (a b c d : Nat) : List.intercalate [46] [decimal a, decimal b, decimal c, decimal d] ≠ [] := by
  obtain ⟨first, rest, digits, _⟩ := decimal_cons a
  simp [List.intercalate, List.intersperse, digits]

theorem v4_text (dotted : DottedDecimal Addr) (adr : Addr) (v4 : AsioAddress.isV4 adr = true) :
    (∀ byte ∈ AsioAddress.toText adr, isDigit byte = true ∨ byte = 46) ∧
      (AsioAddress.toText adr).length ≤ 15 ∧ AsioAddress.toText adr ≠ [] := by
  obtain ⟨a, b, c, d, aSmall, bSmall, cSmall, dSmall, text⟩ := dotted.printed adr v4
  rw [text]
  exact ⟨fun byte => dotted_byte byte a b c d, dotted_length a b c d aSmall bSmall cSmall dSmall, dotted_nonempty a b c d⟩

theorem split_peer_text (dotted : DottedDecimal Addr) (tuple : AdrTuple Addr)
    (v4 : AsioAddress.isV4 tuple.adr = true) (port : tuple.port.toNat < 65536) :
    splitAddr tuple.toText 32 8 = some (AsioAddress.toText tuple.adr, decimal tuple.port.toNat) := by
  obtain ⟨plain, short, nonempty⟩ := v4_text dotted tuple.adr v4
  have noColon : ∀ byte ∈ AsioAddress.toText tuple.adr, (byte == 58) = false := by
    intro byte member
    rcases plain byte member with digit | rfl
    · simpa using digit_ne byte 58 digit rfl
    · rfl
  have digits : decimal tuple.port.toNat ≠ [] := by
    obtain ⟨first, rest, text, _⟩ := decimal_cons tuple.port.toNat
    simp [text]
  have portShort := decimal_length tuple.port.toNat 5 (by decide) (by omega)
  have fits : (AsioAddress.toText tuple.adr).length < 32 ∧ (decimal tuple.port.toNat).length < 8 := by omega
  simp only [splitAddr, AdrTuple.toText]
  rw [strtok_token (· == 58) _ _ 58 nonempty noColon rfl]
  simp only [strtok_rest _ digits, if_pos fits]

theorem peer_text_no_nul (dotted : DottedDecimal Addr) (tuple : AdrTuple Addr)
    (v4 : AsioAddress.isV4 tuple.adr = true) : ∀ byte ∈ tuple.toText, byte ≠ 0 := by
  intro byte member
  rw [AdrTuple.toText, List.mem_append, List.mem_cons] at member
  rcases member with text | rfl | digit
  · rcases (v4_text dotted tuple.adr v4).1 byte text with digit | rfl
    · exact digit_ne byte 0 digit rfl
    · decide
  · decide
  · exact digit_ne byte 0 (decimal_digits _ byte digit) rfl

theorem peer_text_length (dotted : DottedDecimal Addr) (tuple : AdrTuple Addr)
    (v4 : AsioAddress.isV4 tuple.adr = true) (port : tuple.port.toNat < 65536) :
    0 < tuple.toText.length ∧ tuple.toText.length ≤ 21 := by
  have short := (v4_text dotted tuple.adr v4).2.1
  have portShort := decimal_length tuple.port.toNat 5 (by decide) (by omega)
  simp only [AdrTuple.toText, List.length_append, List.length_cons]
  omega

end DottedText

abbrev Ipv4 := Fin (2 ^ 32)

namespace Ipv4

def ofOctets (a b c d : UInt8) : Ipv4 :=
  ⟨((a.toNat * 256 + b.toNat) * 256 + c.toNat) * 256 + d.toNat, by
    have aSmall := a.toNat_lt
    have bSmall := b.toNat_lt
    have cSmall := c.toNat_lt
    have dSmall := d.toNat_lt
    omega⟩

def octets (adr : Ipv4) : List Bytes :=
  [decimal (adr.val / 2 ^ 24), decimal (adr.val / 2 ^ 16 % 256), decimal (adr.val / 2 ^ 8 % 256), decimal (adr.val % 256)]

def print (adr : Ipv4) : Bytes := List.intercalate [46] adr.octets

def parse (text : Bytes) : Option Ipv4 :=
  match text.splitOn 46 with
  | [a, b, c, d] =>
      let value := ((digitsValue a * 256 + digitsValue b) * 256 + digitsValue c) * 256 + digitsValue d
      if inside : value < 2 ^ 32 then
        if print ⟨value, inside⟩ = text then some ⟨value, inside⟩ else none
      else none
  | _ => none

instance : AsioAddress Ipv4 where
  toLinearOrder := inferInstanceAs (LinearOrder (Fin (2 ^ 32)))
  isV4 _ := true
  toText := print
  fromText := parse

theorem octets_no_dot (adr : Ipv4) : ∀ text ∈ adr.octets, (46 : UInt8) ∉ text := by
  intro text member dot
  have digit : ∃ number, text = decimal number := by
    simp only [octets, List.mem_cons, List.not_mem_nil, or_false] at member
    rcases member with rfl | rfl | rfl | rfl <;> exact ⟨_, rfl⟩
  obtain ⟨number, rfl⟩ := digit
  have impossible := decimal_digits number 46 dot
  cases impossible

theorem parse_print (adr : Ipv4) : parse (print adr) = some adr := by
  have cut : (print adr).splitOn 46 = adr.octets :=
    List.splitOn_intercalate 46 adr.octets_no_dot (by simp [octets])
  have value : ((adr.val / 2 ^ 24 * 256 + adr.val / 2 ^ 16 % 256) * 256 + adr.val / 2 ^ 8 % 256) * 256 + adr.val % 256 =
      adr.val := by omega
  rw [parse, cut, octets]
  simp only [digits_value_decimal, value, adr.isLt, dif_pos, Fin.eta, if_pos]

theorem dotted_decimal : DottedDecimal Ipv4 where
  printed adr _ := by
    refine ⟨adr.val / 2 ^ 24, adr.val / 2 ^ 16 % 256, adr.val / 2 ^ 8 % 256, adr.val % 256, ?_, ?_, ?_, ?_, rfl⟩ <;> omega
  parsed adr _ := parse_print adr

end Ipv4

end Rart
