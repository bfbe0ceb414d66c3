import Herald.Notice.Basic
import Herald.Notice.Reading
import Herald.Proofs.Notice.Addresses
/-!
# Addresses are written faithfully

What tells a client ends with its address, on its own or in brackets behind a name. The
brackets are no part of an address, so it is found there whatever the name is
(`Address.ofClient_clientText`), and is read back. An address can be written in several
ways, of which `Address.canonical?` picks one: it leaves the texts of addresses as they
are, and no others. An address that maps one of version 4 shows that it does by what
stands in front of it (`Address.text_mapped`).
-/

namespace Herald

namespace Address

variable {cs : List Char}

/-! ## The usual text -/

/-- **The usual text of the address** that some text stands for. -/
def canonical? (cs : List Char) : Option (List Char) := (ofText cs).map text

/-- The text of an address is the usual one. -/
theorem canonical?_text (a : Address) : canonical? a.text = some a.text := by
  rw [canonical?, ofText_text, Option.map_some]

/-- **Nothing else is left as it is.** -/
theorem canonical?_eq_self_iff : canonical? cs = some cs ↔ ∃ a : Address, a.text = cs := by
  constructor
  · intro h
    obtain ⟨a, -, ha⟩ := Option.map_eq_some_iff.1 h
    exact ⟨a, ha⟩
  · rintro ⟨a, rfl⟩
    exact a.canonical?_text

/-- The usual text of the usual text is the same. -/
theorem canonical?_bind_canonical? (cs : List Char) :
    (canonical? cs).bind canonical? = canonical? cs := by
  rcases h : ofText cs with _ | a
  · simp [canonical?, h]
  · have htext : canonical? cs = some a.text := by rw [canonical?, h, Option.map_some]
    rw [htext, Option.bind_some, canonical?_text]

/-! ## Addresses that map others -/

/-- **The address of version 6** that maps one of version 4. -/
def mapped (a b c d : UInt8) : Address :=
  .v6 #v[0, 0, 0, 0, 0, 0xffff, groupOf a b, groupOf c d]

/-- A group of two bytes has these bytes. -/
theorem bytes_groupOf (hi lo : UInt8) :
    highByte (groupOf hi lo) = hi ∧ lowByte (groupOf hi lo) = lo := by
  have hhi := hi.toNat_lt
  have hlo := lo.toNat_lt
  refine ⟨UInt8.toNat_inj.1 ?_, UInt8.toNat_inj.1 ?_⟩
  · simp [highByte, groupOf]
    omega
  · simp [lowByte, groupOf]

/-- **A mapped address is written as the one it stands for**, behind a mark. -/
theorem text_mapped (a b c d : UInt8) :
    (mapped a b c d).text = "::ffff:".toList ++ (v4 a b c d).text := by
  have hmark : "::ffff:".toList = [':', ':', 'f', 'f', 'f', 'f', ':'] := by decide
  obtain ⟨ha, hb⟩ := bytes_groupOf a b
  obtain ⟨hc, hd⟩ := bytes_groupOf c d
  rw [hmark]
  simp only [mapped, text, Vector.toList_mk, groupsText, ha, hb, hc, hd]

/-! ## What tells a client -/

/-- **The address of a client is found** in what tells it, whatever its name is. -/
theorem ofClient_clientText (n : Notice) : ofClient n.clientText = n.clientAddress.text := by
  have hclose : ')' ∉ n.clientAddress.text := notMem_text (by decide) _
  have hopen : '(' ∉ n.clientAddress.text := notMem_text (by decide) _
  have hplain : ofClient n.clientAddress.text = n.clientAddress.text :=
    if_neg fun h => hclose (List.mem_of_getLast? h)
  unfold Notice.clientText
  split
  · next name _ =>
    split
    · exact hplain
    · -- the name may hold brackets, the address behind the last one does not
      have hlast : (name.toList ++ ' ' :: '(' :: n.clientAddress.text ++ [')']).getLast?
          = some ')' := List.getLast?_concat
      rw [ofClient, if_pos hlast, List.dropLast_concat, List.append_cons,
        afterLast_append hopen]
  · exact hplain

end Address

/-- **Addresses are written faithfully.** What tells a client has its address at the end,
whatever the name in front is: in hexadecimal digits, dots and colons, and read back as
that address, so that two clients have the same text there exactly if they have the same
address. What some text is read as has a usual text, which is its own usual text; and of
all texts, those of addresses are the ones that are. An address of version 4 and the one
of version 6 that maps it have different texts, one of which ends with the other. -/
theorem addresses_are_written_faithfully :
    (∀ n : Notice, Address.ofClient n.client.toList = n.clientAddress.text ∧
        Address.ofText (Address.ofClient n.client.toList) = some n.clientAddress ∧
        (Address.ofClient n.client.toList).all Address.isTextChar = true) ∧
      (∀ n m : Notice, Address.ofClient n.client.toList = Address.ofClient m.client.toList ↔
        n.clientAddress = m.clientAddress) ∧
      (∀ cs, (Address.canonical? cs).bind Address.canonical? = Address.canonical? cs) ∧
      (∀ cs, Address.canonical? cs = some cs ↔ ∃ a : Address, a.text = cs) ∧
      ∀ a b c d : UInt8,
        (Address.mapped a b c d).text = "::ffff:".toList ++ (Address.v4 a b c d).text ∧
          (Address.mapped a b c d).text ≠ (Address.v4 a b c d).text := by
  have hclient : ∀ n : Notice, Address.ofClient n.client.toList = n.clientAddress.text :=
    fun n => by rw [Notice.client, String.toList_ofList, Address.ofClient_clientText]
  refine ⟨fun n => ⟨hclient n, ?_, ?_⟩, fun n m => ?_, Address.canonical?_bind_canonical?,
    fun cs => Address.canonical?_eq_self_iff,
    fun a b c d => ⟨Address.text_mapped a b c d, fun h => ?_⟩⟩
  · rw [hclient, Address.ofText_text]
  · rw [hclient, List.all_eq_true]
    exact fun _ => Address.isTextChar_of_mem_text
  · rw [hclient, hclient, Address.text_inj]
  · cases Address.text_inj.1 h

/-- Capitals, zeros in front of a group, and a double colon for the shorter run. -/
example : Address.canonical? "FD00:0:0:0:00a:0::1".toList = some "fd00::a:0:0:1".toList := by
  decide +kernel

end Herald
