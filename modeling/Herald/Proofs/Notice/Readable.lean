import Herald.Notice.Basic
import Herald.Proofs.Notice.Addresses
import Herald.Proofs.Notice.Times
/-!
# Messages can be read back

A message puts free text between fixed words without escaping any of it, and can be
read all the same. Its first line ends at the first line feed if the domain has none,
its last line begins behind the last one, since a time has none either; and what is
left is an address, or a name with an address behind its last bracket
(`Notice.clientText_inj`). Of the time it is what is shown that can be read back
(`Timestamp.text_inj`), which is all of it to the second unless it is a leap second
within a minute.
-/

namespace Herald

namespace Notice

variable {n m : Notice}

/-- The name of the client, if it has one that is not empty. -/
def name? (n : Notice) : Option String := n.clientName.filter (· ≠ "")

/-! ## The client -/

/-- The client is written by its name and its address, or by its address alone. -/
theorem clientText_eq (n : Notice) : n.clientText =
    match n.name? with
    | some name => name.toList ++ ' ' :: '(' :: n.clientAddress.text ++ [')']
    | none => n.clientAddress.text := by
  unfold clientText name?
  rcases n.clientName with _ | name
  · rfl
  · by_cases h : name = "" <;> simp [h, Option.filter]

/-- **A client is told by what is written for it**, whatever its name is. -/
theorem clientText_inj :
    n.clientText = m.clientText ↔ n.clientAddress = m.clientAddress ∧ n.name? = m.name? := by
  have hbracket : ∀ a : Address, ')' ∉ a.text := Address.notMem_text (by decide)
  have hopen : ∀ a : Address, '(' ∉ a.text := Address.notMem_text (by decide)
  rw [clientText_eq, clientText_eq]
  refine ⟨fun h => ?_, fun ⟨haddress, hname⟩ => by rw [haddress, hname]⟩
  generalize n.name? = p, m.name? = q at h ⊢
  rcases p with _ | name <;> rcases q with _ | name'
  · exact ⟨Address.text_inj.1 h, rfl⟩
  · -- only a client with a name has a bracket at its end
    exact absurd (by simp [show n.clientAddress.text = _ from h]) (hbracket n.clientAddress)
  · exact absurd (by simp [show m.clientAddress.text = _ from h.symm]) (hbracket m.clientAddress)
  · have hcut : (name.toList ++ [' ']) ++ '(' :: n.clientAddress.text
        = (name'.toList ++ [' ']) ++ '(' :: m.clientAddress.text := by
      simpa using List.append_cancel_right h
    obtain ⟨hname, haddress⟩ := (cut_last (hopen _) (hopen _)).1 hcut
    refine ⟨Address.text_inj.1 haddress, ?_⟩
    rw [String.toList_inj.1 (List.append_cancel_right hname)]

/-! ## The message -/

/-- The lines of a message, and the line feeds between them. -/
theorem bodyText_eq (n : Notice) : n.bodyText = "Domain: ".toList
    ++ (n.domain.toList ++ '\n' :: ("Client: ".toList ++ n.clientText
      ++ '\n' :: ("Time: ".toList ++ n.time.text))) := by
  have hclient : "\nClient: ".toList = '\n' :: "Client: ".toList := by decide
  have htime : "\nTime: ".toList = '\n' :: "Time: ".toList := by decide
  unfold bodyText
  rw [hclient, htime]
  generalize "Domain: ".toList = domain, "Client: ".toList = client, "Time: ".toList = time
  simp only [List.append_assoc, List.cons_append]

/-- The last line is one line. -/
theorem notMem_timeLine (n : Notice) : '\n' ∉ "Time: ".toList ++ n.time.text := by
  rw [List.mem_append, not_or]
  exact ⟨by decide, n.time.notMem_text⟩

/-- **A message is told by its three lines**, if the domain is on one. -/
theorem body_inj (hn : '\n' ∉ n.domain.toList) (hm : '\n' ∉ m.domain.toList) :
    n.body = m.body ↔ n.domain = m.domain ∧ n.clientAddress = m.clientAddress
      ∧ n.name? = m.name? ∧ n.time.shown.seconds = m.time.shown.seconds
      ∧ n.time.shown.isLeap = m.time.shown.isLeap := by
  rw [body, body, String.ofList_inj, bodyText_eq, bodyText_eq, List.append_cancel_left_eq,
    cut_first hn hm, cut_last n.notMem_timeLine m.notMem_timeLine, List.append_cancel_left_eq,
    List.append_cancel_left_eq, String.toList_inj, clientText_inj, Timestamp.text_inj]
  simp only [and_assoc]

end Notice

/-- **A message can be read back.** Of two notices whose domains are on one line,
the messages are the same exactly if they are about the same domain, the same client
by address and name, where an empty name is none, and are shown at the same second,
where a leap second is one of its own. The names of the clients can be any text. Where
leap seconds come at the end of a minute alone, the second shown is the second itself. -/
theorem messages_can_be_read_back {n m : Notice} (hn : '\n' ∉ n.domain.toList)
    (hm : '\n' ∉ m.domain.toList) :
    (n.body = m.body ↔ n.domain = m.domain ∧ n.clientAddress = m.clientAddress
        ∧ n.name? = m.name? ∧ n.time.shown.seconds = m.time.shown.seconds
        ∧ n.time.shown.isLeap = m.time.shown.isLeap) ∧
      (n.time.IsRegular → m.time.IsRegular →
        (n.body = m.body ↔ n.domain = m.domain ∧ n.clientAddress = m.clientAddress
          ∧ n.name? = m.name? ∧ n.time.seconds = m.time.seconds
          ∧ n.time.isLeap = m.time.isLeap)) := by
  refine ⟨Notice.body_inj hn hm, fun hn' hm' => ?_⟩
  rw [Notice.body_inj hn hm, Timestamp.shown_of_isRegular hn', Timestamp.shown_of_isRegular hm']

/-- A client may call itself what the lines of another one's message are: the message
about it is another one all the same. One without a name has the same message as one
with an empty name, at any moment of the same second. -/
theorem messages_can_be_read_back_past_a_line_feed :
    let plain : Notice := ⟨"a", "r", .filteredBlockList, .v4 127 0 0 1, none,
      ⟨0, 0, by decide, by decide, by decide⟩⟩
    let named : Notice := { plain with clientName := some "x" }
    let forged : Notice :=
      { plain with clientName := some "x (127.0.0.1)\nTime: 1970-01-01T00:00:00Z" }
    let unnamed : Notice :=
      { plain with clientName := some "", time := ⟨0, 5, by decide, by decide, by decide⟩ }
    forged.body ≠ named.body ∧ unnamed.body = plain.body := by
  intro plain named forged unnamed
  have hline : '\n' ∉ plain.domain.toList := by decide
  refine ⟨fun h => ?_, ((messages_can_be_read_back hline hline).2 (by decide) (by decide)).2
    (by decide)⟩
  obtain ⟨-, -, hname, -⟩ :=
    (messages_can_be_read_back (n := forged) (m := named) hline hline).1.1 h
  exact absurd hname (by decide)

/-- A leap second within a minute has the message of the second behind it. -/
theorem messages_lose_a_leap_second_within_a_minute :
    let n : Notice := ⟨"tracker.example.org", "||tracker.example.org^", .filteredBlockList,
      .v4 10 0 0 7, none, ⟨1709994605, 1_500_000_000, by decide, by decide, by decide⟩⟩
    let m : Notice := { n with time := ⟨1709994606, 0, by decide, by decide, by decide⟩ }
    '\n' ∉ n.domain.toList ∧ n.body = m.body ∧
      ¬(n.domain = m.domain ∧ n.clientAddress = m.clientAddress ∧ n.name? = m.name?
        ∧ n.time.seconds = m.time.seconds ∧ n.time.isLeap = m.time.isLeap) := by
  intro n m
  have hline : '\n' ∉ n.domain.toList := by decide
  exact ⟨hline, (Notice.body_inj (m := m) hline hline).2 (by decide), by decide⟩

end Herald
