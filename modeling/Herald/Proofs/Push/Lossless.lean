import Herald.Dispatch.Dispatcher
import Herald.Push.Reading
/-!
# Posted bodies are lossless

A body is read back by undoing it from the outside in: it is cut at the
ampersands, a part at its first equals sign, and a name or value byte by byte.
That the cuts fall where they should rests on one fact about single bytes, that
none is written with either sign (`separators_notMem_encodeByte`); that nothing
inside gets lost rests on another, that a written byte is read as that byte
whatever comes behind it (`decodeBytes_encodeByte`). So every list of fields is
read back from its form (`Form.decode_encode`), and from the fields of a message
the message.
-/

namespace Herald

namespace Form

/-! ## One byte -/

/-- The bytes, one by one. -/
theorem forall_byte {P : UInt8 → Prop} (h : ∀ n < 256, P (.ofNat n)) (b : UInt8) : P b := by
  have hb := h b.toNat b.toNat_lt
  rwa [UInt8.ofNat_toNat] at hb

/-- A plain byte is written as a character that is no sign of the form, and is
that character's only byte. -/
theorem char_of_isPlain : ∀ b : UInt8, isPlain b = true →
    Char.ofNat b.toNat ≠ '+' ∧ Char.ofNat b.toNat ≠ '%'
      ∧ String.utf8EncodeChar (Char.ofNat b.toNat) = [b] :=
  forall_byte (by decide +kernel)

/-- **No byte is written with a separator.** -/
theorem separators_notMem_encodeByte : ∀ b : UInt8, '&' ∉ encodeByte b ∧ '=' ∉ encodeByte b :=
  forall_byte (by decide +kernel)

/-- Two digits stand for the byte they were made of. -/
theorem ofNat_digits (b : UInt8) : UInt8.ofNat (b.toNat / 16 * 16 + b.toNat % 16) = b := by
  rw [Nat.div_add_mod', UInt8.ofNat_toNat]

/-- A character that is no sign of the form stands for its bytes. -/
theorem decodeBytes_cons {c : Char} (hplus : c ≠ '+') (hpercent : c ≠ '%') (rest : List Char) :
    decodeBytes (c :: rest) = (decodeBytes rest).map (String.utf8EncodeChar c ++ ·) := by
  rw [decodeBytes]
  · exact hplus
  · exact fun _ _ _ h _ => hpercent h
  · exact hpercent

/-- **A written byte is read as that byte**, whatever comes behind it. -/
theorem decodeBytes_encodeByte (b : UInt8) (rest : List Char) :
    decodeBytes (encodeByte b ++ rest) = (decodeBytes rest).map (b :: ·) := by
  rw [encodeByte]
  split
  · next hplain =>
    obtain ⟨hplus, hpercent, hbytes⟩ := char_of_isPlain b hplain
    rw [List.singleton_append, decodeBytes_cons hplus hpercent, hbytes]
    rfl
  · split
    · next hspace =>
      subst hspace
      rfl
    · have hhigh : b.toNat / 16 < 16 := Nat.div_lt_of_lt_mul b.toNat_lt
      have hlow : b.toNat % 16 < 16 := Nat.mod_lt _ (by omega)
      simp only [List.cons_append, List.nil_append, decodeBytes,
        Digits.valueOf_upperDigit _ hhigh, Digits.valueOf_upperDigit _ hlow, Option.bind_eq_bind,
        Option.bind_some, ofNat_digits]

/-! ## Names, values and fields -/

/-- Written bytes are read as those bytes. -/
theorem decodeBytes_flatMap (bs : List UInt8) : decodeBytes (bs.flatMap encodeByte) = some bs := by
  induction bs with
  | nil => rfl
  | cons b bs ih => rw [List.flatMap_cons, decodeBytes_encodeByte, ih, Option.map_some]

/-- The list of an array of bytes, taken from the front. -/
theorem toList_loop (bs : ByteArray) (i : Nat) (r : List UInt8) :
    ByteArray.toList.loop bs i r = r.reverse ++ bs.data.toList.drop i := by
  fun_induction ByteArray.toList.loop bs i r with
  | case1 i r h ih =>
    have hi : i < bs.data.toList.length := h
    have hget : bs.get! i = bs.data.toList[i] := getElem!_pos bs.data i h
    rw [ih, List.drop_eq_getElem_cons hi, hget, List.reverse_cons, List.append_assoc,
      List.singleton_append]
  | case2 i r h =>
    rw [List.drop_eq_nil_of_le (Nat.le_of_not_lt h), List.append_nil]

/-- The bytes of a text are the text's. -/
theorem fromUTF8?_bytes (s : String) : String.fromUTF8? ⟨(bytes s).toArray⟩ = some s := by
  have hbytes : (⟨(bytes s).toArray⟩ : ByteArray) = s.toUTF8 := by
    rw [bytes, ByteArray.toList, toList_loop]
    rfl
  rw [hbytes]
  exact dif_pos s.isValidUTF8

/-- **A name or value reads back**, whatever characters it has. -/
theorem decodeText_encodeText (s : String) : decodeText (encodeText s) = some s := by
  rw [decodeText, encodeText, decodeBytes_flatMap]
  exact fromUTF8?_bytes s

/-- A name or value is written without separators. -/
theorem separators_notMem_encodeText (s : String) : '&' ∉ encodeText s ∧ '=' ∉ encodeText s := by
  simp only [encodeText, List.mem_flatMap, not_exists, not_and]
  exact ⟨fun b _ => (separators_notMem_encodeByte b).1,
    fun b _ => (separators_notMem_encodeByte b).2⟩

/-- A field is written without separators, up to the sign between its name and its value. -/
theorem ampersand_notMem_encodeField (f : String × String) : '&' ∉ encodeField f := by
  simp [encodeField, (separators_notMem_encodeText f.1).1, (separators_notMem_encodeText f.2).1]

/-- A field is never nothing. -/
theorem encodeField_ne_nil (f : String × String) : encodeField f ≠ [] := by
  simp [encodeField]

/-- **A field reads back**: its name ends at the first equals sign, since the
name is written without one. -/
theorem decodeField_encodeField (f : String × String) :
    decodeField (encodeField f) = some f := by
  have hname : ∀ c ∈ encodeText f.1, decide (c ≠ '=') = true := fun c hc =>
    decide_eq_true fun h => (separators_notMem_encodeText f.1).2 (h ▸ hc)
  rw [decodeField, encodeField, List.takeWhile_append_of_pos hname,
    List.dropWhile_append_of_pos hname]
  simp [decodeText_encodeText]

/-! ## The whole body -/

/-- A body is its fields with ampersands between them. -/
theorem encodeFields_eq_joinWith (fields : List (String × String)) :
    encodeFields fields = joinWith '&' (fields.map encodeField) := by
  induction fields with
  | nil => rfl
  | cons f rest ih =>
    cases rest with
    | nil => rfl
    | cons g rest =>
      rw [encodeFields, ih]
      rfl

/-- The parts of a body are its fields. -/
theorem partsAt_encode (fields : List (String × String)) :
    (partsAt '&' (encode fields).toList).filter (· ≠ []) = fields.map encodeField := by
  have hclean : ∀ p ∈ fields.map encodeField, '&' ∉ p ∧ p ≠ [] := by
    intro p hp
    obtain ⟨f, -, rfl⟩ := List.mem_map.1 hp
    exact ⟨ampersand_notMem_encodeField f, encodeField_ne_nil f⟩
  rw [encode, String.toList_ofList, encodeFields_eq_joinWith]
  by_cases hnil : fields.map encodeField = []
  · -- a body without fields has one part, and that one is empty
    rw [hnil]
    rfl
  · rw [partsAt_joinWith hnil fun p hp => (hclean p hp).1]
    exact List.filter_eq_self.2 fun p hp => decide_eq_true (hclean p hp).2

/-- The fields read back one after the other. -/
theorem mapM_decodeField (fields : List (String × String)) :
    (fields.map encodeField).mapM decodeField = some fields := by
  induction fields with
  | nil => rfl
  | cons f rest ih => simp [decodeField_encodeField, ih]

/-- **Every form reads back** from its body, field by field and in order. -/
theorem decode_encode (fields : List (String × String)) : decode (encode fields) = some fields := by
  rw [decode, partsAt_encode, mapM_decodeField]

end Form

namespace PushMessage

/-- A priority reads back from its text. -/
theorem readPriority?_signedDecimal (p : Int32) :
    readPriority? (String.ofList (Digits.signedDecimal p.toInt)) = some p := by
  simp [readPriority?, Digits.readSigned?_signedDecimal]

/-- **A message reads back** from its fields, those left out included. -/
theorem ofFields?_fields (m : PushMessage) : ofFields? m.fields = some m := by
  obtain ⟨token, user, title, body, priority, sound⟩ := m
  by_cases hp : priority = 0 <;> by_cases hs : sound = "" <;>
    simp [ofFields?, fields, hp, hs, readPriority?_signedDecimal, List.lookup_cons]

/-- **A message reads back** from its body. -/
theorem ofBody?_encode (m : PushMessage) : ofBody? (Form.encode m.fields) = some m := by
  rw [ofBody?, Form.decode_encode]
  exact ofFields?_fields m

end PushMessage

/-- What is posted about a notice is the form of its message. -/
theorem Dispatcher.body_of_request {d : Dispatcher} {n : Notice} {e : Endpoint} {body : String}
    (h : d.request n = .ok (e, body)) :
    body = Form.encode (PushMessage.ofNotice d.settings d.product n).fields := by
  rw [request] at h
  split at h
  · cases h
  · cases h
    rfl

/-- **A posted body is its message.** Read by the rules of form bodies it gives
the fields of the message, all of them, no others and in order; read further it
gives the message itself, so two messages with one body are one message. And
the body that is posted about a notice is that of the notice's message. No
content of a text makes a difference to any of it. -/
theorem posted_bodies_are_lossless (m m' : PushMessage) :
    Form.decode (Form.encode m.fields) = some m.fields ∧
      PushMessage.ofBody? (Form.encode m.fields) = some m ∧
      (Form.encode m.fields = Form.encode m'.fields ↔ m = m') ∧
      ∀ (d : Dispatcher) (n : Notice) (e : Endpoint) (body : String),
        d.request n = .ok (e, body) →
        Form.decode body = some (PushMessage.ofNotice d.settings d.product n).fields ∧
          PushMessage.ofBody? body = some (PushMessage.ofNotice d.settings d.product n) := by
  refine ⟨Form.decode_encode _, m.ofBody?_encode, ⟨fun h => ?_, fun h => h ▸ rfl⟩,
    fun d n e body h => ?_⟩
  · have hread : some m = some m' := by rw [← m.ofBody?_encode, h, m'.ofBody?_encode]
    exact Option.some.inj hread
  · rw [Dispatcher.body_of_request h]
    exact ⟨Form.decode_encode _, PushMessage.ofBody?_encode _⟩

/-- Messages whose texts are made of the form's own signs, and a notice posted
with such settings. -/
theorem posted_bodies_are_lossless_with_separators :
    let m : PushMessage := ⟨"k&sound=y", "100% ü+", "", "a\nb", -3, ""⟩
    let body := "token=k%26sound%3Dy&user=100%25+%C3%BC%2B&title=&message=a%0Ab&priority=-3"
    let d := Dispatcher.ofSettings { Settings.default with appToken := m.token } "&" "http://[::1]/"
    let n : Notice := ⟨"a=b", "r", .filteredBlockList, .v4 127 0 0 1, none,
      ⟨0, 0, by decide, by decide, by decide⟩⟩
    Form.encode m.fields = body ∧ Form.decode body = some m.fields ∧
      (Form.encode m.fields = Form.encode { m with priority := 0 }.fields ↔
        m = { m with priority := 0 }) ∧
      ∃ e posted, d.request n = .ok (e, posted) ∧
        PushMessage.ofBody? posted = some (PushMessage.ofNotice d.settings "&" n) := by
  intro m body d n
  have hbody : Form.encode m.fields = body := by decide +kernel
  have hsome : (d.request n).toOption.isSome = true := by decide +kernel
  obtain ⟨hdecode, -, hiff, hposted⟩ := posted_bodies_are_lossless m { m with priority := 0 }
  refine ⟨hbody, hbody ▸ hdecode, hiff, ?_⟩
  rcases hrequest : d.request n with f | ⟨e, posted⟩
  · rw [hrequest] at hsome
    cases hsome
  · exact ⟨e, posted, rfl, (hposted d n e posted hrequest).2⟩

end Herald
