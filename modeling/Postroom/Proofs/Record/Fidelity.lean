import Mathlib.Algebra.GroupWithZero.Nat
import Postroom.Proofs.Record.Layout
import Postroom.Proofs.Record.RoundTrip

/-!
Which mails have a record, and what becomes of it. The only thing that stands in the way of a record
is a time before the epoch: a length that 64 bits do not count would take a mail that no memory
holds, as the record of a mail is never longer than the mail itself. The record is decoded to the
mail it was made of under every key of that mail, with whatever content is found beside it, and is
refused under any other.
-/

namespace Postroom

/-- The bytes that a text takes in memory: its own, and three words that keep track of them. -/
def Text.space (s : String) : Nat :=
  s.utf8ByteSize + 24

def Address.space (a : Address) : Nat :=
  Text.space a.localPart + Text.space a.domain.text

/-- A value takes three words, and whatever they point to. -/
def Attribute.space : Attribute → Nat
  | .text value => Text.space value
  | .integer _ => 24
  | .boolean _ => 24
  | .bytes value => value.length + 24
  | .list values => (values.map Text.space).sum + 24

/-- The bytes that a mail takes in memory without its content. Where a part may be absent, its place
is kept. -/
def Mail.space (mail : Mail) : Nat :=
  16 + mail.sender.elim 48 Address.space +
    ((mail.recipients.toList.map Address.space).sum + 24) + Text.space mail.state +
    ((mail.attributes.toList.map fun (name, value) => Text.space name + value.space).sum + 24) +
    16 + mail.error.elim 24 Text.space + mail.remoteHost.elim 24 Text.space + 17

namespace Wire

theorem writeNat_length_le (n : Nat) : (writeNat n).length ≤ 9 := by
  unfold writeNat
  split
  · simp
  · split
    · simp
    · split <;> simp

theorem writeNat_length_le_five {n : Nat} (h : n < UInt32.size) : (writeNat n).length ≤ 5 := by
  unfold writeNat
  split
  · simp
  · split
    · simp
    · simp

theorem writeBytes_length_le (bytes : List UInt8) :
    (writeBytes bytes).length ≤ bytes.length + 9 := by
  have hcount := writeNat_length_le bytes.length
  rw [writeBytes, List.length_append]
  omega

theorem writeText_length_le (s : String) : (writeText s).length + 15 ≤ Text.space s := by
  have hbytes := writeBytes_length_le (Text.toBytes s)
  have hlength : (Text.toBytes s).length = s.utf8ByteSize := by
    simp [Text.toBytes, String.toUTF8]
  rw [writeText, Text.space]
  omega

theorem writeOption_length_le {α : Type} {write : α → List UInt8} {size : α → Nat} {spare : Nat}
    (h : ∀ a, (write a).length + 1 + spare ≤ size a) {least : Nat} (hleast : 1 + spare ≤ least)
    (value : Option α) : (writeOption write value).length + spare ≤ value.elim least size := by
  cases value with
  | none => exact hleast
  | some a => exact h a

theorem writeList_length_le {α : Type} {write : α → List UInt8} {size : α → Nat}
    (h : ∀ a, (write a).length ≤ size a) (items : List α) :
    (writeList write items).length ≤ (items.map size).sum + 9 := by
  have hcount := writeNat_length_le items.length
  have hitems : (items.flatMap write).length ≤ (items.map size).sum := by
    induction items with
    | nil => simp
    | cons a items ih =>
        have hfirst := h a
        have hothers := ih (writeNat_length_le _)
        rw [List.flatMap_cons, List.length_append, List.map_cons, List.sum_cons]
        omega
  rw [writeList, List.length_append]
  omega

theorem writeId_length_le (id : MailId) : (writeId id).length ≤ 35 := by
  have htext := writeText_length_le id.text
  rw [Text.space, MailId.utf8ByteSize_text] at htext
  rw [writeId]
  omega

theorem writeAddress_length_le (a : Address) : (writeAddress a).length + 30 ≤ a.space := by
  have hlocal := writeText_length_le a.localPart
  have hdomain := writeText_length_le a.domain.text
  rw [writeAddress, List.length_append, Address.space]
  omega

theorem writeAttribute_length_le (value : Attribute) :
    (writeAttribute value).length ≤ value.space := by
  cases value with
  | text value =>
      have htext := writeText_length_le value
      simp only [writeAttribute, Attribute.space, List.length_cons]
      omega
  | integer value =>
      have hnat := writeNat_length_le (zigzag value)
      simp only [writeAttribute, writeInt64, Attribute.space, List.length_cons]
      omega
  | boolean value => simp [writeAttribute, writeBool, Attribute.space]
  | bytes value =>
      have hbytes := writeBytes_length_le value
      simp only [writeAttribute, Attribute.space, List.length_cons]
      omega
  | list values =>
      have htext : ∀ s, (writeText s).length ≤ Text.space s := fun s =>
        Nat.le_of_add_right_le (writeText_length_le s)
      have hlist := writeList_length_le htext values
      simp only [writeAttribute, Attribute.space, List.length_cons]
      omega

theorem writeNamed_length_le (entry : String × Attribute) :
    (writeNamed entry).length ≤ Text.space entry.1 + entry.2.space := by
  have hname := writeText_length_le entry.1
  have hvalue := writeAttribute_length_le entry.2
  rw [writeNamed, List.length_append]
  omega

theorem writeIpAddress_length_le (address : IpAddress) :
    (writeIpAddress address).length + 1 ≤ 18 := by
  cases address with
  | v4 octets size => simp [writeIpAddress, size]
  | v6 octets size => simp [writeIpAddress, size]

theorem writeInstant_cases (t : Instant) :
    (0 ≤ t.nanos ∧ ∃ bytes, writeInstant t = some bytes ∧ bytes.length ≤ 14) ∨
      (t.nanos < 0 ∧ writeInstant t = none) := by
  unfold writeInstant
  split
  · rename_i hpos
    have hseconds := writeNat_length_le (t.nanos.toNat / nanosPerSecond)
    have hnanos : (writeNat (t.nanos.toNat % nanosPerSecond)).length ≤ 5 := by
      apply writeNat_length_le_five
      simp only [nanosPerSecond, UInt32.size]
      omega
    refine .inl ⟨hpos, _, rfl, ?_⟩
    rw [List.length_append]
    omega
  · rename_i hneg
    exact .inr ⟨by omega, rfl⟩

/-- A mail that was not updated before the epoch is written, in no more bytes than it takes
itself. -/
theorem writeMail_cases (mail : Mail) :
    (0 ≤ mail.updated.nanos ∧ ∃ bytes, writeMail mail = some bytes ∧ bytes.length ≤ mail.space) ∨
      (mail.updated.nanos < 0 ∧ writeMail mail = none) := by
  unfold writeMail
  obtain ⟨hpos, updated, hupdated, hlength⟩ | ⟨hneg, hupdated⟩ := writeInstant_cases mail.updated
  · rw [hupdated]
    refine .inl ⟨hpos, _, rfl, ?_⟩
    have hid := writeId_length_le mail.id
    have hsender := writeOption_length_le writeAddress_length_le
      (by decide : 1 + 29 ≤ 48) mail.sender
    have hrecipients := writeList_length_le
      (fun a => Nat.le_of_add_right_le (writeAddress_length_le a)) mail.recipients.toList
    have hstate := writeText_length_le mail.state
    have hattributes := writeList_length_le writeNamed_length_le mail.attributes.toList
    have herror := writeOption_length_le writeText_length_le (by decide : 1 + 14 ≤ 24) mail.error
    have hhost := writeOption_length_le writeText_length_le
      (by decide : 1 + 14 ≤ 24) mail.remoteHost
    have haddress := writeOption_length_le writeIpAddress_length_le (by decide : 1 + 0 ≤ 18)
      mail.remoteAddress
    have hlast : mail.remoteAddress.elim 18 (fun _ => 18) = 18 := by
      cases mail.remoteAddress <;> rfl
    simp only [List.length_append, Mail.space]
    omega
  · rw [hupdated]
    exact .inr ⟨hneg, rfl⟩

end Wire

namespace Record

/-- An object record that is laid out as the mail it was made of, and is decoded to nothing else. -/
structure Faithful (mail : Mail) (object : List UInt8) : Prop where
  layout : mail.form?.map Wire.Form.layout = some object
  own : ∀ key content, key.id = mail.id → decode key object content = .ok { mail with content }
  foreign : ∀ key content, key.id ≠ mail.id →
    decode key object content = .error (.corrupt key (.foreign mail.id))

/-- A mail that memory holds has an object record if and only if it was not updated before the
epoch. Whatever mail has a record, the record is faithful. -/
theorem encode_faithful (mail : Mail) :
    (mail.space < UInt64.size →
      ((∃ object, encode mail = .ok object) ↔ Instant.epoch ≤ mail.updated)) ∧
      (mail.updated < Instant.epoch → encode mail = .error (.serialization .encode)) ∧
      ∀ object, encode mail = .ok object → Faithful mail object := by
  have hbefore : mail.updated < Instant.epoch → encode mail = .error (.serialization .encode) := by
    intro hneg
    obtain ⟨hpos, -⟩ | ⟨-, hwrite⟩ := Wire.writeMail_cases mail
    · exact absurd hpos (Instant.not_le.2 hneg)
    · rw [encode, hwrite]
  refine ⟨fun hspace => ⟨?_, fun hpos => ?_⟩, hbefore, fun object hencode => ⟨?_, ?_, ?_⟩⟩
  · rintro ⟨object, hencode⟩
    apply Decidable.byContradiction
    intro hneg
    rw [hbefore (Instant.not_le.1 hneg)] at hencode
    cases hencode
  · obtain ⟨-, bytes, hwrite, hlength⟩ | ⟨hneg, -⟩ := Wire.writeMail_cases mail
    · have hfits : bytes.length < UInt64.size := Nat.lt_of_le_of_lt hlength hspace
      rw [encode, hwrite]
      exact ⟨bytes, if_pos hfits⟩
    · exact absurd hpos (Instant.not_le.2 hneg)
  · rw [Wire.layout_mail, (writeMail_of_encode hencode).1]
  · intro key content hid
    rw [decode_object hencode, if_pos hid.symm, Mail.attachContent]
  · intro key content hid
    rw [decode_object hencode, if_neg fun heq => hid heq.symm]

namespace Sample

/-- A mail with values of all kinds. -/
def letter : Mail where
  id := .make .epoch 7
  sender := some ⟨"böse", ⟨"example.org"⟩⟩
  recipients := .ofList [Address.mk "b" ⟨"x.test"⟩, Address.mk "a" ⟨"x.test"⟩]
  content := .empty
  state := "default"
  attributes := .ofList [("text", Attribute.text "…"), ("least", Attribute.integer Int64.minValue),
    ("flag", Attribute.boolean true), ("raw", Attribute.bytes [0, 255]),
    ("names", Attribute.list ["", "x"])]
  updated := .ofMillis 1700000000123
  error := some "refused"
  remoteHost := none
  remoteAddress := some (.v6 [32, 1, 13, 184, 0, 0, 0, 0, 0, 0, 0, 0, 0, 0, 0, 1] rfl)

theorem encode_faithful_of_letter : letter.space < UInt64.size ∧
    ∃ object, encode letter = .ok object ∧ Faithful letter object := by
  have hspace : letter.space < UInt64.size := by decide +kernel
  obtain ⟨hencodes, -, hfaithful⟩ := encode_faithful letter
  obtain ⟨object, hencode⟩ := (hencodes hspace).2 (by decide)
  exact ⟨hspace, object, hencode, hfaithful object hencode⟩

end Sample

end Record

end Postroom
