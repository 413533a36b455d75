import Postroom.Record.Codec

/-!
The layout of records by the kinds of their values. A mail is a value of a data model with few
kinds: numbers, texts, values that may be absent, sequences, tuples of fixed parts, and variants.
Each kind has one layout, whatever it is part of, and the record of a mail is the layout of its
form.
-/

namespace Postroom

namespace Wire

/-- A value of the data model. -/
inductive Form where
  | byte (b : UInt8)
  | boolean (b : Bool)
  | unsigned (n : Nat)
  | signed (i : Int64)
  | text (s : String)
  | absent
  | present (value : Form)
  /-- Items in any number, which the layout has to tell. -/
  | sequence (items : List Form)
  /-- Parts whose number is known. -/
  | tuple (parts : List Form)
  | variant (index : Nat) (value : Form)

namespace Form

mutual

def layout : Form → List UInt8
  | byte b => [b]
  | boolean b => writeBool b
  | unsigned n => writeNat n
  | signed i => writeInt64 i
  | text s => writeText s
  | absent => [0]
  | present value => 1 :: layout value
  | sequence items => writeNat items.length ++ layoutAll items
  | tuple parts => layoutAll parts
  | variant index value => writeNat index ++ layout value

/-- Layouts in a row. -/
def layoutAll : List Form → List UInt8
  | [] => []
  | form :: forms => layout form ++ layoutAll forms

end

attribute [simp] layout layoutAll

/-- A value that may be absent. -/
def ofOption {α : Type} (form : α → Form) : Option α → Form
  | none => absent
  | some a => present (form a)

end Form

end Wire

open Wire (Form)

def MailId.form (id : MailId) : Form :=
  .text id.text

def Address.form (a : Address) : Form :=
  .tuple [.text a.localPart, .text a.domain.text]

def Attribute.form : Attribute → Form
  | .text value => .variant 0 (.text value)
  | .integer value => .variant 1 (.signed value)
  | .boolean value => .variant 2 (.boolean value)
  | .bytes value => .variant 3 (.sequence (value.map .byte))
  | .list values => .variant 4 (.sequence (values.map .text))

def IpAddress.form : IpAddress → Form
  | .v4 octets _ => .variant 0 (.tuple (octets.map .byte))
  | .v6 octets _ => .variant 1 (.tuple (octets.map .byte))

/-- Seconds and nanoseconds since the epoch. There is no form of an instant before it. -/
def Instant.form? (t : Instant) : Option Form :=
  if 0 ≤ t.nanos then
    some (.tuple [.unsigned (t.nanos.toNat / nanosPerSecond),
      .unsigned (t.nanos.toNat % nanosPerSecond)])
  else none

/-- All parts of a mail except its content, sets and maps in their order. -/
def Mail.form? (mail : Mail) : Option Form :=
  mail.updated.form?.map fun updated =>
    .tuple [
      mail.id.form,
      .ofOption Address.form mail.sender,
      .sequence (mail.recipients.toList.map Address.form),
      .text mail.state,
      .sequence (mail.attributes.toList.map fun (name, value) => .tuple [.text name, value.form]),
      updated,
      .ofOption .text mail.error,
      .ofOption .text mail.remoteHost,
      .ofOption IpAddress.form mail.remoteAddress]

namespace Wire

open Form

variable {α : Type} {form : α → Form} {write : α → List UInt8}

theorem layoutAll_map (h : ∀ a, (form a).layout = write a) (items : List α) :
    layoutAll (items.map form) = items.flatMap write := by
  induction items with
  | nil => simp [layoutAll]
  | cons a items ih => rw [List.map_cons, layoutAll, h, ih, List.flatMap_cons]

theorem layout_sequence (h : ∀ a, (form a).layout = write a) (items : List α) :
    (sequence (items.map form)).layout = writeList write items := by
  rw [layout, layoutAll_map h, List.length_map, writeList]

theorem layout_ofOption (h : ∀ a, (form a).layout = write a) (value : Option α) :
    (ofOption form value).layout = writeOption write value := by
  cases value with
  | none => simp [ofOption, layout, writeOption]
  | some a => simp [ofOption, layout, writeOption, h]

@[simp] theorem layout_text (s : String) : (text s).layout = writeText s := by
  rw [layout]

theorem layout_tuple (parts : List Form) : (tuple parts).layout = layoutAll parts := by
  rw [layout]

theorem layoutAll_bytes (bytes : List UInt8) : layoutAll (bytes.map byte) = bytes := by
  have hbyte : ∀ b, (byte b).layout = [b] := fun b => by rw [layout]
  rw [layoutAll_map hbyte, List.flatMap_singleton']

@[simp] theorem layout_id (id : MailId) : id.form.layout = writeId id := by
  rw [MailId.form, layout_text, writeId]

@[simp] theorem layout_address (a : Address) : a.form.layout = writeAddress a := by
  simp [Address.form, layout, layoutAll, writeAddress]

@[simp] theorem layout_attribute (value : Attribute) :
    value.form.layout = writeAttribute value := by
  cases value with
  | text value => simp [Attribute.form, layout, writeAttribute, writeNat]
  | integer value => simp [Attribute.form, layout, writeAttribute, writeNat]
  | boolean value => simp [Attribute.form, layout, writeAttribute, writeNat]
  | bytes value =>
      simp [Attribute.form, layout, layoutAll_bytes, writeAttribute, writeBytes, writeNat]
  | list values =>
      have hitems := layout_sequence layout_text values
      rw [Attribute.form, layout, hitems]
      simp [writeAttribute, writeNat]

@[simp] theorem layout_ipAddress (address : IpAddress) :
    address.form.layout = writeIpAddress address := by
  cases address with
  | v4 octets size => simp [IpAddress.form, layout, layoutAll_bytes, writeIpAddress, writeNat]
  | v6 octets size => simp [IpAddress.form, layout, layoutAll_bytes, writeIpAddress, writeNat]

theorem layout_named (entry : String × Attribute) :
    (tuple [text entry.1, entry.2.form]).layout = writeNamed entry := by
  simp [layout, layoutAll, writeNamed]

theorem layout_instant (t : Instant) : t.form?.map layout = writeInstant t := by
  unfold Instant.form? writeInstant
  split
  · simp [layout, layoutAll]
  · rfl

/-- The record of a mail is the layout of its form. -/
theorem layout_mail (mail : Mail) : mail.form?.map layout = writeMail mail := by
  have hupdated := layout_instant mail.updated
  unfold Mail.form? writeMail
  rw [← hupdated]
  cases mail.updated.form? with
  | none => rfl
  | some updated =>
      have hrecipients := layout_sequence layout_address mail.recipients.toList
      have hattributes := layout_sequence layout_named mail.attributes.toList
      have hsender := layout_ofOption layout_address mail.sender
      have herror := layout_ofOption layout_text mail.error
      have hhost := layout_ofOption layout_text mail.remoteHost
      have haddress := layout_ofOption layout_ipAddress mail.remoteAddress
      simp only [Option.map_some, layout_tuple, layoutAll, layout_id, layout_text,
        hsender, hrecipients, hattributes, herror, hhost, haddress]
      simp

end Wire

end Postroom
