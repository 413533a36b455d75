import Postroom.Proofs.Record.Fidelity

/-!
Records that were cut off. No reader of the wire form looks ahead: what it has found it would have
found with more bytes behind it, and it would have left these. So whatever is read of the beginning
of a record is read of the record itself, which is taken to its last byte; an object record is
therefore read as soon as it is whole, and not before, and none is the beginning of another.
-/

namespace Postroom

namespace Wire

/-- Whether a reader that has found a value finds the same one when more bytes follow, which it
leaves. -/
def Stable {α : Type} (read : Reader α) : Prop :=
  ∀ bytes a rest, read bytes = some (a, rest) →
  ∀ more, read (bytes ++ more) = some (a, rest ++ more)

section

variable {α β : Type} {read : Reader α}

theorem stable_found (a : α) : Stable fun bytes => some (a, bytes) := by
  intro bytes b rest h more
  cases h
  rfl

theorem stable_failure : Stable fun _ => (none : Option (α × List UInt8)) := by
  intro bytes b rest h
  cases h

/-- One reader after another. -/
theorem Stable.bind (h : Stable read) {next : α × List UInt8 → Option (β × List UInt8)}
    (hnext : ∀ a, Stable fun rest => next (a, rest)) :
    Stable fun bytes => (read bytes).bind next := by
  intro bytes b rest hread more
  obtain ⟨⟨a, between⟩, hfirst, hsecond⟩ := Option.bind_eq_some_iff.1 hread
  simp only [h bytes a between hfirst more, Option.bind_some]
  exact hnext a between b rest hsecond more

theorem Stable.map (h : Stable read) (f : α → β) :
    Stable fun bytes => (read bytes).map fun (a, rest) => (f a, rest) := by
  intro bytes b rest hread more
  obtain ⟨⟨a, between⟩, hfirst, heq⟩ := Option.map_eq_some_iff.1 hread
  simp only [h bytes a between hfirst more, Option.map_some]
  cases heq
  rfl

/-- A value that passes a check, or does not, whatever follows it. -/
theorem stable_checked (found : Option α) :
    Stable fun bytes => found.bind fun a => some (a, bytes) := by
  cases found with
  | none => exact stable_failure
  | some a => exact stable_found a

end

theorem stable_takeBytes (count : Nat) : Stable (takeBytes count) := by
  intro bytes a rest h more
  unfold takeBytes at *
  split at h
  · rename_i hcount
    cases h
    have hlonger : count ≤ (bytes ++ more).length := by
      rw [List.length_append]
      omega
    rw [if_pos hlonger, List.take_append_of_le_length hcount, List.drop_append_of_le_length hcount]
  · cases h

theorem stable_readFixed (width : Nat) : Stable (readFixed width) :=
  (stable_takeBytes width).bind fun digits => stable_found (ofLittleEndian digits)

/-- A reader that decides by the first byte how to go on. -/
theorem stable_of_head {α : Type} {read : Reader α} (hnil : read [] = none)
    (h : ∀ b, Stable fun rest => read (b :: rest)) : Stable read := by
  intro bytes a rest hread more
  cases bytes with
  | nil =>
      rw [hnil] at hread
      cases hread
  | cons b bytes => exact h b bytes a rest hread more

theorem stable_readNat (width : Nat) : Stable (readNat width) := by
  refine stable_of_head rfl fun b => ?_
  simp only [readNat]
  split
  · exact stable_found b.toNat
  split
  · exact stable_readFixed 2
  split
  · exact stable_readFixed 4
  split
  · exact stable_readFixed 8
  · exact stable_failure

theorem stable_readInt64 : Stable readInt64 :=
  (stable_readNat 8).bind fun n => stable_found (unzigzag n)

theorem stable_readBool : Stable readBool := by
  refine stable_of_head rfl fun b => ?_
  simp only [readBool]
  split
  · exact stable_found false
  split
  · exact stable_found true
  · exact stable_failure

theorem stable_readBytes : Stable readBytes :=
  (stable_readNat 8).bind stable_takeBytes

theorem stable_readText : Stable readText :=
  stable_readBytes.bind fun raw => stable_checked (Text.ofBytes? raw)

section

variable {α : Type} {read : Reader α}

theorem stable_readOption (h : Stable read) : Stable (readOption read) := by
  refine stable_of_head rfl fun b => ?_
  simp only [readOption]
  split
  · exact stable_found none
  split
  · exact h.map some
  · exact stable_failure

theorem stable_readMany (h : Stable read) (count : Nat) : Stable (readMany read count) := by
  induction count with
  | zero => exact stable_found []
  | succ count ih => exact h.bind fun a => ih.bind fun items => stable_found (a :: items)

theorem stable_readList (h : Stable read) : Stable (readList read) :=
  (stable_readNat 8).bind (stable_readMany h)

end

theorem stable_readId : Stable readId :=
  stable_readText.bind fun s => stable_checked (MailId.parse? s)

theorem stable_readAddress : Stable readAddress :=
  stable_readText.bind fun localPart => stable_readText.bind fun domain =>
    stable_found (Address.mk localPart ⟨domain⟩)

theorem stable_readAttribute : Stable readAttribute := by
  unfold readAttribute
  refine (stable_readNat 4).bind fun variant => ?_
  dsimp only
  split
  · exact stable_readText.map Attribute.text
  · exact stable_readInt64.map Attribute.integer
  · exact stable_readBool.map Attribute.boolean
  · exact stable_readBytes.map Attribute.bytes
  · exact (stable_readList stable_readText).map Attribute.list
  · exact stable_failure

theorem stable_readNamed : Stable readNamed :=
  stable_readText.bind fun name => stable_readAttribute.bind fun value => stable_found (name, value)

theorem stable_readInstant : Stable readInstant :=
  (stable_readNat 8).bind fun seconds => (stable_readNat 4).bind fun nanos =>
    stable_checked (Instant.ofNanos? (seconds * nanosPerSecond + nanos))

theorem stable_readIpAddress : Stable readIpAddress := by
  unfold readIpAddress
  refine (stable_readNat 4).bind fun variant => ?_
  dsimp only
  split
  · exact (stable_takeBytes 4).bind fun octets => stable_checked (IpAddress.ofOctets? octets)
  · exact (stable_takeBytes 16).bind fun octets => stable_checked (IpAddress.ofOctets? octets)
  · exact stable_failure

theorem stable_readMail : Stable readMail := by
  unfold readMail
  refine stable_readId.bind fun id => ?_
  refine (stable_readOption stable_readAddress).bind fun sender => ?_
  refine (stable_readList stable_readAddress).bind fun recipients => ?_
  refine stable_readText.bind fun state => ?_
  refine (stable_readList stable_readNamed).bind fun attributes => ?_
  refine stable_readInstant.bind fun updated => ?_
  refine (stable_readOption stable_readText).bind fun error => ?_
  refine (stable_readOption stable_readText).bind fun remoteHost => ?_
  exact (stable_readOption stable_readIpAddress).bind fun remoteAddress => stable_found _

/-- Of bytes that a reader takes to the last one it can make nothing if they are cut off. -/
theorem Stable.eq_none_of_torn {α : Type} {read : Reader α} (h : Stable read) {a : α}
    {bytes torn : List UInt8} (hreads : Reads read a bytes) (htorn : torn <+: bytes)
    (hne : torn ≠ bytes) : read torn = none := by
  obtain ⟨missing, hbytes⟩ := htorn
  rw [Option.eq_none_iff_forall_ne_some]
  rintro ⟨b, rest⟩ hfound
  have hlonger := h torn b rest hfound missing
  have hwhole := hreads []
  rw [List.append_nil, ← hbytes, hlonger, Option.some.injEq, Prod.mk.injEq] at hwhole
  have hmissing : missing = [] := (List.append_eq_nil_iff.1 hwhole.2).2
  rw [hmissing, List.append_nil] at hbytes
  exact hne hbytes

/-- A reader takes the same value off bytes and off any that they are the beginning of. -/
theorem Reads.eq_of_begins {α : Type} {read : Reader α} {a b : α} {bytes longer : List UInt8}
    (ha : Reads read a bytes) (hb : Reads read b longer) (h : bytes <+: longer) : a = b := by
  obtain ⟨more, rfl⟩ := h
  have hfirst := ha more
  have hsecond := hb []
  rw [List.append_nil, hfirst, Option.some.injEq, Prod.mk.injEq] at hsecond
  exact hsecond.1

end Wire

namespace Record

/-- An object record that is decoded from its last byte on, whatever follows, and that is not the
beginning of the record of another mail, nor the other way round. -/
structure Delimited (mail : Mail) (object : List UInt8) : Prop where
  torn : ∀ bytes, bytes <+: object → bytes ≠ object →
    ∀ key content, decode key bytes content = .error (.serialization .decode)
  whole : ∀ more key content, decode key (object ++ more) content =
    if mail.id = key.id then .ok (mail.attachContent content)
    else .error (.corrupt key (.foreign mail.id))
  alone : ∀ other, other ≠ mail → other.content = mail.content →
    ∀ object', encode other = .ok object' → ¬ object <+: object' ∧ ¬ object' <+: object

theorem reads_object {mail : Mail} {object : List UInt8} (h : encode mail = .ok object) :
    Wire.Reads Wire.readMail (mail.attachContent .empty) object := by
  obtain ⟨hwrite, hfits⟩ := writeMail_of_encode h
  exact Wire.reads_readMail hwrite hfits

theorem decode_torn {mail : Mail} {object torn : List UInt8} (h : encode mail = .ok object)
    (htorn : torn <+: object) (hne : torn ≠ object) (key : RecordKey) (content : Content) :
    decode key torn content = .error (.serialization .decode) := by
  rw [decode, Wire.stable_readMail.eq_none_of_torn (reads_object h) htorn hne]

theorem decode_append {mail : Mail} {object : List UInt8} (h : encode mail = .ok object)
    (more : List UInt8) (key : RecordKey) (content : Content) :
    decode key (object ++ more) content =
      if mail.id = key.id then .ok (mail.attachContent content)
      else .error (.corrupt key (.foreign mail.id)) := by
  rw [decode, reads_object h more]
  rfl

/-- Mails with one content are the same if the record of one is the beginning of that of the
other. -/
theorem eq_of_encode_begins {mail other : Mail} {object object' : List UInt8}
    (h : encode mail = .ok object) (h' : encode other = .ok object')
    (hcontent : other.content = mail.content) (hbegins : object <+: object') : other = mail := by
  have hsame := (reads_object h).eq_of_begins (reads_object h') hbegins
  calc other = (other.attachContent .empty).attachContent other.content := rfl
    _ = (mail.attachContent .empty).attachContent mail.content := by rw [← hsame, hcontent]
    _ = mail := rfl

/-- A mail that memory holds has an object record if it was not updated before the epoch. No record
is decoded before it is whole, and none is the beginning of that of another mail. -/
theorem encode_delimited (mail : Mail) :
    (mail.space < UInt64.size → Instant.epoch ≤ mail.updated → ∃ object, encode mail = .ok object) ∧
      ∀ object, encode mail = .ok object → Delimited mail object := by
  refine ⟨fun hspace hupdated => ?_, fun object h => ?_⟩
  · obtain ⟨-, bytes, hwrite, hlength⟩ | ⟨hneg, -⟩ := Wire.writeMail_cases mail
    · have hfits : bytes.length < UInt64.size := Nat.lt_of_le_of_lt hlength hspace
      rw [encode, hwrite]
      exact ⟨bytes, if_pos hfits⟩
    · exact absurd hupdated (Instant.not_le.2 hneg)
  · constructor
    case torn => exact fun bytes htorn hne => decode_torn h htorn hne
    case whole => exact decode_append h
    case alone =>
      intro other hother hcontent object' h'
      constructor
      · exact fun hbegins => hother (eq_of_encode_begins h h' hcontent hbegins)
      · exact fun hbegins => hother (eq_of_encode_begins h' h hcontent.symm hbegins).symm

namespace Sample

/-- The letter after it was refused. -/
def refused : Mail :=
  { letter with state := StateName.error }

theorem encode_delimited_of_letter : letter.space < UInt64.size ∧ Instant.epoch ≤ letter.updated ∧
    ∃ object object', encode letter = .ok object ∧ encode refused = .ok object' ∧
      (∀ key content,
        decode key object.dropLast content = .error (.serialization .decode)) ∧
      ¬ object <+: object' := by
  have hspace : letter.space < UInt64.size := by decide +kernel
  have hupdated : Instant.epoch ≤ letter.updated := by decide
  obtain ⟨hencodes, hdelimited⟩ := encode_delimited letter
  obtain ⟨object, h⟩ := hencodes hspace hupdated
  obtain ⟨object', h'⟩ := (encode_delimited refused).1 (by decide +kernel) hupdated
  refine ⟨hspace, hupdated, object, object', h, h', ?_, ?_⟩
  · apply (hdelimited object h).torn _ (List.dropLast_prefix object)
    intro hall
    obtain rfl : object = [] := List.eq_nil_of_length_eq_zero (by
      have hlength := congrArg List.length hall
      rw [List.length_dropLast] at hlength
      omega)
    cases reads_object h []
  · have hother : refused ≠ letter := fun heq => absurd (congrArg Mail.state heq) (by decide)
    exact ((hdelimited object h).alone refused hother rfl object' h').1

end Sample

end Record

end Postroom
