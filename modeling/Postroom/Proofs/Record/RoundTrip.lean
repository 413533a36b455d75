import Postroom.Proofs.Record.WireRoundTrip
import Postroom.Record.Codec

/-!
A mail that has an object record is what the record and its content read as, to the last field. So
nothing of a mail is lost between the moment it is stored and the moment it is leased.
-/

namespace Postroom

/-- A text of characters that take one byte each has as many bytes as characters. -/
theorem Text.utf8ByteSize_ofList {cs : List Char} (h : ∀ c ∈ cs, c.utf8Size = 1) :
    (String.ofList cs).utf8ByteSize = cs.length := by
  rw [← String.size_toByteArray, String.toByteArray_ofList]
  induction cs with
  | nil => simp
  | cons c cs ih =>
      have hfirst : [c].utf8Encode.size = 1 := by
        simp [List.utf8Encode_singleton, h c (List.mem_cons_self ..)]
      rw [List.utf8Encode_cons, ByteArray.size_append, hfirst,
        ih fun d hd => h d (List.mem_cons_of_mem _ hd), List.length_cons, Nat.add_comm]

namespace MailId

theorem digitOf?_digitChar {d : Nat} (h : d < 32) : digitOf? (digitChar d) = some d := by
  have hall : ∀ d : Fin 32, digitOf? (digitChar d) = some d.val := by decide
  exact hall ⟨d, h⟩

theorem mapM_digitOf? {ds : List Nat} (h : ∀ d ∈ ds, d < 32) :
    (ds.map digitChar).mapM digitOf? = some ds := by
  induction ds with
  | nil => rfl
  | cons d ds ih =>
      have hfirst := digitOf?_digitChar (h d (List.mem_cons_self ..))
      have hothers := ih fun e he => h e (List.mem_cons_of_mem _ he)
      rw [List.map_cons, List.mapM_cons, hfirst, hothers]
      rfl

/-- The canonical text of an id is read as that id. -/
theorem parse?_text (id : MailId) : parse? id.text = some id := by
  have hlength : id.chars.length = 26 := by simp [chars]
  have hdigits : id.chars.mapM digitOf? = some (Text.fixedDigits 32 26 id.value.toNat) :=
    mapM_digitOf? fun d hd => Text.mem_fixedDigits_lt (by decide) hd
  have hvalue : Text.valueOfDigits 32 (Text.fixedDigits 32 26 id.value.toNat) = id.value.toNat := by
    rw [Text.valueOfDigits_fixedDigits]
    exact Nat.mod_eq_of_lt (Nat.lt_trans id.value.isLt (by decide))
  rw [parse?, text, String.toList_ofList, ofChars?, if_pos hlength, hdigits, Option.map_some,
    hvalue, BitVec.ofNat_toNat, BitVec.setWidth_eq]

theorem utf8Size_digitChar {d : Nat} (h : d < 32) : (digitChar d).utf8Size = 1 := by
  have hall : ∀ d : Fin 32, (digitChar d).utf8Size = 1 := by decide
  exact hall ⟨d, h⟩

theorem utf8ByteSize_text (id : MailId) : id.text.utf8ByteSize = 26 := by
  have hlength : id.chars.length = 26 := by simp [chars]
  rw [text, Text.utf8ByteSize_ofList, hlength]
  intro c hc
  obtain ⟨d, hd, rfl⟩ := List.mem_map.1 hc
  exact utf8Size_digitChar (Text.mem_fixedDigits_lt (by decide) hd)

end MailId

namespace Wire

theorem writeNat_ne_nil (n : Nat) : writeNat n ≠ [] := by
  unfold writeNat
  split
  · simp
  · split
    · simp
    · split <;> simp

theorem writeText_ne_nil (s : String) : writeText s ≠ [] :=
  List.append_ne_nil_of_left_ne_nil (writeNat_ne_nil _) _

theorem writeAddress_ne_nil (a : Address) : writeAddress a ≠ [] :=
  List.append_ne_nil_of_left_ne_nil (writeText_ne_nil _) _

theorem writeNamed_ne_nil (entry : String × Attribute) : writeNamed entry ≠ [] :=
  List.append_ne_nil_of_left_ne_nil (writeText_ne_nil _) _

theorem reads_readId {id : MailId} (h : Fits (writeId id)) : Reads readId id (writeId id) := by
  intro rest
  have htext := reads_readText h rest
  unfold writeId at *
  simp [readId, htext, MailId.parse?_text]

theorem reads_readAddress {a : Address} (h : Fits (writeAddress a)) :
    Reads readAddress a (writeAddress a) := by
  intro rest
  have hlocal := reads_readText h.left
  have hdomain := reads_readText h.right
  simp [readAddress, writeAddress, hlocal _, hdomain _]

theorem reads_readAttribute {value : Attribute} (h : Fits (writeAttribute value)) :
    Reads readAttribute value (writeAttribute value) := by
  intro rest
  cases value with
  | text value =>
      have hread := reads_readText h.tail rest
      simp [readAttribute, writeAttribute, readNat, hread]
  | integer value =>
      have hread := reads_readInt64 value rest
      simp [readAttribute, writeAttribute, readNat, hread]
  | boolean value =>
      have hread := reads_readBool value rest
      simp [readAttribute, writeAttribute, readNat, hread]
  | bytes value =>
      have hread := reads_readBytes h.tail rest
      simp [readAttribute, writeAttribute, readNat, hread]
  | list values =>
      have hread := reads_readList writeText_ne_nil (fun s _ hs => reads_readText hs) h.tail rest
      simp [readAttribute, writeAttribute, readNat, hread]

theorem reads_readNamed {entry : String × Attribute} (h : Fits (writeNamed entry)) :
    Reads readNamed entry (writeNamed entry) := by
  intro rest
  have hname := reads_readText h.left
  have hvalue := reads_readAttribute h.right
  simp [readNamed, writeNamed, hname _, hvalue _]

theorem reads_readInstant_parts {seconds nanos : Nat} {t : Instant}
    (h : Instant.ofNanos? (seconds * nanosPerSecond + nanos) = some t)
    (hseconds : seconds < UInt64.size) (hnanos : nanos < UInt32.size) :
    Reads readInstant t (writeNat seconds ++ writeNat nanos) := by
  intro rest
  have hfirst := reads_readNat 8 (by decide) (.inr ⟨Nat.le_refl 8, hseconds⟩)
  have hsecond := reads_readNat 4 (by decide) (.inl hnanos)
  -- step by step: the instant must not be computed, as its seconds are a variable
  unfold readInstant
  rw [List.append_assoc, hfirst, Option.bind_eq_bind, Option.bind_some]
  dsimp only
  rw [hsecond, Option.bind_some]
  dsimp only
  rw [h]
  rfl

theorem reads_readInstant {t : Instant} {bytes : List UInt8} (h : writeInstant t = some bytes) :
    Reads readInstant t bytes := by
  unfold writeInstant at h
  split at h
  · rename_i hpos
    cases h
    have hlower := t.lower
    have hupper := t.upper
    have hwhole : ((t.nanos.toNat / nanosPerSecond : Nat) : Int) * (nanosPerSecond : Nat) +
        (t.nanos.toNat % nanosPerSecond : Nat) = t.nanos := by
      simp only [nanosPerSecond]
      omega
    apply reads_readInstant_parts
    · rw [hwhole, Instant.ofNanos?, dif_pos ⟨hlower, hupper⟩]
    · simp only [nanosPerSecond, UInt64.size]
      omega
    · simp only [nanosPerSecond, UInt32.size]
      omega
  · cases h

theorem reads_readIpAddress (address : IpAddress) :
    Reads readIpAddress address (writeIpAddress address) := by
  intro rest
  cases address with
  | v4 octets size =>
      have htake := reads_takeBytes octets rest
      rw [size] at htake
      simp [readIpAddress, writeIpAddress, readNat, htake, IpAddress.ofOctets?, size]
  | v6 octets size =>
      have htake := reads_takeBytes octets rest
      rw [size] at htake
      simp [readIpAddress, writeIpAddress, readNat, htake, IpAddress.ofOctets?, size]

/-- The entries of a map make the map again. -/
theorem ofList_toList (attributes : Attributes) :
    Std.ExtTreeMap.ofList attributes.toList = attributes := by
  apply Std.ExtTreeMap.ext_getElem?
  intro name
  cases hvalue : attributes[name]? with
  | none =>
      apply Std.ExtTreeMap.getElem?_ofList_of_contains_eq_false
      simpa using hvalue
  | some value =>
      apply Std.ExtTreeMap.getElem?_ofList_of_mem (k := name) (by simp)
      · exact Std.ExtTreeMap.distinct_keys_toList
      · exact Std.ExtTreeMap.mem_toList_iff_getElem?_eq_some.2 hvalue

/-- What is read of the record of a mail is the mail, with no content yet. -/
theorem reads_readMail {mail : Mail} {bytes : List UInt8} (h : writeMail mail = some bytes)
    (hfits : Fits bytes) : Reads readMail (mail.attachContent .empty) bytes := by
  intro rest
  unfold writeMail at h
  cases hupdated : writeInstant mail.updated with
  | none => simp [hupdated] at h
  | some updated =>
      simp only [hupdated, Option.bind_eq_bind, Option.bind_some, Option.pure_def,
        Option.some.injEq] at h
      subst h
      have hid := reads_readId hfits.left.left.left.left.left.left.left.left
      have hsender := reads_readOption (fun a _ ha => reads_readAddress ha)
        hfits.left.left.left.left.left.left.left.right
      have hrecipients := reads_readList writeAddress_ne_nil (fun a _ ha => reads_readAddress ha)
        hfits.left.left.left.left.left.left.right
      have hstate := reads_readText hfits.left.left.left.left.left.right
      have hattributes := reads_readList writeNamed_ne_nil (fun e _ he => reads_readNamed he)
        hfits.left.left.left.left.right
      have hinstant := reads_readInstant hupdated
      have herror := reads_readOption (fun s _ hs => reads_readText hs) hfits.left.left.right
      have hhost := reads_readOption (fun s _ hs => reads_readText hs) hfits.left.right
      have haddress := reads_readOption (fun a _ _ => reads_readIpAddress a) hfits.right
      have hsame : Std.ExtTreeSet.ofList mail.recipients.toList = mail.recipients :=
        Std.ExtTreeSet.ext_mem fun r => by simp
      have hnamed := ofList_toList mail.attributes
      simp only [List.append_assoc]
      simp [readMail, hid _, hsender _, hrecipients _, hstate _, hattributes _, hinstant _,
        herror _, hhost _, haddress _, hsame, hnamed, Mail.attachContent]

end Wire

namespace Record

theorem writeMail_of_encode {mail : Mail} {object : List UInt8} (h : encode mail = .ok object) :
    Wire.writeMail mail = some object ∧ Wire.Fits object := by
  unfold encode at h
  cases hwrite : Wire.writeMail mail with
  | none => simp [hwrite] at h
  | some bytes =>
      simp only [hwrite] at h
      split at h
      · rename_i hfits
        cases h
        exact ⟨rfl, hfits⟩
      · cases h

/-- The record of a mail is decoded to the mail with the content that is found beside it, under the
keys of the mail only. -/
theorem decode_object {mail : Mail} {object : List UInt8} (h : encode mail = .ok object)
    (key : RecordKey) (content : Content) : decode key object content =
      if mail.id = key.id then .ok (mail.attachContent content)
      else .error (.corrupt key (.foreign mail.id)) := by
  obtain ⟨hwrite, hfits⟩ := writeMail_of_encode h
  have hread := Wire.reads_readMail hwrite hfits []
  rw [List.append_nil] at hread
  simp [decode, hread, Mail.attachContent]

/-- The content has no say in whether and to what a record is decoded, but for being that of the
mail. -/
theorem decode_content (key : RecordKey) (object : List UInt8) (content content' : Content) :
    decode key object content' = (decode key object content).map (·.attachContent content') := by
  unfold decode
  split
  · rfl
  · split <;> rfl

/-- A mail that has a record is what the record and its content are decoded to. -/
theorem decode_encode {mail : Mail} {object : List UInt8} (h : encode mail = .ok object)
    {key : RecordKey} (hkey : key.id = mail.id) : decode key object mail.content = .ok mail := by
  rw [decode_object h, if_pos hkey.symm, Mail.attachContent]

end Record

end Postroom
