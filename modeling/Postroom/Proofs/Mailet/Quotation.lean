import Postroom.Proofs.Chain.Notification
import Postroom.Proofs.Content.Block

/-!
What a notification quotes of the message that it is about. The quote is cut off in front of two
line ends in a row, each with a carriage return, or at the cap, whichever comes first. So it stays
in the header block where the lines of the block end like that. A block whose lines end with a bare
line feed, or which has no lines, is quoted together with what follows it.
-/

namespace Postroom

open HeaderBlock (block blockFrom LineAt crlf lineEnds lineFeed carriageReturn)

namespace Bounce

/-- The bytes of a message that a notification quotes. -/
def quoted (content : Content) : List UInt8 :=
  content.bytes.take (min (headerEnd content.bytes) maxQuoted)

theorem quotedHeaders_eq (content : Content) : quotedHeaders content =
    if content.bytes = [] then "(No message data available)"
    else Text.ofBytesLossy (quoted content) := by
  simp only [quotedHeaders, quoted, List.isEmpty_iff]

/-- The quote ends by some place if the message does, or if two line ends begin by then. -/
theorem headerEnd_le_iff (bytes : List UInt8) (n : Nat) :
    headerEnd bytes ≤ n ↔ bytes.length ≤ n ∨ ∃ k ≤ n, crlf ++ crlf <+: bytes.drop k := by
  induction bytes using headerEnd.induct generalizing n with
  | case1 rest =>
      have hfront : crlf ++ crlf <+: (13 :: 10 :: 13 :: 10 :: rest).drop 0 := ⟨rest, rfl⟩
      exact iff_of_true (Nat.zero_le n) (.inr ⟨0, Nat.zero_le n, hfront⟩)
  | case2 => exact iff_of_true (Nat.zero_le n) (.inl (Nat.zero_le n))
  | case3 b rest hnot ih =>
      have hfirst : ¬ crlf ++ crlf <+: b :: rest := by
        rintro ⟨more, hmore⟩
        obtain ⟨hb, hrest⟩ := List.cons.inj hmore.symm
        exact hnot more hb hrest
      have hnext : (∃ k ≤ n, crlf ++ crlf <+: (b :: rest).drop k) ↔
          ∃ j, j + 1 ≤ n ∧ crlf ++ crlf <+: rest.drop j := by
        constructor
        · rintro ⟨_ | j, hj, hk⟩
          · exact absurd hk hfirst
          · exact ⟨j, hj, hk⟩
        · rintro ⟨j, hj, hk⟩
          exact ⟨j + 1, hj, hk⟩
      rw [headerEnd, List.length_cons, hnext]
      · cases n with
        | zero => simp
        | succ n => simpa using ih n
      · exact hnot

theorem headerEnd_le_length (bytes : List UInt8) : headerEnd bytes ≤ bytes.length :=
  (headerEnd_le_iff bytes bytes.length).2 (.inl (Nat.le_refl _))

theorem drop_block {bytes rest : List UInt8} (hrest : bytes = block bytes ++ rest) :
    bytes.drop (block bytes).length = rest := by
  calc bytes.drop (block bytes).length
      = (block bytes ++ rest).drop (block bytes).length := congrArg (List.drop _) hrest
    _ = rest := List.drop_left

/-- Two line ends in a row that begin in the block, or where it ends, are the last of the block and
the empty line behind it, or that line and one more. -/
theorem block_of_two_ends {bytes rest : List UInt8} (hrest : bytes = block bytes ++ rest) {k : Nat}
    (hk : k ≤ (block bytes).length) (hends : crlf ++ crlf <+: bytes.drop k) :
    rest = [] ∨ crlf <:+ block bytes ∧ crlf <+: rest ∨ crlf ++ crlf <+: rest := by
  obtain ⟨more, hmore⟩ := hends
  have hbehind := drop_block hrest
  have hsecond : bytes.drop (k + 2) = crlf ++ more := by
    rw [← List.drop_drop, ← hmore]
    rfl
  have hbyte : ∀ i, bytes[k + i]? = (crlf ++ crlf ++ more)[i]? := by
    intro i
    rw [hmore, List.getElem?_drop]
  have hline : LineAt true bytes (k + 2) := .inr ⟨k + 1, rfl, hbyte 1⟩
  have hlast : (block bytes).length ≤ k + 2 := by
    by_contra hlater
    have hnot := HeaderBlock.startsEmpty_of_lt_blockFrom (Nat.lt_of_not_le hlater) hline
    rw [hsecond] at hnot
    cases hnot
  obtain hsame | hbetween | hnext : (block bytes).length = k ∨ (block bytes).length = k + 1 ∨
      (block bytes).length = k + 2 := by omega
  · refine .inr (.inr ⟨more, ?_⟩)
    rw [← hbehind, hsame, hmore]
  · -- No line begins between a carriage return and a line feed.
    rcases HeaderBlock.blockFrom_end true bytes with hall | ⟨hbegins, -⟩
    · exact .inl (by rw [← hbehind, block, ← hall, List.drop_length])
    · rw [← block, hbetween] at hbegins
      obtain ⟨hzero, -⟩ | ⟨j, hj, hfeed⟩ := hbegins
      · cases hzero
      · have hreturn := hbyte 0
        rw [Nat.add_zero, Nat.succ.inj hj, hfeed] at hreturn
        cases hreturn
  · refine .inr (.inl ⟨⟨bytes.take k, ?_⟩, more, ?_⟩)
    · have hblock : block bytes = bytes.take (k + 2) := by
        rw [← hnext]
        exact List.prefix_iff_eq_take.1 (HeaderBlock.blockFrom_prefix true bytes)
      rw [hblock, List.take_add, ← hmore]
      rfl
    · rw [← hbehind, hnext, hsecond]

/-- The quote ends in the block, or where it does, if the block is the whole message or if the empty
line behind it ends with a carriage return and follows, or is followed by, such a line end. -/
theorem headerEnd_le_block_iff {bytes rest : List UInt8} (hrest : bytes = block bytes ++ rest) :
    headerEnd bytes ≤ (block bytes).length ↔
      rest = [] ∨ crlf <:+ block bytes ∧ crlf <+: rest ∨ crlf ++ crlf <+: rest := by
  rw [headerEnd_le_iff]
  constructor
  · rintro (hall | ⟨k, hk, hends⟩)
    · have hlength := congrArg List.length hrest
      rw [List.length_append] at hlength
      exact .inl (List.length_eq_zero_iff.1 (by omega))
    · exact block_of_two_ends hrest hk hends
  · rintro (rfl | ⟨⟨front, hfront⟩, more, hmore⟩ | hfirst)
    · rw [List.append_nil] at hrest
      exact .inl (Nat.le_of_eq (congrArg List.length hrest))
    · refine .inr ⟨front.length, by simp [← hfront], more, ?_⟩
      rw [hrest, ← hfront, ← hmore]
      simp
    · refine .inr ⟨_, Nat.le_refl _, ?_⟩
      rwa [drop_block hrest]

/-- When the quote is a part of the header block, by what ends the block and by what follows it. -/
theorem quoted_prefix_iff {content : Content} {blank body : List UInt8}
    (hbytes : content.bytes = block content.bytes ++ blank ++ body)
    (hblank : blank ∈ lineEnds ∨ blank = [] ∧ body = []) :
    quoted content <+: block content.bytes ↔ maxQuoted ≤ (block content.bytes).length ∨ blank = [] ∨
      blank = crlf ∧ (crlf <:+ block content.bytes ∨ crlf <+: body) := by
  have hprefix := HeaderBlock.blockFrom_prefix true content.bytes
  have hlength : (quoted content).length = min (headerEnd content.bytes) maxQuoted := by
    rw [quoted, List.length_take, Nat.min_eq_left]
    exact Nat.le_trans (Nat.min_le_left ..) (headerEnd_le_length _)
  have hshort : quoted content <+: block content.bytes ↔
      min (headerEnd content.bytes) maxQuoted ≤ (block content.bytes).length := by
    rw [← hlength]
    exact ⟨List.IsPrefix.length_le, List.prefix_of_prefix_length_le (List.take_prefix ..) hprefix⟩
  rw [List.append_assoc] at hbytes
  have hcut : min (headerEnd content.bytes) maxQuoted ≤ (block content.bytes).length ↔
      maxQuoted ≤ (block content.bytes).length ∨
        headerEnd content.bytes ≤ (block content.bytes).length := by omega
  rw [hshort, hcut, headerEnd_le_block_iff hbytes]
  refine or_congr_right ?_
  rcases hblank with hend | ⟨rfl, rfl⟩
  · rcases List.mem_cons.1 hend with rfl | hend
    · -- There is no carriage return in front of the line feed.
      simp [crlf, carriageReturn, lineFeed]
    · rw [List.mem_singleton.1 hend, List.prefix_append_right_inj]
      simp [crlf]
  · simp

/-- A part of a notification, as it stands behind the boundary in front of it. -/
def partText (boundary kind body : String) : String :=
  "--" ++ boundary ++ "\r\nContent-Type: " ++ kind ++
    "\r\nContent-Transfer-Encoding: 7bit\r\n\r\n" ++
    body ++ "\r\n"

/-- A notification has three parts: the explanation, the groups of fields and the quote. -/
theorem notification?_parts {settings : Bounce} {mail notification : Mail} {sender : Address}
    {pass after : Pass} (h : settings.notification? mail sender pass = some (notification, after)) :
    ∃ front boundary arrival, arrivalDate? mail.id = some arrival ∧ notification.content = .ofText
      (front ++
      partText boundary "text/plain; charset=utf-8"
        (settings.explanation mail (mail.error.getD "Delivery failed")) ++
      partText boundary "message/delivery-status"
        (settings.statusPart mail arrival (mail.error.getD "Delivery failed")) ++
      partText boundary "text/rfc822-headers" (quotedHeaders mail.content) ++
      "--" ++ boundary ++ "--\r\n") := by
  unfold notification? at h
  obtain ⟨date, -, h⟩ := Option.bind_eq_some_iff.1 h
  obtain ⟨arrival, harrival, h⟩ := Option.bind_eq_some_iff.1 h
  cases h
  exact ⟨_, _, arrival, harrival, rfl⟩

/-- The last part of a notification is its quote of the message. The quote is at most as long as the
cap, and if the header block of the message can be read, it is a part of the block exactly in these
cases: the block is at least as long as the cap, or it is the whole message, or the empty line
behind it ends with a carriage return and a line feed, and so does the block or so does one more
empty line. -/
theorem notification_quotes_block_iff {settings : Bounce} {mail notification : Mail}
    {sender : Address} {pass after : Pass} {headers : List Header} {body : List UInt8}
    (hnotification : settings.notification? mail sender pass = some (notification, after))
    (hparse : HeaderBlock.parse mail.content.bytes = .ok (headers, body)) :
    ∃ front boundary blank quote,
      notification.content = .ofText (front ++ partText boundary "text/rfc822-headers"
        (if mail.content.bytes = [] then "(No message data available)" else
          Text.ofBytesLossy quote) ++
        "--" ++ boundary ++ "--\r\n") ∧
      quote <+: mail.content.bytes ∧ quote.length ≤ 1024 ∧
      mail.content.bytes = block mail.content.bytes ++ blank ++ body ∧
      (blank ∈ lineEnds ∨ blank = [] ∧ body = []) ∧
      (quote <+: block mail.content.bytes ↔ 1024 ≤ (block mail.content.bytes).length ∨ blank = [] ∨
        blank = crlf ∧ (crlf <:+ block mail.content.bytes ∨ crlf <+: body)) := by
  obtain ⟨front, boundary, arrival, -, hcontent⟩ := notification?_parts hnotification
  obtain ⟨blank, hbytes, hblank⟩ := HeaderBlock.parse_block hparse
  rw [quotedHeaders_eq] at hcontent
  refine ⟨_, boundary, blank, quoted mail.content, hcontent, List.take_prefix .., ?_,
    hbytes, hblank, quoted_prefix_iff hbytes hblank⟩
  exact Nat.le_trans (List.length_take_le ..) (Nat.min_le_right ..)

end Bounce

namespace Bounce.Sample

open Chain.Sample (alice bob carol pass)

def settings : Bounce := ⟨"localhost", carol⟩

/-- A mail from bob to alice. -/
def mail (message : String) : Mail :=
  .create default .epoch (some bob) (.ofList [alice]) (.ofText message)

theorem exists_notification_of_id {mail : Mail} (hid : mail.id = default) (sender : Address) :
    ∃ notification after, settings.notification? mail sender pass = some (notification, after) := by
  have hdates : (pass.now.mailDate?.isSome && (arrivalDate? default).isSome) = true := by
    decide +kernel
  rw [← hid, ← Mailet.isSome_notification? settings mail sender pass] at hdates
  obtain ⟨⟨notification, after⟩, h⟩ := Option.isSome_iff_exists.1 hdates
  exact ⟨notification, after, h⟩

theorem exists_notification (message : String) :
    ∃ notification after, settings.notification? (mail message) bob pass =
      some (notification, after) :=
  exists_notification_of_id rfl bob

/-- A message of one header and one line, and the same with bare line feeds. -/
def tidy : String := "Subject: a\r\n\r\nb"

def bare : String := "Subject: a\n\nb"

theorem exists_parse {message : String} {bytes : List UInt8}
    (h : (HeaderBlock.parse (mail message).content.bytes).toOption.map Prod.snd = some bytes) :
    ∃ headers, HeaderBlock.parse (mail message).content.bytes = .ok (headers, bytes) := by
  cases hparse : HeaderBlock.parse (mail message).content.bytes with
  | error e => simp [hparse, Except.toOption] at h
  | ok read =>
      obtain ⟨headers, body⟩ := read
      have hbody : body = bytes := by simpa [hparse, Except.toOption] using h
      exact ⟨headers, by rw [hbody]⟩

/-- Of the message with carriage returns the block is quoted, without its body. -/
theorem notification_quotes_block_iff_of_tidy :
    ∃ notification after front boundary quote,
      settings.notification? (mail tidy) bob pass = some (notification, after) ∧
      (∃ headers, HeaderBlock.parse (mail tidy).content.bytes = .ok (headers, Text.toBytes "b")) ∧
      notification.content = .ofText (front ++ partText boundary "text/rfc822-headers"
        (Text.ofBytesLossy quote) ++ "--" ++ boundary ++ "--\r\n") ∧
      quote <+: Text.toBytes "Subject: a\r\n" := by
  obtain ⟨notification, after, hnotification⟩ := exists_notification tidy
  have hbody : (HeaderBlock.parse (mail tidy).content.bytes).toOption.map Prod.snd =
      some (Text.toBytes "b") := by decide +kernel
  obtain ⟨headers, hparse⟩ := exists_parse hbody
  obtain ⟨front, boundary, blank, quote, hcontent, -, -, hbytes, -, hiff⟩ :=
    notification_quotes_block_iff hnotification hparse
  have hblock : block (mail tidy).content.bytes = Text.toBytes "Subject: a\r\n" := by decide +kernel
  have hlines : (mail tidy).content.bytes =
      Text.toBytes "Subject: a\r\n" ++ crlf ++ Text.toBytes "b" := by decide +kernel
  rw [hblock] at hbytes hiff
  have hblank : blank = crlf :=
    List.append_cancel_left (List.append_cancel_right (hbytes.symm.trans hlines))
  have hends : crlf <:+ Text.toBytes "Subject: a\r\n" := by decide +kernel
  have hsome : (mail tidy).content.bytes ≠ [] := by decide +kernel
  rw [if_neg hsome] at hcontent
  exact ⟨notification, after, front, boundary, quote, hnotification, ⟨headers, hparse⟩, hcontent,
    hiff.2 (.inr (.inr ⟨hblank, .inl hends⟩))⟩

/-- Of the message with bare line feeds all of it is quoted. -/
theorem notification_quotes_body :
    ∃ notification after headers front boundary,
      settings.notification? (mail bare) bob pass = some (notification, after) ∧
      HeaderBlock.parse (mail bare).content.bytes = .ok (headers, Text.toBytes "b") ∧
      notification.content = .ofText (front ++ partText boundary "text/rfc822-headers" bare ++
        "--" ++ boundary ++ "--\r\n") := by
  obtain ⟨notification, after, hnotification⟩ := exists_notification bare
  have hbody : (HeaderBlock.parse (mail bare).content.bytes).toOption.map Prod.snd =
      some (Text.toBytes "b") := by decide +kernel
  have hquote : quotedHeaders (mail bare).content = bare := by decide +kernel
  obtain ⟨headers, hparse⟩ := exists_parse hbody
  obtain ⟨front, boundary, arrival, -, hcontent⟩ := notification?_parts hnotification
  rw [hquote] at hcontent
  exact ⟨notification, after, headers, _, boundary, hnotification, hparse, hcontent⟩

end Bounce.Sample

end Postroom
