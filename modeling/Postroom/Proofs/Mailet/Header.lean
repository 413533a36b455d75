import Postroom.Proofs.Chain.Conservation
import Postroom.Proofs.Content.Prepending

/-!
The mailet that adds a header. The line that it puts in front is read as a header with the value
without its first blanks, and the headers behind it are read as before, unless the message begins
with a tab: then its first line goes on with the new one. So the header is found with its value, and
every other one as it was, exactly if the value begins with no blank and the message with no tab.
-/

namespace Postroom

namespace Mailet

variable {name value : String} {mailet : Mailet}

/-- The two checks of a header, and the mailet that passes them. -/
theorem checkedHeader_eq_ok (h : checkedHeader name value = .ok mailet) :
    isHeaderName name = true ∧ isSingleLine value = true ∧ mailet = addHeader name value := by
  unfold checkedHeader at h
  split at h
  · cases h
  · rename_i hname
    split at h
    · cases h
    · rename_i hvalue
      cases h
      exact ⟨by simpa using hname, by simpa using hvalue, rfl⟩

theorem ne_of_isSingleLine (h : isSingleLine value = true) {c : Char} (hc : c ∈ value.toList) :
    c ≠ '\r' ∧ c ≠ '\n' := by
  have hall := List.all_eq_true.1 h c hc
  simpa using hall

theorem ne_of_isHeaderName (h : isHeaderName name = true) {c : Char} (hc : c ∈ name.toList) :
    c ≠ ':' ∧ Text.isBlank c = false := by
  rw [isHeaderName, Bool.and_eq_true] at h
  have hall := List.all_eq_true.1 h.2 c hc
  simpa using hall

theorem headerLine_eq (name value : String) : Content.headerLine name value =
    HeaderBlock.lineOf (Text.toBytes name) (Text.toBytes value) := by
  have hmark : Text.toBytes ": " = [HeaderBlock.colon, HeaderBlock.space] := by decide
  have hend : Text.toBytes "\r\n" = HeaderBlock.crlf := by decide
  rw [Content.headerLine, Text.toBytes_append, Text.toBytes_append, Text.toBytes_append, hmark,
    hend, HeaderBlock.lineOf]
  simp

/-- What passes the checks stands on a line of its own. -/
theorem fits_of_checked (hname : isHeaderName name = true) (hvalue : isSingleLine value = true)
    (hspace : value.toList.head? ≠ some ' ') :
    HeaderBlock.Fits (Text.toBytes name) (Text.toBytes value) where
  named hempty := by
    have hlength := Text.length_le_length_toBytes name
    rw [hempty] at hlength
    have hnone := List.eq_nil_of_length_eq_zero (Nat.le_zero.1 hlength)
    rw [String.toList_eq_nil_iff.1 hnone] at hname
    cases hname
  solid b hb := by
    refine ⟨?_, ?_, ?_, ?_⟩ <;> rintro rfl <;>
      have hc := ne_of_isHeaderName hname (Text.mem_of_mem_toBytes hb (by decide))
    · exact hc.1 rfl
    · exact absurd hc.2 (by decide)
    · exact absurd hc.2 (by decide)
    · exact absurd hc.2 (by decide)
  single b hb := by
    constructor <;> rintro rfl <;>
      have hc := ne_of_isSingleLine hvalue (Text.mem_of_mem_toBytes hb (by decide))
    · exact hc.2 rfl
    · exact hc.1 rfl
  start hhead := by
    rw [Text.toBytes_eq_flatMap] at hhead
    exact hspace (Text.head?_flatMap_utf8EncodeChar (by decide) hhead)

/-- The added header has its name in any letter case. -/
theorem hasName_toBytes (hascii : ∀ c ∈ name.toList, c.toNat < 128) (bytes : List UInt8)
    (n : String) :
    HeaderBlock.hasName n ⟨Text.toBytes name, bytes⟩ = true ↔ n.toLower = name.toLower := by
  rw [HeaderBlock.hasName, Text.ofLatin1_toBytes hascii, beq_iff_eq, eq_comm]

/-- The value of a header on a line of its own is read without its first blanks. -/
theorem text_of_single (key : List UInt8) (hvalue : isSingleLine value = true)
    (hplain : ¬ ['=', '?'] <:+: value.toList) :
    (Header.text ⟨key, Text.toBytes value⟩) = Text.trimStart value := by
  rw [Header.text, Text.ofBytes?_toBytes, Option.getD_some, ← String.toList_inj,
    unfoldHeaderValue_of_plain (fun hc => (ne_of_isSingleLine hvalue hc).2 rfl) hplain,
    Text.trimStart, String.toList_ofList]

section Continued

variable {more : List UInt8}

/-- The bytes of a value, each read as a character. -/
def byteChars (value : String) : List Char :=
  (Text.toBytes value).map fun b => Char.ofNat b.toNat

theorem lineFeed_notMem_byteChars (hvalue : isSingleLine value = true) :
    '\n' ∉ byteChars value := by
  intro hmem
  obtain ⟨b, hb, hread⟩ := List.mem_map.1 hmem
  obtain rfl : b = HeaderBlock.lineFeed := Text.latin1_inj.1 hread
  exact (ne_of_isSingleLine hvalue (Text.mem_of_mem_toBytes hb (by decide))).2 rfl

theorem plain_byteChars (hplain : ¬ ['=', '?'] <:+: value.toList) :
    ¬ ['=', '?'] <:+: byteChars value := by
  intro hmark
  obtain ⟨pair, hpair, hread⟩ := List.infix_map_iff.1 hmark
  obtain rfl : pair = [61, 63] := List.map_injective_iff.2 (fun _ _ => Text.latin1_inj.1) hread.symm
  exact hplain (Text.infix_of_infix_toBytes (by decide) (by decide) hpair)

/-- No byte that follows the first one of a character is read as a blank in front. -/
theorem head?_byteChars {c : Char} (hc : c ∈ (byteChars value).head?)
    (hblank : Text.isBlank c = true) :
    value.toList.head? = some c := by
  rw [byteChars, List.head?_map, Option.mem_def, Option.map_eq_some_iff] at hc
  obtain ⟨b, hb, rfl⟩ := hc
  have hsmall : b.toNat < 192 := by
    have hlt := b.toNat_lt
    simp only [Text.isBlank, Text.toNat_latin1, Bool.or_eq_true, Bool.and_eq_true,
      decide_eq_true_eq, beq_iff_eq] at hblank
    omega
  rw [Text.toBytes_eq_flatMap] at hb
  exact Text.head?_flatMap_utf8EncodeChar hsmall hb

/-- What is valid as a text begins with the value and a line end. -/
theorem exists_lines_of_valid {s : String} (hmore : more ≠ [])
    (htext : Text.ofBytes? (Text.toBytes value ++
      HeaderBlock.carriageReturn :: HeaderBlock.lineFeed :: more) = some s) :
    ∃ rest, rest ≠ [] ∧ s = String.ofList (value.toList ++ '\r' :: '\n' :: rest) := by
  have hend : Text.toBytes "\r\n" = [HeaderBlock.carriageReturn, HeaderBlock.lineFeed] := by decide
  have hbytes : Text.toBytes s = Text.toBytes (value ++ "\r\n") ++ more := by
    rw [Text.toBytes_of_ofBytes? htext, Text.toBytes_append, hend, List.append_assoc]
    rfl
  obtain ⟨rest, rfl⟩ := Text.exists_append_of_toBytes hbytes
  refine ⟨rest.toList, fun hempty => ?_, ?_⟩
  · rw [Text.toBytes_append, List.append_cancel_left_eq,
      String.toList_eq_nil_iff.1 hempty] at hbytes
    exact hmore hbytes.symm
  · rw [← String.toList_inj]
    simp

/-- A value that a line of the message goes on with is not read back. -/
theorem text_of_continued (key : List UInt8) (hvalue : isSingleLine value = true)
    (hplain : ¬ ['=', '?'] <:+: value.toList) (hspace : value.toList.head? ≠ some ' ')
    (hmore : more ≠ []) :
    Header.text ⟨key,
      Text.toBytes value ++ HeaderBlock.carriageReturn :: HeaderBlock.lineFeed :: more⟩ ≠
        value := by
  rw [Header.text, ne_eq, ← String.toList_inj]
  cases htext : Text.ofBytes? (Text.toBytes value ++
      HeaderBlock.carriageReturn :: HeaderBlock.lineFeed :: more) with
  | some s =>
      obtain ⟨rest, hrest, rfl⟩ := exists_lines_of_valid hmore htext
      have hline : '\n' ∉ value.toList := fun hc => (ne_of_isSingleLine hvalue hc).2 rfl
      obtain ⟨tail, htail⟩ := unfoldHeaderValue_of_continued hline hplain hrest
      rw [Option.getD_some, htail]
      exact (Text.ne_trimStartChars_append (Nat.le_refl _) (fun _ hc _ => hc) hspace tail).symm
  | none =>
      have hbytes : Text.ofLatin1 (Text.toBytes value ++
          HeaderBlock.carriageReturn :: HeaderBlock.lineFeed :: more) =
            String.ofList (byteChars value ++ '\r' :: '\n' :: more.map fun b =>
              Char.ofNat b.toNat) := by
        rw [Text.ofLatin1, List.map_append]
        rfl
      have hlong : value.toList.length ≤ (byteChars value).length := by
        rw [byteChars, List.length_map]
        exact Text.length_le_length_toBytes value
      obtain ⟨tail, htail⟩ := unfoldHeaderValue_of_continued (lineFeed_notMem_byteChars hvalue)
        (plain_byteChars hplain) (mt List.map_eq_nil_iff.1 hmore)
      rw [Option.getD_none, hbytes, htail]
      exact (Text.ne_trimStartChars_append hlong (fun _ => head?_byteChars) hspace tail).symm

end Continued

variable {content : Content} {headers : List Header}

theorem parse_of_headers (h : content.headers = .ok headers) :
    ∃ body, HeaderBlock.parse content.bytes = .ok (headers, body) := by
  unfold Content.headers at h
  cases hparse : HeaderBlock.parse content.bytes with
  | error e =>
      rw [hparse] at h
      cases h
  | ok read =>
      rw [hparse] at h
      cases h
      exact ⟨read.2, rfl⟩

/-- What is found once a header stands in front, unless the message begins with a tab. -/
theorem header?_withHeader_of_apart (hname : isHeaderName name = true)
    (hascii : ∀ c ∈ name.toList, c.toNat < 128) (hvalue : isSingleLine value = true)
    (hplain : ¬ ['=', '?'] <:+: value.toList) (hspace : value.toList.head? ≠ some ' ')
    (hread : content.headers = .ok headers)
    (htab : content.bytes.head? ≠ some HeaderBlock.tab) (n : String) :
    (content.withHeader name value).header? n =
      if n.toLower = name.toLower then some (Text.trimStart value) else content.header? n := by
  obtain ⟨body, hbody⟩ := parse_of_headers hread
  have hparse := HeaderBlock.parse_lineOf_of_apart (fits_of_checked hname hvalue hspace)
    (HeaderBlock.head?_ne_space_of_parse hbody) htab
  rw [hbody] at hparse
  have hheaders : (content.withHeader name value).headers =
      .ok (⟨Text.toBytes name, Text.toBytes value⟩ :: headers) := by
    rw [Content.headers, Content.withHeader, headerLine_eq, hparse]
    rfl
  rw [Content.header?, hheaders, Content.header?, hread]
  dsimp only
  split
  · rename_i hsame
    rw [List.find?_cons_of_pos ((hasName_toBytes hascii _ n).2 hsame), Option.map_some,
      text_of_single _ hvalue hplain]
  · rename_i hother
    rw [List.find?_cons_of_neg fun hnamed => hother ((hasName_toBytes hascii _ n).1 hnamed)]

/-- In front of a message that begins with a tab the header is not found with its value. -/
theorem header?_withHeader_of_tab (hname : isHeaderName name = true)
    (hascii : ∀ c ∈ name.toList, c.toNat < 128) (hvalue : isSingleLine value = true)
    (hplain : ¬ ['=', '?'] <:+: value.toList) (hspace : value.toList.head? ≠ some ' ')
    (htab : content.bytes.head? = some HeaderBlock.tab) :
    (content.withHeader name value).header? name ≠ some value := by
  obtain ⟨rest, hrest⟩ := List.head?_eq_some_iff.1 htab
  obtain ⟨more, after, hparse⟩ :=
    HeaderBlock.parse_lineOf_tab (fits_of_checked hname hvalue hspace) rest
  rw [Content.header?, Content.headers, Content.withHeader, headerLine_eq, hrest, hparse]
  cases HeaderBlock.parse after with
  | error e => simp [Except.map]
  | ok read =>
      have hnamed := (hasName_toBytes hascii (Text.toBytes value ++ HeaderBlock.carriageReturn ::
        HeaderBlock.lineFeed :: HeaderBlock.tab :: more) name).2 rfl
      dsimp only [Except.map]
      rw [List.find?_cons_of_pos hnamed, Option.map_some, ne_eq, Option.some.injEq]
      exact text_of_continued _ hvalue hplain hspace (by simp)

/-- An added header is found with its value, and every other one as it was, exactly if the value
begins with no blank and the message with no tab. The blanks that the value begins with are left out
when it is read. The line of the header stands in front of the message in any case. -/
theorem checkedHeader_changes_only_iff (hmailet : checkedHeader name value = .ok mailet)
    (hascii : ∀ c ∈ name.toList, c.toNat < 128) (hplain : ¬ ['=', '?'] <:+: value.toList)
    (hspace : value.toList.head? ≠ some ' ') (mail : Mail)
    (hread : mail.content.headers = .ok headers)
    (pass : Pass) :
    ((mailet.service mail pass).mail.content.bytes =
        Text.toBytes (name ++ ": " ++ value ++ "\r\n") ++ mail.content.bytes) ∧
      (mail.content.bytes.head? ≠ some HeaderBlock.tab →
        ∀ n, (mailet.service mail pass).mail.content.header? n =
          if n.toLower = name.toLower then some (Text.trimStart value) else
            mail.content.header? n) ∧
      ((∀ n, (mailet.service mail pass).mail.content.header? n =
          if n.toLower = name.toLower then some value else mail.content.header? n) ↔
        (∀ c ∈ value.toList.head?, Text.isBlank c = false) ∧
          mail.content.bytes.head? ≠ some HeaderBlock.tab) := by
  obtain ⟨hname, hvalue, rfl⟩ := checkedHeader_eq_ok hmailet
  have hapart := header?_withHeader_of_apart hname hascii hvalue hplain hspace hread
  refine ⟨rfl, hapart, ?_⟩
  change (∀ n, (mail.content.withHeader name value).header? n = _) ↔ _
  constructor
  · intro hfound
    have hsame := hfound name
    rw [if_pos rfl] at hsame
    have htab : mail.content.bytes.head? ≠ some HeaderBlock.tab :=
      fun htab => header?_withHeader_of_tab hname hascii hvalue hplain hspace htab hsame
    rw [hapart htab, if_pos rfl, Option.some.injEq, ← String.toList_inj, Text.trimStart,
      String.toList_ofList] at hsame
    refine ⟨fun c hc => ?_, htab⟩
    rw [← hsame] at hc
    exact Text.isBlank_of_head?_trimStartChars hc
  · rintro ⟨hblank, htab⟩ n
    have htrimmed : Text.trimStart value = value := by
      rw [Text.trimStart, Text.trimStartChars_of_head? hblank, String.ofList_toList]
    rw [hapart htab, htrimmed]

end Mailet

namespace Mailet.Sample

open Chain.Sample (pass)

def mail (message : String) : Mail :=
  .create default .epoch none ∅ (.ofText message)

/-- A header in front of a message that begins with a tab takes its first line, whose header is
lost. -/
theorem checkedHeader_changes_other :
    checkedHeader "X" "yes" = .ok (addHeader "X" "yes") ∧
      (mail "\tA: b\r\n\r\nbody").content.headers = .ok [⟨Text.toBytes "\tA", Text.toBytes "b"⟩] ∧
      (mail "\tA: b\r\n\r\nbody").content.header? "\tA" = some "b" ∧
      ((addHeader "X" "yes").service (mail "\tA: b\r\n\r\nbody") pass).mail.content.header? "X" =
        some "yes A: b" ∧
      ((addHeader "X" "yes").service (mail "\tA: b\r\n\r\nbody") pass).mail.content.header? "\tA" =
        none := by
  refine ⟨rfl, ?_, ?_, ?_, ?_⟩ <;> decide +kernel

/-- In front of a message with a subject the header is found with its value, and the subject as it
was. -/
theorem checkedHeader_changes_only :
    checkedHeader "X" "yes" = .ok (addHeader "X" "yes") ∧
      (mail "Subject: hi\r\n\r\nbody").content.headers =
        .ok [⟨Text.toBytes "Subject", Text.toBytes "hi"⟩] ∧
      ∀ n,
        ((addHeader "X" "yes").service
            (mail "Subject: hi\r\n\r\nbody") pass).mail.content.header? n =
          if n.toLower = "x" then some "yes"
          else (mail "Subject: hi\r\n\r\nbody").content.header? n := by
  have hheaders : (mail "Subject: hi\r\n\r\nbody").content.headers =
      .ok [⟨Text.toBytes "Subject", Text.toBytes "hi"⟩] := by decide +kernel
  have hname : "X".toLower = "x" := by decide +kernel
  have hmailet : checkedHeader "X" "yes" = .ok (addHeader "X" "yes") := rfl
  have hascii : ∀ c ∈ "X".toList, c.toNat < 128 := by simp
  have hstart : ∀ c ∈ "yes".toList.head?, Text.isBlank c = false := by
    have hfirst : "yes".toList.head? = some 'y' := rfl
    intro c hc
    cases hfirst.symm.trans hc
    rfl
  have hchanges := checkedHeader_changes_only_iff hmailet hascii (by decide) (by decide)
    (mail "Subject: hi\r\n\r\nbody") hheaders pass
  refine ⟨hmailet, hheaders, ?_⟩
  rw [← hname]
  exact hchanges.2.2.2 ⟨hstart, by decide⟩

end Mailet.Sample

end Postroom
