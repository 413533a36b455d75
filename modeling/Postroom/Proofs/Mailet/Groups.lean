import Mathlib.Data.List.SplitBy
import Postroom.Proofs.Address.RoundTrip
import Postroom.Proofs.Mailet.Quotation
import Postroom.Proofs.Mailet.Reply

/-!
How the machine readable part of a notification is read. Empty lines divide it into groups, and a
group consists of fields, each of one line and of the lines behind it that begin with a blank. The
reporting host and the reason stand in fields as they came, with their line ends. So a reader finds
a group of the message and one group for each recipient, with the four fields that are meant, if no
later line of the host is empty and every later line of the reason goes on with its field.
-/

namespace Postroom

open Text (Unbroken entry lineEnd firstLine laterLines)

theorem Address.Checked.unbroken_text {recipient : Address} (h : recipient.Checked) :
    Unbroken recipient.text.toList := by
  obtain ⟨localPart, domain, hmake⟩ := h.exists_make
  obtain ⟨hsound, rfl⟩ := Address.make_eq_ok_iff.1 hmake
  rw [Address.toList_text]
  constructor <;> intro hmem <;> cases hsound.lower.allowed _ hmem

namespace Bounce

/-- Whether a line goes on with the field of the line before it. -/
def continues (line : List Char) : Bool :=
  match line.head? with
  | some c => c == ' ' || c == '\t'
  | none => false

/-- The fields of a group, as the lines that they consist of. -/
def fields (group : List (List Char)) : List (List (List Char)) :=
  group.splitBy fun _ next => continues next

/-- What stands in front of the first colon. -/
def fieldName (field : List (List Char)) : String :=
  .ofList ((field.headD []).takeWhile (· ≠ ':'))

/-- Whether a group has the fields that report a failed recipient, one of each, and names this
one. -/
structure Reports (recipient : Address) (group : List (List Char)) : Prop where
  names : ((fields group).map fieldName).Perm
    ["Final-Recipient", "Action", "Status", "Diagnostic-Code"]
  recipient : [("Final-Recipient: rfc822; " ++ recipient.text).toList] ∈ fields group

/-- Whether a text is read as the group of a message, which begins with the reporting host, and a
group for each recipient, in their order. -/
def ReportsEach (recipients : List Address) (text : String) : Prop :=
  ∃ own reports, Text.groups text.toList = own :: reports ∧ fieldName own = "Reporting-MTA" ∧
    List.Forall₂ Reports recipients reports

/-- The lines about the message, as they are written. -/
def ownLines (mta arrival : String) : List (List Char) :=
  ("Reporting-MTA: dns; ".toList ++ firstLine mta.toList) ::
    (laterLines mta.toList ++ ["Arrival-Date: ".toList ++ arrival.toList])

/-- The lines about a recipient, as they are written. -/
def reportLines (reason : String) (recipient : Address) : List (List Char) :=
  ("Final-Recipient: rfc822; ".toList ++ recipient.text.toList) :: "Action: failed".toList ::
    "Status: 5.0.0".toList :: ("Diagnostic-Code: smtp; ".toList ++ firstLine reason.toList) ::
      laterLines reason.toList

variable {settings : Bounce} {mail : Mail} {arrival reason : String}

theorem toList_recipientGroup (reason : String) (recipient : Address) :
    (recipientGroup reason recipient).toList =
      entry [] [] ++ entry "Final-Recipient: rfc822; ".toList recipient.text.toList ++
        entry "Action: failed".toList [] ++ entry "Status: 5.0.0".toList [] ++
        entry "Diagnostic-Code: smtp; ".toList reason.toList := by
  have hfirst : "\r\nFinal-Recipient: rfc822; ".toList =
      lineEnd ++ "Final-Recipient: rfc822; ".toList := by decide +kernel
  have hmiddle : "\r\nAction: failed\r\nStatus: 5.0.0\r\n".toList =
      lineEnd ++ "Action: failed".toList ++ lineEnd ++ "Status: 5.0.0".toList ++ lineEnd := by
    decide +kernel
  have hlast : "\r\n".toList = lineEnd := by decide +kernel
  unfold recipientGroup
  simp only [entry, String.toList_append, hfirst, hmiddle, hlast, List.append_assoc,
    List.nil_append, List.append_nil]

theorem lines_recipientGroup {recipient : Address} (h : Unbroken recipient.text.toList)
    (after : List Char) : Text.lines ((recipientGroup reason recipient).toList ++ after) =
      [] :: (reportLines reason recipient ++ Text.lines after) := by
  have hempty := Text.firstLine_of_unbroken (show Unbroken [] by decide)
  have hrecipient := Text.firstLine_of_unbroken h
  simp only [toList_recipientGroup, List.append_assoc]
  rw [Text.lines_entry (by decide), Text.lines_entry (by decide +kernel),
    Text.lines_entry (by decide +kernel), Text.lines_entry (by decide +kernel),
    Text.lines_entry (by decide +kernel), hempty.1, hempty.2, hrecipient.1, hrecipient.2]
  simp only [reportLines, List.append_nil, List.nil_append, List.cons_append]

theorem lines_join {recipients : List Address} (h : ∀ r ∈ recipients, Unbroken r.text.toList) :
    Text.lines (String.join (recipients.map (recipientGroup reason))).toList =
      recipients.flatMap fun r => [] :: reportLines reason r := by
  induction recipients with
  | nil => rfl
  | cons recipient rest ih =>
      rw [List.forall_mem_cons] at h
      rw [List.map_cons, String.join_cons, String.toList_append, lines_recipientGroup h.1, ih h.2,
        List.flatMap_cons, List.cons_append]

/-- The part is written as the lines about the message, and the lines about each recipient behind an
empty one. -/
theorem lines_statusPart (hrecipients : ∀ r ∈ mail.recipients.toList, Unbroken r.text.toList)
    (harrival : Unbroken arrival.toList) :
    Text.lines (settings.statusPart mail arrival reason).toList =
      ownLines settings.reportingMta arrival ++
        mail.recipients.toList.flatMap fun r => [] :: reportLines reason r := by
  have htext : (settings.statusPart mail arrival reason).toList =
      entry "Reporting-MTA: dns; ".toList settings.reportingMta.toList ++
        (entry "Arrival-Date: ".toList arrival.toList ++
          (String.join (mail.recipients.toList.map (recipientGroup reason))).toList) := by
    have hdate : "\r\nArrival-Date: ".toList = lineEnd ++ "Arrival-Date: ".toList := by
      decide +kernel
    have hend : "\r\n".toList = lineEnd := by decide +kernel
    unfold statusPart
    simp only [entry, String.toList_append, hdate, hend, List.append_assoc]
  have hdate := Text.firstLine_of_unbroken harrival
  rw [htext, Text.lines_entry (by decide +kernel), Text.lines_entry (by decide +kernel),
    lines_join hrecipients, hdate.1, hdate.2]
  simp only [ownLines, List.nil_append, List.cons_append, List.append_assoc]

/-- Only later lines of the host are empty. -/
theorem countP_ownLines (mta arrival : String) :
    (ownLines mta arrival).countP List.isEmpty = (laterLines mta.toList).countP List.isEmpty := by
  simp [ownLines]

/-- Only later lines of the reason are. -/
theorem countP_reportLines (reason : String) (recipient : Address) :
    (reportLines reason recipient).countP List.isEmpty =
      (laterLines reason.toList).countP List.isEmpty := by
  simp [reportLines]

/-- A line that does not go on with a field begins one. -/
theorem fields_append_cons {next : List Char} (h : continues next = false)
    (before after : List (List Char)) :
    fields (before ++ next :: after) = fields before ++ fields (next :: after) :=
  List.splitBy_append_cons after fun _ _ => h

theorem fields_of_continues {line : List Char} {more : List (List Char)}
    (h : ∀ next ∈ more, continues next = true) : fields (line :: more) = [line :: more] := by
  refine List.splitBy_of_isChain (List.cons_ne_nil line more) (List.Pairwise.isChain ?_)
  exact List.pairwise_cons.2 ⟨h, List.pairwise_of_forall_mem_list fun _ _ next => h next⟩

theorem length_fields_pos (line : List Char) (more : List (List Char)) :
    0 < (fields (line :: more)).length :=
  List.length_pos_iff.2 (List.splitBy_ne_nil.2 (List.cons_ne_nil line more))

theorem fields_reportLines (reason : String) (recipient : Address) :
    fields (reportLines reason recipient) =
      ["Final-Recipient: rfc822; ".toList ++ recipient.text.toList] :: ["Action: failed".toList] ::
        ["Status: 5.0.0".toList] ::
          fields (("Diagnostic-Code: smtp; ".toList ++ firstLine reason.toList) ::
            laterLines reason.toList) := by
  have hnext : ∀ {next : List Char}, continues next = false → ∀ (line : List Char) after,
      fields (line :: next :: after) = [line] :: fields (next :: after) :=
    fun h line after => fields_append_cons h [line] after
  have haction : continues "Action: failed".toList = false := by decide +kernel
  have hstatus : continues "Status: 5.0.0".toList = false := by decide +kernel
  have hcode : continues ("Diagnostic-Code: smtp; ".toList ++ firstLine reason.toList) = false := by
    simp [continues]
  rw [reportLines, hnext haction, hnext hstatus, hnext hcode]

/-- The lines about a recipient report it if all later lines of the reason go on with its field. -/
theorem reports_reportLines_iff (reason : String) (recipient : Address) :
    Reports recipient (reportLines reason recipient) ↔
      ∀ line ∈ laterLines reason.toList, continues line = true := by
  have hfields := fields_reportLines reason recipient
  constructor
  · intro h line hline
    by_contra hnew
    obtain ⟨front, back, hlines⟩ := List.append_of_mem hline
    -- The line begins a fifth field.
    have hlength := h.names.length_eq
    rw [List.length_map, hfields, hlines, ← List.cons_append,
      fields_append_cons (Bool.not_eq_true _ ▸ hnew), List.length_cons, List.length_cons,
      List.length_cons, List.length_append] at hlength
    have hcode := length_fields_pos
      ("Diagnostic-Code: smtp; ".toList ++ firstLine reason.toList) front
    have hmore := length_fields_pos line back
    simp only [List.length_cons, List.length_nil] at hlength
    omega
  · intro h
    rw [fields_of_continues h] at hfields
    refine ⟨?_, ?_⟩
    · rw [hfields]
      simp [fieldName]
    · rw [hfields, String.toList_append]
      exact List.mem_cons_self

/-- How many empty lines the lines about some recipients are made of. -/
theorem countP_flatMap_reportLines (reason : String) (recipients : List Address) :
    (recipients.flatMap fun r => [] :: reportLines reason r).countP List.isEmpty =
      recipients.length * ((laterLines reason.toList).countP List.isEmpty + 1) := by
  induction recipients with
  | nil => simp
  | cons recipient rest ih =>
      rw [List.flatMap_cons, List.cons_append, List.countP_cons_of_pos rfl, List.countP_append,
        countP_reportLines, ih, List.length_cons, Nat.succ_mul]
      omega

/-- Each empty line of the part divides two groups. -/
theorem length_groups_statusPart (hrecipients : ∀ r ∈ mail.recipients.toList,
    Unbroken r.text.toList)
    (harrival : Unbroken arrival.toList) :
    (Text.groups (settings.statusPart mail arrival reason).toList).length =
      (laterLines settings.reportingMta.toList).countP List.isEmpty +
        mail.recipients.toList.length *
          ((laterLines reason.toList).countP List.isEmpty + 1) + 1 := by
  rw [Text.groups, Text.length_splitOnP, lines_statusPart hrecipients harrival, List.countP_append,
    countP_ownLines, countP_flatMap_reportLines]

theorem countP_isEmpty_eq_zero {lines : List (List Char)} :
    lines.countP List.isEmpty = 0 ↔ [] ∉ lines := by
  rw [List.countP_eq_zero]
  exact ⟨fun h hmem => h _ hmem rfl, fun h line hline hnil => h (List.isEmpty_iff.1 hnil ▸ hline)⟩

/-- Without other empty lines the groups are those that are written. -/
theorem groups_statusPart (hrecipients : ∀ r ∈ mail.recipients.toList, Unbroken r.text.toList)
    (harrival : Unbroken arrival.toList) (hmta : [] ∉ laterLines settings.reportingMta.toList)
    (hreason : [] ∉ laterLines reason.toList) :
    Text.groups (settings.statusPart mail arrival reason).toList =
      ownLines settings.reportingMta arrival ::
        mail.recipients.toList.map (reportLines reason) := by
  rw [← countP_isEmpty_eq_zero, ← countP_ownLines _ arrival, List.countP_eq_zero] at hmta
  rw [Text.groups, lines_statusPart hrecipients harrival]
  refine Text.splitOnP_append_flatMap rfl
    (fun line hline => Bool.not_eq_true _ ▸ hmta line hline) ?_
  intro r hr line hline
  rw [← countP_isEmpty_eq_zero, ← countP_reportLines _ r, List.countP_eq_zero] at hreason
  exact Bool.not_eq_true _ ▸ hreason line hline

/-- The part reports each recipient if no later line of the host is empty and all later lines of the
reason go on with a field. -/
theorem reportsEach_statusPart_iff (hsome : mail.recipients.toList ≠ [])
    (hrecipients : ∀ r ∈ mail.recipients.toList, Unbroken r.text.toList)
    (harrival : Unbroken arrival.toList) :
    ReportsEach mail.recipients.toList (settings.statusPart mail arrival reason) ↔
      [] ∉ laterLines settings.reportingMta.toList ∧
        ∀ line ∈ laterLines reason.toList, continues line = true := by
  constructor
  · rintro ⟨own, reports, hread, -, hreports⟩
    -- There are as many groups as are written, so no line is empty that was not meant to be.
    have hlength := congrArg List.length hread
    rw [length_groups_statusPart hrecipients harrival, List.length_cons, ← hreports.length_eq,
      Nat.mul_succ] at hlength
    have hmta : [] ∉ laterLines settings.reportingMta.toList := by
      rw [← countP_isEmpty_eq_zero]
      omega
    have hreason : [] ∉ laterLines reason.toList := by
      have hproduct : mail.recipients.toList.length *
          (laterLines reason.toList).countP List.isEmpty = 0 := by omega
      rw [← countP_isEmpty_eq_zero]
      exact (Nat.mul_eq_zero.1 hproduct).resolve_left fun hnone =>
        hsome (List.length_eq_zero_iff.1 hnone)
    rw [groups_statusPart hrecipients harrival hmta hreason] at hread
    obtain ⟨-, rfl⟩ := List.cons.inj hread
    obtain ⟨recipient, rest, hfirst⟩ := List.exists_cons_of_ne_nil hsome
    rw [hfirst, List.map_cons, List.forall₂_cons] at hreports
    exact ⟨hmta, (reports_reportLines_iff reason recipient).1 hreports.1⟩
  · rintro ⟨hmta, hreason⟩
    have hblank : [] ∉ laterLines reason.toList := fun h => by cases hreason [] h
    refine ⟨_, _, groups_statusPart hrecipients harrival hmta hblank, by simp [fieldName, ownLines],
      ?_⟩
    rw [List.forall₂_map_right_iff]
    exact List.forall₂_same.2 fun r _ => (reports_reportLines_iff reason r).2 hreason

/-- The machine readable part of a notification. -/
theorem notification?_statusPart {notification : Mail} {sender : Address} {pass after : Pass}
    (h : settings.notification? mail sender pass = some (notification, after)) :
    ∃ front boundary arrival back, arrivalDate? mail.id = some arrival ∧
      notification.content = .ofText (front ++ partText boundary "message/delivery-status"
        (settings.statusPart mail arrival (mail.error.getD "Delivery failed")) ++ back) := by
  obtain ⟨front, boundary, arrival, harrival, hcontent⟩ := notification?_parts h
  refine ⟨front ++ partText boundary "text/plain; charset=utf-8"
      (settings.explanation mail (mail.error.getD "Delivery failed")), boundary, arrival,
    partText boundary "text/rfc822-headers" (quotedHeaders mail.content) ++ "--" ++ boundary ++
      "--\r\n", harrival, ?_⟩
  rw [hcontent]
  simp only [String.append_assoc]

/-- A notification is written if both its dates can be. Its machine readable part is one group about
the message and one group for each recipient, in their order, with the fields that report it, in
exactly these cases: none of the later lines of the host is empty, and all later lines of the reason
begin with a blank. -/
theorem notification_reports_each_iff (settings : Bounce) (sender : Address) (pass : Pass)
    (hsome : mail.recipients ≠ ∅) (hrecipients : ∀ r ∈ mail.recipients, r.Checked) :
    ((settings.notification? mail sender pass).isSome = true ↔ mail.Datable pass.now) ∧
    ∀ notification after, settings.notification? mail sender pass = some (notification, after) →
      ∃ front boundary part back, notification.content = .ofText
          (front ++ partText boundary "message/delivery-status" part ++ back) ∧
        (∃ arrival, arrivalDate? mail.id = some arrival ∧
          part = settings.statusPart mail arrival (mail.error.getD "Delivery failed")) ∧
        (ReportsEach mail.recipients.toList part ↔
          [] ∉ laterLines settings.reportingMta.toList ∧
            ∀ line ∈ laterLines (mail.error.getD "Delivery failed").toList,
            continues line = true) := by
  constructor
  · rw [Mailet.isSome_notification?, Bool.and_eq_true, mail.datable_iff]
  · intro notification after hnotification
    obtain ⟨front, boundary, arrival, back, harrival, hcontent⟩ :=
      notification?_statusPart hnotification
    refine ⟨front, boundary, _, back, hcontent, ⟨arrival, harrival, rfl⟩, ?_⟩
    refine reportsEach_statusPart_iff ?_ ?_ (unbroken_arrivalDate? harrival)
    · simpa using hsome
    · intro r hr
      exact (hrecipients r (Std.ExtTreeSet.mem_toList.1 hr)).unbroken_text

end Bounce

namespace Bounce.Sample

open Chain.Sample (alice bob carol pass)

/-- A mail from carol to alice and bob that failed. -/
def failed (reason : String) : Mail :=
  { Mail.create default .epoch (some carol) (.ofList [alice, bob]) (.ofText tidy) with
    error := some reason }

theorem recipients_failed (reason : String) : (failed reason).recipients.toList = [alice, bob] := by
  have h : (Std.ExtTreeSet.ofList [alice, bob] : Recipients).toList = [alice, bob] := by
    decide +kernel
  exact h

theorem checked_failed (reason : String) : ∀ r ∈ (failed reason).recipients, r.Checked := by
  intro r hr
  rw [← Std.ExtTreeSet.mem_toList, recipients_failed] at hr
  have hall : ∀ r ∈ [alice, bob], Address.parse r.text = .ok r := by decide +kernel
  exact .inr ⟨r.text, hall r hr⟩

/-- A reason of two lines, the second of which begins with a blank, and one with an empty line. -/
def folded : String := "mailbox full\r\n see the log"

def torn : String := "mailbox full\r\n\r\nsee the log"

theorem notification_reports_each_iff_of_folded :
    ∃ notification after front boundary part back,
      settings.notification? (failed folded) carol pass = some (notification, after) ∧
      notification.content = .ofText
        (front ++ partText boundary "message/delivery-status" part ++ back) ∧
      ReportsEach [alice, bob] part := by
  obtain ⟨notification, after, hnotification⟩ :=
    @exists_notification_of_id (failed folded) rfl carol
  have hsome : (failed folded).recipients ≠ ∅ := by
    rw [ne_eq, ← Std.ExtTreeSet.toList_eq_nil_iff, recipients_failed]
    exact List.cons_ne_nil alice [bob]
  obtain ⟨-, hreports⟩ :=
    notification_reports_each_iff settings carol pass hsome (checked_failed folded)
  obtain ⟨front, boundary, part, back, hcontent, -, hiff⟩ :=
    hreports notification after hnotification
  have hlines : [] ∉ laterLines settings.reportingMta.toList ∧
      ∀ line ∈ laterLines folded.toList, continues line = true := by decide +kernel
  have hpart := hiff.2 hlines
  rw [recipients_failed] at hpart
  exact ⟨notification, after, front, boundary, part, back, hnotification, hcontent, hpart⟩

/-- The reason with an empty line is read as two groups for each recipient. -/
theorem notification_tears_reports :
    ∃ notification after front boundary part back,
      settings.notification? (failed torn) carol pass = some (notification, after) ∧
      notification.content = .ofText
        (front ++ partText boundary "message/delivery-status" part ++ back) ∧
      (failed torn).recipients.toList = [alice, bob] ∧ alice.Checked ∧ bob.Checked ∧
      (Text.groups part.toList).length = 5 ∧ ¬ ReportsEach [alice, bob] part := by
  obtain ⟨notification, after, hnotification⟩ := @exists_notification_of_id (failed torn) rfl carol
  obtain ⟨front, boundary, arrival, back, harrival, hcontent⟩ :=
    notification?_statusPart hnotification
  have hlist := recipients_failed torn
  have hchecked : ∀ r ∈ (failed torn).recipients.toList, r.Checked :=
    fun r hr => checked_failed torn r (Std.ExtTreeSet.mem_toList.1 hr)
  have hunbroken := fun r hr => (hchecked r hr).unbroken_text
  have hmta : (laterLines settings.reportingMta.toList).countP List.isEmpty = 0 := by decide +kernel
  have hreason : (laterLines torn.toList).countP List.isEmpty = 1 := by decide +kernel
  have hlength := @length_groups_statusPart settings (failed torn) arrival torn hunbroken
    (unbroken_arrivalDate? harrival)
  rw [hlist, hmta, hreason] at hlength
  refine ⟨notification, after, front, boundary, _, back, hnotification, hcontent, hlist,
    hchecked alice (by simp [hlist]), hchecked bob (by simp [hlist]), hlength, ?_⟩
  -- There are more groups than recipients.
  rintro ⟨own, reports, hread, -, hreports⟩
  have hcount : 5 = reports.length + 1 := hlength.symm.trans (congrArg List.length hread)
  rw [← hreports.length_eq] at hcount
  cases hcount

end Bounce.Sample

end Postroom
