import Postroom.Proofs.Record.WireRoundTrip
import Postroom.Ron.Value

/-!
What readers make of a document that is there. Each statement takes one reader over the characters
it reads and says what it leaves; the outcome of an inner reader, a value or a failure, becomes that
of the reader around it. Every text can be quoted, and is read as it was.
-/

namespace Postroom.Ron

section

variable {α β : Type} {read : Reader α} {next : α → Reader β} {cs rest : List Char}

theorem bind_of_map {outcome : Except DocumentError α} (h : read cs = outcome.map (·, rest)) :
    (read >>= next) cs = outcome.bind (next · rest) := by
  change (read cs >>= fun found => next found.1 found.2) = _
  rw [h]
  cases outcome <;> rfl

theorem bind_of_ok {a : α} (h : read cs = .ok (a, rest)) : (read >>= next) cs = next a rest := by
  have hfound : read cs = (Except.ok a : Except DocumentError α).map (·, rest) := h
  rw [bind_of_map hfound]
  rfl

end

/-! ### Blanks and commas -/

/-- Whether neither a blank nor a comment is ahead. -/
def Plain (cs : List Char) : Prop :=
  ∀ c ∈ cs.head?, isBlank c = false ∧ c ≠ '/'

theorem plain_nil : Plain [] := by
  intro c hc
  cases hc

theorem plain_cons {c : Char} (hblank : isBlank c = false) (hslash : c ≠ '/') (cs : List Char) :
    Plain (c :: cs) := by
  intro d hd
  obtain rfl : c = d := by simpa using hd
  exact ⟨hblank, hslash⟩

theorem plain_opening (rest : List Char) : Plain ('(' :: rest) :=
  plain_cons (by decide) (by decide) rest

theorem plain_closing (rest : List Char) : Plain (')' :: rest) :=
  plain_cons (by decide) (by decide) rest

theorem skipBlanks_gap {gap rest : List Char} (hgap : ∀ c ∈ gap, isBlank c = true)
    (hrest : Plain rest) : skipBlanks (gap ++ rest) = some rest := by
  have hstay : (gap ++ rest).dropWhile isBlank = rest := by
    rw [List.dropWhile_append_of_pos hgap]
    cases rest with
    | nil => rfl
    | cons c rest => exact List.dropWhile_cons_of_neg (by simp [(hrest c rfl).1])
  have hslash : ∀ {after : List Char}, rest ≠ '/' :: after := by
    rintro after rfl
    exact (hrest '/' rfl).2 rfl
  rw [skipBlanks.eq_def]
  -- the first three cases are those of a slash, with or without a comment
  split
  · rename_i h
    exact absurd (hstay.symm.trans h) hslash
  · rename_i h
    exact absurd (hstay.symm.trans h) hslash
  · rename_i h
    exact absurd (hstay.symm.trans h) hslash
  · rw [hstay]

theorem blanks_gap (gap : List Char) (hgap : ∀ c ∈ gap, isBlank c = true) {cs : List Char}
    (h : Plain cs) : blanks (gap ++ cs) = .ok ((), cs) := by
  rw [blanks, reader, skipBlanks_gap hgap h]
  rfl

theorem blanks_none {cs : List Char} (h : Plain cs) : blanks cs = .ok ((), cs) :=
  blanks_gap [] (List.forall_mem_nil _) h

theorem blanks_space {cs : List Char} (h : Plain cs) : blanks (' ' :: cs) = .ok ((), cs) :=
  blanks_gap [' '] (List.forall_mem_singleton.2 rfl) h

theorem acceptComma_closing (rest : List Char) :
    acceptComma (')' :: rest) = .ok (false, ')' :: rest) := by
  have hnone : accept "," (')' :: rest) = .ok (false, ')' :: rest) := rfl
  rw [acceptComma, bind_of_ok (blanks_none (plain_closing rest)), bind_of_ok hnone]
  rfl

theorem acceptComma_spaced {rest : List Char} (h : Plain rest) :
    acceptComma (',' :: ' ' :: rest) = .ok (true, rest) := by
  have hplain : Plain (',' :: ' ' :: rest) := plain_cons (by decide) (by decide) _
  have hcomma : accept "," (',' :: ' ' :: rest) = .ok (true, ' ' :: rest) := rfl
  rw [acceptComma, bind_of_ok (blanks_none hplain), bind_of_ok hcomma, if_pos rfl,
    bind_of_ok (blanks_space h)]
  rfl

/-! ### Texts -/

/-- Quotes and backslashes are set off by a backslash. -/
def quoteChar (c : Char) : List Char :=
  if c = '"' ∨ c = '\\' then ['\\', c] else [c]

/-- A text as it stands in a document. -/
def quote (s : String) : String :=
  String.ofList ('"' :: (s.toList.flatMap quoteChar ++ ['"']))

theorem charEscape?_of_short {c : Char} {b : UInt8}
    (hescape : ∀ rest, escape? (c :: rest) = some (.byte b, rest))
    (hbytes : Text.toBytes (String.singleton c) = [b]) (rest : List Char) :
    charEscape? (c :: rest) = some (c, rest) := by
  have hchar : Text.ofBytes? [b] = some (String.singleton c) := by
    rw [← hbytes, Text.ofBytes?_toBytes]
  have hcomplete : completeChar? 3 [b] rest = some (c, rest) := by
    rw [completeChar?.eq_def]
    simp [hchar]
  simp [charEscape?, hescape, hcomplete]

theorem quoted?_flatMap_quoteChar (cs rest : List Char) :
    quoted? (fun cs => (charEscape? cs).map fun (c, rest) => ([c], rest)) ([·])
      (cs.flatMap quoteChar ++ '"' :: rest) = some (cs, rest) := by
  induction cs with
  | nil => rw [List.flatMap_nil, List.nil_append, quoted?]
  | cons c cs ih =>
      by_cases hc : c = '"' ∨ c = '\\'
      · have hescape : ∀ more, charEscape? (c :: more) = some (c, more) := by
          rcases hc with rfl | rfl
          · exact charEscape?_of_short (fun _ => rfl) (by decide)
          · exact charEscape?_of_short (fun _ => rfl) (by decide)
        have hline : ∀ more, continuation? (c :: more) = none := by
          rcases hc with rfl | rfl <;> exact fun _ => rfl
        rw [List.flatMap_cons, quoteChar, if_pos hc]
        simp [quoted?, hescape, hline, ih]
      · rw [List.flatMap_cons, quoteChar, if_neg hc, List.singleton_append, List.cons_append]
        rw [not_or] at hc
        rw [quoted?, ih]
        · rfl
        · exact hc.1
        · exact hc.2

/-- A quoted text is read as the text. -/
theorem text_quote (s : String) (rest : List Char) :
    text ((quote s).toList ++ rest) = .ok (s, rest) := by
  have hread : text? ((quote s).toList ++ rest) = some (s, rest) := by
    simp [quote, text?, quoted?_flatMap_quoteChar]
  rw [text, reader, hread]

theorem plain_quote (s : String) (rest : List Char) : Plain ((quote s).toList ++ rest) := by
  rw [quote, String.toList_ofList]
  exact plain_cons (by decide) (by decide) _

/-! ### Fields, structs and documents -/

theorem deeper_succ {depth : Nat} {explicit : Bool} {cs : List Char} :
    Scope.deeper ⟨depth + 1, explicit⟩ cs = .ok (⟨depth, explicit⟩, cs) :=
  rfl

theorem expect_opening {rest : List Char} : expect "(" ('(' :: rest) = .ok ((), rest) :=
  rfl

theorem expect_closing {rest : List Char} : expect ")" (')' :: rest) = .ok ((), rest) :=
  rfl

theorem assigned_spaced {α : Type} (depth : Nat) (explicit : Bool) (value : Scope → Reader α)
    {cs : List Char} (h : Plain cs) :
    assigned ⟨depth + 1, explicit⟩ value (':' :: ' ' :: cs) = value ⟨depth, explicit⟩ cs := by
  have hplain : Plain (':' :: ' ' :: cs) := plain_cons (by decide) (by decide) _
  have hcolon : expect ":" (':' :: ' ' :: cs) = .ok ((), ' ' :: cs) := rfl
  rw [assigned, bind_of_ok (blanks_none hplain), bind_of_ok hcolon, bind_of_ok (blanks_space h),
    bind_of_ok deeper_succ]

/-- Whether the name of a known field is ahead, with a colon and a space behind it. -/
structure FieldAhead {α : Type} (known : List (StructField α)) (field : StructField α)
    (cs value : List Char) : Prop where
  plain : Plain cs
  inside : ahead ")" cs = .ok (false, cs)
  named : name cs = .ok (field.name, ':' :: ' ' :: value)
  known : known.find? (·.name = field.name) = some field
  value : Plain value

section

variable {α : Type} {known : List (StructField α)} {field : StructField α}
  {cs value rest : List Char} {depth : Nat} {explicit : Bool} {seen : List String}

/-- A field is read, and what comes next depends on what is behind its value. -/
theorem fieldsWithin_field (h : FieldAhead known field cs value) (limit : Nat)
    (hseen : seen.contains field.name = false) {outcome : Except DocumentError (α → α)}
    (hvalue : field.read ⟨depth, explicit⟩ value = outcome.map (·, rest)) (draft : α) :
    fieldsWithin ⟨depth + 1, explicit⟩ known (limit + 1) seen draft cs =
      outcome.bind fun update => (do
        if ← acceptComma then
          fieldsWithin ⟨depth + 1, explicit⟩ known limit (field.name :: seen) (update draft)
        else if ← ahead ")" then return update draft
        else malformed : Reader α) rest := by
  have hassigned : assigned ⟨depth + 1, explicit⟩ field.read (':' :: ' ' :: value) = _ :=
    (assigned_spaced depth explicit field.read h.value).trans hvalue
  rw [fieldsWithin, bind_of_ok (blanks_none h.plain), bind_of_ok h.inside,
    if_neg Bool.false_ne_true, bind_of_ok deeper_succ, bind_of_ok h.named]
  -- the field is known and was not read before, so no value is skipped or refused
  simp only [h.known, hseen]
  rw [if_neg Bool.false_ne_true, bind_of_map hassigned]
  simp only [pure_bind]

theorem fieldsWithin_last (h : FieldAhead known field cs value) (limit : Nat)
    (hseen : seen.contains field.name = false) {outcome : Except DocumentError (α → α)}
    (hvalue : field.read ⟨depth, explicit⟩ value = outcome.map (·, ')' :: rest)) (draft : α) :
    fieldsWithin ⟨depth + 1, explicit⟩ known (limit + 1) seen draft cs =
      (outcome.map (· draft)).map (·, ')' :: rest) := by
  rw [fieldsWithin_field h limit hseen hvalue]
  cases outcome with
  | error e => rfl
  | ok update =>
      change (acceptComma >>= _) _ = _
      rw [bind_of_ok (acceptComma_closing rest)]
      rfl

theorem fieldsWithin_more (h : FieldAhead known field cs value) (limit : Nat)
    (hseen : seen.contains field.name = false) {update : α → α} (hrest : Plain rest)
    (hvalue : field.read ⟨depth, explicit⟩ value = .ok (update, ',' :: ' ' :: rest)) (draft : α) :
    fieldsWithin ⟨depth + 1, explicit⟩ known (limit + 1) seen draft cs =
      fieldsWithin ⟨depth + 1, explicit⟩ known limit (field.name :: seen) (update draft) rest := by
  have hfound : field.read ⟨depth, explicit⟩ value =
      (Except.ok update : Except DocumentError (α → α)).map (·, ',' :: ' ' :: rest) := hvalue
  rw [fieldsWithin_field h limit hseen hfound]
  change (acceptComma >>= _) _ = _
  rw [bind_of_ok (acceptComma_spaced hrest)]
  rfl

/-- A struct is read as its fields say. -/
theorem struct_unnamed {draft : α} {outcome : Except DocumentError α}
    (hfields : fieldsWithin ⟨depth, false⟩ known (cs.length + 1) [] draft cs =
      outcome.map (·, ')' :: rest)) (expected : String) :
    struct ⟨depth + 1, false⟩ expected known draft pure ('(' :: cs) = outcome.map (·, rest) := by
  have hname : structName ⟨depth + 1, false⟩ expected ('(' :: cs) = .ok ((), '(' :: cs) := rfl
  have hread : fields ⟨depth + 1, false⟩ known draft cs = outcome.map (·, ')' :: rest) := hfields
  rw [struct, bind_of_ok hname, bind_of_ok (blanks_none (plain_opening cs)),
    bind_of_ok expect_opening, bind_of_map hread]
  simp only [pure_bind]
  cases outcome with
  | error e => rfl
  | ok found =>
      change (blanks >>= _) _ = _
      rw [bind_of_ok (blanks_none (plain_closing rest)), bind_of_ok expect_closing]
      rfl

end

/-- What a variant holds is read as what stands in its parentheses. -/
theorem payload_enclosed {α : Type} {value : Scope → Reader α} {cs rest : List Char} {depth : Nat}
    {explicit : Bool} {outcome : Except DocumentError α} (hcs : Plain cs)
    (hvalue : value ⟨depth, explicit⟩ cs = outcome.map (·, ')' :: rest)) :
    payload ⟨depth + 1, explicit⟩ value ('(' :: cs) = outcome.map (·, rest) := by
  rw [payload, bind_of_ok (blanks_none (plain_opening cs)), bind_of_ok expect_opening,
    bind_of_ok (blanks_none hcs), bind_of_ok deeper_succ, bind_of_map hvalue]
  cases outcome with
  | error e => rfl
  | ok found =>
      change (acceptComma >>= _) _ = _
      rw [bind_of_ok (acceptComma_closing rest), bind_of_ok expect_closing]
      rfl

/-- A document without attributes is read as its value. -/
theorem document_enclosed {α : Type} {value : Scope → Reader α} {source : String} {cs : List Char}
    {outcome : Except DocumentError α} (hsource : source.toList = '(' :: cs)
    (hvalue : value ⟨Scope.maxDepth, false⟩ ('(' :: cs) = outcome.map (·, [])) :
    document value source = outcome := by
  have hattributes : attributes source.length ('(' :: cs) = .ok ([], '(' :: cs) := by
    cases source.length <;> rfl
  have hnames : ([] : List String).contains "explicit_struct_names" = false := rfl
  rw [document, StateT.run, hsource, bind_of_ok (blanks_none (plain_opening cs)),
    bind_of_ok hattributes, hnames, bind_of_map hvalue]
  cases outcome with
  | error e => rfl
  | ok found =>
      change Except.map Prod.fst ((blanks >>= _) _) = _
      rw [bind_of_ok (blanks_none plain_nil)]
      rfl

end Postroom.Ron
