import Postroom.Content.HeaderBlock
import Postroom.Mailet.Builtin
import Postroom.Proofs.Content.Block
import Postroom.Proofs.Text.Bytes
import Postroom.Proofs.Text.Cut

/-!
A header in front of a message. Its line is read as a header of its own, and the headers behind it
as before, unless the message begins with a tab: then its first line goes on with the new one. The
value is read as it is but for the blanks it begins with. So an added header is found with its
value, and every other header as it was, exactly if the value begins with no blank and the message
with no tab.
-/

namespace Postroom

namespace HeaderBlock

variable {key value bytes : List UInt8}

theorem foldedLine_append {front : List UInt8} (h : lineFeed ∉ front) (rest : List UInt8) :
    foldedLine (front ++ rest) = (front ++ (foldedLine rest).1, (foldedLine rest).2) := by
  induction front with
  | nil => rfl
  | cons b front ih =>
      rw [List.mem_cons, not_or] at h
      rw [List.cons_append, foldedLine, if_neg fun hend => h.1 hend.1.symm, ih h.2]
      rfl

theorem foldedLine_lineFeed (hspace : bytes.head? ≠ some space) (htab : bytes.head? ≠ some tab) :
    foldedLine (lineFeed :: bytes) = ([lineFeed], bytes) := by
  rw [foldedLine, if_pos ⟨rfl, hspace, htab⟩]

theorem foldedLine_tab (rest : List UInt8) : foldedLine (lineFeed :: tab :: rest) =
    (lineFeed :: tab :: (foldedLine rest).1, (foldedLine rest).2) := by
  have htab : ¬(tab = lineFeed ∧ rest.head? ≠ some space ∧ rest.head? ≠ some tab) :=
    fun hend => absurd hend.1 (by decide)
  rw [foldedLine, if_neg (by simp), foldedLine, if_neg htab]

/-- What follows the last byte that is no line end is trimmed. -/
theorem trimLineEnd_append_cons {b : UInt8} (hfeed : b ≠ lineFeed) (hreturn : b ≠ carriageReturn)
    (front rest : List UInt8) :
    trimLineEnd (front ++ b :: rest) = front ++ b :: trimLineEnd rest := by
  unfold trimLineEnd
  rw [List.reverse_append, List.reverse_cons, List.append_assoc, List.dropWhile_append]
  split
  · rename_i hempty
    rw [List.isEmpty_iff.1 hempty, List.singleton_append,
      List.dropWhile_cons_of_neg (by simp [hfeed, hreturn])]
    simp
  · simp

theorem trimLineEnd_crlf (h : ∀ b ∈ value, b ≠ lineFeed ∧ b ≠ carriageReturn) :
    trimLineEnd (value ++ crlf) = value := by
  have hends : (value ++ crlf).reverse = lineFeed :: carriageReturn :: value.reverse := by
    simp [crlf]
  have hkept : value.reverse.dropWhile (fun b => b = lineFeed || b = carriageReturn) =
      value.reverse := by
    cases hreverse : value.reverse with
    | nil => rfl
    | cons b more =>
        have hb := h b (List.mem_reverse.1 (hreverse ▸ List.mem_cons_self ..))
        exact List.dropWhile_cons_of_neg (by simp [hb.1, hb.2])
  rw [trimLineEnd, hends, List.dropWhile_cons_of_pos (by decide),
    List.dropWhile_cons_of_pos (by decide), hkept, List.reverse_reverse]

/-- Whether bytes can be the name and the value of a header on a line of its own. -/
structure Fits (key value : List UInt8) : Prop where
  named : key ≠ []
  solid : ∀ b ∈ key, b ≠ colon ∧ b ≠ lineFeed ∧ b ≠ carriageReturn ∧ b ≠ space
  single : ∀ b ∈ value, b ≠ lineFeed ∧ b ≠ carriageReturn
  start : value.head? ≠ some space

/-- The line of a header. -/
def lineOf (key value : List UInt8) : List UInt8 :=
  key ++ colon :: space :: (value ++ crlf)

/-- A header is read from its line, and from the lines behind it that go on with it. -/
theorem readHeader_lineOf (h : Fits key value) (bytes : List UInt8) :
    readHeader (lineOf key value ++ bytes) =
      (⟨key, trimLineEnd (value ++ carriageReturn :: (foldedLine (lineFeed :: bytes)).1)⟩,
        (foldedLine (lineFeed :: bytes)).2) := by
  have hkey : ∀ b ∈ key, decide (b ≠ colon ∧ b ≠ lineFeed) = true := fun b hb =>
    decide_eq_true ⟨(h.solid b hb).1, (h.solid b hb).2.1⟩
  have hline : lineOf key value ++ bytes =
      key ++ colon :: space :: (value ++ carriageReturn :: lineFeed :: bytes) := by
    simp [lineOf, crlf]
  have hvalue : (value ++ carriageReturn :: lineFeed :: bytes).dropWhile (· = space) =
      value ++ carriageReturn :: lineFeed :: bytes := by
    cases value with
    | nil => exact List.dropWhile_cons_of_neg (by decide)
    | cons b value =>
        exact List.dropWhile_cons_of_neg (by simpa using h.start)
  have hfront : lineFeed ∉ value ++ [carriageReturn] := by
    rw [List.mem_append, not_or]
    exact ⟨fun hmem => (h.single _ hmem).1 rfl, by decide⟩
  have hfold := foldedLine_append hfront (lineFeed :: bytes)
  rw [List.append_assoc, List.append_assoc, List.singleton_append, List.singleton_append] at hfold
  unfold readHeader
  dsimp only
  rw [hline, List.dropWhile_append_of_pos hkey, List.takeWhile_append_of_pos hkey,
    List.dropWhile_cons_of_neg (by decide), List.takeWhile_cons_of_neg (by decide), List.append_nil]
  dsimp only
  rw [if_neg (by decide), List.dropWhile_cons_of_pos (by decide), hvalue, hfold]

/-- A block that begins with the line of a header has it as its first one. -/
theorem parse_lineOf (h : Fits key value) (bytes : List UInt8) {header : Header}
    {after : List UInt8} (hread : readHeader (lineOf key value ++ bytes) = (header, after)) :
    parse (lineOf key value ++ bytes) =
      (parse after).map fun (headers, body) => (header :: headers, body) := by
  obtain ⟨b, more, rfl⟩ := List.exists_cons_of_ne_nil h.named
  obtain ⟨-, hfeed, hreturn, hspace⟩ := h.solid b (List.mem_cons_self ..)
  have hline : ∃ rest, lineOf (b :: more) value ++ bytes = b :: rest := ⟨_, rfl⟩
  obtain ⟨rest, hline⟩ := hline
  rw [hline] at hread ⊢
  rw [parse.eq_def]
  simp only [hfeed, hreturn, hspace, if_false, hread]
  cases parse after <;> rfl

/-- In front of a message that begins with no blank the header stands alone. -/
theorem parse_lineOf_of_apart (h : Fits key value) (hspace : bytes.head? ≠ some space)
    (htab : bytes.head? ≠ some tab) : parse (lineOf key value ++ bytes) =
      (parse bytes).map fun (headers, body) => (⟨key, value⟩ :: headers, body) := by
  apply parse_lineOf h
  have hvalue : value ++ carriageReturn :: [lineFeed] = value ++ crlf := rfl
  rw [readHeader_lineOf h, foldedLine_lineFeed hspace htab, hvalue, trimLineEnd_crlf h.single]

/-- The first line of a message that begins with a tab goes on with the header. -/
theorem parse_lineOf_tab (h : Fits key value) (rest : List UInt8) : ∃ more after,
    parse (lineOf key value ++ tab :: rest) = (parse after).map fun (headers, body) =>
      (⟨key, value ++ carriageReturn :: lineFeed :: tab :: more⟩ :: headers, body) := by
  refine ⟨trimLineEnd (foldedLine rest).1, (foldedLine rest).2, parse_lineOf h _ ?_⟩
  have hsplit : value ++ carriageReturn :: lineFeed :: tab :: (foldedLine rest).1 =
      (value ++ [carriageReturn, lineFeed]) ++ tab :: (foldedLine rest).1 := by simp
  rw [readHeader_lineOf h, foldedLine_tab, hsplit, trimLineEnd_append_cons (by decide) (by decide)]
  simp

theorem head?_ne_space_of_parse {headers : List Header} {body : List UInt8}
    (h : parse bytes = .ok (headers, body)) : bytes.head? ≠ some space := by
  intro hhead
  obtain ⟨rest, rfl⟩ := List.head?_eq_some_iff.1 hhead
  rw [parse.eq_def] at h
  cases h

end HeaderBlock

namespace HeaderToken

theorem cutPair_eq_none {a b : Char} {cs : List Char} (h : ¬ [a, b] <:+: cs) :
    Text.cutPair a b cs = none := by
  induction cs with
  | nil => rfl
  | cons c cs ih =>
      rw [List.infix_cons_iff, not_or] at h
      cases cs with
      | nil => rfl
      | cons d rest =>
          rw [Text.cutPair, ih h.2, if_neg]
          · rfl
          · rintro ⟨rfl, rfl⟩
            exact h.1 ⟨rest, rfl⟩

/-- A line without the mark of an encoded word is one token. -/
theorem ofLineFrom_of_plain {line : Array Char} {cs : List Char} (h : ¬ ['=', '?'] <:+: cs)
    (offset : Nat) : ofLineFrom line offset cs = [ofRun cs] := by
  rw [ofLineFrom]
  split
  · rfl
  · rename_i hcut
    rw [cutPair_eq_none h] at hcut
    cases hcut

theorem joinFrom_ofRun (cs : List Char) (rest : List HeaderToken) :
    joinFrom .nothing (ofRun cs :: rest) = cs ++ joinFrom .nothing rest := by
  unfold ofRun
  split <;> simp [joinFrom, Held.kept]

/-- Without its first blanks a line has no more marks of an encoded word than before. -/
theorem plain_trimStartChars {cs : List Char} (h : ¬ ['=', '?'] <:+: cs) :
    ¬ ['=', '?'] <:+: Text.trimStartChars cs :=
  fun hmark => h (hmark.trans (List.dropWhile_suffix _).isInfix)

theorem lines_of_single {cs : List Char} (h : '\n' ∉ cs) :
    lines cs = if cs = [] then [] else [cs] := by
  have hsplit : Text.splitChars (· == '\n') cs = [cs] :=
    Text.splitChars_of_no_sep fun c hc => by
      simpa using fun heq : c = '\n' => h (heq ▸ hc)
  unfold lines
  rw [hsplit]
  cases cs <;> simp

/-- What follows a line end is divided into lines on its own. -/
theorem lines_append {cs : List Char} (h : '\n' ∉ cs) (rest : List Char) :
    lines (cs ++ '\r' :: '\n' :: rest) = cs :: lines rest := by
  have hfirst : Text.splitChars (· == '\n') (cs ++ ['\r']) = [cs ++ ['\r']] :=
    Text.splitChars_of_no_sep fun c hc => by
      rcases List.mem_append.1 hc with hc | hc
      · simpa using fun heq : c = '\n' => h (heq ▸ hc)
      · rw [List.mem_singleton.1 hc]
        decide
  have hsplit : Text.splitChars (· == '\n') (cs ++ '\r' :: '\n' :: rest) =
      (cs ++ ['\r']) :: Text.splitChars (· == '\n') rest := by
    have happend : Text.splitChars (· == '\n') (cs ++ ['\r'] ++ '\n' :: rest) = _ :=
      Text.splitChars_append_sep rfl (cs ++ ['\r']) rest
    rw [hfirst] at happend
    simpa using happend
  have hpieces := Text.splitChars_ne_nil (· == '\n') rest
  unfold lines
  rw [hsplit]
  dsimp only
  rw [List.dropLast_cons_of_ne_nil hpieces, List.map_cons, if_pos List.getLast?_concat,
    List.dropLast_concat, List.getLast?_cons_of_ne_nil hpieces]
  split <;> rfl

theorem lines_ne_nil {cs : List Char} (h : cs ≠ []) : lines cs ≠ [] := by
  unfold lines
  obtain ⟨c, cs, rfl⟩ := List.exists_cons_of_ne_nil h
  cases hpieces : Text.splitChars (· == '\n') (c :: cs) with
  | nil => exact absurd hpieces (Text.splitChars_ne_nil _ _)
  | cons piece pieces =>
      cases pieces with
      | cons second pieces =>
          dsimp only
          rw [List.dropLast_cons_of_ne_nil (by simp), List.map_cons]
          split <;> simp
      | nil =>
          -- The only piece holds the first character.
          have hpiece : piece ≠ [] := by
            rintro rfl
            rw [Text.splitChars] at hpieces
            split at hpieces
            · exact Text.splitChars_ne_nil _ _ (List.cons.inj hpieces).2
            · split at hpieces <;> cases hpieces
          obtain ⟨d, piece, rfl⟩ := List.exists_cons_of_ne_nil hpiece
          simp

end HeaderToken

/-- A value on one line without the mark of an encoded word reads as it is, without its first
blanks. -/
theorem unfoldHeaderValue_of_plain {value : String} (hline : '\n' ∉ value.toList)
    (hplain : ¬ ['=', '?'] <:+: value.toList) :
    (unfoldHeaderValue value).toList = Text.trimStartChars value.toList := by
  rw [unfoldHeaderValue, String.toList_ofList, HeaderToken.ofValue,
    HeaderToken.lines_of_single hline]
  split
  · rename_i hempty
    rw [hempty]
    rfl
  · have hline : HeaderToken.ofLineFrom (Text.trimStartChars value.toList).toArray 0
        (Text.trimStartChars value.toList) = _ :=
      HeaderToken.ofLineFrom_of_plain (HeaderToken.plain_trimStartChars hplain) 0
    have hjoin := HeaderToken.joinFrom_ofRun (Text.trimStartChars value.toList) []
    rw [HeaderToken.joinFrom, List.append_nil] at hjoin
    simp only [List.map_cons, List.map_nil, List.intersperse_singleton, List.flatten_cons,
      List.flatten_nil, List.append_nil, hline, hjoin]

/-- Such a line that others follow is followed by a blank. -/
theorem unfoldHeaderValue_of_continued {line rest : List Char} (hline : '\n' ∉ line)
    (hplain : ¬ ['=', '?'] <:+: line) (hrest : rest ≠ []) :
    ∃ more, (unfoldHeaderValue (String.ofList (line ++ '\r' :: '\n' :: rest))).toList =
      Text.trimStartChars line ++ ' ' :: more := by
  obtain ⟨second, others, hlines⟩ := List.exists_cons_of_ne_nil (HeaderToken.lines_ne_nil hrest)
  have htoken : HeaderToken.ofLineFrom (Text.trimStartChars line).toArray 0
      (Text.trimStartChars line) = _ :=
    HeaderToken.ofLineFrom_of_plain (HeaderToken.plain_trimStartChars hplain) 0
  have hjoin : ∀ tokens, HeaderToken.joinFrom .nothing
      (HeaderToken.ofRun (Text.trimStartChars line) :: .newline :: tokens) =
        Text.trimStartChars line ++ ' ' :: HeaderToken.joinFrom .nothing tokens :=
    fun tokens => HeaderToken.joinFrom_ofRun _ (.newline :: tokens)
  rw [unfoldHeaderValue, String.toList_ofList, HeaderToken.ofValue, String.toList_ofList,
    HeaderToken.lines_append hline, hlines, List.map_cons, List.map_cons,
    List.intersperse_cons_cons]
  dsimp only
  rw [htoken, List.flatten_cons, List.flatten_cons, List.singleton_append, List.singleton_append,
    hjoin]
  exact ⟨_, rfl⟩

end Postroom
