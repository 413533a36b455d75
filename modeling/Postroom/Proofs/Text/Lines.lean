/-!
The lines of a text and the groups that empty lines make of them. A line ends with a line feed, with
or without a carriage return in front of it. A text that is put into a line may go on over more
lines; the first of them is the rest of that line, and the others stand for themselves.
-/

namespace Postroom.Text

def lineEnd : List Char := ['\r', '\n']

/-- The lines of a text, without what ends them. -/
def lines : List Char → List (List Char)
  | [] => []
  | c :: rest =>
      if c = '\n' then [] :: lines rest
      else if c = '\r' ∧ rest.head? = some '\n' then lines rest
      else
        match lines rest with
        | [] => [[c]]
        | line :: more => (c :: line) :: more

/-- The lines between the empty ones. -/
def groups (text : List Char) : List (List (List Char)) :=
  (lines text).splitOnP List.isEmpty

/-- The first line of a text that is put in front of a line end. -/
def firstLine (text : List Char) : List Char :=
  (lines (text ++ lineEnd)).headD []

/-- The lines behind the first. -/
def laterLines (text : List Char) : List (List Char) :=
  (lines (text ++ lineEnd)).tail

/-- The start of a line, a text that may go on over more lines, and a line end. -/
def entry (start text : List Char) : List Char :=
  start ++ text ++ lineEnd

/-- Whether a text has no part in a line end. -/
def Unbroken (text : List Char) : Prop :=
  '\r' ∉ text ∧ '\n' ∉ text

instance (text : List Char) : Decidable (Unbroken text) :=
  inferInstanceAs (Decidable (_ ∧ _))

theorem unbroken_append {before after : List Char} :
    Unbroken (before ++ after) ↔ Unbroken before ∧ Unbroken after := by
  simp only [Unbroken, List.mem_append, not_or]
  exact and_and_and_comm

theorem unbroken_of_isDigit {cs : List Char} (h : ∀ c ∈ cs, c.isDigit = true) : Unbroken cs := by
  constructor <;> intro hmem <;> cases h _ hmem

theorem lines_ne_nil {text : List Char} (h : text ≠ []) : lines text ≠ [] := by
  induction text with
  | nil => exact absurd rfl h
  | cons c rest ih =>
      rw [lines]
      split
      · simp
      · split
        · rename_i hend
          refine ih ?_
          rintro rfl
          cases hend.2
        · split <;> simp

theorem lines_lineEnd (text : List Char) :
    lines (text ++ lineEnd) = firstLine text :: laterLines text := by
  have hsome : lines (text ++ lineEnd) ≠ [] := lines_ne_nil (by simp [lineEnd])
  obtain ⟨line, more, hlines⟩ := List.exists_cons_of_ne_nil hsome
  rw [firstLine, laterLines, hlines]
  rfl

/-- The lines in front of a line end, and those behind it. -/
theorem lines_append_lineEnd (before after : List Char) :
    lines (before ++ (lineEnd ++ after)) = lines (before ++ lineEnd) ++ lines after := by
  induction before with
  | nil => simp [lineEnd, lines]
  | cons c before ih =>
      have hhead : (before ++ (lineEnd ++ after)).head? = (before ++ lineEnd).head? := by
        simp [lineEnd, List.head?_append]
      rw [List.cons_append, List.cons_append, lines, lines, hhead, ih]
      split
      · rfl
      · split
        · rfl
        · rw [lines_lineEnd]
          rfl

/-- A text goes on the line that it is put into. -/
theorem lines_append_of_unbroken {start : List Char} (h : Unbroken start) {text : List Char}
    {line : List Char} {more : List (List Char)} (hlines : lines text = line :: more) :
    lines (start ++ text) = (start ++ line) :: more := by
  induction start with
  | nil => exact hlines
  | cons c start ih =>
      obtain ⟨hreturn, hfeed⟩ := h
      rw [List.mem_cons, not_or] at hreturn hfeed
      rw [List.cons_append, lines, if_neg (Ne.symm hfeed.1),
        if_neg fun hend => hreturn.1 hend.1.symm, ih ⟨hreturn.2, hfeed.2⟩]
      rfl

/-- The lines of an entry and of what follows it. -/
theorem lines_entry {start : List Char} (h : Unbroken start) (text after : List Char) :
    lines (entry start text ++ after) =
      (start ++ firstLine text) :: (laterLines text ++ lines after) := by
  rw [entry, List.append_assoc, List.append_assoc]
  refine lines_append_of_unbroken h ?_
  rw [lines_append_lineEnd, lines_lineEnd]
  rfl

/-- An entry without a line end in it is one line. -/
theorem firstLine_of_unbroken {text : List Char} (h : Unbroken text) :
    firstLine text = text ∧ laterLines text = [] := by
  have hlines := lines_append_of_unbroken h (show lines lineEnd = [] :: [] by simp [lineEnd, lines])
  rw [lines_lineEnd, List.append_nil] at hlines
  exact List.cons.inj hlines

theorem length_splitOnP {α : Type} (p : α → Bool) (xs : List α) :
    (xs.splitOnP p).length = xs.countP p + 1 := by
  induction xs with
  | nil => rfl
  | cons x xs ih =>
      rw [List.splitOnP_cons_eq_if_modifyHead]
      split
      · rename_i hx
        rw [List.length_cons, ih, List.countP_cons_of_pos hx]
      · rename_i hx
        rw [List.length_modifyHead, ih, List.countP_cons_of_neg hx]

/-- Sections that begin with separators are split at these, if there are none in them. -/
theorem splitOnP_append_flatMap {α β : Type} {p : α → Bool} {sep : α} (hsep : p sep = true)
    {front : List α} (hfront : ∀ x ∈ front, p x = false) {xs : List β} {f : β → List α}
    (hf : ∀ x ∈ xs, ∀ y ∈ f x, p y = false) :
    (front ++ xs.flatMap fun x => sep :: f x).splitOnP p = front :: xs.map f := by
  induction xs generalizing front with
  | nil => simpa using List.splitOnP_eq_singleton hfront
  | cons x xs ih =>
      rw [List.forall_mem_cons] at hf
      rw [List.flatMap_cons, List.cons_append,
        List.splitOnP_append_cons_of_forall_mem hfront sep hsep, ih hf.1 hf.2, List.map_cons]

end Postroom.Text
