import Mathlib.Data.List.Basic
import Postroom.Content.HeaderBlock

/-!
Where the header block of a message ends. The block is what stands in front of the first empty line,
whichever way lines end. Headers are read line by line, a folded one with all lines that continue
it, and no empty line continues a header; so a block that can be read is read up to that line, and
what is left is what follows it.
-/

namespace Postroom

namespace HeaderBlock

/-- A line end with a carriage return. -/
def crlf : List UInt8 :=
  [carriageReturn, lineFeed]

/-- The two ways in which a line ends. -/
def lineEnds : List (List UInt8) :=
  [[lineFeed], crlf]

/-- Whether an empty line stands here, where a line begins. -/
def startsEmpty : List UInt8 → Bool
  | [] => false
  | b :: rest => b = lineFeed || b = carriageReturn && rest.head? = some lineFeed

/-- What stands in front of the first empty line, in a text that begins a line or goes on with
one. -/
def blockFrom (begins : Bool) : List UInt8 → List UInt8
  | [] => []
  | b :: rest =>
      if begins && startsEmpty (b :: rest) then [] else b :: blockFrom (b = lineFeed) rest

/-- The header block: the lines in front of the first empty one. -/
def block (bytes : List UInt8) : List UInt8 :=
  blockFrom true bytes

theorem blockFrom_cons_of_ne {b : UInt8} (hb : b ≠ lineFeed) (rest : List UInt8) :
    blockFrom false (b :: rest) = b :: blockFrom false rest := by
  simp [blockFrom, hb]

theorem blockFrom_lineFeed (rest : List UInt8) :
    blockFrom false (lineFeed :: rest) = lineFeed :: blockFrom true rest := by
  simp [blockFrom]

/-- A line that is not empty is the first of the block. -/
theorem blockFrom_of_not_startsEmpty {bytes : List UInt8} (h : startsEmpty bytes = false) :
    blockFrom true bytes = blockFrom false bytes := by
  cases bytes with
  | nil => rfl
  | cons b rest => simp [blockFrom, h]

/-- What holds no line feed belongs to the line that goes on. -/
theorem blockFrom_append {front : List UInt8} (h : ∀ b ∈ front, b ≠ lineFeed) (rest : List UInt8) :
    blockFrom false (front ++ rest) = front ++ blockFrom false rest := by
  induction front with
  | nil => rfl
  | cons b front ih =>
      rw [List.cons_append, blockFrom_cons_of_ne (h b (List.mem_cons_self ..)),
        ih fun c hc => h c (List.mem_cons_of_mem _ hc), List.cons_append]

/-- Whether what goes on with a line of the block ends that line, and maybe others, where `rest`
begins. -/
def Leaves (bytes rest : List UInt8) : Prop :=
  ∃ lines, bytes = lines ++ rest ∧ blockFrom false bytes = lines ++ blockFrom true rest

theorem Leaves.append {front bytes rest : List UInt8} (hfront : ∀ b ∈ front, b ≠ lineFeed)
    (h : Leaves bytes rest) : Leaves (front ++ bytes) rest := by
  obtain ⟨lines, hbytes, hblock⟩ := h
  refine ⟨front ++ lines, by rw [hbytes, List.append_assoc], ?_⟩
  rw [blockFrom_append hfront, hblock, List.append_assoc]

theorem leaves_lineFeed (rest : List UInt8) : Leaves (lineFeed :: rest) rest :=
  ⟨[lineFeed], rfl, blockFrom_lineFeed rest⟩

theorem leaves_nil : Leaves [] [] :=
  ⟨[], rfl, rfl⟩

/-- A folded line takes whole lines. -/
theorem leaves_foldedLine (bytes : List UInt8) : Leaves bytes (foldedLine bytes).2 := by
  induction bytes with
  | nil => exact leaves_nil
  | cons b rest ih =>
      unfold foldedLine
      split
      · rename_i hend
        rw [hend.1]
        exact leaves_lineFeed rest
      · rename_i hgoes
        dsimp only
        by_cases hb : b = lineFeed
        · -- The next line starts with a space or a tab, so it is not empty.
          subst hb
          have hcontinues : startsEmpty rest = false := by
            cases rest with
            | nil => rfl
            | cons c more =>
                have hc : c = space ∨ c = tab := by
                  by_contra hneither
                  rw [not_or] at hneither
                  exact hgoes ⟨rfl, by simpa using hneither.1, by simpa using hneither.2⟩
                rcases hc with rfl | rfl <;> rfl
          obtain ⟨lines, hrest, hblock⟩ := ih
          refine ⟨lineFeed :: lines, congrArg (lineFeed :: ·) hrest, ?_⟩
          rw [blockFrom_lineFeed, blockFrom_of_not_startsEmpty hcontinues, hblock, List.cons_append]
        · have hfront : ∀ c ∈ [b], c ≠ lineFeed := by simpa using hb
          exact ih.append hfront

/-- A header takes whole lines. -/
theorem leaves_readHeader (bytes : List UInt8) : Leaves bytes (readHeader bytes).2 := by
  have hkey : ∀ b ∈ bytes.takeWhile fun b => b ≠ colon ∧ b ≠ lineFeed, b ≠ lineFeed := by
    intro b hb
    have hin := List.all_eq_true.1 List.all_takeWhile b hb
    exact (of_decide_eq_true hin).2
  have hall : Leaves ((bytes.takeWhile fun b => b ≠ colon ∧ b ≠ lineFeed) ++
      bytes.dropWhile fun b => b ≠ colon ∧ b ≠ lineFeed) (readHeader bytes).2 := by
    apply Leaves.append hkey
    unfold readHeader
    dsimp only
    cases bytes.dropWhile fun b => b ≠ colon ∧ b ≠ lineFeed with
    | nil => exact leaves_nil
    | cons mark rest =>
        dsimp only
        split
        · rename_i hmark
          rw [hmark]
          exact leaves_lineFeed rest
        · rename_i hmark
          have hspaces : ∀ b ∈ mark :: rest.takeWhile (· = space), b ≠ lineFeed := by
            intro b hb
            rcases List.mem_cons.1 hb with rfl | hb
            · exact hmark
            · have hspace := List.all_eq_true.1 List.all_takeWhile b hb
              rw [of_decide_eq_true hspace]
              decide
          have hvalue := (leaves_foldedLine (rest.dropWhile (· = space))).append hspaces
          rwa [List.cons_append, List.takeWhile_append_dropWhile] at hvalue
  rwa [List.takeWhile_append_dropWhile] at hall

/-- A message that can be read is its header block, the empty line that ends it and what follows; or
it ends with the block. -/
theorem parse_block {bytes body : List UInt8} {headers : List Header}
    (h : parse bytes = .ok (headers, body)) :
    ∃ blank, bytes = block bytes ++ blank ++ body ∧
      (blank ∈ lineEnds ∨ blank = [] ∧ body = []) := by
  induction bytes using parse.induct generalizing headers with
  | case1 =>
      rw [parse] at h
      cases h
      exact ⟨[], rfl, .inr ⟨rfl, rfl⟩⟩
  | case2 rest =>
      rw [parse.eq_def] at h
      cases h
      exact ⟨[lineFeed], rfl, .inl (by decide)⟩
  | case3 rest hne =>
      rw [parse.eq_def] at h
      cases h
      exact ⟨crlf, rfl, .inl (by decide)⟩
  | case4 c rest hc hne =>
      rw [parse.eq_def] at h
      simp [hc, hne] at h
  | case5 hne =>
      rw [parse.eq_def] at h
      cases h
  | case6 rest hne hne' =>
      rw [parse.eq_def] at h
      cases h
  | case7 b rest hfeed hreturn hspace e hrest ih =>
      rw [parse.eq_def] at h
      simp [hfeed, hreturn, hspace, hrest] at h
  | case8 b rest hfeed hreturn hspace others body' hrest ih =>
      rw [parse.eq_def] at h
      simp only [hfeed, hreturn, hspace, if_false, hrest, Except.ok.injEq, Prod.mk.injEq] at h
      obtain ⟨-, rfl⟩ := h
      obtain ⟨blank, hbytes, hblank⟩ := ih hrest
      obtain ⟨lines, htaken, hblock⟩ := leaves_readHeader (b :: rest)
      have hline : startsEmpty (b :: rest) = false := by simp [startsEmpty, hfeed, hreturn]
      refine ⟨blank, ?_, hblank⟩
      calc b :: rest = lines ++ (readHeader (b :: rest)).2 := htaken
        _ = lines ++ (block (readHeader (b :: rest)).2 ++ blank ++ body') := by rw [← hbytes]
        _ = block (b :: rest) ++ blank ++ body' := by
          rw [block, block, blockFrom_of_not_startsEmpty hline, hblock]
          simp only [List.append_assoc]

/-- Whether a line begins at a place, in a text that begins a line or goes on with one. -/
def LineAt (begins : Bool) (bytes : List UInt8) (k : Nat) : Prop :=
  k = 0 ∧ begins = true ∨ ∃ j, k = j + 1 ∧ bytes[j]? = some lineFeed

theorem lineAt_succ {begins : Bool} {b : UInt8} {rest : List UInt8} {k : Nat} :
    LineAt begins (b :: rest) (k + 1) ↔ LineAt (b = lineFeed) rest k := by
  cases k <;> simp [LineAt]

theorem blockFrom_prefix (begins : Bool) (bytes : List UInt8) :
    blockFrom begins bytes <+: bytes := by
  induction bytes generalizing begins with
  | nil => exact List.prefix_refl _
  | cons b rest ih =>
      unfold blockFrom
      split
      · exact List.nil_prefix
      · exact (List.prefix_cons_inj b).2 (ih _)

/-- The block ends with the text, or where an empty line begins. -/
theorem blockFrom_end (begins : Bool) (bytes : List UInt8) : bytes = blockFrom begins bytes ∨
    LineAt begins bytes (blockFrom begins bytes).length ∧
      startsEmpty (bytes.drop (blockFrom begins bytes).length) = true := by
  induction bytes generalizing begins with
  | nil => exact .inl rfl
  | cons b rest ih =>
      unfold blockFrom
      split
      · rename_i hempty
        rw [Bool.and_eq_true] at hempty
        exact .inr ⟨.inl ⟨rfl, hempty.1⟩, hempty.2⟩
      · rcases ih (b = lineFeed) with hall | ⟨hline, hempty⟩
        · exact .inl (congrArg (b :: ·) hall)
        · exact .inr ⟨lineAt_succ.2 hline, hempty⟩

/-- No empty line begins in the block. -/
theorem startsEmpty_of_lt_blockFrom {begins : Bool} {bytes : List UInt8} {k : Nat}
    (hk : k < (blockFrom begins bytes).length) (hline : LineAt begins bytes k) :
    startsEmpty (bytes.drop k) = false := by
  induction bytes generalizing begins k with
  | nil => cases hk
  | cons b rest ih =>
      unfold blockFrom at hk
      split at hk
      · cases hk
      · rename_i hnot
        cases k with
        | zero =>
            obtain ⟨-, hbegins⟩ | ⟨j, hj, -⟩ := hline
            · simpa [hbegins] using hnot
            · cases hj
        | succ k => exact ih (Nat.lt_of_succ_lt_succ hk) (lineAt_succ.1 hline)

end HeaderBlock

end Postroom
