import Postroom.Disk.Path
import Postroom.Proofs.Text.Cut

/-!
Paths by their components. A slash divides them, to join is to append them, and the components of an
absolute path are the names that its text spells, with slashes and dots in any number between them.
-/

namespace Postroom

namespace Path

/-- A slash divides the components before it from those behind it. -/
theorem components_of_slash {path : Path} {before after : List Char}
    (h : path.text.toList = before ++ '/' :: after) :
    path.components = (⟨String.ofList before⟩ : Path).components ++
      (⟨String.ofList after⟩ : Path).components := by
  simp only [components, pieces, h, String.toList_ofList]
  rw [Text.splitChars_append_sep (by rfl), List.map_append, List.filter_append]

theorem components_of_empty {path : Path} (h : path.text.toList = []) : path.components = [] := by
  simp only [components, pieces, h]
  rfl

theorem components_nil : (⟨String.ofList []⟩ : Path).components = [] :=
  components_of_empty rfl

/-- To join a path that is not absolute adds its components. -/
theorem components_join (path : Path) {more : String} (hmore : (⟨more⟩ : Path).isAbsolute = false) :
    (path.join more).components = path.components ++ (⟨more⟩ : Path).components := by
  rw [join, if_neg (by simp [hmore])]
  split
  · rename_i hend
    rw [Bool.or_eq_true, decide_eq_true_eq, String.isEmpty_iff] at hend
    rcases hend with hempty | hslash
    · obtain ⟨text⟩ := path
      cases hempty
      have hnothing : (⟨""⟩ : Path).components = [] := components_of_empty rfl
      rw [hnothing, List.nil_append]
      exact congrArg (fun text => (⟨text⟩ : Path).components) String.empty_append
    · -- the slash at the end is the one between the two
      obtain ⟨front, hfront⟩ := List.getLast?_eq_some_iff.1 hslash
      have hjoined : (⟨path.text ++ more⟩ : Path).text.toList = front ++ '/' :: more.toList := by
        simp [hfront]
      rw [components_of_slash hjoined, components_of_slash hfront, components_nil, List.append_nil,
        String.ofList_toList]
  · have hjoined : (⟨path.text ++ "/" ++ more⟩ : Path).text.toList =
        path.text.toList ++ '/' :: more.toList := by simp
    rw [components_of_slash hjoined, String.ofList_toList, String.ofList_toList]

theorem isAbsolute_join (path : Path) {more : String} (hmore : (⟨more⟩ : Path).isAbsolute = false) :
    (path.join more).isAbsolute = path.isAbsolute := by
  obtain ⟨text⟩ := path
  cases htext : text.toList with
  | nil =>
      obtain rfl : text = "" := String.toList_inj.1 htext
      rw [join, if_neg (by simp [hmore]), if_pos (by rfl)]
      dsimp only
      rw [String.empty_append, hmore]
      rfl
  | cons c cs =>
      have hfirst : ∀ {rest : String}, (⟨text ++ rest⟩ : Path).isAbsolute =
        (⟨text⟩ : Path).isAbsolute := by
        intro rest
        simp [isAbsolute, htext]
      rw [join, if_neg (by simp [hmore])]
      split
      · exact hfirst
      · rw [String.append_assoc]
        exact hfirst

theorem isAbsolute_iff {path : Path} :
    path.isAbsolute = true ↔ ∃ cs, path.text.toList = '/' :: cs := by
  rw [isAbsolute, decide_eq_true_eq, List.head?_eq_some_iff]

/-- Whether a text is a component of paths. -/
structure IsName (name : String) : Prop where
  notEmpty : name ≠ ""
  notHere : name ≠ "."
  noSlash : '/' ∉ name.toList

/-- Names as they are spelt behind a slash each. A slash may be repeated or stand at the end, and a
dot stands for the directory that has been reached. -/
inductive Spells : List String → List Char → Prop where
  | nothing : Spells [] []
  | slash {names : List String} {cs : List Char} : Spells names cs → Spells names ('/' :: cs)
  | dot {names : List String} {cs : List Char} : Spells names cs → Spells names ('/' :: '.' :: cs)
  | name {name : String} {names : List String} {cs : List Char} :
      IsName name → Spells names cs → Spells (name :: names) ('/' :: (name.toList ++ cs))

variable {names : List String} {cs : List Char}

theorem Spells.head (h : Spells names cs) : cs = [] ∨ ∃ rest, cs = '/' :: rest := by
  cases h with
  | nothing => exact .inl rfl
  | slash | dot | name => exact .inr ⟨_, rfl⟩

/-- A text without a slash is one component, unless it does not count. -/
theorem components_of_piece {piece : String} (hpiece : '/' ∉ piece.toList) :
    (⟨piece⟩ : Path).components = [piece].filter fun c => c ≠ "" ∧ c ≠ "." := by
  have hno : ∀ c ∈ piece.toList, (c == '/') = false := by
    intro c hc
    rw [beq_eq_false_iff_ne]
    rintro rfl
    exact hpiece hc
  simp only [components, pieces]
  rw [Text.splitChars_of_no_sep hno, List.map_singleton, String.ofList_toList]

theorem components_slash_cons (cs : List Char) :
    (⟨String.ofList ('/' :: cs)⟩ : Path).components = (⟨String.ofList cs⟩ : Path).components := by
  have htext : (⟨String.ofList ('/' :: cs)⟩ : Path).text.toList = [] ++ '/' :: cs :=
    String.toList_ofList
  rw [components_of_slash htext, components_nil, List.nil_append]

theorem components_piece_append {piece : List Char} (hcs : cs = [] ∨ ∃ rest, cs = '/' :: rest) :
    (⟨String.ofList (piece ++ cs)⟩ : Path).components =
      (⟨String.ofList piece⟩ : Path).components ++ (⟨String.ofList cs⟩ : Path).components := by
  obtain rfl | ⟨rest, rfl⟩ := hcs
  · rw [components_nil, List.append_nil, List.append_nil]
  · rw [components_slash_cons]
    exact components_of_slash String.toList_ofList

/-- The components of a path are the names that it spells. -/
theorem Spells.components_eq (h : Spells names cs) :
    (⟨String.ofList cs⟩ : Path).components = names := by
  induction h with
  | nothing => exact components_of_empty rfl
  | slash h ih => rw [components_slash_cons, ih]
  | dot h ih =>
      have hhere : (⟨String.ofList ['.']⟩ : Path).components = [] := by decide
      rw [components_slash_cons, ← List.singleton_append, components_piece_append h.head, hhere, ih,
        List.nil_append]
  | @name name names cs hname h ih =>
      have hpiece : (⟨name⟩ : Path).components = [name] := by
        rw [components_of_piece hname.noSlash]
        simp [hname.notEmpty, hname.notHere]
      rw [components_slash_cons, components_piece_append h.head, String.ofList_toList, hpiece, ih]
      rfl

theorem Spells.behind_slash {piece : List Char} (hpiece : '/' ∉ piece) (h : Spells names cs) :
    ∃ names, Spells names ('/' :: (piece ++ cs)) := by
  by_cases hempty : piece = []
  · subst hempty
    exact ⟨names, h.slash⟩
  by_cases hhere : piece = ['.']
  · subst hhere
    exact ⟨names, h.dot⟩
  have hname : IsName (String.ofList piece) := by
    constructor
    case notEmpty => rwa [ne_eq, String.ofList_eq_empty_iff]
    case notHere =>
      intro heq
      rw [← String.toList_inj, String.toList_ofList] at heq
      exact hhere heq
    case noSlash => rwa [String.toList_ofList]
  have hspelt := h.name hname
  rw [String.toList_ofList] at hspelt
  exact ⟨_, hspelt⟩

/-- Behind what stands before its first slash, every text spells some names. -/
theorem exists_spells (cs : List Char) :
    ∃ piece names rest, cs = piece ++ rest ∧ '/' ∉ piece ∧ Spells names rest := by
  induction cs with
  | nil => exact ⟨[], [], [], rfl, List.not_mem_nil, .nothing⟩
  | cons c cs ih =>
      obtain ⟨piece, names, rest, rfl, hpiece, hrest⟩ := ih
      by_cases hslash : c = '/'
      · obtain ⟨found, hfound⟩ := hrest.behind_slash hpiece
        exact ⟨[], found, c :: (piece ++ rest), rfl, List.not_mem_nil, hslash ▸ hfound⟩
      · refine ⟨c :: piece, names, rest, rfl, ?_, hrest⟩
        rw [List.mem_cons, not_or]
        exact ⟨Ne.symm hslash, hpiece⟩

/-- The components of an absolute path are the names that it spells, and there are no others. -/
theorem components_eq_iff {path : Path} (habsolute : path.isAbsolute = true) {names : List String} :
    path.components = names ↔ Spells names path.text.toList := by
  have heq : ∀ {names}, Spells names path.text.toList → path.components = names := by
    intro names h
    have hcomponents := h.components_eq
    rwa [String.ofList_toList] at hcomponents
  refine ⟨fun h => ?_, heq⟩
  obtain ⟨cs, htext⟩ := isAbsolute_iff.1 habsolute
  obtain ⟨piece, names, rest, rfl, hpiece, hrest⟩ := exists_spells cs
  obtain ⟨found, hfound⟩ := hrest.behind_slash hpiece
  rw [← htext] at hfound
  rw [← h, heq hfound]
  exact hfound

end Path

end Postroom
