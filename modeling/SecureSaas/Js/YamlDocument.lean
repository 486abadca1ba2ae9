import SecureSaas.Js.Yaml

/-!
# Documents of YAML lines

The tree of a document follows from what its lines say and how far they are indented.

* `flatten_outline`: the trees of lines have the lines in their order.
* `decode_iff`: **a document is decoded as it is meant exactly if every line of it is read so.**
* `joinDocuments_chars`: the lines of several documents in one text.
-/

namespace SecureSaas.Js.Yaml

/-! ## Trees -/

/-- A tree of lines: each with the lines below it that are indented further. -/
inductive Outline (α : Type) where
  | node (line : α) (children : List (Outline α))

section
variable {α : Type} (indent : α → ℕ)

def Outline.line : Outline α → α
  | .node line _ => line

/-- One more line before the trees of those after it. -/
def place (line : α) (forest : List (Outline α)) : List (Outline α) :=
  let deeper := fun tree : Outline α => decide (indent line < indent tree.line)
  .node line (forest.takeWhile deeper) :: forest.dropWhile deeper

/-- The trees of lines. -/
def outline (lines : List α) : List (Outline α) := lines.foldr (place indent) []

end

section
variable {α : Type}

mutual

/-- The lines of a tree from its root on. -/
def flatten : Outline α → List α
  | .node line children => line :: flattenAll children

def flattenAll : List (Outline α) → List α
  | [] => []
  | tree :: forest => flatten tree ++ flattenAll forest

end

theorem flattenAll_append (forest others : List (Outline α)) :
    flattenAll (forest ++ others) = flattenAll forest ++ flattenAll others := by
  induction forest with
  | nil => rfl
  | cons tree forest ih => rw [List.cons_append, flattenAll, flattenAll, ih, List.append_assoc]

/-- **The trees of lines have the lines in their order.** -/
theorem flatten_outline (indent : α → ℕ) (lines : List α) : flattenAll (outline indent lines) = lines := by
  induction lines with
  | nil => rfl
  | cons line lines ih =>
    have hplace : outline indent (line :: lines) = place indent line (outline indent lines) := rfl
    rw [hplace, place, flattenAll, flatten, List.cons_append, ← flattenAll_append, List.takeWhile_append_dropWhile, ih]

theorem outline_inj {indent : α → ℕ} {lines others : List α} (h : outline indent lines = outline indent others) :
    lines = others := by rw [← flatten_outline indent lines, h, flatten_outline]

end

/-! ## Documents -/

/-- The lines of a text. -/
def textLines : List Char → List (List Char)
  | [] => []
  | c :: cs =>
    if isBreak c then [] :: textLines cs
    else
      match textLines cs with
      | [] => [[c]]
      | line :: lines => (c :: line) :: lines

/-- A document as the decoder has it, if it can read every line. -/
def decode (isString : String → Bool) (text : List Char) : Option (List (Outline (Reading Decoded))) :=
  ((textLines text).mapM (readDecoded isString)).map (outline Reading.indent)

/-- Lines with a break after each. -/
def lineChars (lines : List Line) : List Char := lines.flatMap fun line => line.text ++ ['\n']

/-- The tree that lines are meant to be. -/
def intended (isString : String → Bool) (lines : List Line) : List (Outline (Reading Decoded)) :=
  outline Reading.indent (lines.map (Line.reading isString))

/-- A break inside a line makes it two. -/
theorem textLines_length (line rest : List Char) :
    (textLines (line ++ '\n' :: rest)).length = line.countP isBreak + 1 + (textLines rest).length := by
  induction line with
  | nil =>
    rw [List.nil_append, textLines, if_pos (by decide), List.length_cons, List.countP_nil]
    omega
  | cons c line ih =>
    rw [List.cons_append, textLines]
    by_cases hc : isBreak c = true
    · rw [if_pos hc, List.length_cons, ih, List.countP_cons_of_pos hc]
      omega
    · rw [if_neg hc, List.countP_cons_of_neg hc]
      cases hlines : textLines (line ++ '\n' :: rest) with
      | nil =>
        rw [hlines, List.length_nil] at ih
        omega
      | cons first lines =>
        rw [hlines] at ih
        exact ih

theorem textLines_line {line : List Char} (h : ∀ c ∈ line, isBreak c = false) (rest : List Char) :
    textLines (line ++ '\n' :: rest) = line :: textLines rest := by
  induction line with
  | nil => rw [List.nil_append, textLines, if_pos (by decide)]
  | cons c line ih =>
    rw [List.cons_append, textLines, if_neg (by rw [h c List.mem_cons_self]; exact Bool.false_ne_true),
      ih fun d hd => h d (List.mem_cons_of_mem _ hd)]

theorem lineChars_cons (line : Line) (lines : List Line) :
    lineChars (line :: lines) = line.text ++ '\n' :: lineChars lines := by
  unfold lineChars
  rw [List.flatMap_cons, List.append_assoc]
  rfl

theorem textLines_lineChars : ∀ {lines : List Line}, (∀ line ∈ lines, ∀ c ∈ line.text, isBreak c = false) →
    textLines (lineChars lines) = lines.map Line.text
  | [], _ => rfl
  | line :: lines, h => by
    rw [lineChars_cons, textLines_line (h line List.mem_cons_self), List.map_cons,
      textLines_lineChars fun other hother => h other (List.mem_cons_of_mem _ hother)]

/-- A text has as many lines as were written exactly if no line that was written has a break. -/
theorem no_break_of_length : ∀ {lines : List Line}, (textLines (lineChars lines)).length ≤ lines.length →
    ∀ line ∈ lines, ∀ c ∈ line.text, isBreak c = false := by
  have hmany : ∀ lines : List Line, lines.length ≤ (textLines (lineChars lines)).length := by
    intro lines
    induction lines with
    | nil => exact Nat.zero_le _
    | cons line lines ih =>
      rw [lineChars_cons, textLines_length, List.length_cons]
      omega
  intro lines
  induction lines with
  | nil => exact fun _ line hline => (nomatch hline)
  | cons line lines ih =>
    intro hlength other hother
    rw [lineChars_cons, textLines_length, List.length_cons] at hlength
    have hrest := hmany lines
    rcases List.mem_cons.1 hother with rfl | hother
    · have hcount : other.text.countP isBreak = 0 := by omega
      exact fun c hc => Bool.eq_false_of_not_eq_true (List.countP_eq_zero.1 hcount c hc)
    · exact ih (by omega) other hother

theorem mapM_eq_some {α β : Type} {f : α → Option β} : ∀ {items : List α} {results : List β},
    items.mapM f = some results ↔ items.map f = results.map some
  | [], results => by
    cases results with
    | nil => exact ⟨fun _ => rfl, fun _ => rfl⟩
    | cons result results => exact ⟨fun h => (nomatch Option.some.inj h), fun h => (nomatch h)⟩
  | item :: items, results => by
    rw [List.mapM_cons, List.map_cons]
    simp only [Option.bind_eq_bind, Option.bind_eq_some_iff, Option.pure_def]
    constructor
    · rintro ⟨result, hresult, more, hmore, h⟩
      rw [← Option.some.inj h, List.map_cons, hresult, mapM_eq_some.1 hmore]
    · intro h
      cases results with
      | nil => cases h
      | cons result results =>
        obtain ⟨hresult, hmore⟩ := List.cons.inj h
        exact ⟨result, hresult, results, mapM_eq_some.2 hmore, rfl⟩

/-- **A document is decoded to the tree that is meant exactly if every line of it is read as it is meant.** -/
theorem decode_iff {isString : String → Bool} {lines : List Line} :
    decode isString (lineChars lines) = some (intended isString lines) ↔ ∀ line ∈ lines, line.Safe isString := by
  constructor
  · intro h
    obtain ⟨readings, hreadings, htree⟩ := Option.map_eq_some_iff.1 h
    have hmeant : readings = lines.map (Line.reading isString) := outline_inj htree
    have hmap := mapM_eq_some.1 hreadings
    have hlength : (textLines (lineChars lines)).length = lines.length := by
      have hlengths := congrArg List.length hmap
      rwa [List.length_map, List.length_map, hmeant, List.length_map] at hlengths
    have hbreak := no_break_of_length hlength.le
    rw [textLines_lineChars hbreak, hmeant, List.map_map, List.map_map] at hmap
    exact fun line hline => ⟨List.map_inj_left.1 hmap line hline, hbreak line hline⟩
  · intro h
    unfold decode
    rw [textLines_lineChars fun line hline => (h line hline).2]
    have hmap : (lines.map Line.text).mapM (readDecoded isString) = some (lines.map (Line.reading isString)) := by
      rw [mapM_eq_some, List.map_map, List.map_map]
      exact List.map_congr_left fun line hline => (h line hline).1
    rw [hmap]
    rfl

/-! ## Texts -/

/-- `lines.join("\n")` and a break. -/
def document (lines : List Line) : List Char := ['\n'].intercalate (lines.map Line.text) ++ ['\n']

/-- Documents without the white space at their ends, with separators between them and a break at the end. -/
def joinDocuments (documents : List (List Line)) : List Char :=
  "\n---\n".toList.intercalate (documents.map fun lines => (document lines).rdropWhile isSpace) ++ ['\n']

/-- The lines of joined documents. -/
def separated : List (List Line) → List Line
  | [] => []
  | [lines] => lines
  | lines :: first :: rest => lines ++ .fixed "---" :: separated (first :: rest)

/-- The last line ends with a character that is no white space. -/
def EndsInText (lines : List Line) : Prop :=
  ∃ before last text c, lines = before ++ [last] ∧ last.text = text ++ [c] ∧ isSpace c = false

theorem intercalate_cons {α : Type} {separator first second : List α} {rest : List (List α)} :
    separator.intercalate (first :: second :: rest) = first ++ (separator ++ separator.intercalate (second :: rest)) := by
  simp [List.intercalate]

theorem document_chars : ∀ {lines : List Line}, lines ≠ [] → document lines = lineChars lines
  | [], h => absurd rfl h
  | [line], _ => by simp [document, lineChars, List.intercalate]
  | line :: next :: lines, _ => by
    have ih := document_chars (List.cons_ne_nil next lines)
    unfold document at ih ⊢
    rw [List.map_cons, List.map_cons, intercalate_cons, lineChars_cons, ← ih, List.map_cons, List.append_assoc,
      List.append_assoc]
    rfl

theorem lineChars_append (lines others : List Line) : lineChars (lines ++ others) = lineChars lines ++ lineChars others :=
  List.flatMap_append

/-- Trimming takes the last break away. -/
theorem trimmed_document {lines : List Line} (h : EndsInText lines) :
    (document lines).rdropWhile isSpace ++ ['\n'] = lineChars lines := by
  obtain ⟨before, last, text, c, rfl, hlast, hc⟩ := h
  have hchars : lineChars (before ++ [last]) = (lineChars before ++ text ++ [c]) ++ ['\n'] := by
    rw [lineChars_append, lineChars_cons, hlast]
    simp [lineChars]
  rw [document_chars (by simp), hchars, List.rdropWhile_concat_pos _ _ _ (by decide),
    List.rdropWhile_concat_neg _ _ _ (by rw [hc]; exact Bool.false_ne_true)]

theorem joinDocuments_chars : ∀ {documents : List (List Line)}, documents ≠ [] → (∀ lines ∈ documents, EndsInText lines) →
    joinDocuments documents = lineChars (separated documents)
  | [], h, _ => absurd rfl h
  | [lines], _, h => by
    rw [separated, ← trimmed_document (h lines List.mem_cons_self)]
    simp [joinDocuments, List.intercalate]
  | lines :: next :: rest, _, h => by
    have ih := joinDocuments_chars (List.cons_ne_nil next rest) fun others hothers =>
      h others (List.mem_cons_of_mem _ hothers)
    unfold joinDocuments at ih ⊢
    rw [separated, lineChars_append, lineChars_cons, ← trimmed_document (h lines List.mem_cons_self), ← ih, List.map_cons,
      List.map_cons, intercalate_cons]
    simp only [List.append_assoc]
    rfl

end SecureSaas.Js.Yaml
