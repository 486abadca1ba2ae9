import SecureSaas.Js.Value

/-!
# `path.posix` of Node.js

* `normalize`, `join`: a path without the parts that lead nowhere.
* `dirname`, `extname`: the directory, and the last part from its last dot on.
* `pathSegments_join`: **the names of a path are its parts exactly if each of them is one segment.**
-/

namespace SecureSaas.Js.Posix

/-- `path.posix.isAbsolute(path)`. -/
def isAbsolute (path : String) : Bool := startsWith path "/"

/-- One part after those that are kept, the last one first. -/
def normalizeStep (allowAboveRoot : Bool) (kept : List (List Char)) (part : List Char) : List (List Char) :=
  if part = [] ∨ part = ['.'] then kept
  else if part = ['.', '.'] then
    match kept with
    | [] => if allowAboveRoot then [part] else []
    | last :: rest => if last = ['.', '.'] then part :: last :: rest else rest
  else part :: kept

/-- `normalizeString(path, allowAboveRoot, "/", isPosixPathSeparator)`. -/
def normalizeString (path : List Char) (allowAboveRoot : Bool) : List Char :=
  ['/'].intercalate ((path.splitOn '/').foldl (normalizeStep allowAboveRoot) []).reverse

/-- `path.posix.normalize(path)`. -/
def normalize (path : String) : String :=
  if path = "" then "."
  else
    let normalized := normalizeString path.toList !(isAbsolute path)
    let trailing := path.toList.getLast? == some '/'
    if normalized = [] then
      if isAbsolute path then "/" else if trailing then "./" else "."
    else
      let normalized := if trailing then normalized ++ ['/'] else normalized
      String.ofList (if isAbsolute path then '/' :: normalized else normalized)

/-- `path.posix.join(…paths)`. -/
def join (paths : List String) : String :=
  match paths.filter (· ≠ "") with
  | [] => "."
  | parts => normalize ("/".intercalate parts)

/-- `path.posix.dirname(path)`. -/
def dirname (path : String) : String :=
  match (path.toList.reverse.dropWhile (· == '/')).dropWhile (· != '/') with
  | [] => if isAbsolute path then "/" else "."
  | [_] => "/"
  | _ :: directory =>
    if isAbsolute path ∧ directory.length = 1 then "//" else String.ofList directory.reverse

/-- `path.posix.extname(path)`. -/
def extname (path : String) : String :=
  let basename := (path.toList.reverse.dropWhile (· == '/')).takeWhile (· != '/')
  let extension := basename.takeWhile (· != '.')
  -- a name that is a dot and an extension has no extension, nor has `..`
  if basename.length ≤ extension.length + 1 ∨ basename = ['.', '.'] then ""
  else String.ofList ('.' :: extension.reverse)

example : normalize "a//b/./../c/" = "a/c/" ∧ normalize "../../a" = "../../a" ∧ normalize "/../a" = "/a" := by decide

example : [dirname "a/b.mjs", dirname "b.mjs", dirname "/b", dirname "//b"] = ["a", ".", "/", "//"] ∧
    [extname "a/b.test.ts", extname ".env", extname "a.b/..", extname "a."] = [".ts", "", "", "."] := by decide

/-! ## Segments -/

/-- The parts of a relative path that lead somewhere. -/
def pathSegments (path : String) : List String :=
  ((path.toList.splitOn '/').foldl (normalizeStep true) []).reverse.map String.ofList

/-- A name that is one segment of a path. -/
def isSegment (name : String) : Bool := name ≠ "" && name ≠ "." && name ≠ ".." && !name.toList.contains '/'

theorem isSegment_iff {name : String} : isSegment name = true ↔
    name.toList ≠ [] ∧ name.toList ≠ ['.'] ∧ name.toList ≠ ['.', '.'] ∧ '/' ∉ name.toList := by
  have hempty : name = "" ↔ name.toList = [] := by rw [← String.toList_inj]; rfl
  have hdot : name = "." ↔ name.toList = ['.'] := by rw [← String.toList_inj]; rfl
  have hdots : name = ".." ↔ name.toList = ['.', '.'] := by rw [← String.toList_inj]; rfl
  simp only [isSegment, Bool.and_eq_true, decide_eq_true_eq, ne_eq, hempty, hdot, hdots, Bool.not_eq_true',
    List.contains_eq_mem, decide_eq_false_iff_not, and_assoc]

/-- What is kept of a path: segments, and before them parts that lead above its start. -/
def Kept (kept : List (List Char)) : Prop :=
  ∃ names above, kept = names ++ List.replicate above ['.', '.'] ∧
    ∀ name ∈ names, name ≠ [] ∧ name ≠ ['.'] ∧ name ≠ ['.', '.'] ∧ '/' ∉ name

theorem kept_step {kept : List (List Char)} (h : Kept kept) {part : List Char} (hpart : '/' ∉ part) :
    Kept (normalizeStep true kept part) := by
  obtain ⟨names, above, rfl, hnames⟩ := h
  unfold normalizeStep
  by_cases hnone : part = [] ∨ part = ['.']
  · rw [if_pos hnone]
    exact ⟨names, above, rfl, hnames⟩
  · rw [if_neg hnone]
    obtain ⟨hempty, hdot⟩ := not_or.1 hnone
    by_cases hdots : part = ['.', '.']
    · rw [if_pos hdots, hdots]
      cases names with
      | nil =>
        cases above with
        | zero => exact ⟨[], 1, rfl, hnames⟩
        | succ above => exact ⟨[], above + 2, rfl, hnames⟩
      | cons last names =>
        have hlast := hnames last List.mem_cons_self
        refine ⟨names, above, ?_, fun name hname => hnames name (List.mem_cons_of_mem _ hname)⟩
        rw [List.cons_append]
        exact if_neg hlast.2.2.1
    · rw [if_neg hdots]
      refine ⟨part :: names, above, rfl, ?_⟩
      intro name hname
      rcases List.mem_cons.1 hname with rfl | hname
      · exact ⟨hempty, hdot, hdots, hpart⟩
      · exact hnames name hname

theorem kept_foldl : ∀ {parts kept : List (List Char)}, Kept kept → (∀ part ∈ parts, '/' ∉ part) →
    Kept (parts.foldl (normalizeStep true) kept)
  | [], _, h, _ => h
  | part :: _, _, h, hparts => by
    rw [List.foldl_cons]
    exact kept_foldl (kept_step h (hparts part List.mem_cons_self)) fun other hother =>
      hparts other (List.mem_cons_of_mem _ hother)

theorem foldl_segments : ∀ {parts kept : List (List Char)},
    (∀ part ∈ parts, part ≠ [] ∧ part ≠ ['.'] ∧ part ≠ ['.', '.']) →
      parts.foldl (normalizeStep true) kept = parts.reverse ++ kept
  | [], _, _ => rfl
  | part :: parts, kept, h => by
    have hpart := h part List.mem_cons_self
    have hstep : normalizeStep true kept part = part :: kept := by
      unfold normalizeStep
      rw [if_neg (not_or.2 ⟨hpart.1, hpart.2.1⟩), if_neg hpart.2.2]
    rw [List.foldl_cons, hstep, foldl_segments fun other hother => h other (List.mem_cons_of_mem _ hother),
      List.reverse_cons, List.append_assoc]
    rfl

/-- No part of a path that is split has a slash. -/
theorem splitOn_slash : ∀ {cs : List Char}, ∀ part ∈ cs.splitOn '/', '/' ∉ part := by
  intro cs
  induction cs with
  | nil => simp
  | cons c cs ih =>
    rw [List.splitOn_cons_eq_if_modifyHead]
    split
    · intro part hpart
      rcases List.mem_cons.1 hpart with rfl | hpart
      · exact List.not_mem_nil
      · exact ih part hpart
    · rename_i hc
      obtain ⟨first, rest, hsplit⟩ := List.exists_cons_of_ne_nil (List.splitOn_ne_nil '/' cs)
      rw [hsplit] at ih ⊢
      intro part hpart
      rcases List.mem_cons.1 hpart with rfl | hpart
      · rw [List.mem_cons, not_or]
        exact ⟨fun heq => hc (by rw [← heq]; rfl), ih first List.mem_cons_self⟩
      · exact ih part (List.mem_cons_of_mem _ hpart)

/-- **The names of a path are its parts exactly if each of them is one segment.** The first name of the path is a
segment, so that no part leads above it. -/
theorem pathSegments_join {first : String} (hfirst : isSegment first = true) {names : List String} :
    pathSegments ("/".intercalate (first :: names)) = first :: names ↔ ∀ name ∈ names, isSegment name = true := by
  have hchars : ("/".intercalate (first :: names)).toList = ['/'].intercalate ((first :: names).map String.toList) :=
    String.toList_intercalate
  constructor
  · intro h
    -- what is kept starts with the first name, so nothing before it leads above
    have hkept : Kept ((("/".intercalate (first :: names)).toList.splitOn '/').foldl (normalizeStep true) []) :=
      kept_foldl ⟨[], 0, rfl, fun _ hname => (nomatch hname)⟩ splitOn_slash
    obtain ⟨found, above, hfound, hnames⟩ := hkept
    unfold pathSegments at h
    rw [hfound, List.reverse_append, List.reverse_replicate, List.map_append] at h
    cases above with
    | succ above =>
      rw [List.replicate_succ, List.map_cons, List.cons_append] at h
      have hhead : String.ofList ['.', '.'] = first := (List.cons.inj h).1
      rw [← hhead] at hfirst
      exact absurd hfirst (by decide)
    | zero =>
      rw [List.replicate_zero, List.map_nil, List.nil_append] at h
      intro name hname
      have hmem : name ∈ found.reverse.map String.ofList := by
        rw [h]
        exact List.mem_cons_of_mem _ hname
      obtain ⟨chars, hchars, rfl⟩ := List.mem_map.1 hmem
      rw [isSegment_iff, String.toList_ofList]
      exact hnames chars (List.mem_reverse.1 hchars)
  · intro h
    have hall : ∀ part ∈ (first :: names).map String.toList,
        part ≠ [] ∧ part ≠ ['.'] ∧ part ≠ ['.', '.'] ∧ '/' ∉ part := by
      intro part hpart
      obtain ⟨name, hname, rfl⟩ := List.mem_map.1 hpart
      refine isSegment_iff.1 ?_
      rcases List.mem_cons.1 hname with rfl | hname
      · exact hfirst
      · exact h name hname
    unfold pathSegments
    rw [hchars, List.splitOn_intercalate _ (fun part hpart => (hall part hpart).2.2.2) (by simp),
      foldl_segments fun part hpart => ⟨(hall part hpart).1, (hall part hpart).2.1, (hall part hpart).2.2.1⟩,
      List.append_nil, List.reverse_reverse, List.map_map]
    simp [Function.comp_def]

end SecureSaas.Js.Posix
