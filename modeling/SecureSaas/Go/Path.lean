import SecureSaas.Go.Text

/-!
# Paths of Go programs (`strings`, `path/filepath` on Unix)

* `trimSuffix_cases`, `trimPrefix_cases`: what was cut off.
* `clean`, `isLocal`, `join`, `dir`, `base`, `rel`: the lexical rules of `filepath`.
-/

namespace SecureSaas.Go

/-- `strings.TrimPrefix(s, affix)`. -/
def trimPrefix (affix s : Bytes) : Bytes := if affix.isPrefixOf s then s.drop affix.length else s

/-- `strings.TrimSuffix(s, affix)`. -/
def trimSuffix (affix s : Bytes) : Bytes := if affix.isSuffixOf s then s.take (s.length - affix.length) else s

theorem trimPrefix_append (affix s : Bytes) : trimPrefix affix (affix ++ s) = s := by
  rw [trimPrefix, if_pos (List.isPrefixOf_iff_prefix.2 (List.prefix_append affix s)), List.drop_left]

theorem trimSuffix_cases (affix s : Bytes) : s = trimSuffix affix s ∨ s = trimSuffix affix s ++ affix := by
  unfold trimSuffix
  split
  · rename_i h
    obtain ⟨rest, rfl⟩ := List.isSuffixOf_iff_suffix.1 h
    right
    have hlength : (rest ++ affix).length - affix.length = rest.length := by
      rw [List.length_append]
      omega
    rw [hlength, List.take_left]
  · exact Or.inl rfl

def slash : UInt8 := byte '/'

def dot : Bytes := utf8 "."

def dotDot : Bytes := utf8 ".."

/-- One component after those that are kept, the last one first. -/
def cleanStep (rooted : Bool) (kept : List Bytes) (part : Bytes) : List Bytes :=
  if part = [] ∨ part = dot then kept
  else if part = dotDot then
    match kept with
    | [] => if rooted then [] else [dotDot]
    | last :: rest => if last = dotDot then dotDot :: last :: rest else rest
  else part :: kept

/-- `filepath.Clean(path)`. -/
def clean (path : Bytes) : Bytes :=
  let rooted := path.head? == some slash
  let body := [slash].intercalate ((split slash path).foldl (cleanStep rooted) []).reverse
  if rooted then slash :: body else if body = [] then dot else body

/-- `filepath.IsLocal(path)`. -/
def isLocal (path : Bytes) : Bool :=
  if path.head? == some slash || path.isEmpty then false
  else
    let hasDots := (split slash path).any fun part => part == dot || part == dotDot
    let path := if hasDots then clean path else path
    !(path == dotDot || (utf8 "../").isPrefixOf path)

example : clean (utf8 "a//b/./../c/") = utf8 "a/c" ∧ clean (utf8 "/../a") = utf8 "/a" ∧
    isLocal (utf8 "a/../../b") = false := by decide

/-! ## Parts of a path -/

/-- `filepath.IsAbs(path)`. -/
def isAbs (path : Bytes) : Bool := path.head? == some slash

/-- `filepath.Join(elements...)`. -/
def join (elements : List Bytes) : Bytes :=
  match elements.dropWhile List.isEmpty with
  | [] => []
  | elements => clean ([slash].intercalate elements)

/-- `filepath.Dir(path)`. -/
def dir (path : Bytes) : Bytes := clean (path.reverse.dropWhile (· != slash)).reverse

/-- `filepath.Base(path)`. -/
def base (path : Bytes) : Bytes :=
  if path.isEmpty then dot
  else
    let name := ((path.reverse.dropWhile (· == slash)).takeWhile (· != slash)).reverse
    if name.isEmpty then [slash] else name

/-- Two lists without what they have in common at their start. -/
def dropCommon : List Bytes → List Bytes → List Bytes × List Bytes
  | a :: as, b :: bs => if a = b then dropCommon as bs else (a :: as, b :: bs)
  | as, bs => (as, bs)

/-- `filepath.Rel(basepath, targpath)`. -/
def rel (basepath targpath : Bytes) : Option Bytes :=
  let basepath := clean basepath
  let targpath := clean targpath
  if targpath = basepath then some dot
  else if isAbs (if basepath = dot then [] else basepath) != isAbs targpath then none
  else
    let components := fun path : Bytes => (split slash path).filter fun part => !part.isEmpty
    let rest := dropCommon (components (if basepath = dot then [] else basepath)) (components targpath)
    if rest.1.head? = some dotDot ∧ rest.2 ≠ [] then none
    else some ([slash].intercalate (rest.1.map (fun _ => dotDot) ++ rest.2))

/-- `withinPath(root, value)`. -/
def withinPath (root value : Bytes) : Bool :=
  match rel root value with
  | none => false
  | some relative => relative != dotDot && !(utf8 "../").isPrefixOf relative && !isAbs relative

example : withinPath (utf8 "/opt/run") (utf8 "/opt/run/bin/node") = true ∧
    withinPath (utf8 "/opt/run") (utf8 "/opt/runner") = false ∧ dir (utf8 "/lib/x.so") = utf8 "/lib" ∧
    base (utf8 "/lib/x.so") = utf8 "x.so" ∧ join [utf8 "/lib", utf8 "x.so"] = utf8 "/lib/x.so" := by decide

end SecureSaas.Go
