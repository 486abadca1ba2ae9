import SecureSaas.Js.Json
import SecureSaas.Js.Pattern
import Mathlib.Data.Set.Function
import Mathlib.Data.List.Lex
import Mathlib.Data.Char

/-!
# The host runtime

The parts of the runtime whose results the language does not fix: the hash function, the
collation and the URL parser. Programs are modelled for every such runtime.
-/

namespace SecureSaas.Js

/-- The fields of a parsed `URL` that a program looks at. -/
structure Url where
  protocol : String
  username : String
  password : String
  search : String
  hash : String

/-- A host runtime.

* `sha256`: `createHash("sha256").update(s).digest("hex")`;
* `localeLE a b`: `a.localeCompare(b) <= 0`, a total preorder;
* `parseUrl`: `new URL(s)`, `none` when it throws. -/
structure Runtime where
  sha256 : String → String
  sha256_hex : ∀ s, isHexDigest (sha256 s) = true
  localeLE : String → String → Bool
  localeLE_total : ∀ a b, localeLE a b = true ∨ localeLE b a = true
  localeLE_trans : ∀ a b c, localeLE a b = true → localeLE b c = true → localeLE a c = true
  parseUrl : String → Option Url

/-- `keys.sort((l, r) => l.localeCompare(r))` on keyed items; the sort is stable. -/
def Runtime.sortByKey {α : Type*} (rt : Runtime) (key : α → String) (items : List α) : List α :=
  items.insertionSort fun a b => rt.localeLE (key a) (key b) = true

theorem Runtime.sortByKey_perm {α : Type*} (rt : Runtime) (key : α → String) (items : List α) :
    (rt.sortByKey key items).Perm items :=
  List.perm_insertionSort _ _

theorem Runtime.mem_sortByKey {α : Type*} {rt : Runtime} {key : α → String} {items : List α} {a : α} :
    a ∈ rt.sortByKey key items ↔ a ∈ items :=
  (rt.sortByKey_perm key items).mem_iff

/-- The texts `S` have pairwise different hashes. -/
def Runtime.CollisionFreeOn (rt : Runtime) (S : Set String) : Prop := Set.InjOn rt.sha256 S

/-- JSON with the keys of every object sorted and `undefined` properties left out. -/
def Runtime.sortedStyle (rt : Runtime) : TextStyle :=
  ⟨fun entries => rt.sortByKey Prod.fst (ownOrder entries),
    fun entries => (rt.sortByKey_perm Prod.fst _).trans (ownOrder_perm entries), []⟩

/-! ## A tabulated runtime

Witnesses need a runtime that can be written down: its hashes are those of a table, and it
collates letters without regard to their case. -/

/-- The letters of both texts, without regard to case, are in order. -/
def lowerLE (a b : String) : Bool := a.toList.map Char.toLower ≤ b.toList.map Char.toLower

def zeroDigest : String := "0000000000000000000000000000000000000000000000000000000000000000"

def Runtime.tabulated (table : List (String × String)) (parseUrl : String → Option Url)
    (hex : ∀ p ∈ table, isHexDigest p.2 = true) : Runtime where
  sha256 s := (table.lookup s).getD zeroDigest
  sha256_hex s := by
    cases h : table.lookup s with
    | none => exact (by decide : isHexDigest zeroDigest = true)
    | some d =>
      obtain ⟨before, after, rfl, -⟩ := List.lookup_eq_some_iff.1 h
      exact hex (s, d) (List.mem_append_right _ List.mem_cons_self)
  localeLE := lowerLE
  localeLE_total a b := by
    simp only [lowerLE, decide_eq_true_eq]
    exact le_total _ _
  localeLE_trans a b c := by
    simp only [lowerLE, decide_eq_true_eq]
    exact le_trans
  parseUrl := parseUrl

theorem isHexDigest_ofList {cs : List Char} (hlength : cs.length = 64) (hhex : cs.all isHex = true) :
    isHexDigest (String.ofList cs) = true := by
  refine Pattern.fullMatch_iff.2 (Pattern.mem_exactly.2 ⟨cs, hlength, List.all_eq_true.1 hhex, ?_⟩)
  rw [String.toList_ofList, List.append_nil]

/-- The empty table. -/
theorem hex_nil : ∀ p ∈ ([] : List (String × String)), isHexDigest p.2 = true := fun _ h => absurd h List.not_mem_nil

/-- A digest is read off its characters: the decoding of a literal is slow to evaluate. -/
theorem hex_cons {text : String} {cs : List Char} {table : List (String × String)} (hlength : cs.length = 64)
    (hhex : cs.all isHex = true) (h : ∀ p ∈ table, isHexDigest p.2 = true) :
    ∀ p ∈ (text, String.ofList cs) :: table, isHexDigest p.2 = true :=
  List.forall_mem_cons.2 ⟨isHexDigest_ofList hlength hhex, h⟩

theorem Runtime.tabulated_sha256 {table : List (String × String)} {parseUrl : String → Option Url}
    {hex : ∀ p ∈ table, isHexDigest p.2 = true} (s : String) :
    (Runtime.tabulated table parseUrl hex).sha256 s = (table.lookup s).getD zeroDigest := rfl

/-- The order of the keys is the same in all tabulated runtimes. -/
theorem Runtime.tabulated_sortedStyle {table table' : List (String × String)}
    {parseUrl parseUrl' : String → Option Url} {hex : ∀ p ∈ table, isHexDigest p.2 = true}
    {hex' : ∀ p ∈ table', isHexDigest p.2 = true} : (Runtime.tabulated table parseUrl hex).sortedStyle =
      (Runtime.tabulated table' parseUrl' hex').sortedStyle := rfl

end SecureSaas.Js
