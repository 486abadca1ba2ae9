import SecureSaas.Go.Path
import Mathlib.Data.List.Lex
import Mathlib.Data.List.Sort

/-!
# Strings of Go programs (`strings`, `sort`, `encoding/json`)

* `sortStrings_pairwise`, `sortStrings_perm`: sorting by bytes.
* `text_utf8`: the encoder of JSON keeps what is UTF-8.
-/

namespace SecureSaas.Go

/-! ## Parts of a string -/

/-- `strings.TrimRight(s, cutset)` for a cutset of one byte. -/
def trimRight (cut : UInt8) (s : Bytes) : Bytes := (s.reverse.dropWhile (· == cut)).reverse

def replaceFrom (old new : Bytes) : ℕ → Bytes → Bytes
  | _, [] => []
  | skip + 1, _ :: rest => replaceFrom old new skip rest
  | 0, b :: rest =>
    if old.isPrefixOf (b :: rest) then new ++ replaceFrom old new (old.length - 1) rest
    else b :: replaceFrom old new 0 rest

/-- `strings.ReplaceAll(s, old, new)` for an `old` that is not empty. -/
def replaceAll (s old new : Bytes) : Bytes := replaceFrom old new 0 s

example : replaceAll (utf8 "${O}/lib:$O") (utf8 "${O}") (utf8 "/x") = utf8 "/x/lib:$O" := by decide

/-! ## The order of strings -/

/-- `a < b`: strings are compared byte by byte. -/
def Before (a b : Bytes) : Prop := a.map UInt8.toNat < b.map UInt8.toNat

instance (a b : Bytes) : Decidable (Before a b) := inferInstanceAs (Decidable (_ < _))

theorem toNat_map_injective : Function.Injective (List.map UInt8.toNat) :=
  List.map_injective_iff.2 fun _ _ h => UInt8.toNat_inj.1 h

theorem before_irrefl (a : Bytes) : ¬ Before a a := lt_irrefl _

theorem Before.trans {a b c : Bytes} (hab : Before a b) (hbc : Before b c) : Before a c := lt_trans hab hbc

theorem before_or_eq_or_before (a b : Bytes) : Before a b ∨ a = b ∨ Before b a := by
  rcases lt_trichotomy (a.map UInt8.toNat) (b.map UInt8.toNat) with h | h | h
  · exact Or.inl h
  · exact Or.inr (Or.inl (toNat_map_injective h))
  · exact Or.inr (Or.inr h)

section

variable {α : Type*} {key : α → Bytes} {values : List α}

/-- `sort.Slice` by a key; `sort.Strings` where a string is its own key. -/
def sortBy (key : α → Bytes) (values : List α) : List α :=
  values.insertionSort fun a b => ¬ Before (key b) (key a)

theorem sortBy_perm : (sortBy key values).Perm values := List.perm_insertionSort _ _

theorem mem_sortBy {a : α} : a ∈ sortBy key values ↔ a ∈ values := sortBy_perm.mem_iff

/-- **Different keys come out in their order.** -/
theorem sortBy_pairwise (hnodup : (values.map key).Nodup) :
    (sortBy key values).Pairwise fun a b => Before (key a) (key b) := by
  have hle : ∀ a b : α, ¬ Before (key b) (key a) ↔ (key a).map UInt8.toNat ≤ (key b).map UInt8.toNat :=
    fun a b => not_lt
  have : Std.Total fun a b : α => ¬ Before (key b) (key a) :=
    ⟨fun a b => by rw [hle, hle]; exact le_total _ _⟩
  have : IsTrans α fun a b => ¬ Before (key b) (key a) :=
    ⟨fun a b c => by rw [hle, hle, hle]; exact le_trans⟩
  have hsorted : (sortBy key values).Pairwise fun a b => ¬ Before (key b) (key a) :=
    List.pairwise_insertionSort _ _
  have hdiffer : (sortBy key values).Pairwise fun a b => key a ≠ key b := by
    have hkeys : ((sortBy key values).map key).Nodup := (List.Perm.map key sortBy_perm).nodup_iff.2 hnodup
    exact List.pairwise_map.1 hkeys
  refine (hsorted.and hdiffer).imp fun {a b} h => ?_
  rcases before_or_eq_or_before (key a) (key b) with hlt | heq | hgt
  · exact hlt
  · exact absurd heq h.2
  · exact absurd hgt h.1

end

/-! ## Strings in JSON -/

/-- The first character of a string. -/
def decodeRune (s : Bytes) : Option Char := s.toByteArray.utf8DecodeChar? 0

def runes : ℕ → Bytes → List Char
  | 0, _ => []
  | _ + 1, [] => []
  | fuel + 1, b :: rest =>
    match decodeRune (b :: rest) with
    | some c => c :: runes fuel ((b :: rest).drop c.utf8Size)
    | none => '\ufffd' :: runes fuel rest

/-- The text that `json.Marshal` writes for a string: every byte that is not UTF-8 becomes U+FFFD. -/
def text (s : Bytes) : String := String.ofList (runes s.length s)

theorem runes_utf8Encode : ∀ (cs : List Char) (fuel : ℕ), cs.utf8Encode.data.toList.length ≤ fuel →
    runes fuel cs.utf8Encode.data.toList = cs := by
  intro cs
  induction cs with
  | nil =>
    intro fuel _
    cases fuel with
    | zero => rfl
    | succ fuel => rfl
  | cons c cs ih =>
    intro fuel hfuel
    have happend : (c :: cs).utf8Encode.data.toList = [c].utf8Encode.data.toList ++ cs.utf8Encode.data.toList := by
      rw [List.utf8Encode_cons, ByteArray.data_append, Array.toList_append]
    have hsize : [c].utf8Encode.data.toList.length = c.utf8Size := by
      simp [List.utf8Encode]
    have hpos : 0 < c.utf8Size := c.utf8Size_pos
    have hdecode : decodeRune (c :: cs).utf8Encode.data.toList = some c := by
      have hbytes : (c :: cs).utf8Encode.data.toList.toByteArray = (c :: cs).utf8Encode := by
        ext1
        rw [List.data_toByteArray, Array.toArray_toList]
      rw [decodeRune, hbytes]
      exact List.utf8DecodeChar?_utf8Encode_cons
    have hdrop : (c :: cs).utf8Encode.data.toList.drop c.utf8Size = cs.utf8Encode.data.toList := by
      rw [happend, ← hsize, List.drop_left]
    have hlength : (c :: cs).utf8Encode.data.toList.length = c.utf8Size + cs.utf8Encode.data.toList.length := by
      rw [happend, List.length_append, hsize]
    cases fuel with
    | zero => omega
    | succ fuel =>
      cases hbytes : (c :: cs).utf8Encode.data.toList with
      | nil =>
        rw [hbytes, List.length_nil] at hlength
        omega
      | cons b rest =>
        rw [runes, ← hbytes, hdecode]
        show c :: runes fuel ((c :: cs).utf8Encode.data.toList.drop c.utf8Size) = c :: cs
        rw [hdrop, ih fuel (by omega)]

/-- **The encoder keeps what is UTF-8.** -/
theorem text_utf8 (s : String) : text (utf8 s) = s := by
  have hbytes : utf8 s = s.toList.utf8Encode.data.toList := by
    rw [utf8, String.utf8Encode_toList]
  rw [text, hbytes, runes_utf8Encode _ _ (le_refl _), String.ofList_toList]

end SecureSaas.Go
