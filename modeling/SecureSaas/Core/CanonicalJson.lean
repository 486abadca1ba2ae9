import SecureSaas.Js.Equivalent
import SecureSaas.Broker.Operations

/-!
# The texts that are hashed

The broker, the ownership record of a stack and the verification of cloud contexts each have a serialiser of their own.
They differ in what they make of `undefined`: the ownership record writes a property that holds it, and the verification
writes `null` for an item.

* `stableText_eq`: without `undefined`, the serialiser of the ownership record is the sorted one.
* `canonical_iff`: **texts are equal for values that agree up to the order of keys, and for no others.**
* `canonical_undefined`: the text of the ownership record tells an absent property from one that holds `undefined`.
-/

namespace SecureSaas.Core

open Js

/-! ## The serialisers -/

namespace CloudContextVerification

/-- Properties that hold `undefined` are left out, and an item that is `undefined` is `null`. -/
def stableStyle (rt : Runtime) : TextStyle := { rt.sortedStyle with hole := ['n', 'u', 'l', 'l'] }

def stableJson (rt : Runtime) (value : Value) : String := String.ofList (textWith (stableStyle rt) value)

end CloudContextVerification

namespace InfrastructureController

mutual
/-- `JSON.stringify(undefined)` is no text. As an item it is joined as nothing, as a property it is its word. -/
def stableText (rt : Runtime) : Value → Option (List Char)
  | .undefined => none
  | .null => some ['n', 'u', 'l', 'l']
  | .bool true => some ['t', 'r', 'u', 'e']
  | .bool false => some ['f', 'a', 'l', 's', 'e']
  | .number n => some (numberChars n)
  | .string s => some (quoteChars s)
  | .array items => some ('[' :: (commaJoin (stableItems rt items) ++ [']']))
  | .object properties =>
    some ('{' :: (commaJoin
      ((rt.sortByKey Prod.fst (ownOrder (stableEntries rt properties))).map entryChars) ++ ['}']))
def stableItems (rt : Runtime) : List Value → List (List Char)
  | [] => []
  | v :: rest => (stableText rt v).getD [] :: stableItems rt rest
def stableEntries (rt : Runtime) : List (String × Value) → List (String × List Char)
  | [] => []
  | (k, v) :: rest =>
    (k, (stableText rt v).getD ['u', 'n', 'd', 'e', 'f', 'i', 'n', 'e', 'd']) :: stableEntries rt rest
end

def stableJson (rt : Runtime) (value : Value) : Option String := (stableText rt value).map String.ofList

end InfrastructureController

/-! ## Values without `undefined` -/

mutual
/-- The value is JSON, and no property holds `undefined`. -/
def IsStrict : Value → Prop
  | .undefined => False
  | .number n => n.isFinite = true
  | .array items => IsStrictItems items
  | .object properties => IsStrictEntries properties
  | _ => True
def IsStrictItems : List Value → Prop
  | [] => True
  | v :: rest => IsStrict v ∧ IsStrictItems rest
def IsStrictEntries : List (String × Value) → Prop
  | [] => True
  | (_, v) :: rest => IsStrict v ∧ IsStrictEntries rest
end

theorem IsStrict.defined {v : Value} (h : IsStrict v) : v ≠ .undefined := by
  rintro rfl
  exact h

mutual
theorem IsStrict.isJson : ∀ {v : Value}, IsStrict v → isJson v = true
  | .undefined, h => absurd rfl h.defined
  | .null, _ => rfl
  | .bool _, _ => rfl
  | .number n, h => by
    rw [IsStrict] at h
    rw [Js.isJson, h]
  | .string _, _ => rfl
  | .array items, h => by
    rw [IsStrict] at h
    rw [Js.isJson, IsStrictItems.isJson h]
  | .object properties, h => by
    rw [IsStrict] at h
    rw [Js.isJson, IsStrictEntries.isJson h]
theorem IsStrictItems.isJson : ∀ {items : List Value}, IsStrictItems items → isJsonItems items = true
  | [], _ => rfl
  | v :: rest, h => by rw [isJsonItems, h.1.isJson, IsStrictItems.isJson h.2, Bool.and_self]
theorem IsStrictEntries.isJson : ∀ {ps : List (String × Value)}, IsStrictEntries ps → isJsonEntries ps = true
  | [], _ => rfl
  | (k, v) :: rest, h => by
    rw [isJsonEntries.eq_3 _ _ _ h.1.defined, h.1.isJson, IsStrictEntries.isJson h.2, Bool.and_self]
end

variable {rt : Runtime}

namespace InfrastructureController

mutual
/-- **Without `undefined`**, the serialiser of the ownership record is the sorted one. -/
theorem stableText_eq (rt : Runtime) : ∀ v : Value, IsStrict v → stableText rt v = some (textWith rt.sortedStyle v)
  | .undefined, h => absurd rfl h.defined
  | .null, _ => rfl
  | .bool true, _ => rfl
  | .bool false, _ => rfl
  | .number _, _ => rfl
  | .string _, _ => rfl
  | .array items, h => by
    rw [IsStrict] at h
    rw [stableText, textWith, stableItems_eq rt items h]
  | .object properties, h => by
    rw [IsStrict] at h
    rw [stableText, textWith, stableEntries_eq rt properties h]
    rfl
theorem stableItems_eq (rt : Runtime) : ∀ items : List Value, IsStrictItems items →
    stableItems rt items = itemTexts rt.sortedStyle items
  | [], _ => rfl
  | v :: rest, h => by
    rw [stableItems, itemTexts, stableText_eq rt v h.1, stableItems_eq rt rest h.2]
    rfl
theorem stableEntries_eq (rt : Runtime) : ∀ ps : List (String × Value), IsStrictEntries ps →
    stableEntries rt ps = entryTexts rt.sortedStyle ps
  | [], _ => rfl
  | (k, v) :: rest, h => by
    rw [stableEntries, entryTexts.eq_3 _ _ _ _ h.1.defined, stableText_eq rt v h.1, stableEntries_eq rt rest h.2]
    rfl
end

end InfrastructureController

/-! ## Equal texts -/

theorem stableStyle_sorts (hrt : rt.Distinguishes) : (CloudContextVerification.stableStyle rt).Sorts := hrt.sorts

/-- **Texts are equal for values that agree up to the order of keys, and for no others.** For the ownership record no
property may hold `undefined`. -/
theorem canonical_iff (hrt : rt.Distinguishes) {a b : Value} (ha : isJson a = true) (hb : isJson b = true)
    (hka : UniqueKeys a) (hkb : UniqueKeys b) :
    (Broker.canonicalJson rt a = Broker.canonicalJson rt b ↔ Equivalent a b) ∧
      (CloudContextVerification.stableJson rt a = CloudContextVerification.stableJson rt b ↔ Equivalent a b) ∧
      (IsStrict a → IsStrict b → (InfrastructureController.stableJson rt a = InfrastructureController.stableJson rt b ↔
        Equivalent a b)) := by
  have htexts : ∀ s t : List Char, String.ofList s = String.ofList t ↔ s = t :=
    fun _ _ => ⟨fun h => String.ofList_injective h, congrArg String.ofList⟩
  have hsorted := text_eq_iff hrt.sorts ha hb hka hkb
  refine ⟨(htexts _ _).trans hsorted, ?_, fun hsa hsb => ?_⟩
  · exact (htexts _ _).trans (text_eq_iff (stableStyle_sorts hrt) ha hb hka hkb)
  · rw [InfrastructureController.stableJson, InfrastructureController.stableJson,
      InfrastructureController.stableText_eq rt a hsa, InfrastructureController.stableText_eq rt b hsb,
      Option.map_some, Option.map_some, Option.some.injEq]
    exact (htexts _ _).trans hsorted

/-- Texts in the order of their characters. -/
def characterOrder : Runtime where
  sha256 _ := zeroDigest
  sha256_hex _ := by decide
  localeLE a b := decide (a.toList ≤ b.toList)
  localeLE_total a b := by
    simp only [decide_eq_true_eq]
    exact le_total _ _
  localeLE_trans a b c := by
    simp only [decide_eq_true_eq]
    exact le_trans
  parseUrl _ := none

theorem characterOrder_distinguishes : characterOrder.Distinguishes := by
  intro a b hab hba
  exact String.toList_injective (le_antisymm (of_decide_eq_true hab) (of_decide_eq_true hba))

/-- An object in two orders of its keys. -/
theorem canonical_sample :
    let a : Value := .object [("generation", .number (.int 1)), ("claimId", .string "orders")]
    let b : Value := .object [("claimId", .string "orders"), ("generation", .number (.int 1))]
    (Broker.canonicalJson characterOrder a = Broker.canonicalJson characterOrder b ↔ Equivalent a b) ∧
      (CloudContextVerification.stableJson characterOrder a = CloudContextVerification.stableJson characterOrder b ↔
        Equivalent a b) ∧
      (IsStrict a → IsStrict b → (InfrastructureController.stableJson characterOrder a =
        InfrastructureController.stableJson characterOrder b ↔ Equivalent a b)) :=
  canonical_iff characterOrder_distinguishes rfl rfl
    ⟨by decide, trivial, trivial, trivial⟩ ⟨by decide, trivial, trivial, trivial⟩

/-- **The ownership record** tells an absent property from one that holds `undefined`. -/
theorem canonical_undefined : ¬ ∀ rt : Runtime, rt.Distinguishes → ∀ a b : Value, isJson a = true → isJson b = true →
    UniqueKeys a → UniqueKeys b →
      (InfrastructureController.stableJson rt a = InfrastructureController.stableJson rt b ↔ Equivalent a b) := by
  intro h
  have hsame : Equivalent (.object [("expiresAt", .undefined)]) (.object []) := by
    have habsent : ∀ k, Value.get [("expiresAt", .undefined)] k = .undefined := by
      intro k
      rw [Value.get_cons, Value.get_nil, ite_self]
    exact .object (fun k => iff_of_true (habsent k) rfl) fun k hdefined => absurd (habsent k) hdefined
  have htexts := (h characterOrder characterOrder_distinguishes (.object [("expiresAt", .undefined)]) (.object [])
    rfl rfl ⟨by decide, trivial, trivial⟩ ⟨by decide, trivial⟩).2 hsame
  have hchars := String.ofList_injective (Option.some.inj htexts)
  revert hchars
  decide +kernel

end SecureSaas.Core
