import SecureSaas.Js.Json

/-!
# Conversions

`String(value)`, `value ?? other` and the other conversions that a program makes without looking at the kind of its
input.
-/

namespace SecureSaas.Js

/-- `value ?? other`. -/
def nullish (value other : Value) : Value :=
  match value with
  | .undefined | .null => other
  | _ => value

/-- `String(value)` of a number. -/
def numberText : Number → String
  | .nan => "NaN"
  | .infinity false => "Infinity"
  | .infinity true => "-Infinity"
  | n => String.ofList (numberChars n)

mutual
/-- `String(value)` of what `JSON.parse` gives. An object whose own `toString` hides the inherited one has no text. -/
def toText : Value → Except String String
  | .undefined => .ok "undefined"
  | .null => .ok "null"
  | .bool b => .ok (if b then "true" else "false")
  | .number n => .ok (numberText n)
  | .string s => .ok s
  | .array items => do
    let texts ← joinedTexts items
    return String.intercalate "," texts
  | .object properties =>
    if Value.has properties "toString" then .error "Cannot convert object to primitive value" else .ok "[object Object]"
/-- The texts that `join` puts together: none for `null`. -/
def joinedTexts : List Value → Except String (List String)
  | [] => .ok []
  | .undefined :: rest | .null :: rest => do
    let texts ← joinedTexts rest
    return "" :: texts
  | v :: rest => do
    let text ← toText v
    let texts ← joinedTexts rest
    return text :: texts
end

@[simp] theorem toText_string (s : String) : toText (.string s) = .ok s := by rw [toText]

@[simp] theorem nullish_string (s : String) (other : Value) : nullish (.string s) other = .string s := rfl

/-- The distinct texts in the order in which they were first there, `[...new Set(texts)]`. -/
def distinct (texts : List String) : List String :=
  texts.foldl (fun kept text => if text ∈ kept then kept else kept ++ [text]) []

theorem distinct_eq_nil {texts : List String} : distinct texts = [] ↔ texts = [] := by
  have hkept : ∀ (texts kept : List String), kept ≠ [] →
      texts.foldl (fun kept text => if text ∈ kept then kept else kept ++ [text]) kept ≠ [] := by
    intro texts
    induction texts with
    | nil => exact fun _ h => h
    | cons text rest ih =>
      intro kept hkept
      refine ih _ ?_
      by_cases hmem : text ∈ kept <;> simp [hmem, hkept]
  constructor
  · intro h
    cases texts with
    | nil => rfl
    | cons text rest => exact absurd h (hkept rest [text] (by simp))
  · rintro rfl
    rfl

end SecureSaas.Js
