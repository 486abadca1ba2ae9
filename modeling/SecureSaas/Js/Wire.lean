import SecureSaas.Js.Value

/-!
# Values sent as JSON

What `JSON.parse` makes of the text that `JSON.stringify` gives of a value: properties that hold
`undefined` are gone, and `null` stands for what JSON has no number for.

* `get_jsonEntries`: every key still gives the same value, as JSON.
* `mem_jsonEntries`: which properties are left.
-/

namespace SecureSaas.Js

mutual
/-- `JSON.parse(JSON.stringify(value))`. -/
def jsonValue : Value → Value
  | .number n => if n.isFinite then .number n else .null
  | .array items => .array (jsonItems items)
  | .object properties => .object (jsonEntries properties)
  | v => v
def jsonItems : List Value → List Value
  | [] => []
  | .undefined :: rest => .null :: jsonItems rest
  | v :: rest => jsonValue v :: jsonItems rest
def jsonEntries : List (String × Value) → List (String × Value)
  | [] => []
  | (_, .undefined) :: rest => jsonEntries rest
  | (key, v) :: rest => (key, jsonValue v) :: jsonEntries rest
end

theorem jsonItems_cons {v : Value} (hv : v ≠ .undefined) (rest : List Value) :
    jsonItems (v :: rest) = jsonValue v :: jsonItems rest := by
  cases v <;> first | rfl | exact absurd rfl hv

theorem jsonEntries_cons {v : Value} (hv : v ≠ .undefined) (key : String) (rest : List (String × Value)) :
    jsonEntries ((key, v) :: rest) = (key, jsonValue v) :: jsonEntries rest := by
  cases v <;> first | rfl | exact absurd rfl hv

theorem jsonEntries_undefined (key : String) (rest : List (String × Value)) :
    jsonEntries ((key, .undefined) :: rest) = jsonEntries rest := rfl

@[simp] theorem jsonValue_string (s : String) : jsonValue (.string s) = .string s := rfl

@[simp] theorem jsonValue_bool (b : Bool) : jsonValue (.bool b) = .bool b := rfl

@[simp] theorem jsonValue_undefined : jsonValue .undefined = .undefined := rfl

@[simp] theorem jsonValue_int (n : ℤ) : jsonValue (.number (.int n)) = .number (.int n) := rfl

/-- The items of an array are sent one by one. -/
theorem jsonValue_array {α : Type*} {g : α → Value} (hg : ∀ a, g a ≠ .undefined) (items : List α) :
    jsonValue (.array (items.map g)) = .array (items.map fun a => jsonValue (g a)) := by
  have hitems : jsonItems (items.map g) = items.map fun a => jsonValue (g a) := by
    induction items with
    | nil => rfl
    | cons a rest ih => rw [List.map_cons, jsonItems_cons (hg a), ih, List.map_cons]
  rw [← hitems]
  rfl

/-- **The properties that are left** are those that do not hold `undefined`. -/
theorem mem_jsonEntries {properties : List (String × Value)} {key : String} {w : Value} :
    (key, w) ∈ jsonEntries properties ↔ ∃ v, (key, v) ∈ properties ∧ v ≠ .undefined ∧ w = jsonValue v := by
  induction properties with
  | nil => simp [jsonEntries]
  | cons p rest ih =>
    obtain ⟨k, u⟩ := p
    by_cases hu : u = .undefined
    · subst hu
      rw [jsonEntries_undefined, ih]
      constructor
      · rintro ⟨v, hv, hne, rfl⟩
        exact ⟨v, List.mem_cons_of_mem _ hv, hne, rfl⟩
      · rintro ⟨v, hv, hne, rfl⟩
        rcases List.mem_cons.1 hv with heq | hv
        · exact absurd (Prod.mk.inj heq).2 hne
        · exact ⟨v, hv, hne, rfl⟩
    · rw [jsonEntries_cons hu, List.mem_cons, ih]
      constructor
      · rintro (heq | ⟨v, hv, hne, rfl⟩)
        · obtain ⟨rfl, rfl⟩ := Prod.mk.inj heq
          exact ⟨u, List.mem_cons_self, hu, rfl⟩
        · exact ⟨v, List.mem_cons_of_mem _ hv, hne, rfl⟩
      · rintro ⟨v, hv, hne, rfl⟩
        rcases List.mem_cons.1 hv with heq | hv
        · obtain ⟨rfl, rfl⟩ := Prod.mk.inj heq
          exact Or.inl rfl
        · exact Or.inr ⟨v, hv, hne, rfl⟩

/-- **Every key gives the same value**, as JSON: a property that is gone gives `undefined`, as it did. -/
theorem get_jsonEntries {properties : List (String × Value)} (hkeys : (properties.map Prod.fst).Nodup) (key : String) :
    Value.get (jsonEntries properties) key = jsonValue (Value.get properties key) := by
  induction properties with
  | nil => rfl
  | cons p rest ih =>
    obtain ⟨k, v⟩ := p
    obtain ⟨hnew, hrest⟩ := List.nodup_cons.1 hkeys
    rw [Value.get_cons]
    by_cases hv : v = .undefined
    · subst hv
      rw [jsonEntries_undefined, ih hrest]
      by_cases hk : key = k
      · -- the key occurs nowhere else
        subst hk
        rw [if_pos rfl]
        have hnone : rest.lookup key = none := by
          rw [List.lookup_eq_none_iff]
          intro p hp
          simpa using fun heq => hnew (List.mem_map.2 ⟨p, hp, heq.symm⟩)
        unfold Value.get
        rw [hnone]
        rfl
      · rw [if_neg hk]
    · rw [jsonEntries_cons hv, Value.get_cons]
      by_cases hk : key = k
      · rw [if_pos hk, if_pos hk]
      · rw [if_neg hk, if_neg hk, ih hrest]

end SecureSaas.Js
