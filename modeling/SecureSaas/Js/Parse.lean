import SecureSaas.Js.Pattern

/-!
# Parsers of untrusted values

The checks that parsers of untrusted input share, for any type of errors: each takes the
value and the path it is reported under. What a check returns carries the fact it checked.

* `checkedText_ok`, `enumeration_ok`, `nullable_ok`: what an accepted value is.
* `exactObject_ok`: an accepted object has just the allowed keys.
* `parseEntries_ok`, `uniqueArray_ok`: an array is parsed item by item.
-/

namespace SecureSaas.Js

variable {ε α : Type}

/-- A check of a value that is found at a path. -/
abbrev Check (ε α : Type) := Value → String → Except ε α

/-- `if (!ok) throw error`. -/
def ensure (ok : Bool) (error : ε) : Except ε Unit := if ok then .ok () else .error error

@[simp] theorem ensure_ok {ok : Bool} {error : ε} {u : Unit} : ensure ok error = .ok u ↔ ok = true := by
  unfold ensure
  cases ok <;> simp

/-! ## Scalars -/

/-- A string that passes a test. -/
def checkedText (test : String → Bool) (error : String → ε) : Check ε {s : String // test s = true} :=
  fun value path =>
    match value with
    | .string s => if h : test s = true then .ok ⟨s, h⟩ else .error (error path)
    | _ => .error (error path)

theorem checkedText_ok {test : String → Bool} {error : String → ε} {v : Value} {path : String}
    {s : {s : String // test s = true}} : checkedText test error v path = .ok s ↔ v = .string s.1 := by
  unfold checkedText
  split
  · rename_i t
    by_cases h : test t = true
    · rw [dif_pos h, Except.ok.injEq, Value.string.injEq]
      exact Subtype.ext_iff
    · rw [dif_neg h]
      have : t ≠ s.1 := fun he => h (he ▸ s.2)
      simp [this]
  · rename_i hv
    have : v ≠ .string s.1 := hv s.1
    simp [this]

/-- A safe integer that passes a test. -/
def checkedInteger (test : ℤ → Bool) (error : String → ε) :
    Check ε {n : ℤ // n ≤ maxSafeInteger ∧ test n = true} :=
  fun value path =>
    match value with
    | .number (.int n) =>
      if h : (-maxSafeInteger ≤ n ∧ n ≤ maxSafeInteger) ∧ test n = true then .ok ⟨n, h.1.2, h.2⟩
      else .error (error path)
    | _ => .error (error path)

theorem checkedInteger_ok {test : ℤ → Bool} {error : String → ε} {v : Value} {path : String}
    {n : {n : ℤ // n ≤ maxSafeInteger ∧ test n = true}} :
    checkedInteger test error v path = .ok n ↔ v = .number (.int n.1) ∧ -maxSafeInteger ≤ n.1 := by
  unfold checkedInteger
  split
  · rename_i m
    rw [Value.number.injEq, Number.int.injEq]
    by_cases h : (-maxSafeInteger ≤ m ∧ m ≤ maxSafeInteger) ∧ test m = true
    · rw [dif_pos h, Except.ok.injEq, Subtype.ext_iff]
      exact ⟨fun he => ⟨he, he ▸ h.1.1⟩, fun he => he.1⟩
    · rw [dif_neg h]
      refine ⟨fun he => absurd he (by simp), fun ⟨he, hn⟩ => absurd ?_ h⟩
      rw [he]
      exact ⟨⟨hn, n.2.1⟩, n.2.2⟩
  · rename_i hv
    have : v ≠ .number (.int n.1) := hv n.1
    simp [this]

/-- `typeof value === "boolean"`. -/
def checkedBoolean (error : String → ε) : Check ε Bool := fun value path =>
  match value with
  | .bool b => .ok b
  | _ => .error (error path)

@[simp] theorem checkedBoolean_ok {error : String → ε} {v : Value} {path : String} {b : Bool} :
    checkedBoolean error v path = .ok b ↔ v = .bool b := by
  cases v <;> simp [checkedBoolean]

/-- `value === expected` for a string. -/
def literal (invalid : String → ε) (expected : String) : Check ε {s : String // s = expected} :=
  fun value path =>
    match value with
    | .string s =>
      if h : s = expected then .ok ⟨s, h⟩ else .error (invalid s!"{path} must be '{expected}'.")
    | _ => .error (invalid s!"{path} must be '{expected}'.")

theorem literal_ok {invalid : String → ε} {expected : String} {v : Value} {path : String}
    {s : {s : String // s = expected}} : literal invalid expected v path = .ok s ↔ v = .string expected := by
  unfold literal
  split
  · rename_i t
    by_cases h : t = expected
    · rw [dif_pos h, Except.ok.injEq, Value.string.injEq, Subtype.ext_iff]
      exact ⟨fun _ => h, fun _ => h.trans s.2.symm⟩
    · rw [dif_neg h]
      simp [h]
  · rename_i hv
    have : v ≠ .string expected := hv expected
    simp [this]

/-- `value === expected` for a boolean. -/
def literalBoolean (invalid : String → ε) (expected : Bool) : Check ε {b : Bool // b = expected} :=
  fun value path =>
    match value with
    | .bool b =>
      if h : b = expected then .ok ⟨b, h⟩ else .error (invalid s!"{path} must be '{expected}'.")
    | _ => .error (invalid s!"{path} must be '{expected}'.")

/-- The member of an enumeration with a given text. -/
def enumeration (invalid : String → ε) (text : α → String) (allowed : List α) : Check ε α :=
  fun value path =>
    let error := invalid (path ++ " must be one of " ++ ", ".intercalate (allowed.map text) ++ ".")
    match value with
    | .string s =>
      match allowed.find? fun a => text a == s with
      | some a => .ok a
      | none => .error error
    | _ => .error error

theorem enumeration_ok {invalid : String → ε} {text : α → String} {allowed : List α} {v : Value}
    {path : String} {a : α} (hinj : Function.Injective text) :
    enumeration invalid text allowed v path = .ok a ↔ v = .string (text a) ∧ a ∈ allowed := by
  unfold enumeration
  cases v with
  | string s =>
    simp only [Value.string.injEq]
    cases hf : allowed.find? fun a => text a == s with
    | none =>
      have hnone := List.find?_eq_none.1 hf
      refine ⟨fun h => absurd h (by simp), fun ⟨hs, hmem⟩ => absurd (by rw [hs]; exact beq_self_eq_true _)
        (hnone a hmem)⟩
    | some b =>
      have htext : text b = s := beq_iff_eq.1 (List.find?_some (p := fun a => text a == s) hf)
      simp only [Except.ok.injEq]
      constructor
      · intro h
        exact ⟨by rw [← h, htext], h ▸ List.mem_of_find?_eq_some hf⟩
      · intro h
        exact hinj (htext.trans h.1)
  | _ => simp

/-- `value === null ? null : check(value, path)`. -/
def nullable (check : Check ε α) : Check ε (Option α) := fun value path =>
  match value with
  | .null => .ok none
  | v => (check v path).map some

theorem nullable_ok {check : Check ε α} {g : α → Value} {P : α → Prop} (hg : ∀ a, g a ≠ .null)
    {path : String} (hf : ∀ v a, check v path = .ok a ↔ v = g a ∧ P a) {v : Value} {o : Option α} :
    nullable check v path = .ok o ↔ v = o.elim .null g ∧ ∀ a, o = some a → P a := by
  have hcheck : v ≠ .null → nullable check v path = (check v path).map some := by
    intro hv
    cases v <;> first | rfl | exact absurd rfl hv
  by_cases hv : v = .null
  · subst hv
    cases o with
    | none => simp [nullable]
    | some a => simp [nullable, (hg a).symm]
  · rw [hcheck hv]
    cases o with
    | none =>
      simp only [Option.elim, hv, false_and, iff_false]
      cases check v path <;> simp [Except.map]
    | some a =>
      rw [show ((check v path).map some = .ok (some a)) ↔ check v path = .ok a by
        cases check v path <;> simp [Except.map]]
      simpa using hf v a

/-- The checked value, without the fact that was checked. -/
theorem map_val_ok {p : α → Prop} {x : Except ε {a : α // p a}} {a : α} :
    x.map Subtype.val = .ok a ↔ ∃ h : p a, x = .ok ⟨a, h⟩ := by
  cases x with
  | error e => simp [Except.map]
  | ok b =>
    obtain ⟨b, hb⟩ := b
    simp only [Except.map, Except.ok.injEq, Subtype.mk.injEq]
    exact ⟨fun h => ⟨h ▸ hb, h⟩, fun ⟨_, h⟩ => h⟩

/-! ## Objects -/

/-- The own properties of an object that has no other keys than the allowed ones and all of
them. -/
def exactObject (invalid : String → ε) (value : Value) (path : String) (allowed : List String) :
    Except ε (List (String × Value)) :=
  match value with
  | .object properties =>
    match (ownOrder properties).find? fun p => !allowed.contains p.1 with
    | some p => .error (invalid (path ++ "." ++ p.1 ++ " is not allowed."))
    | none =>
      match allowed.find? fun key => !Value.has properties key with
      | some key => .error (invalid (path ++ "." ++ key ++ " is required."))
      | none => .ok properties
  | _ => .error (invalid (path ++ " must be an object."))

theorem exactObject_ok {invalid : String → ε} {v : Value} {path : String} {allowed : List String}
    {properties : List (String × Value)} :
    exactObject invalid v path allowed = .ok properties ↔ v = .object properties ∧
      (∀ p ∈ properties, p.1 ∈ allowed) ∧ ∀ key ∈ allowed, Value.has properties key = true := by
  unfold exactObject
  cases v with
  | object ps =>
    simp only [Value.object.injEq]
    cases hunknown : (ownOrder ps).find? fun p => !allowed.contains p.1 with
    | some p =>
      have hmem := mem_ownOrder.1 (List.mem_of_find?_eq_some hunknown)
      have hbad := List.find?_some hunknown
      refine ⟨fun h => absurd h (by simp), fun ⟨he, hall, _⟩ => ?_⟩
      have := hall p (he ▸ hmem)
      simp [this] at hbad
    | none =>
      have hknown := List.find?_eq_none.1 hunknown
      cases hmissing : allowed.find? fun key => !Value.has ps key with
      | some key =>
        have hmem := List.mem_of_find?_eq_some hmissing
        have hbad := List.find?_some hmissing
        refine ⟨fun h => absurd h (by simp), fun ⟨he, _, hall⟩ => ?_⟩
        have := hall key hmem
        rw [← he] at this
        simp [this] at hbad
      | none =>
        have hpresent := List.find?_eq_none.1 hmissing
        simp only [Except.ok.injEq]
        refine ⟨fun h => ⟨h, ?_, ?_⟩, fun h => h.1⟩
        · intro p hp
          simpa using hknown p (mem_ownOrder.2 (h ▸ hp))
        · intro key hkey
          simpa [← h] using hpresent key hkey
  | _ => simp

/-- An object with exactly the allowed keys passes. -/
theorem exactObject_perm {invalid : String → ε} {properties : List (String × Value)} {path : String}
    {allowed : List String} (h : (properties.map Prod.fst).Perm allowed) :
    exactObject invalid (.object properties) path allowed = .ok properties := by
  refine exactObject_ok.2 ⟨rfl, fun p hp => h.mem_iff.1 (List.mem_map_of_mem hp), fun key hkey => ?_⟩
  unfold Value.has
  exact List.contains_iff_mem.2 (h.mem_iff.2 hkey)

theorem exactObject_keys {invalid : String → ε} {properties : List (String × Value)} {path : String}
    {allowed : List String} (h : properties.map Prod.fst = allowed) :
    exactObject invalid (.object properties) path allowed = .ok properties := exactObject_perm (.of_eq h)

/-! ## Arrays -/

/-- The items of an array, each parsed with its own path, from index `index` on. -/
def parseEntries (parse : Check ε α) (path : String) : ℕ → List Value → Except ε (List α)
  | _, [] => .ok []
  | index, v :: rest => do
    let a ← parse v s!"{path}[{index}]"
    let entries ← parseEntries parse path (index + 1) rest
    pure (a :: entries)

/-- An array whose parsed items have pairwise different texts. -/
def uniqueArray (invalid : String → ε) (parse : Check ε α) (text : α → String) :
    Check ε {l : List α // (l.map text).Nodup} := fun value path =>
  match value with
  | .array entries =>
    match parseEntries parse path 0 entries with
    | .error e => .error e
    | .ok parsed =>
      if h : (parsed.map text).Nodup then .ok ⟨parsed, h⟩
      else .error (invalid (path ++ " must not contain duplicates."))
  | _ => .error (invalid (path ++ " must be an array."))

/-- The same for an array that is not empty. -/
def nonEmptyUniqueArray (invalid : String → ε) (parse : Check ε α) (text : α → String) :
    Check ε {l : List α // (l.map text).Nodup ∧ l ≠ []} := fun value path =>
  match uniqueArray invalid parse text value path with
  | .error e => .error e
  | .ok parsed =>
    if h : parsed.1 = [] then .error (invalid (path ++ " must not be empty."))
    else .ok ⟨parsed.1, parsed.2, h⟩

/-- Each item of a parsed array is the value of its result. -/
theorem parseEntries_ok {parse : Check ε α} {g : α → Value} {P : α → Prop}
    (hf : ∀ v path a, parse v path = .ok a ↔ v = g a ∧ P a) {path : String} {vs : List Value} {l : List α} :
    ∀ {index : ℕ}, parseEntries parse path index vs = .ok l ↔ vs = l.map g ∧ ∀ a ∈ l, P a := by
  induction vs generalizing l with
  | nil =>
    intro index
    cases l <;> simp [parseEntries]
  | cons v rest ih =>
    intro index
    simp only [parseEntries, bind_ok, pure_ok, hf, ih]
    cases l with
    | nil => simp
    | cons b l =>
      rw [List.map_cons, List.cons.injEq, List.forall_mem_cons]
      constructor
      · rintro ⟨a, ⟨hv, ha⟩, l', ⟨hrest, hl⟩, heq⟩
        obtain ⟨rfl, rfl⟩ := List.cons.inj heq
        exact ⟨⟨hv, hrest⟩, ha, hl⟩
      · rintro ⟨⟨hv, hrest⟩, ha, hl⟩
        exact ⟨b, ⟨hv, ha⟩, l, ⟨hrest, hl⟩, rfl⟩

theorem uniqueArray_ok {invalid : String → ε} {parse : Check ε α} {text : α → String} {g : α → Value}
    {P : α → Prop} (hf : ∀ v path a, parse v path = .ok a ↔ v = g a ∧ P a) {v : Value} {path : String}
    {l : {l : List α // (l.map text).Nodup}} :
    uniqueArray invalid parse text v path = .ok l ↔ v = .array (l.1.map g) ∧ ∀ a ∈ l.1, P a := by
  unfold uniqueArray
  cases v with
  | array vs =>
    simp only [Value.array.injEq]
    have hentries : parseEntries parse path 0 vs = .ok l.1 ↔ vs = l.1.map g ∧ ∀ a ∈ l.1, P a :=
      parseEntries_ok hf
    rw [← hentries]
    cases parseEntries parse path 0 vs with
    | error e => simp
    | ok parsed =>
      simp only [Except.ok.injEq]
      by_cases h : (parsed.map text).Nodup
      · rw [dif_pos h, Except.ok.injEq]
        exact Subtype.ext_iff
      · rw [dif_neg h]
        have : parsed ≠ l.1 := fun he => h (he ▸ l.2)
        simp [this]
  | _ => simp

theorem nonEmptyUniqueArray_ok {invalid : String → ε} {parse : Check ε α} {text : α → String} {g : α → Value}
    {P : α → Prop} (hf : ∀ v path a, parse v path = .ok a ↔ v = g a ∧ P a) {v : Value} {path : String}
    {l : {l : List α // (l.map text).Nodup ∧ l ≠ []}} :
    nonEmptyUniqueArray invalid parse text v path = .ok l ↔ v = .array (l.1.map g) ∧ ∀ a ∈ l.1, P a := by
  have hunique := @uniqueArray_ok _ _ invalid parse text g P hf v path ⟨l.1, l.2.1⟩
  rw [← hunique]
  unfold nonEmptyUniqueArray
  cases uniqueArray invalid parse text v path with
  | error e => simp
  | ok parsed =>
    simp only [Except.ok.injEq, Subtype.ext_iff]
    by_cases h : parsed.1 = []
    · rw [dif_pos h]
      have : parsed.1 ≠ l.1 := fun he => l.2.2 (he ▸ h)
      simp [this]
    · rw [dif_neg h, Except.ok.injEq, Subtype.ext_iff]

end SecureSaas.Js
