import Mathlib.Data.List.Sort
import Mathlib.Algebra.GroupWithZero.Nat
import Mathlib.Algebra.Group.Int.Defs

/-!
# JavaScript values

The values a parser of untrusted input can meet, and the operations on them that
the language itself gives.

* Integers are unbounded: below `2 ^ 53` this is exactly JavaScript's arithmetic.
  A finite number that is not an integer is kept by its shortest decimal text
  (`Number.prototype.toString`), which determines it.
* An object is the list of its own properties in insertion order.
* `undefined` is a value: a property can be present and hold it.
-/

namespace SecureSaas.Js

/-- The text of a finite non-integer number: a decimal point or a negative exponent. -/
def isFractionText (s : String) : Bool :=
  s.toList.all (fun c => c.isDigit || c == '-' || c == '+' || c == '.' || c == 'e') &&
    s.toList.any (fun c => c == '.' || c == 'e')

inductive Number
  | int (n : ℤ)
  | fraction (text : String) (wf : isFractionText text = true)
  | nan
  | infinity (negative : Bool)
deriving DecidableEq

/-- `Number.isInteger`. -/
def Number.isInteger : Number → Bool
  | .int _ => true
  | _ => false

/-- `Number.MAX_SAFE_INTEGER`. -/
def maxSafeInteger : ℤ := 9007199254740991

/-- `Number.isSafeInteger`. -/
def Number.isSafeInteger : Number → Bool
  | .int n => decide (-maxSafeInteger ≤ n ∧ n ≤ maxSafeInteger)
  | _ => false

/-- `Number.isFinite`. -/
def Number.isFinite : Number → Bool
  | .int _ | .fraction _ _ => true
  | _ => false

inductive Value
  | undefined
  | null
  | bool (b : Bool)
  | number (n : Number)
  | string (s : String)
  | array (items : List Value)
  | object (properties : List (String × Value))

namespace Value

instance : Inhabited Value := ⟨.undefined⟩

/-- `input[key]` on an object given by its own properties. -/
def get (properties : List (String × Value)) (key : String) : Value :=
  (properties.lookup key).getD .undefined

/-- `key in input`. -/
def has (properties : List (String × Value)) (key : String) : Bool :=
  (properties.map Prod.fst).contains key

@[simp] theorem get_nil (key : String) : get [] key = .undefined := rfl

@[simp] theorem get_cons_self (key : String) (v : Value) (rest : List (String × Value)) :
    get ((key, v) :: rest) key = v := by
  simp [get]

theorem get_cons_ne {key k : String} (h : key ≠ k) (v : Value) (rest : List (String × Value)) :
    get ((k, v) :: rest) key = get rest key := by
  have hb : (key == k) = false := beq_eq_false_iff_ne.2 h
  simp [get, List.lookup_cons, hb]

theorem get_cons {key k : String} {v : Value} {rest : List (String × Value)} :
    get ((k, v) :: rest) key = if key = k then v else get rest key := by
  by_cases h : key = k
  · subst h; simp
  · rw [if_neg h, get_cons_ne h]

/-- The key of an object with different keys gives the value of its property. -/
theorem get_of_mem {properties : List (String × Value)} (hkeys : (properties.map Prod.fst).Nodup) {key : String}
    {v : Value} (h : (key, v) ∈ properties) : get properties key = v := by
  induction properties with
  | nil => exact absurd h List.not_mem_nil
  | cons p rest ih =>
    obtain ⟨k, w⟩ := p
    obtain ⟨hnew, hrest⟩ := List.nodup_cons.1 hkeys
    rcases List.mem_cons.1 h with heq | hmem
    · obtain ⟨rfl, rfl⟩ := Prod.mk.inj heq
      exact get_cons_self _ _ _
    · have hne : key ≠ k := by
        rintro rfl
        exact hnew (List.mem_map.2 ⟨_, hmem, rfl⟩)
      rw [get_cons_ne hne, ih hrest hmem]

end Value

/-! ## Strings -/

/-- `value.length`: UTF-16 code units. -/
def stringLength (s : String) : ℕ := (s.toList.map fun c => if c.toNat < 65536 then 1 else 2).sum

theorem stringLength_append (s t : String) : stringLength (s ++ t) = stringLength s + stringLength t := by
  simp [stringLength]

theorem stringLength_ofList {cs : List Char} (h : ∀ c ∈ cs, c.toNat < 65536) :
    stringLength (String.ofList cs) = cs.length := by
  unfold stringLength
  rw [String.toList_ofList]
  induction cs with
  | nil => rfl
  | cons c cs ih =>
    rw [List.forall_mem_cons] at h
    rw [List.map_cons, List.sum_cons, ih h.2, if_pos h.1, List.length_cons]
    omega

/-- White space and line terminators, as `String.prototype.trim` removes them. -/
def isSpace (c : Char) : Bool :=
  (9 ≤ c.toNat && c.toNat ≤ 13) || c.toNat == 32 || c.toNat == 0xa0 || c.toNat == 0x1680 ||
    (0x2000 ≤ c.toNat && c.toNat ≤ 0x200a) || c.toNat == 0x2028 || c.toNat == 0x2029 ||
    c.toNat == 0x202f || c.toNat == 0x205f || c.toNat == 0x3000 || c.toNat == 0xfeff

/-- `value.trim().length > 0`. -/
def hasText (s : String) : Bool := s.toList.any fun c => !isSpace c

/-- `value.startsWith(prefix)`. -/
def startsWith (s initial : String) : Bool := initial.toList.isPrefixOf s.toList

theorem startsWith_iff {s initial : String} :
    startsWith s initial = true ↔ ∃ rest, s.toList = initial.toList ++ rest := by
  unfold startsWith
  rw [List.isPrefixOf_iff_prefix]
  constructor
  · rintro ⟨t, ht⟩; exact ⟨t, ht.symm⟩
  · rintro ⟨t, ht⟩; exact ⟨t, ht.symm⟩

/-- Some suffix of the text starts with `part`. -/
def hasInfix (part : List Char) : List Char → Bool
  | [] => part.isEmpty
  | c :: cs => part.isPrefixOf (c :: cs) || hasInfix part cs

/-- `value.includes(part)`. -/
def includes (s part : String) : Bool := hasInfix part.toList s.toList

/-- A text is cut at its first separator in one way only. -/
theorem separator_inj {α : Type*} {x : α} : ∀ {l m r r' : List α}, x ∉ l → x ∉ m →
    l ++ x :: r = m ++ x :: r' → l = m ∧ r = r' := by
  intro l
  induction l with
  | nil =>
    intro m r r' _ hm h
    cases m with
    | nil => exact ⟨rfl, (List.cons.inj h).2⟩
    | cons d m => exact absurd (List.cons.inj h).1 fun he => hm (he ▸ List.mem_cons_self)
  | cons c l ih =>
    intro m r r' hl hm h
    cases m with
    | nil => exact absurd (List.cons.inj h).1 fun he => hl (he ▸ List.mem_cons_self)
    | cons d m =>
      obtain ⟨hc, htail⟩ := List.cons.inj h
      obtain ⟨hlm, hr⟩ := ih (fun hx => hl (List.mem_cons_of_mem _ hx))
        (fun hx => hm (List.mem_cons_of_mem _ hx)) htail
      exact ⟨by rw [hc, hlm], hr⟩

/-- A text is cut at its last separator in one way only. -/
theorem lastSeparator_inj {α : Type*} {x : α} {l m r r' : List α} (hr : x ∉ r) (hr' : x ∉ r') (h : l ++ x :: r = m ++ x :: r') :
    l = m ∧ r = r' := by
  have hreverse := congrArg List.reverse h
  simp only [List.reverse_append, List.reverse_cons, List.append_assoc, List.singleton_append] at hreverse
  obtain ⟨hright, hleft⟩ := separator_inj (by rwa [List.mem_reverse]) (by rwa [List.mem_reverse]) hreverse
  exact ⟨List.reverse_inj.1 hleft, List.reverse_inj.1 hright⟩

/-- Texts with initial parts of which neither starts the other are different. -/
theorem append_ne {u v : String} (h : ¬ u.toList <+: v.toList) (h' : ¬ v.toList <+: u.toList) (a b : String) :
    u ++ a ≠ v ++ b := by
  intro heq
  have hlist : u.toList ++ a.toList = v.toList ++ b.toList := by
    rw [← String.toList_append, ← String.toList_append, heq]
  have hu : u.toList <+: v.toList ++ b.toList := ⟨a.toList, hlist⟩
  rcases List.prefix_or_prefix_of_prefix hu (List.prefix_append v.toList b.toList) with hone | hone
  · exact h hone
  · exact h' hone

/-- Texts with final parts of which neither ends the other are different. -/
theorem prepend_ne {u v : String} (h : ¬ u.toList <:+ v.toList) (h' : ¬ v.toList <:+ u.toList) (a b : String) :
    a ++ u ≠ b ++ v := by
  intro heq
  have hlist : a.toList ++ u.toList = b.toList ++ v.toList := by
    rw [← String.toList_append, ← String.toList_append, heq]
  have hu : u.toList <:+ b.toList ++ v.toList := ⟨a.toList, hlist⟩
  rcases List.suffix_or_suffix_of_suffix hu (List.suffix_append b.toList v.toList) with hone | hone
  · exact h hone
  · exact h' hone

theorem append_injective (u : String) : Function.Injective (u ++ ·) := fun _ _ h => (String.append_right_inj u).1 h

/-! ## Property order

`Object.keys` and its relatives list array-index keys first, in numeric order, and the
other keys in insertion order. -/

/-- The number an array-index key stands for. -/
def arrayIndex (key : String) : Option ℕ :=
  match key.toList with
  | [] => none
  | ['0'] => some 0
  | c :: cs =>
    if c = '0' ∨ !(c :: cs).all Char.isDigit then none
    else
      let n := (c :: cs).foldl (fun acc d => acc * 10 + (d.toNat - 48)) 0
      if n < 4294967295 then some n else none

/-- The own properties in the order `Object.entries` lists them. -/
def ownOrder {α : Type*} (properties : List (String × α)) : List (String × α) :=
  (properties.filter fun p => (arrayIndex p.1).isSome).insertionSort
      (fun p q => (arrayIndex p.1).getD 0 ≤ (arrayIndex q.1).getD 0) ++
    properties.filter fun p => (arrayIndex p.1).isNone

theorem ownOrder_perm {α : Type*} (properties : List (String × α)) :
    (ownOrder properties).Perm properties := by
  unfold ownOrder
  refine ((List.perm_insertionSort _ _).append_right _).trans ?_
  have h : (fun p : String × α => (arrayIndex p.1).isNone) =
      fun p => !(arrayIndex p.1).isSome := by
    funext p; cases arrayIndex p.1 <;> rfl
  rw [h]
  exact List.filter_append_perm _ _

theorem mem_ownOrder {α : Type*} {properties : List (String × α)} {p : String × α} :
    p ∈ ownOrder properties ↔ p ∈ properties :=
  (ownOrder_perm properties).mem_iff

/-! ## Exceptions -/

/-- `if (!ok) throw new Error(message)`. -/
def throwUnless (ok : Bool) (message : String) : Except String Unit :=
  if ok then .ok () else .error message

@[simp] theorem throwUnless_ok {ok : Bool} {message : String} {u : Unit} :
    throwUnless ok message = .ok u ↔ ok = true := by
  unfold throwUnless
  cases ok <;> simp

/-- What a test has shown of every item; a statement about characters is decided in this form. -/
theorem forall_of_all {α : Type*} {p : α → Prop} [DecidablePred p] {l : List α}
    (h : (l.all fun a => decide (p a)) = true) : ∀ a ∈ l, p a :=
  fun a ha => of_decide_eq_true (List.all_eq_true.1 h a ha)

theorem exists_unit {p : Unit → Prop} : (∃ u, p u) ↔ p () := ⟨fun ⟨_, h⟩ => h, fun h => ⟨(), h⟩⟩

/-- A block returns when its first part does and the rest then does. -/
@[simp] theorem bind_ok {ε α β : Type} {x : Except ε α} {f : α → Except ε β} {b : β} :
    (x >>= f) = .ok b ↔ ∃ a, x = .ok a ∧ f a = .ok b := by
  cases x with
  | error e => simp [bind, Except.bind]
  | ok a => simp [bind, Except.bind]

@[simp] theorem pure_ok {ε α : Type} {a b : α} : (pure a : Except ε α) = .ok b ↔ a = b := by
  simp [pure, Except.pure]

/-- What a run that can be decided to succeed gives. -/
theorem exists_of_isOk {ε α : Type} {x : Except ε α} (h : x.isOk = true) : ∃ a, x = .ok a := by
  cases x with
  | error e => cases h
  | ok a => exact ⟨a, rfl⟩

/-- What a loop that returns made of each item. -/
theorem mapM_ok {α β ε : Type} {f : α → Except ε β} : ∀ {l : List α} {bs : List β}, l.mapM f = .ok bs →
    ∀ a ∈ l, ∃ b ∈ bs, f a = .ok b := by
  intro l
  induction l with
  | nil => exact fun _ _ ha => absurd ha List.not_mem_nil
  | cons a l ih =>
    intro bs h x hx
    rw [List.mapM_cons] at h
    obtain ⟨b, hb, h⟩ := bind_ok.1 h
    obtain ⟨rest, hr, h⟩ := bind_ok.1 h
    obtain rfl := pure_ok.1 h
    rcases List.mem_cons.1 hx with rfl | hx
    · exact ⟨b, List.mem_cons_self, hb⟩
    · obtain ⟨b', hb', hf⟩ := ih hr x hx
      exact ⟨b', List.mem_cons_of_mem b hb', hf⟩

end SecureSaas.Js
