import SecureSaas.Js.Value

/-!
# Loops that collect

`items.flatMap(f)` for an `f` that may throw: the first exception ends the loop.

* `mem_collect`: what a loop that returns has collected.
* `collect_ok`: it returns when every round does.
* `collect_nodup`: when the keys of what is collected are different.
* `mapM_source`, `mapM_map`: where the items of a mapped list come from.
* `forM_ok`: a loop of checks passes when every check does.
-/

namespace SecureSaas.Js

variable {ε α β : Type}

/-- `items.flatMap(f)` for an `f` that may throw. -/
def collect (f : α → Except ε (List β)) : List α → Except ε (List β)
  | [] => .ok []
  | a :: rest => do
    let found ← f a
    let others ← collect f rest
    return found ++ others

variable {f : α → Except ε (List β)} {items : List α} {bs : List β}

theorem collect_cons_ok {a : α} : collect f (a :: items) = .ok bs ↔
    ∃ found others, f a = .ok found ∧ collect f items = .ok others ∧ found ++ others = bs := by
  simp only [collect, bind_ok, pure_ok]
  constructor
  · rintro ⟨found, hfound, others, hothers, he⟩
    exact ⟨found, others, hfound, hothers, he⟩
  · rintro ⟨found, others, hfound, hothers, he⟩
    exact ⟨found, hfound, others, hothers, he⟩

/-- Every round of a loop that returns has returned. -/
theorem collect_round (h : collect f items = .ok bs) {a : α} (ha : a ∈ items) :
    ∃ found, f a = .ok found ∧ ∀ b ∈ found, b ∈ bs := by
  induction items generalizing bs with
  | nil => exact absurd ha List.not_mem_nil
  | cons c items ih =>
    obtain ⟨found, others, hfound, hothers, rfl⟩ := collect_cons_ok.1 h
    rcases List.mem_cons.1 ha with rfl | ha
    · exact ⟨found, hfound, fun b hb => List.mem_append_left _ hb⟩
    · obtain ⟨found', hfound', hin⟩ := ih hothers ha
      exact ⟨found', hfound', fun b hb => List.mem_append_right _ (hin b hb)⟩

/-- What is collected comes from some round. -/
theorem collect_source (h : collect f items = .ok bs) {b : β} (hb : b ∈ bs) :
    ∃ a ∈ items, ∃ found, f a = .ok found ∧ b ∈ found := by
  induction items generalizing bs with
  | nil =>
    obtain rfl : [] = bs := Except.ok.inj h
    exact absurd hb List.not_mem_nil
  | cons c items ih =>
    obtain ⟨found, others, hfound, hothers, rfl⟩ := collect_cons_ok.1 h
    rcases List.mem_append.1 hb with hb | hb
    · exact ⟨c, List.mem_cons_self, found, hfound, hb⟩
    · obtain ⟨a, ha, found', hfound', hb'⟩ := ih hothers hb
      exact ⟨a, List.mem_cons_of_mem c ha, found', hfound', hb'⟩

/-- **A loop that returns has collected exactly what its rounds found.** -/
theorem mem_collect (h : collect f items = .ok bs) {b : β} :
    b ∈ bs ↔ ∃ a ∈ items, ∃ found, f a = .ok found ∧ b ∈ found := by
  constructor
  · exact collect_source h
  · rintro ⟨a, ha, found, hfound, hb⟩
    obtain ⟨found', hfound', hin⟩ := collect_round h ha
    obtain rfl : found = found' := Except.ok.inj (hfound.symm.trans hfound')
    exact hin b hb

/-- What is collected, seen through some function. -/
theorem collect_map {γ : Type*} {key : β → γ} {keys : α → List γ}
    (hkeys : ∀ a found, f a = .ok found → found.map key = keys a) (h : collect f items = .ok bs) :
    bs.map key = items.flatMap keys := by
  induction items generalizing bs with
  | nil =>
    obtain rfl : [] = bs := Except.ok.inj h
    rfl
  | cons a items ih =>
    obtain ⟨found, others, hfound, hothers, rfl⟩ := collect_cons_ok.1 h
    rw [List.map_append, hkeys a found hfound, ih hothers, List.flatMap_cons]

theorem collect_ok (h : ∀ a ∈ items, ∃ found, f a = .ok found) : ∃ bs, collect f items = .ok bs := by
  induction items with
  | nil => exact ⟨[], rfl⟩
  | cons a items ih =>
    obtain ⟨found, hfound⟩ := h a List.mem_cons_self
    obtain ⟨others, hothers⟩ := ih fun a ha => h a (List.mem_cons_of_mem _ ha)
    exact ⟨found ++ others, collect_cons_ok.2 ⟨found, others, hfound, hothers, rfl⟩⟩

/-- What a loop that returns has made comes from some item. -/
theorem mapM_source {f : α → Except ε β} (h : items.mapM f = .ok bs) {b : β} (hb : b ∈ bs) :
    ∃ a ∈ items, f a = .ok b := by
  induction items generalizing bs with
  | nil =>
    obtain rfl : [] = bs := Except.ok.inj h
    exact absurd hb List.not_mem_nil
  | cons a items ih =>
    rw [List.mapM_cons] at h
    obtain ⟨first, hfirst, h⟩ := bind_ok.1 h
    obtain ⟨others, hothers, h⟩ := bind_ok.1 h
    obtain rfl := pure_ok.1 h
    rcases List.mem_cons.1 hb with rfl | hb
    · exact ⟨a, List.mem_cons_self, hfirst⟩
    · obtain ⟨a', ha', hf⟩ := ih hothers hb
      exact ⟨a', List.mem_cons_of_mem a ha', hf⟩

/-- The results of a loop keep what each of its rounds keeps of an item. -/
theorem mapM_map_mem {γ : Type*} {f : α → Except ε β} {key : α → γ} {found : β → γ} : ∀ {items : List α} {results : List β},
    (∀ a ∈ items, ∀ b, f a = .ok b → found b = key a) → items.mapM f = .ok results →
      results.map found = items.map key := by
  intro items
  induction items with
  | nil =>
    intro results _ h
    obtain rfl : [] = results := Except.ok.inj h
    rfl
  | cons a items ih =>
    intro results hf h
    rw [List.mapM_cons] at h
    obtain ⟨first, hfirst, h⟩ := bind_ok.1 h
    obtain ⟨others, hothers, h⟩ := bind_ok.1 h
    obtain rfl := pure_ok.1 h
    rw [List.map_cons, List.map_cons, hf a List.mem_cons_self first hfirst,
      ih (fun a ha => hf a (List.mem_cons_of_mem _ ha)) hothers]

theorem mapM_map {γ : Type*} {f : α → Except ε β} {key : α → γ} {found : β → γ}
    (hf : ∀ a b, f a = .ok b → found b = key a) {items : List α} {results : List β} (h : items.mapM f = .ok results) :
    results.map found = items.map key :=
  mapM_map_mem (fun a _ => hf a) h

theorem mapM_succeeds {f : α → Except ε β} (h : ∀ a ∈ items, ∃ b, f a = .ok b) : ∃ bs, items.mapM f = .ok bs := by
  induction items with
  | nil => exact ⟨[], rfl⟩
  | cons a items ih =>
    obtain ⟨first, hfirst⟩ := h a List.mem_cons_self
    obtain ⟨others, hothers⟩ := ih fun a ha => h a (List.mem_cons_of_mem _ ha)
    refine ⟨first :: others, ?_⟩
    rw [List.mapM_cons]
    exact bind_ok.2 ⟨first, hfirst, bind_ok.2 ⟨others, hothers, rfl⟩⟩

/-- A loop of checks passes when every check does. -/
theorem forM_ok {f : α → Except ε Unit} : items.forM f = .ok () ↔ ∀ a ∈ items, f a = .ok () := by
  induction items with
  | nil => simp
  | cons a items ih =>
    rw [List.forall_mem_cons, ← ih]
    constructor
    · intro h
      obtain ⟨⟨⟩, ha, h⟩ := bind_ok.1 h
      exact ⟨ha, h⟩
    · rintro ⟨ha, h⟩
      exact bind_ok.2 ⟨(), ha, h⟩

/-- What the rounds for different owners find under their owner's keys has different keys if what
each round finds has. -/
theorem collect_nodup {κ γ : Type} {key : β → κ} {part : κ → γ} {owner : α → γ} (h : collect f items = .ok bs)
    (hpart : ∀ a ∈ items, ∀ found, f a = .ok found → ∀ b ∈ found, part (key b) = owner a)
    (howner : (items.map owner).Nodup) :
    (bs.map key).Nodup ↔ ∀ a ∈ items, ∀ found, f a = .ok found → (found.map key).Nodup := by
  induction items generalizing bs with
  | nil =>
    obtain rfl : [] = bs := Except.ok.inj h
    simp
  | cons a items ih =>
    obtain ⟨found, others, hfound, hothers, rfl⟩ := collect_cons_ok.1 h
    obtain ⟨hfresh, hrest⟩ := List.nodup_cons.1 (List.map_cons ▸ howner)
    have ih := ih hothers (fun b hb => hpart b (List.mem_cons_of_mem a hb)) hrest
    rw [List.map_append, List.nodup_append', ih, List.forall_mem_cons]
    constructor
    · rintro ⟨hone, hall, -⟩
      refine ⟨fun found' hfound' => ?_, hall⟩
      obtain rfl : found = found' := Except.ok.inj (hfound.symm.trans hfound')
      exact hone
    · rintro ⟨hone, hall⟩
      refine ⟨hone found hfound, hall, ?_⟩
      intro k hk hk'
      obtain ⟨b, hb, rfl⟩ := List.mem_map.1 hk
      obtain ⟨c, hc, heq⟩ := List.mem_map.1 hk'
      obtain ⟨a', ha', found', hfound', hc'⟩ := collect_source hothers hc
      -- the key of either one names its owner
      refine hfresh (List.mem_map.2 ⟨a', ha', ?_⟩)
      rw [← hpart a' (List.mem_cons_of_mem a ha') found' hfound' c hc', heq, hpart a List.mem_cons_self found hfound b hb]

end SecureSaas.Js
