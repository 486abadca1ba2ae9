import Mathlib.Data.List.Nodup
import Mathlib.Data.List.Sublists
import Mathlib.Tactic.Common

/-!
# Walks in a directed multigraph

Edges are values of their own, with a source and a destination; several edges may join
the same two vertices, so a walk is the list of the edges it takes.

* `Walk.split`: a walk passes through each of its vertices.
* `Walk.lastDeparture`: a walk that ends elsewhere leaves each of its vertices for good.
* `Walk.erase`: **loop erasure**: some walk with the same ends, through edges and vertices
  of the given one only, repeats no vertex.
* `Walk.length_lt`: a walk that repeats no vertex is shorter than any set it stays in.
-/

namespace SecureSaas.Graph

variable {α ε : Type*} {src dst : ε → α} {E : ε → Prop}

/-- `Walk src dst E u es v`: the edges `es`, all in `E`, lead from `u` to `v` one after
another. -/
inductive Walk (src dst : ε → α) (E : ε → Prop) : α → List ε → α → Prop
  | nil (u : α) : Walk src dst E u [] u
  | cons {u v : α} {e : ε} {es : List ε} (edge : E e) (start : src e = u)
      (rest : Walk src dst E (dst e) es v) : Walk src dst E u (e :: es) v

/-- The vertices along a list of edges taken from `u`. -/
def vertices (dst : ε → α) (u : α) (es : List ε) : List α := u :: es.map dst

/-- Whether the edges taken from `u` repeat no vertex. -/
def Simple (dst : ε → α) (u : α) (es : List ε) : Prop := (vertices dst u es).Nodup

theorem vertices_nil (dst : ε → α) (u : α) : [u] = vertices dst u [] := rfl

@[simp] theorem mem_vertices {u x : α} {es : List ε} :
    x ∈ vertices dst u es ↔ x = u ∨ ∃ e ∈ es, dst e = x := by
  simp [vertices]

@[simp] theorem vertices_cons {u : α} {e : ε} {es : List ε} :
    vertices dst u (e :: es) = u :: vertices dst (dst e) es := rfl

theorem vertices_append {u : α} {es fs : List ε} :
    vertices dst u (es ++ fs) = vertices dst u es ++ fs.map dst := by
  simp [vertices]

theorem Walk.edges {u v : α} {es : List ε} (h : Walk src dst E u es v) : ∀ e ∈ es, E e := by
  induction h with
  | nil u => exact fun _ he => absurd he List.not_mem_nil
  | cons edge _ _ ih => exact List.forall_mem_cons.2 ⟨edge, ih⟩

/-- A walk ends at the last of its vertices. -/
theorem Walk.getLastD {u v d : α} {es : List ε} (h : Walk src dst E u es v) :
    (vertices dst u es).getLastD d = v := by
  induction h with
  | nil u => rfl
  | cons _ _ _ ih =>
    rw [← ih, vertices_cons]
    rfl

/-- A walk passes through each of its vertices, and what follows is a walk. -/
theorem Walk.split {u v x : α} {es : List ε} (h : Walk src dst E u es v)
    (hx : x ∈ vertices dst u es) :
    ∃ fs gs, es = fs ++ gs ∧ Walk src dst E u fs x ∧ Walk src dst E x gs v := by
  induction h with
  | nil u =>
    obtain rfl : x = u := by simpa using hx
    exact ⟨[], [], rfl, .nil x, .nil x⟩
  | @cons u v e es he hs hrest ih =>
    rw [vertices_cons, List.mem_cons] at hx
    rcases hx with rfl | hx
    · exact ⟨[], e :: es, rfl, .nil x, .cons he hs hrest⟩
    · obtain ⟨fs, gs, rfl, hf, hg⟩ := ih hx
      exact ⟨e :: fs, gs, rfl, .cons he hs hf, hg⟩

/-- A walk goes on with one more edge. -/
theorem Walk.snoc {u v : α} {es : List ε} {e : ε} (h : Walk src dst E u es v) (edge : E e) (start : src e = v) :
    Walk src dst E u (es ++ [e]) (dst e) := by
  induction h with
  | nil u => exact .cons edge start (.nil _)
  | cons he hs _ ih => exact .cons he hs (ih start)

theorem Walk.src_mem {u v : α} {es : List ε} (h : Walk src dst E u es v) : ∀ e ∈ es, src e ∈ vertices dst u es := by
  induction h with
  | nil u => exact fun _ he => absurd he List.not_mem_nil
  | @cons u v e es _ hs _ ih =>
    intro f hf
    rw [vertices_cons, List.mem_cons]
    rcases List.mem_cons.1 hf with rfl | hf
    · exact Or.inl hs
    · exact Or.inr (ih f hf)

/-- A walk that ends elsewhere leaves each of its vertices for good, by the last edge from there. -/
theorem Walk.lastDeparture {u v x : α} {es : List ε} (h : Walk src dst E u es v) (hx : x ∈ vertices dst u es)
    (hne : x ≠ v) :
    ∃ fs e gs, es = fs ++ e :: gs ∧ E e ∧ src e = x ∧ Walk src dst E (dst e) gs v ∧ x ∉ vertices dst (dst e) gs := by
  induction h with
  | nil u =>
    obtain rfl : x = u := by simpa using hx
    exact absurd rfl hne
  | @cons u v e es he hs hrest ih =>
    by_cases hlater : x ∈ vertices dst (dst e) es
    · obtain ⟨fs, f, gs, rfl, hf, hsrc, hwalk, hgone⟩ := ih hlater hne
      exact ⟨e :: fs, f, gs, rfl, hf, hsrc, hwalk, hgone⟩
    · rw [vertices_cons, List.mem_cons] at hx
      obtain rfl : x = u := hx.resolve_right hlater
      exact ⟨[], e, es, rfl, he, hs, hrest, hlater⟩

/-- What follows a vertex of a simple list of edges is simple. -/
theorem Simple.suffix {u x : α} {fs gs : List ε} (h : Simple dst u (fs ++ gs))
    (hw : Walk src dst E u fs x) : Simple dst x gs := by
  induction hw with
  | nil u => exact h
  | cons _ _ _ ih =>
    rw [List.cons_append, Simple, vertices_cons] at h
    exact ih (List.nodup_cons.1 h).2

/-- **Loop erasure.** A walk contains a simple one with the same ends. -/
theorem Walk.erase {u v : α} {es : List ε} (h : Walk src dst E u es v) :
    ∃ fs, fs.Sublist es ∧ Walk src dst E u fs v ∧ Simple dst u fs := by
  induction h with
  | nil u => exact ⟨[], List.Sublist.refl _, .nil u, by simp [Simple, vertices]⟩
  | @cons u v e es he hs _ ih =>
    obtain ⟨fs, hsub, hw, hsimple⟩ := ih
    by_cases hu : u ∈ vertices dst (dst e) fs
    · -- the walk comes back to `u`: everything before the return is dropped
      obtain ⟨as, bs, rfl, ha, hb⟩ := hw.split hu
      refine ⟨bs, ?_, hb, hsimple.suffix ha⟩
      exact ((List.sublist_append_right as bs).trans hsub).trans (List.sublist_cons_self e es)
    · exact ⟨e :: fs, hsub.cons_cons e, .cons he hs hw, List.nodup_cons.2 ⟨hu, hsimple⟩⟩

theorem vertices_subset {u : α} {es fs : List ε} (h : fs.Sublist es) :
    vertices dst u fs ⊆ vertices dst u es :=
  List.cons_subset_cons u (h.map dst).subset

/-- A simple walk has fewer edges than a set that holds its vertices has elements. -/
theorem Simple.length_lt {u : α} {es : List ε} (h : Simple dst u es) {l : List α}
    (hl : vertices dst u es ⊆ l) : es.length < l.length := by
  have hle := (h.subperm hl).length_le
  simp only [vertices, List.length_cons, List.length_map] at hle
  omega

end SecureSaas.Graph
