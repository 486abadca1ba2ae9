import Mathlib.Data.List.Basic
import Mathlib.Data.List.Nodup

/-!
# Applied objects and the traffic they let through

Objects are applied to a cluster one after another, and one with the key of an earlier object takes
its place. Network policies select pods and list the peers that these may talk to; a pod that no
policy selects for a direction may talk to all. Authorization policies list the principals that may
call the pods of a namespace.

* `mem_applied`: an object stays exactly if no later one has its key.
* `mem_applied_append`, `mem_applied_map`, `mem_applied_part`: what stays of a list from its parts.
* `mem_applied_of_rank`: what stays of a list whose order is that of a rank.
-/

namespace SecureSaas.Cluster

/-! ## Applying objects -/

section
variable {α β κ γ ρ : Type*} [DecidableEq κ] [DecidableEq γ] {key : α → κ} {objects : List α} {a : α}

/-- What is left when the objects have been applied in order: of those with one key the last. -/
def applied (key : α → κ) : List α → List α
  | [] => []
  | a :: rest => if key a ∈ rest.map key then applied key rest else a :: applied key rest

/-- **An object stays exactly if no later one has its key.** -/
theorem mem_applied : a ∈ applied key objects ↔
    ∃ earlier later, objects = earlier ++ a :: later ∧ key a ∉ later.map key := by
  induction objects with
  | nil => simp [applied]
  | cons b rest ih =>
    have hcons : (∃ earlier later, b :: rest = earlier ++ a :: later ∧ key a ∉ later.map key) ↔
        (b = a ∧ key a ∉ rest.map key) ∨ a ∈ applied key rest := by
      rw [ih]
      constructor
      · rintro ⟨earlier, later, heq, hlater⟩
        cases earlier with
        | nil =>
          obtain ⟨rfl, rfl⟩ := List.cons.inj heq
          exact Or.inl ⟨rfl, hlater⟩
        | cons c earlier =>
          exact Or.inr ⟨earlier, later, (List.cons.inj heq).2, hlater⟩
      · rintro (⟨rfl, hlater⟩ | ⟨earlier, later, heq, hlater⟩)
        · exact ⟨[], rest, rfl, hlater⟩
        · exact ⟨b :: earlier, later, by rw [heq, List.cons_append], hlater⟩
    rw [hcons, applied]
    split_ifs with hb
    · refine ⟨Or.inr, ?_⟩
      rintro (⟨rfl, hnone⟩ | hmem)
      · exact absurd hb hnone
      · exact hmem
    · rw [List.mem_cons]
      constructor
      · rintro (rfl | hmem)
        · exact Or.inl ⟨rfl, hb⟩
        · exact Or.inr hmem
      · rintro (⟨rfl, -⟩ | hmem)
        · exact Or.inl rfl
        · exact Or.inr hmem

theorem mem_of_mem_applied (h : a ∈ applied key objects) : a ∈ objects := by
  obtain ⟨earlier, later, rfl, -⟩ := mem_applied.1 h
  exact List.mem_append_right _ List.mem_cons_self

/-- Of two parts the second stays as it would alone, and of the first what the second has no key of. -/
theorem mem_applied_append {others : List α} :
    a ∈ applied key (objects ++ others) ↔
      (a ∈ applied key objects ∧ key a ∉ others.map key) ∨ a ∈ applied key others := by
  induction objects with
  | nil => simp [applied]
  | cons b rest ih =>
    have hkeys : key b ∈ (rest ++ others).map key ↔ key b ∈ rest.map key ∨ key b ∈ others.map key := by
      rw [List.map_append, List.mem_append]
    rw [List.cons_append, applied, applied]
    by_cases hrest : key b ∈ rest.map key
    · rw [if_pos (hkeys.2 (Or.inl hrest)), if_pos hrest, ih]
    · by_cases hothers : key b ∈ others.map key
      · rw [if_pos (hkeys.2 (Or.inr hothers)), if_neg hrest, ih, List.mem_cons]
        constructor
        · rintro (⟨hmem, hnone⟩ | hmem)
          · exact Or.inl ⟨Or.inr hmem, hnone⟩
          · exact Or.inr hmem
        · rintro (⟨rfl | hmem, hnone⟩ | hmem)
          · exact absurd hothers hnone
          · exact Or.inl ⟨hmem, hnone⟩
          · exact Or.inr hmem
      · rw [if_neg fun h => (hkeys.1 h).elim hrest hothers, if_neg hrest, List.mem_cons, List.mem_cons, ih]
        constructor
        · rintro (rfl | ⟨hmem, hnone⟩ | hmem)
          · exact Or.inl ⟨Or.inl rfl, hothers⟩
          · exact Or.inl ⟨Or.inr hmem, hnone⟩
          · exact Or.inr hmem
        · rintro (⟨rfl | hmem, hnone⟩ | hmem)
          · exact Or.inl rfl
          · exact Or.inr (Or.inl ⟨hmem, hnone⟩)
          · exact Or.inr (Or.inr hmem)

/-- Objects made of items stay as the items do with the keys of their objects. -/
theorem applied_map {f : β → α} (items : List β) :
    applied key (items.map f) = (applied (fun item => key (f item)) items).map f := by
  induction items with
  | nil => rfl
  | cons b rest ih =>
    have hkeys : key (f b) ∈ (rest.map f).map key ↔ key (f b) ∈ rest.map fun item => key (f item) := by
      rw [List.map_map]
      rfl
    rw [List.map_cons]
    unfold applied
    by_cases hb : key (f b) ∈ rest.map fun item => key (f item)
    · rw [if_pos (hkeys.2 hb), if_pos hb, ih]
    · rw [if_neg fun h => hb (hkeys.1 h), if_neg hb, List.map_cons, ih]

theorem mem_applied_map {f : β → α} {items : List β} :
    a ∈ applied key (items.map f) ↔ ∃ item ∈ applied (fun item => key (f item)) items, f item = a := by
  rw [applied_map, List.mem_map]

/-- Whether an object stays depends on those with the same part of the key only. -/
theorem applied_filter (part : κ → γ) (g : γ) :
    (applied key objects).filter (fun b => part (key b) = g) =
      applied key (objects.filter fun b => part (key b) = g) := by
  induction objects with
  | nil => rfl
  | cons b rest ih =>
    rw [applied]
    by_cases hb : part (key b) = g
    · have hmem : key b ∈ (rest.filter fun c => part (key c) = g).map key ↔ key b ∈ rest.map key := by
        simp only [List.mem_map, List.mem_filter, decide_eq_true_eq]
        constructor
        · rintro ⟨c, ⟨hc, -⟩, heq⟩
          exact ⟨c, hc, heq⟩
        · rintro ⟨c, hc, heq⟩
          exact ⟨c, ⟨hc, by rw [heq, hb]⟩, heq⟩
      rw [List.filter_cons_of_pos (by simpa using hb), applied]
      by_cases hrest : key b ∈ rest.map key
      · rw [if_pos hrest, if_pos (hmem.2 hrest), ih]
      · rw [if_neg hrest, if_neg fun h => hrest (hmem.1 h), List.filter_cons_of_pos (by simpa using hb), ih]
    · rw [List.filter_cons_of_neg (by simpa using hb)]
      split_ifs
      · exact ih
      · rw [List.filter_cons_of_neg (by simpa using hb), ih]

/-- What stays of the objects with a certain part of the key. -/
theorem mem_applied_part (part : κ → γ) :
    a ∈ applied key objects ↔ a ∈ applied key (objects.filter fun b => part (key b) = part (key a)) := by
  rw [← applied_filter part (part (key a)), List.mem_filter]
  simp

/-- In a list whose order is that of a rank an object stays if those with its key rank before it. -/
theorem mem_applied_of_rank {rank : α → ℕ} (h : objects.Pairwise fun b c => rank b < rank c) :
    a ∈ applied key objects ↔ a ∈ objects ∧ ∀ b ∈ objects, key b = key a → b ≠ a → rank b < rank a := by
  induction objects with
  | nil => simp [applied]
  | cons c rest ih =>
    obtain ⟨hfirst, hrest⟩ := List.pairwise_cons.1 h
    have ih := ih hrest
    rw [applied]
    split_ifs with hc
    · rw [ih]
      constructor
      · rintro ⟨hmem, hall⟩
        refine ⟨List.mem_cons_of_mem c hmem, ?_⟩
        rintro b hb hkey hne
        rcases List.mem_cons.1 hb with rfl | hb
        · exact hfirst a hmem
        · exact hall b hb hkey hne
      · rintro ⟨hmem, hall⟩
        rcases List.mem_cons.1 hmem with rfl | hmem
        · -- the one that has its key comes later
          obtain ⟨b, hb, hkey⟩ := List.mem_map.1 hc
          have hlt := hfirst b hb
          have hgt := hall b (List.mem_cons_of_mem _ hb) hkey fun heq => by
            rw [heq] at hlt
            exact absurd hlt (Nat.lt_irrefl _)
          omega
        · exact ⟨hmem, fun b hb => hall b (List.mem_cons_of_mem c hb)⟩
    · rw [List.mem_cons, ih]
      constructor
      · rintro (rfl | ⟨hmem, hall⟩)
        · refine ⟨List.mem_cons_self, ?_⟩
          intro b hb hkey hne
          rcases List.mem_cons.1 hb with heq | hb
          · exact absurd heq hne
          · exact absurd (List.mem_map.2 ⟨b, hb, hkey⟩) hc
        · refine ⟨List.mem_cons_of_mem c hmem, ?_⟩
          intro b hb hkey hne
          rcases List.mem_cons.1 hb with rfl | hb
          · exact hfirst a hmem
          · exact hall b hb hkey hne
      · rintro ⟨hmem, hall⟩
        rcases List.mem_cons.1 hmem with rfl | hmem
        · exact Or.inl rfl
        · exact Or.inr ⟨hmem, fun b hb => hall b (List.mem_cons_of_mem c hb)⟩

/-- Objects with different keys all stay. -/
theorem mem_applied_of_nodup (h : (objects.map key).Nodup) : a ∈ applied key objects ↔ a ∈ objects := by
  refine ⟨mem_of_mem_applied, fun hmem => ?_⟩
  obtain ⟨earlier, later, rfl⟩ := List.append_of_mem hmem
  refine mem_applied.2 ⟨earlier, later, rfl, ?_⟩
  rw [List.map_append, List.map_cons] at h
  exact (List.nodup_cons.1 (List.nodup_append.1 h).2.1).1

theorem applied_of_nodup (h : (objects.map key).Nodup) : applied key objects = objects := by
  induction objects with
  | nil => rfl
  | cons b rest ih =>
    obtain ⟨hfresh, hrest⟩ := List.nodup_cons.1 (List.map_cons ▸ h)
    rw [applied, if_neg hfresh, ih hrest]

end

/-! ## Network policies -/

abbrev Labels := List (String × String)

/-- A selector selects what has all of its labels. -/
def selects (selector labels : Labels) : Bool := selector.all fun label => labels.lookup label.1 = some label.2

/-- The pods of one workload in their namespace. -/
structure Workload where
  namespaceName : String
  namespaceLabels : Labels
  labels : Labels

structure Namespace where
  name : String
  labels : Labels

/-- The cluster labels every namespace with its name. -/
def Namespace.pods (namespaceObject : Namespace) (labels : Labels) : Workload :=
  { namespaceName := namespaceObject.name
    namespaceLabels := ("kubernetes.io/metadata.name", namespaceObject.name) :: namespaceObject.labels
    labels := labels }

/-- Pods of the policy's own namespace where no namespaces are selected. -/
structure Peer where
  namespaceSelector : Option Labels
  podSelector : Option Labels
deriving DecidableEq

/-- A port by its number, or by the name that the containers give it. -/
inductive PortRef
  | number (number : ℕ)
  | named (name : String)
deriving DecidableEq

structure Port where
  protocol : String
  port : PortRef
deriving DecidableEq

/-- No peers, and no ports, are all. -/
structure Rule where
  peers : List Peer
  ports : List Port
deriving DecidableEq

inductive Direction
  | ingress
  | egress
deriving DecidableEq

structure NetworkPolicy where
  namespaceName : String
  name : String
  podSelector : Labels
  policyTypes : List Direction
  ingress : List Rule
  egress : List Rule
deriving DecidableEq

def Peer.covers (own : String) (peer : Peer) (workload : Workload) : Bool :=
  (match peer.namespaceSelector with
    | none => decide (workload.namespaceName = own)
    | some selector => selects selector workload.namespaceLabels) &&
  (match peer.podSelector with
    | none => true
    | some selector => selects selector workload.labels)

def Rule.admits (own : String) (rule : Rule) (workload : Workload) (port : Port) : Bool :=
  (rule.peers.isEmpty || rule.peers.any fun peer => peer.covers own workload) &&
    (rule.ports.isEmpty || rule.ports.contains port)

theorem selects_singleton {label value : String} {labels : Labels} :
    selects [(label, value)] labels = true ↔ labels.lookup label = some value := by
  simp [selects]

/-- A rule for one peer and one port. -/
theorem Rule.admits_singleton {own : String} {peer : Peer} {port port' : Port} {workload : Workload} :
    Rule.admits own ⟨[peer], [port]⟩ workload port' = true ↔ peer.covers own workload = true ∧ port' = port := by
  simp [Rule.admits]

theorem Peer.covers_selected {own : String} {selector : Labels} {pods : Option Labels} {workload : Workload} :
    Peer.covers own ⟨some selector, pods⟩ workload = true ↔
      selects selector workload.namespaceLabels = true ∧ ∀ labels ∈ pods, selects labels workload.labels = true := by
  cases pods with
  | none => simp [Peer.covers]
  | some labels => simp [Peer.covers]

namespace NetworkPolicy

def key (policy : NetworkPolicy) : String × String := (policy.namespaceName, policy.name)

def rules (policy : NetworkPolicy) : Direction → List Rule
  | .ingress => policy.ingress
  | .egress => policy.egress

/-- The policy selects the workload and is one for the direction. -/
def governs (policy : NetworkPolicy) (direction : Direction) (workload : Workload) : Bool :=
  decide (policy.namespaceName = workload.namespaceName) && selects policy.podSelector workload.labels &&
    policy.policyTypes.contains direction

end NetworkPolicy

/-- The policies let the workload talk to the peer, on the port, in the direction. -/
def allows (policies : List NetworkPolicy) (direction : Direction) (workload peer : Workload) (port : Port) : Bool :=
  (policies.all fun policy => !policy.governs direction workload) ||
    policies.any fun policy => policy.governs direction workload &&
      (policy.rules direction).any fun rule => rule.admits policy.namespaceName peer port

/-- Where a policy governs a workload, a rule of some such policy must admit the peer. -/
theorem allows_iff {policies : List NetworkPolicy} {direction : Direction} {workload peer : Workload} {port : Port}
    {policy : NetworkPolicy} (hmem : policy ∈ policies) (hgoverns : policy.governs direction workload = true) :
    allows policies direction workload peer port = true ↔ ∃ policy ∈ policies, policy.governs direction workload = true ∧
      ∃ rule ∈ policy.rules direction, rule.admits policy.namespaceName peer port = true := by
  have hall : (policies.all fun policy => !policy.governs direction workload) = false := by
    rw [List.all_eq_false]
    exact ⟨policy, hmem, by simp [hgoverns]⟩
  unfold allows
  rw [hall, Bool.false_or]
  simp only [List.any_eq_true, Bool.and_eq_true]

/-! ## Authorization policies -/

/-- A policy that allows the principals to call the pods of its namespace. -/
structure AuthorizationPolicy where
  namespaceName : String
  name : String
  principals : List String
deriving DecidableEq

def AuthorizationPolicy.key (policy : AuthorizationPolicy) : String × String := (policy.namespaceName, policy.name)

/-- Where no policy applies, every principal may call. -/
def authorizes (policies : List AuthorizationPolicy) (workload : Workload) (principal : String) : Bool :=
  (policies.all fun policy => policy.namespaceName ≠ workload.namespaceName) ||
    policies.any fun policy => decide (policy.namespaceName = workload.namespaceName) &&
      policy.principals.contains principal

theorem authorizes_iff {policies : List AuthorizationPolicy} {workload : Workload} {principal : String}
    {policy : AuthorizationPolicy} (hmem : policy ∈ policies) (hns : policy.namespaceName = workload.namespaceName) :
    authorizes policies workload principal = true ↔
      ∃ policy ∈ policies, policy.namespaceName = workload.namespaceName ∧ principal ∈ policy.principals := by
  have hall : (policies.all fun policy => policy.namespaceName ≠ workload.namespaceName) = false := by
    rw [List.all_eq_false]
    exact ⟨policy, hmem, by simp [hns]⟩
  unfold authorizes
  rw [hall, Bool.false_or]
  simp

end SecureSaas.Cluster
