import SecureSaas.Paas.Tenants
import SecureSaas.Rotation

/-!
# The scheduler goes round the tenants

Each time the scheduler looks for a tenant, it starts after the one it has served last. That tenant
is kept in the state, through all calls.

* `call_starts`: the events of a call tell which tenants its picks have served.
* `run_linked`: each pick finds the tenant that the picks before it have served last.
* `pick_turn`: a pick goes no further than an eligible tenant.
* `round_robin`: **between two starts of a tenant each other one that is eligible has its turn.**
-/

namespace SecureSaas.Paas

open Js

variable {rt : Runtime} {intent : PaasSecurityIntent} {s m : PaasControlState} {h : List PaasCall} {call : PaasCall}
  {c : PaasCommand}

/-! ## Picks -/

/-- The tenant that a pick serves: the search finds it and its first job starts. -/
def servedTenant (rt : Runtime) (intent : PaasSecurityIntent) (m : PaasControlState) : Option String :=
  (nextStart rt intent (scheduleTenants rt intent) m).map Prod.fst

/-- The states in which a loop of starts looks for the next tenant. -/
def loopPicks (rt : Runtime) (intent : PaasSecurityIntent) (now : ℤ) : ℕ → PaasControlState → List PaasControlState
  | 0, _ => []
  | starts + 1, m =>
    if (activeJobs m).length < intent.scheduling.maxGlobalConcurrency then
      m :: match nextStart rt intent (scheduleTenants rt intent) m with
        | none => []
        | some (tenantId, jobId, rest, job) =>
          loopPicks rt intent now starts (withStarted rt m tenantId jobId rest (startedJob job now))
    else []

/-- The picks of a call: only an accepted call of the scheduler has any. -/
def PaasCall.picks (rt : Runtime) (intent : PaasSecurityIntent) (call : PaasCall) : List PaasControlState :=
  match call.command with
  | .schedule command =>
    if (call.transition rt intent).accepted = true then
      loopPicks rt intent command.nowEpochSeconds (maxStarts intent command)
        (expireQueuedJobs call.state command.nowEpochSeconds (addNumber call.state.revision 1)).1
    else []
  | _ => []

/-- The picks of a run, in order. -/
def runPicks (rt : Runtime) (intent : PaasSecurityIntent) (h : List PaasCall) : List PaasControlState :=
  h.flatMap fun call => call.picks rt intent

/-- Without room for another job nothing starts. -/
theorem nextStart_full {tenantIds : List String} (hfull : ¬ (activeJobs m).length < intent.scheduling.maxGlobalConcurrency) :
    nextStart rt intent tenantIds m = none := by
  unfold nextStart
  rw [if_neg hfull]

/-! ## The tenant served last -/

/-- The tenant served last, after a pick. -/
def lastAfter (rt : Runtime) (intent : PaasSecurityIntent) (m : PaasControlState) : Option String :=
  (servedTenant rt intent m).or m.lastScheduledTenant

/-- Each pick finds the tenant served last, from `last` at the start to `last'` at the end. -/
def Linked (rt : Runtime) (intent : PaasSecurityIntent) (last : Option String) :
    List PaasControlState → Option String → Prop
  | [], last' => last = last'
  | m :: picks, last' => m.lastScheduledTenant = last ∧ Linked rt intent (lastAfter rt intent m) picks last'

theorem Linked.append {last mid last' : Option String} {picks picks' : List PaasControlState}
    (h1 : Linked rt intent last picks mid) (h2 : Linked rt intent mid picks' last') :
    Linked rt intent last (picks ++ picks') last' := by
  induction picks generalizing last with
  | nil =>
    obtain rfl : last = mid := h1
    exact h2
  | cons m picks ih => exact ⟨h1.1, ih h1.2⟩

theorem Linked.split {last last' : Option String} {picks picks' : List PaasControlState}
    (hl : Linked rt intent last (picks ++ picks') last') :
    ∃ mid, Linked rt intent last picks mid ∧ Linked rt intent mid picks' last' := by
  induction picks generalizing last with
  | nil => exact ⟨last, rfl, hl⟩
  | cons m picks ih =>
    obtain ⟨mid, h1, h2⟩ := ih hl.2
    exact ⟨mid, ⟨hl.1, h1⟩, h2⟩

theorem loop_linked (now revision : ℤ) (starts : ℕ) (m : PaasControlState) (events : List PaasControlEvent) :
    Linked rt intent m.lastScheduledTenant (loopPicks rt intent now starts m)
      (startJobs rt intent (scheduleTenants rt intent) now revision starts m events).1.lastScheduledTenant := by
  induction starts generalizing m events with
  | zero => rfl
  | succ starts ih =>
    rw [startJobs_succ]
    unfold loopPicks
    by_cases hroom : (activeJobs m).length < intent.scheduling.maxGlobalConcurrency
    · rw [if_pos hroom]
      refine ⟨rfl, ?_⟩
      unfold lastAfter servedTenant
      cases nextStart rt intent (scheduleTenants rt intent) m with
      | none => rfl
      | some p =>
        obtain ⟨tenantId, jobId, rest, job⟩ := p
        exact ih (withStarted rt m tenantId jobId rest (startedJob job now)) _
    · rw [if_neg hroom, nextStart_full hroom]
      rfl

theorem expireQueuedJobs_last (s : PaasControlState) (now revision : ℤ) :
    (expireQueuedJobs s now revision).1.lastScheduledTenant = s.lastScheduledTenant := by
  obtain ⟨jobs, tenantQueues, events, heq, -⟩ := expireQueuedJobs_spec s now revision
  rw [heq]

theorem redeem_last (s : PaasControlState) (capabilityId : Option String) (tenantId jobId : String) (now : ℤ) :
    (redeem rt s capabilityId tenantId jobId now).lastScheduledTenant = s.lastScheduledTenant := by
  cases capabilityId <;> rfl

/-- A loop that has nothing to tell has served nobody. -/
theorem startJobs_silent {tenantIds : List String} {now revision : ℤ} {starts : ℕ} {events : List PaasControlEvent}
    (hsilent : (startJobs rt intent tenantIds now revision starts s events).2 = []) :
    (startJobs rt intent tenantIds now revision starts s events).1 = s := by
  cases starts with
  | zero => rfl
  | succ starts => rw [startJobs_succ, nextStart_of_silent hsilent]

/-- Only the scheduler serves a tenant. -/
theorem exec_last (ha : (c.exec rt s intent).accepted = true) (hc : ∀ command, c ≠ .schedule command) :
    (c.exec rt s intent).state.lastScheduledTenant = s.lastScheduledTenant := by
  cases c with
  | enqueue command =>
    obtain ⟨-, -, tenant, -, -, ⟨existing, -, -, -, hs⟩ | ⟨-, hs⟩⟩ := enqueue_accepted ha
    · exact congrArg (fun t => t.state.lastScheduledTenant) hs
    · exact (congrArg (fun t => t.state.lastScheduledTenant) hs).trans (redeem_last ..)
  | schedule command => exact absurd rfl (hc command)
  | complete command =>
    obtain ⟨current, -, hs⟩ := complete_state ha
    rcases hs with hs | hs | hs | ⟨-, hs⟩ <;> exact (congrArg PaasControlState.lastScheduledTenant hs).trans rfl
  | cancel command =>
    obtain ⟨-, current, -, -, -, -, -, -, ⟨-, -, -, -, hs⟩ | ⟨-, ⟨-, hs⟩ | ⟨-, hs⟩⟩⟩ := cancel_accepted ha
    · exact congrArg (fun t => t.state.lastScheduledTenant) hs
    · exact (congrArg (fun t => t.state.lastScheduledTenant) hs).trans (redeem_last ..)
    · exact (congrArg (fun t => t.state.lastScheduledTenant) hs).trans (redeem_last ..)
  | acknowledge command =>
    obtain ⟨-, current, -, hs⟩ := acknowledge_accepted ha
    exact (congrArg (fun t => t.state.lastScheduledTenant) hs).trans rfl
  | sweep command =>
    obtain ⟨-, -, hs | hs⟩ := sweep_accepted ha
    · exact congrArg (fun t => t.state.lastScheduledTenant) hs
    · exact (congrArg (fun t => t.state.lastScheduledTenant) hs).trans (expireQueuedJobs_last ..)

theorem call_linked (call : PaasCall) : Linked rt intent call.state.lastScheduledTenant (call.picks rt intent)
    (call.after rt intent).lastScheduledTenant := by
  obtain ⟨s, c⟩ := call
  rcases @exec_refused rt intent s c with ⟨hrefused, hs, -⟩ | ha
  · have hnone : PaasCall.picks rt intent ⟨s, c⟩ = [] := by
      cases c with
      | schedule command =>
        refine if_neg ?_
        show (schedulePaasJobs rt s intent command).accepted ≠ true
        rw [show (schedulePaasJobs rt s intent command).accepted = false from hrefused]
        exact nofun
      | _ => rfl
    rw [hnone]
    exact (congrArg PaasControlState.lastScheduledTenant hs).symm
  · cases c with
    | schedule command =>
      have hpicks : PaasCall.picks rt intent ⟨s, .schedule command⟩ =
          loopPicks rt intent command.nowEpochSeconds (maxStarts intent command)
            (expireQueuedJobs s command.nowEpochSeconds (addNumber s.revision 1)).1 := if_pos ha
      have hlinked : Linked rt intent s.lastScheduledTenant (PaasCall.picks rt intent ⟨s, .schedule command⟩)
          (scheduled rt intent s command).1.lastScheduledTenant := by
        rw [hpicks, ← expireQueuedJobs_last s command.nowEpochSeconds (addNumber s.revision 1)]
        exact loop_linked ..
      have hlast : (schedulePaasJobs rt s intent command).state.lastScheduledTenant =
          (scheduled rt intent s command).1.lastScheduledTenant := by
        obtain ⟨-, -, ⟨hsilent, hs⟩ | hs⟩ := schedule_accepted ha
        · rw [hs, scheduled, startJobs_silent hsilent, expireQueuedJobs_last]
          rfl
        · rw [hs]
          rfl
      rw [← hlast] at hlinked
      exact hlinked
    | _ =>
      refine (exec_last ha ?_).symm
      rintro command ⟨⟩

/-- **Each pick of a run finds the tenant that the picks before it have served last.** -/
theorem run_linked (hr : CallRun rt intent h s) :
    Linked rt intent none (runPicks rt intent h) s.lastScheduledTenant := by
  refine hr.history (I := fun h s => Linked rt intent none (runPicks rt intent h) s.lastScheduledTenant) ?_ ?_
  · rfl
  · rintro h m call t - hm ⟨rfl, rfl⟩
    unfold runPicks at hm ⊢
    rw [List.flatMap_append, List.flatMap_singleton]
    exact hm.append (call_linked call)

/-! ## Turns -/

/-- The search is a scan of the tenants that starts after the one served last. -/
theorem nextEligibleTenant_scan (tenantIds : List String) : nextEligibleTenant rt m intent tenantIds =
    firstFrom (rotationStart m tenantIds) (eligibleTenant rt m intent) tenantIds := rfl

theorem rotationStart_after {tenantIds : List String} (hn : tenantIds.Nodup) {last : String} {i : ℕ}
    (hlast : truthy m.lastScheduledTenant = some last) (hi : tenantIds[i]? = some last) :
    rotationStart m tenantIds = (i + 1) % tenantIds.length := by
  obtain ⟨hlt, hget⟩ := List.getElem?_eq_some_iff.1 hi
  have hfound : tenantIds.findIdx? (fun tenantId => tenantId == last) = some i := by
    rw [List.findIdx?_eq_some_iff_getElem]
    refine ⟨hlt, beq_iff_eq.2 hget, ?_⟩
    intro j hj heq
    have hsame := (List.Nodup.getElem_inj_iff hn).1 ((beq_iff_eq.1 heq).trans hget.symm)
    omega
  unfold rotationStart
  rw [hlast]
  simp only [hfound]

theorem served_some {tenantId : String} (hs : servedTenant rt intent m = some tenantId) :
    nextEligibleTenant rt m intent (scheduleTenants rt intent) = some tenantId ∧ tenantId ≠ "" := by
  unfold servedTenant nextStart at hs
  split at hs
  · cases ht : truthy (nextEligibleTenant rt m intent (scheduleTenants rt intent)) with
    | none =>
      rw [ht] at hs
      cases hs
    | some tenantId' =>
      rw [ht] at hs
      simp only at hs
      split at hs
      · rename_i jobId rest hq
        rw [Option.map_map] at hs
        obtain ⟨job, -, heq⟩ := Option.map_eq_some_iff.1 hs
        obtain rfl : tenantId' = tenantId := heq
        exact truthy_some.1 ht
      · cases hs
  · cases hs

/-- The tenant served last comes before the one at `b`, going round from `a`. -/
def InTurn (tenantIds : List String) (a b : ℕ) (last : Option String) : Prop :=
  ∃ tenantId i, last = some tenantId ∧ tenantId ≠ "" ∧ tenantIds[i]? = some tenantId ∧ ComesBefore a b i

/-- **A pick goes no further than an eligible tenant**: it serves that one, or another one before it
that is not the one at `a`. -/
theorem pick_turn (hn : (scheduleTenants rt intent).Nodup) {a b : ℕ} {B tenantId : String}
    (hlast : InTurn (scheduleTenants rt intent) a b m.lastScheduledTenant)
    (hb : (scheduleTenants rt intent)[b]? = some B) (heligible : eligibleTenant rt m intent B = true)
    (hs : servedTenant rt intent m = some tenantId) :
    tenantId = B ∨ (InTurn (scheduleTenants rt intent) a b (some tenantId) ∧
      (scheduleTenants rt intent)[a]? ≠ some tenantId) := by
  obtain ⟨last, i, hm, hne, hi, hbefore⟩ := hlast
  obtain ⟨hnext, hne'⟩ := served_some hs
  rw [nextEligibleTenant_scan, rotationStart_after hn (truthy_some.2 ⟨hm, hne⟩) hi] at hnext
  have hlt := (List.getElem?_eq_some_iff.1 hi).1
  rcases firstFrom_turn hlt hb heligible hbefore hnext with rfl | ⟨j, hjlt, hj, hjbefore, hja⟩
  · exact Or.inl rfl
  · refine Or.inr ⟨⟨tenantId, j, rfl, hne', hj, hjbefore⟩, ?_⟩
    intro ha
    -- a tenant stands at one index only
    obtain ⟨hjlt, hj⟩ := List.getElem?_eq_some_iff.1 hj
    obtain ⟨halt, ha⟩ := List.getElem?_eq_some_iff.1 ha
    exact hja ((List.Nodup.getElem_inj_iff hn).1 (hj.trans ha.symm))

/-- Picks that pass an eligible tenant over all stay before it. -/
theorem picks_turn (hn : (scheduleTenants rt intent).Nodup) {a b : ℕ} {B : String}
    (hb : (scheduleTenants rt intent)[b]? = some B) {picks : List PaasControlState} {last last' : Option String}
    (hl : Linked rt intent last picks last') (hlast : InTurn (scheduleTenants rt intent) a b last)
    (heligible : ∀ m ∈ picks, eligibleTenant rt m intent B = true)
    (hpassed : ∀ m ∈ picks, servedTenant rt intent m ≠ some B) : InTurn (scheduleTenants rt intent) a b last' := by
  induction picks generalizing last with
  | nil =>
    obtain rfl : last = last' := hl
    exact hlast
  | cons m picks ih =>
    obtain ⟨rfl, hrest⟩ := hl
    refine ih hrest ?_ (fun m hm => heligible m (List.mem_cons_of_mem _ hm))
      fun m hm => hpassed m (List.mem_cons_of_mem _ hm)
    unfold lastAfter
    cases hs : servedTenant rt intent m with
    | none => exact hlast
    | some tenantId =>
      rcases pick_turn hn hlast hb (heligible m List.mem_cons_self) hs with rfl | ⟨hturn, -⟩
      · exact absurd hs (hpassed m List.mem_cons_self)
      · exact hturn

/-- A pick belongs to an accepted call, so the tenants are different. -/
theorem picks_nodup (hm : m ∈ runPicks rt intent h) : (scheduleTenants rt intent).Nodup := by
  obtain ⟨⟨s, c⟩, -, hm⟩ := List.mem_flatMap.1 hm
  cases c with
  | schedule command =>
    have ha : (schedulePaasJobs rt s intent command).accepted = true := by
      by_contra hrefused
      rw [show PaasCall.picks rt intent ⟨s, .schedule command⟩ = [] from if_neg hrefused] at hm
      cases hm
    obtain ⟨hcheck, -⟩ := schedule_accepted ha
    exact (rt.sortByKey_perm _ _).nodup_iff.2 (stateInvariantError_none.1 hcheck).1.records.tenants
  | _ => cases hm

theorem eligible_known {B : String} (he : eligibleTenant rt m intent B = true) : B ∈ scheduleTenants rt intent := by
  unfold scheduleTenants
  rw [Runtime.mem_sortByKey, ← find_some]
  unfold eligibleTenant at he
  split at he
  · cases he
  · split at he
    · rename_i htenant
      exact ⟨_, htenant⟩
    · cases he

/-- **Round robin**: between two starts of a tenant, within one call or across calls, each other
tenant that is eligible at every pick after the first start, up to the second one, is served. -/
theorem round_robin (rt : Runtime) (intent : PaasSecurityIntent) {h : List PaasCall} {s : PaasControlState}
    (hr : CallRun rt intent h s) {before between after : List PaasControlState} {first second : PaasControlState}
    (hpicks : runPicks rt intent h = before ++ first :: (between ++ second :: after)) {A B : String}
    (hfirst : servedTenant rt intent first = some A) (hsecond : servedTenant rt intent second = some A) (hne : B ≠ A)
    (heligible : ∀ m ∈ between ++ [second], eligibleTenant rt m intent B = true) :
    ∃ m ∈ between, servedTenant rt intent m = some B := by
  by_contra hnone
  have hpassed : ∀ m ∈ between, servedTenant rt intent m ≠ some B := fun m hm hs => hnone ⟨m, hm, hs⟩
  have hn : (scheduleTenants rt intent).Nodup := by
    refine @picks_nodup rt intent first h ?_
    rw [hpicks]
    exact List.mem_append_right _ List.mem_cons_self
  -- where the two tenants stand
  obtain ⟨hnext, hA⟩ := served_some hfirst
  rw [nextEligibleTenant_scan] at hnext
  obtain ⟨offset, -, ha, -⟩ := firstFrom_some hnext
  have heligible' : eligibleTenant rt second intent B = true :=
    heligible second (List.mem_append_right _ (List.mem_singleton_self second))
  obtain ⟨b, hb⟩ := List.mem_iff_getElem?.1 (eligible_known heligible')
  generalize (rotationStart first (scheduleTenants rt intent) + offset) % (scheduleTenants rt intent).length = a at ha
  have hab : a ≠ b := by
    rintro rfl
    exact hne (Option.some.inj (hb.symm.trans ha))
  -- the picks in between stay before `B`, and so does the last one
  have hlinked := run_linked hr
  rw [hpicks] at hlinked
  obtain ⟨mid, -, hlinked⟩ := hlinked.split
  obtain ⟨-, hlinked⟩ := hlinked
  obtain ⟨last, hbetween, hlast, -⟩ := hlinked.split
  have hstart : InTurn (scheduleTenants rt intent) a b (lastAfter rt intent first) := by
    unfold lastAfter
    rw [hfirst]
    exact ⟨A, a, rfl, hA, ha, ComesBefore.start hab⟩
  have hturn := picks_turn hn hb hbetween hstart (fun m hm => heligible m (List.mem_append_left _ hm)) hpassed
  rw [← hlast] at hturn
  rcases pick_turn hn hturn hb heligible' hsecond with heq | ⟨-, hother⟩
  · exact hne heq.symm
  · exact hother ha

/-! ## Starts -/

theorem loop_starts (hd : Durable rt intent m) (now revision : ℤ) (starts : ℕ) (events : List PaasControlEvent) :
    ((startJobs rt intent (scheduleTenants rt intent) now revision starts m events).2.filter
        fun e => isStart e.type).map PaasControlEvent.tenantId =
      (events.filter fun e => isStart e.type).map PaasControlEvent.tenantId ++
        (loopPicks rt intent now starts m).filterMap (servedTenant rt intent) := by
  induction starts generalizing m events with
  | zero => exact (List.append_nil _).symm
  | succ starts ih =>
    rw [startJobs_succ]
    unfold loopPicks
    by_cases hroom : (activeJobs m).length < intent.scheduling.maxGlobalConcurrency
    · rw [if_pos hroom, List.filterMap_cons]
      unfold servedTenant at ih ⊢
      cases hnext : nextStart rt intent (scheduleTenants rt intent) m with
      | none => exact (List.append_nil _).symm
      | some p =>
        obtain ⟨tenantId, jobId, rest, job⟩ := p
        obtain ⟨hm, hglobal⟩ := hd.nextStart hnext
        simp only [Option.map_some]
        rw [ih (hd.start hm hglobal now), List.filter_append, List.map_append, List.append_assoc]
        have htenant : (startedJob job now).tenantId = tenantId := hm.tenant
        simp [isStart, event, htenant]
    · rw [if_neg hroom, nextStart_full hroom]
      exact (List.append_nil _).symm

/-- **The events of a call tell which tenants its picks have served.** -/
theorem call_starts (call : PaasCall) :
    ((call.transition rt intent).events.filter fun e => isStart e.type).map PaasControlEvent.tenantId =
      (call.picks rt intent).filterMap (servedTenant rt intent) := by
  obtain ⟨s, c⟩ := call
  cases c with
  | schedule command =>
    show ((schedulePaasJobs rt s intent command).events.filter _).map _ = _
    rcases @schedule_refused rt intent s command with ⟨hrefused, -, hevents⟩ | ha
    · have hnone : PaasCall.picks rt intent ⟨s, .schedule command⟩ = [] := by
        refine if_neg ?_
        show (schedulePaasJobs rt s intent command).accepted ≠ true
        rw [hrefused]
        exact nofun
      rw [hnone, hevents]
      rfl
    · have hpicks : PaasCall.picks rt intent ⟨s, .schedule command⟩ =
          loopPicks rt intent command.nowEpochSeconds (maxStarts intent command)
            (expireQueuedJobs s command.nowEpochSeconds (addNumber s.revision 1)).1 := if_pos ha
      obtain ⟨hcheck, -, hs⟩ := schedule_accepted ha
      have hevents : (schedulePaasJobs rt s intent command).events = (scheduled rt intent s command).2 := by
        rcases hs with ⟨hsilent, hs⟩ | hs
        · rw [hs, hsilent]
          rfl
        · rw [hs]
          rfl
      have hd := (stateInvariantError_none.1 hcheck).1.expire command.nowEpochSeconds (addNumber s.revision 1)
      have hexpiry : (expireQueuedJobs s command.nowEpochSeconds (addNumber s.revision 1)).2.filter
          (fun e => isStart e.type) = [] := by
        rw [List.filter_eq_nil_iff]
        intro e he
        rw [expireQueuedJobs_events _ _ _ e he]
        exact Bool.false_ne_true
      rw [hpicks, hevents, scheduled, loop_starts hd, hexpiry]
      rfl
  | _ =>
    -- no other command starts a job
    show List.map _ _ = []
    rw [List.map_eq_nil_iff, List.filter_eq_nil_iff]
    intro e he hstart
    rcases @exec_refused rt intent s _ with ⟨-, -, hevents⟩ | ha
    · rw [show (PaasCall.transition rt intent ⟨s, _⟩).events = [] from hevents] at he
      cases he
    · rcases exec_starts ha e.jobId with hzero | ⟨-, command, job, hc, -⟩
      · exact List.countP_eq_zero.1 hzero e he (by simp [hstart])
      · cases hc

/-! ## A sample round -/

/-- Both tenants enqueue two builds, and the scheduler is called once. -/
def roundCalls : List PaasCall := callsFrom tenantRuntime twoTenants (createPaasControlState twoTenants) [
  .enqueue buildA,
  .enqueue (tenantBuild "tenant-a" "site" "key-c" "job-c" 1),
  .enqueue (buildB 2),
  .enqueue (tenantBuild "tenant-b" "site" "key-d" "job-d" 3),
  .schedule ⟨4, 1000, none⟩]

/-- `round_robin` on the sample round: the first tenant starts twice, and the second in between. -/
theorem round_robin_sample : ∃ s first m second, CallRun tenantRuntime twoTenants roundCalls s ∧
    runPicks tenantRuntime twoTenants roundCalls = [first, m, second] ∧
    servedTenant tenantRuntime twoTenants first = some "tenant-a" ∧
    servedTenant tenantRuntime twoTenants second = some "tenant-a" ∧
    ∃ between ∈ [m], servedTenant tenantRuntime twoTenants between = some "tenant-b" := by
  have hserved : (runPicks tenantRuntime twoTenants roundCalls).map (servedTenant tenantRuntime twoTenants) =
      [some "tenant-a", some "tenant-b", some "tenant-a"] := by decide +kernel
  have heligible : ∀ m ∈ runPicks tenantRuntime twoTenants roundCalls,
      eligibleTenant tenantRuntime m twoTenants "tenant-b" = true := by decide +kernel
  obtain ⟨first, m, second, hpicks⟩ := List.length_eq_three.1 (by simpa using congrArg List.length hserved)
  rw [hpicks] at hserved heligible
  simp only [List.map_cons, List.map_nil, List.cons.injEq, and_true] at hserved
  have hrun := callsFrom_run tenantRuntime twoTenants (createPaasControlState twoTenants) [
    .enqueue buildA,
    .enqueue (tenantBuild "tenant-a" "site" "key-c" "job-c" 1),
    .enqueue (buildB 2),
    .enqueue (tenantBuild "tenant-b" "site" "key-d" "job-d" 3),
    .schedule ⟨4, 1000, none⟩]
  refine ⟨_, first, m, second, hrun, hpicks, hserved.1, hserved.2.2, ?_⟩
  have hround : runPicks tenantRuntime twoTenants roundCalls = [] ++ first :: ([m] ++ second :: []) := hpicks
  exact round_robin tenantRuntime twoTenants hrun hround hserved.1 hserved.2.2 (by decide)
    fun m hm => heligible m (List.mem_cons_of_mem _ hm)

end SecureSaas.Paas
