import Declarations.Proofs.Inference.Grounded
import Declarations.Proofs.Inference.Violation

/-!
# Who loses an attribute

A function that loses an attribute takes it from the functions that were inferred to have it and
call the first one, and from their callers in turn.  Where the attribute is written in the source of
such a caller, it stays, and the caller is reported.  The callers are found along edges that were
collected once, before the first of them was looked at; still no one is missed, no one else loses
anything, and no one is reported twice.
-/

namespace Declarations

namespace Arena

/-- The functions that have an attribute because of the target: the target itself, and every
function that has the attribute, can lose it, and calls one of them. -/
inductive Relies (arena : Arena) (wanted : Attribute) (target : DeclId) : DeclId → Prop where
  | target : Relies arena wanted target target
  | caller {caller callee : DeclId} (relies : Relies arena wanted target callee)
      (guarantees : caller ∈ arena.guaranteeing wanted)
      (retractable : caller ∈ arena.retractable wanted) (calls : arena.CallsTo caller callee) :
      Relies arena wanted target caller

/-- The attribute is written in the source of the function, so the function cannot do without.
Trusted functions can do without safety. -/
def Insists (arena : Arena) (wanted : Attribute) (function : DeclId) : Prop :=
  arena.Promises function wanted ∧ ¬(wanted = .safety ∧ arena.Trusts function)

variable {arena before after : Arena} {config : Config} {wanted : Attribute}
variable {function target : DeclId} {declaration : Declaration} {dropped : List DeclId}

theorem insists_iff_of_get (hget : arena.get function = .ok declaration) :
    arena.Insists wanted function ↔ declaration.promises wanted = true ∧
      ¬(wanted = .safety ∧ .trusted ∈ declaration.storage) := by
  rw [Insists, promises_iff_of_get hget, trusts_iff_of_get hget]

theorem Insists.notMem_retractable (hinsists : arena.Insists wanted function) :
    function ∉ arena.retractable wanted := by
  intro hretractable
  obtain ⟨declaration, hget, hwithdrawable⟩ := hretractable
  rw [insists_iff_of_get hget] at hinsists
  rw [Declaration.not_isWithdrawable_of_promises hinsists.1] at hwithdrawable
  contradiction

/-- Who insists on an attribute has it. -/
theorem Insists.guarantees (hinsists : arena.Insists wanted function) :
    function ∈ arena.guaranteeing wanted := by
  obtain ⟨declaration, hget, hpromises⟩ := hinsists.1
  rw [guaranteeing_eq {}]
  exact ⟨declaration, hget, Declaration.status_of_promises {} hpromises⟩

namespace Withdrawn

/-- Nothing that cannot be taken back at first can be taken back later. -/
theorem retractable_subset (hwithdrawn : Withdrawn wanted dropped before after) :
    after.retractable wanted ⊆ before.retractable wanted := by
  intro id hid
  obtain ⟨declaration, hget, hwithdrawable⟩ := hid
  have hkept : id ∉ dropped := hwithdrawn.notMem_of_isWithdrawable hget hwithdrawable
  rw [hwithdrawn.get_eq, if_neg hkept] at hget
  exact ⟨declaration, hget, hwithdrawable⟩

/-- The same functions insist as before. -/
theorem insists_iff (hwithdrawn : Withdrawn wanted dropped before after) :
    after.Insists wanted function ↔ before.Insists wanted function := by
  by_cases hmem : function ∈ dropped
  · obtain ⟨declaration, hget, hwithdrawable⟩ := hwithdrawn.withdrawable function hmem
    have hbefore : ¬before.Insists wanted function := by
      intro hinsists
      exact hinsists.notMem_retractable ⟨declaration, hget, hwithdrawable⟩
    have hafter : ¬after.Insists wanted function := by
      intro hinsists
      have hholds := hinsists.guarantees
      rw [guaranteeing_eq {}, hwithdrawn.mem_holds_iff] at hholds
      exact hholds.1 hmem
    exact iff_of_false hafter hbefore
  · have hsame : after.get function = before.get function := by
      rw [hwithdrawn.get_eq, if_neg hmem]
    simp only [Insists, Promises, Trusts, hsame]

end Withdrawn

end Arena

def CallEdge.report (wanted : Attribute) (edge : CallEdge) : DeclError :=
  .attributeViolation edge.caller wanted (some edge.effect)

namespace Retreat

open Arena Relation

variable {before changed : Arena} {wanted : Attribute} {target : DeclId} {edges : List CallEdge}
variable {edge : CallEdge} {retreat looked : Retreat} {dropped : List DeclId} {id : DeclId}

/-- The edges are the calls of the functions, other than the target, that have the attribute. -/
def IsCallGraph (wanted : Attribute) (before : Arena) (target : DeclId) (edges : List CallEdge) :
    Prop :=
  ∀ edge, edge ∈ edges ↔ edge.caller ≠ target ∧ edge.caller ∈ before.guaranteeing wanted ∧
    edge.effect ∈ before.effectsOf edge.caller ∧ edge.callee ∈ before.calleesOf edge.effect

theorem IsCallGraph.callsTo (hgraph : IsCallGraph wanted before target edges)
    (hedge : edge ∈ edges) : before.CallsTo edge.caller edge.callee :=
  ⟨edge.effect, ((hgraph edge).mp hedge).2.2⟩

/-- Every call of such a function is one of the edges. -/
theorem IsCallGraph.exists_edge (hgraph : IsCallGraph wanted before target edges)
    {caller callee : DeclId} (hcaller : caller ≠ target)
    (hguarantees : caller ∈ before.guaranteeing wanted) (hcalls : before.CallsTo caller callee) :
    ∃ edge ∈ edges, edge.caller = caller ∧ edge.callee = callee := by
  obtain ⟨effect, heffect, hcallee⟩ := hcalls
  have hedge : ⟨callee, caller, effect⟩ ∈ edges :=
    (hgraph _).mpr ⟨hcaller, hguarantees, heffect, hcallee⟩
  exact ⟨_, hedge, rfl, rfl⟩

/-! ## What is taken back -/

/-- Only functions that rely on the target lose the attribute. -/
theorem Sound.relies_of_mem (hsound : Sound wanted before target edges [] dropped retreat)
    (hgraph : IsCallGraph wanted before target edges) (hid : id ∈ dropped) :
    before.Relies wanted target id := by
  have hleads := hsound.leads id hid
  clear hid
  -- The chain of calls is followed from its end, where the target is.
  induction hleads using ReflTransGen.head_induction_on with
  | refl => exact .target
  | @head caller callee hcall hrest ih =>
    obtain ⟨hcaller, edge, hedge, hsame, hend⟩ := hcall
    rw [← hsame] at hcaller ⊢
    rw [← hend] at ih
    have hguarantees := ((hgraph edge).mp hedge).2.1
    have hretractable : edge.caller ∈ before.retractable wanted :=
      hsound.withdrawn.withdrawable edge.caller hcaller
    exact .caller ih hguarantees hretractable (hgraph.callsTo hedge)

/-- When no one waits any more, every function that relies on the target has lost the attribute. -/
theorem Sound.mem_of_relies (hsound : Sound wanted before target edges [] dropped retreat)
    (hgraph : IsCallGraph wanted before target edges) (hwaiting : retreat.waiting = [])
    (hrelies : before.Relies wanted target id) : id ∈ dropped := by
  induction hrelies with
  | target => exact hsound.root_mem
  | @caller caller callee hcallee hguarantees hretractable hcalls ih =>
    -- The calls of the target itself were not collected, so it needs a case of its own.
    by_cases hcaller : caller = target
    · rw [hcaller]
      exact hsound.root_mem
    · obtain ⟨edge, hedge, hsame, hend⟩ := hgraph.exists_edge hcaller hguarantees hcalls
      obtain ⟨declaration, hget, hwithdrawable⟩ := hretractable
      rw [← hend] at ih
      have hseen : edge.caller ∈ retreat.seen := hsound.seen_of_call hwaiting hedge ih
      rw [hsame] at hseen
      exact hsound.seen_dropped caller hseen declaration hget hwithdrawable

/-! ## What is reported -/

/-- What was taken back, and what was reported, so far.  Only callers of functions that rely on the
target are looked at, and those who insist were reported when they were. -/
structure Reports (wanted : Attribute) (before : Arena) (target : DeclId) (edges : List CallEdge)
    (retreat : Retreat) : Prop where
  withdrawn : ∃ dropped, Withdrawn wanted dropped before retreat.arena
  waiting_relies : ∀ id ∈ retreat.waiting, before.Relies wanted target id
  blames : ∃ blamed : List CallEdge, retreat.errors = blamed.map (CallEdge.report wanted) ∧
    (∀ edge ∈ blamed, edge ∈ edges ∧ before.Relies wanted target edge.callee) ∧
    (blamed.map CallEdge.caller).Nodup ∧
    ∀ id, id ∈ blamed.map CallEdge.caller ↔ id ∈ retreat.seen ∧ before.Insists wanted id

/-- A caller who does not insist was looked at. -/
theorem Reports.pass (hreports : Reports wanted before target edges retreat)
    {waiting : List DeclId} (hwithdrawn : ∃ dropped, Withdrawn wanted dropped before changed)
    (hwaiting : ∀ id ∈ waiting, before.Relies wanted target id)
    (hcaller : ¬before.Insists wanted edge.caller) :
    Reports wanted before target edges
      { retreat with arena := changed, waiting, seen := edge.caller :: retreat.seen } where
  withdrawn := hwithdrawn
  waiting_relies := hwaiting
  blames := by
    obtain ⟨blamed, herrors, hedges, hnodup, hmem⟩ := hreports.blames
    refine ⟨blamed, herrors, hedges, hnodup, ?_⟩
    intro id
    rw [hmem, List.mem_cons]
    by_cases hsame : id = edge.caller
    · rw [hsame]
      simp [hcaller]
    · simp [hsame]

/-- A caller who insists is reported. -/
theorem Reports.blame (hreports : Reports wanted before target edges retreat) (hedge : edge ∈ edges)
    (hcallee : before.Relies wanted target edge.callee) (hunseen : edge.caller ∉ retreat.seen)
    (hcaller : before.Insists wanted edge.caller) :
    Reports wanted before target edges
      { retreat with
        seen := edge.caller :: retreat.seen
        errors := retreat.errors ++ [edge.report wanted] } where
  withdrawn := hreports.withdrawn
  waiting_relies := hreports.waiting_relies
  blames := by
    obtain ⟨blamed, herrors, hedges, hnodup, hmem⟩ := hreports.blames
    have hnew : edge.caller ∉ blamed.map CallEdge.caller := by
      intro hold
      exact hunseen ((hmem edge.caller).mp hold).1
    refine ⟨blamed ++ [edge], ?_, ?_, ?_, ?_⟩
    · rw [herrors, List.map_append, List.map_singleton]
    · intro other hother
      rw [List.mem_append, List.mem_singleton] at hother
      cases hother with
      | inl hold => exact hedges other hold
      | inr hlast =>
        rw [hlast]
        exact ⟨hedge, hcallee⟩
    · rw [List.map_append, List.map_singleton, ← List.concat_eq_append]
      exact hnodup.concat hnew
    · intro id
      rw [List.map_append, List.mem_append, hmem, List.mem_cons]
      by_cases hsame : id = edge.caller
      · rw [hsame]
        simp [hcaller]
      · simp [hsame]

/-- One caller is looked at. -/
theorem Reports.lookAt (hreports : Reports wanted before target edges retreat)
    (hgraph : IsCallGraph wanted before target edges) (hedge : edge ∈ edges)
    (hcallee : before.Relies wanted target edge.callee)
    (hrun : lookAt wanted retreat edge = .ok looked) :
    Reports wanted before target edges looked := by
  rw [Retreat.lookAt] at hrun
  split at hrun
  · cases hrun
    exact hreports
  · next hunseen =>
    obtain ⟨⟨result, changed⟩, hwithdraw, hlooked⟩ := bind_eq_ok_iff.mp hrun
    obtain ⟨dropped, hwithdrawn⟩ := hreports.withdrawn
    obtain ⟨declaration, hget, hcases⟩ := withdraw_cases hwithdraw
    have hinsists : before.Insists wanted edge.caller ↔ declaration.promises wanted = true ∧
        ¬(wanted = .safety ∧ .trusted ∈ declaration.storage) := by
      rw [← hwithdrawn.insists_iff, insists_iff_of_get hget]
    -- The caller is reported, loses the attribute, or is trusted and goes free.
    obtain ⟨rfl, rfl, hpromises⟩ | ⟨rfl, hwithdrawable, hmodify⟩ | ⟨rfl, rfl, hpromises⟩ := hcases
    · cases hlooked
      exact hreports.blame hedge hcallee hunseen (hinsists.mpr hpromises)
    · cases hlooked
      have hretractable : edge.caller ∈ before.retractable wanted :=
        hwithdrawn.retractable_subset ⟨declaration, hget, hwithdrawable⟩
      apply hreports.pass ⟨_, (hwithdrawn.tail hget hwithdrawable hmodify).2⟩
      · rw [List.forall_mem_cons]
        constructor
        · have hguarantees := ((hgraph edge).mp hedge).2.1
          exact .caller hcallee hguarantees hretractable (hgraph.callsTo hedge)
        · exact hreports.waiting_relies
      · intro hcaller
        exact hcaller.notMem_retractable hretractable
    · cases hlooked
      apply hreports.pass ⟨dropped, hwithdrawn⟩ hreports.waiting_relies
      intro hcaller
      rw [hinsists] at hcaller
      exact hcaller.2 (hpromises hcaller.1)

/-- All callers are looked at. -/
theorem Reports.run (hreports : Reports wanted before target edges retreat)
    (hgraph : IsCallGraph wanted before target edges) {rounds : Nat}
    (hrun : run wanted edges rounds retreat = .ok looked) :
    Reports wanted before target edges looked := by
  apply run_keeps (Reports wanted before target edges) (before.Relies wanted target) _ _ _ hreports
    hrun
  · intro retreat hreports
    exact hreports.waiting_relies
  · intro retreat callee waiting hreports hwaiting
    refine ⟨hreports.withdrawn, ?_, hreports.blames⟩
    intro id hid
    apply hreports.waiting_relies id
    rw [hwaiting]
    exact List.mem_cons_of_mem callee hid
  · intro retreat hreports edge hedge hcallee looked hlook
    exact hreports.lookAt hgraph hedge hcallee hlook

/-- When no one waits any more, those who insist and call a function that lost the attribute were
reported. -/
theorem Sound.mem_blamed_iff (hsound : Sound wanted before target edges [] dropped retreat)
    (hgraph : IsCallGraph wanted before target edges) (hwaiting : retreat.waiting = [])
    {blamed : List CallEdge}
    (hedges : ∀ edge ∈ blamed, edge ∈ edges ∧ before.Relies wanted target edge.callee)
    (hmem : ∀ id, id ∈ blamed.map CallEdge.caller ↔
      id ∈ retreat.seen ∧ before.Insists wanted id) :
    id ∈ blamed.map CallEdge.caller ↔ before.Insists wanted id ∧
      ∃ callee, before.Relies wanted target callee ∧ before.CallsTo id callee := by
  constructor
  · intro hid
    obtain ⟨edge, hedge, hsame⟩ := List.mem_map.mp hid
    have hcalls := hgraph.callsTo (hedges edge hedge).1
    rw [hsame] at hcalls
    exact ⟨((hmem id).mp hid).2, edge.callee, (hedges edge hedge).2, hcalls⟩
  · rintro ⟨hinsists, callee, hcallee, hcalls⟩
    have hcaller : id ≠ target := by
      intro hsame
      rw [hsame] at hinsists
      apply hinsists.notMem_retractable
      exact hsound.withdrawn.withdrawable target hsound.root_mem
    obtain ⟨edge, hedge, hsame, hend⟩ := hgraph.exists_edge hcaller hinsists.guarantees hcalls
    have hdropped := hsound.mem_of_relies hgraph hwaiting hcallee
    rw [← hend] at hdropped
    have hseen := hsound.seen_of_call hwaiting hedge hdropped
    rw [hsame] at hseen
    exact (hmem id).mpr ⟨hseen, hinsists⟩

end Retreat

namespace Arena

variable {arena before after start : Arena} {config : Config} {wanted : Attribute}
variable {function target : DeclId} {declaration : Declaration} {errors : List DeclError}
variable {cause : Option Effect}

/-- The attribute was taken back from the target and from everyone who relied on it. -/
structure Retracted (wanted : Attribute) (target : DeclId) (before after : Arena)
    (errors : List DeclError) : Prop where
  /-- Who relied on the target does not have the attribute any more. -/
  get_of_relies : ∀ id, before.Relies wanted target id → ∃ declaration,
    before.get id = .ok declaration ∧ after.get id = .ok (declaration.withdraw wanted)
  /-- Nothing else has changed. -/
  get_of_not_relies : ∀ id, ¬before.Relies wanted target id → after.get id = before.get id
  aggregates_eq : after.aggregates = before.aggregates
  nextSequence_eq : after.nextSequence = before.nextSequence
  /-- Everyone who insists and calls one of those is reported once, with such a call. -/
  reports : ∃ blamed : List CallEdge, errors = blamed.map (CallEdge.report wanted) ∧
    (blamed.map CallEdge.caller).Nodup ∧
    (∀ function, function ∈ blamed.map CallEdge.caller ↔ before.Insists wanted function ∧
      ∃ callee, before.Relies wanted target callee ∧ before.CallsTo function callee) ∧
    ∀ edge ∈ blamed, before.Relies wanted target edge.callee ∧
      edge.effect ∈ before.effectsOf edge.caller ∧ edge.callee ∈ before.calleesOf edge.effect

/-- When no one waits any more, everyone who relied on the target has lost the attribute, and what
was reported is complete. -/
theorem retracted_of_sound {edges : List CallEdge} {retreat : Retreat} {dropped : List DeclId}
    (hdone : Retreat.Sound wanted before target edges [] dropped retreat)
    (hgraph : Retreat.IsCallGraph wanted before target edges) (hwaiting : retreat.waiting = [])
    (hreports : Retreat.Reports wanted before target edges retreat) :
    Retracted wanted target before retreat.arena retreat.errors := by
  have hrelies : ∀ id, id ∈ dropped ↔ before.Relies wanted target id := by
    intro id
    exact ⟨hdone.relies_of_mem hgraph, hdone.mem_of_relies hgraph hwaiting⟩
  constructor
  · intro id hid
    rw [← hrelies] at hid
    obtain ⟨declaration, hget, -⟩ := hdone.withdrawn.withdrawable id hid
    refine ⟨declaration, hget, ?_⟩
    rw [hdone.withdrawn.get_eq, if_pos hid, hget, ok_map]
  · intro id hid
    rw [← hrelies] at hid
    rw [hdone.withdrawn.get_eq, if_neg hid]
  · exact aggregates_of_keep_eq hdone.withdrawn.outline_eq
  · exact nextSequence_of_keep_eq hdone.withdrawn.outline_eq
  · obtain ⟨blamed, herrors, hblamed, hnodup, hmem⟩ := hreports.blames
    refine ⟨blamed, herrors, hnodup, ?_, ?_⟩
    · intro function
      exact hdone.mem_blamed_iff hgraph hwaiting hblamed hmem
    · intro edge hedge
      obtain ⟨hcollected, hcallee⟩ := hblamed edge hedge
      exact ⟨hcallee, ((hgraph edge).mp hcollected).2.2⟩

/-- The callers of a function that lost the attribute lose it if they relied on it, and are reported
if they insist. -/
theorem exists_retracted (hclosed : before.Closed) (hget : before.get target = .ok declaration)
    (hwithdrawable : declaration.isWithdrawable wanted = true)
    (hstart : (before.modify target fun declaration => declaration.withdraw wanted) = .ok start) :
    ∃ errors after, start.downgradeCallers target wanted = .ok (errors, after) ∧
      Retracted wanted target before after errors := by
  obtain ⟨edges, retreat, dropped, hdowngrade, hrun, hdone, hwaiting, hedges⟩ :=
    exists_retreat {} hclosed hget hwithdrawable hstart
  have hgraph : Retreat.IsCallGraph wanted before target edges := by
    intro edge
    rw [hedges, guaranteeing_eq {}]
  have hinitial : Retreat.Reports wanted before target edges
      { arena := start, waiting := [target] } := by
    refine ⟨⟨[target], (Withdrawn.refl.tail hget hwithdrawable hstart).2⟩, ?_, [], rfl, ?_⟩
    · intro id hid
      rw [List.mem_singleton.mp hid]
      exact .target
    · simp
  have hreports := hinitial.run hgraph hrun
  exact ⟨retreat.errors, retreat.arena, hdowngrade,
    retracted_of_sound hdone hgraph hwaiting hreports⟩

/-- A downgrade takes an attribute that can be taken back from everyone who relies on it. -/
theorem Closed.downgrade_of_retractable (hclosed : before.Closed)
    (halias : before.aliasedFunction function = .ok target)
    (htarget : target ∈ before.retractable wanted) (config : Config) (cause : Option Effect) :
    ∃ errors after, before.downgrade config function wanted cause = .ok (errors, after) ∧
      Retracted wanted target before after errors := by
  obtain ⟨declaration, hget, hwithdrawable⟩ := htarget
  obtain ⟨start, hwithdraw, hstart⟩ := exists_withdraw hget hwithdrawable cause
  obtain ⟨errors, after, hrun, hretracted⟩ :=
    exists_retracted hclosed hget hwithdrawable hstart
  exact ⟨errors, after, by simp [downgrade, halias, hwithdraw, hrun], hretracted⟩

/-- A downgrade of a function that insists on the attribute is an error and nothing else. -/
theorem downgrade_of_insists (halias : before.aliasedFunction function = .ok target)
    (htarget : before.Insists wanted target)
    (hrun : before.downgrade config function wanted cause = .ok (errors, after)) :
    errors = [.attributeViolation target wanted cause] ∧ after = before := by
  rw [downgrade, halias, ok_bind] at hrun
  obtain ⟨⟨result, changed⟩, hwithdraw, hrest⟩ := bind_eq_ok_iff.mp hrun
  obtain ⟨declaration, hget, hcases⟩ := withdraw_cases hwithdraw
  obtain ⟨rfl, rfl, -⟩ | ⟨-, hwithdrawable, -⟩ | ⟨-, -, hpromises⟩ := hcases
  · cases hrest
    exact ⟨rfl, rfl⟩
  · have hretractable : target ∈ before.retractable wanted := ⟨declaration, hget, hwithdrawable⟩
    exact absurd hretractable htarget.notMem_retractable
  · rw [insists_iff_of_get hget] at htarget
    exact absurd (hpromises htarget.1) htarget.2

/-- A downgrade of a function takes the attribute from exactly those who relied on it, and reports
those of their callers in the source of which it is written. -/
theorem Closed.downgrade_retracts (hclosed : before.Closed)
    (hfunction : function.number < before.size) (config : Config) (wanted : Attribute)
    (cause : Option Effect) :
    ∃ target errors after, before.aliasedFunction function = .ok target ∧
      before.downgrade config function wanted cause = .ok (errors, after) ∧
      (target ∈ before.retractable wanted → Retracted wanted target before after errors) ∧
      (before.Insists wanted target →
        errors = [.attributeViolation target wanted cause] ∧ after = before) := by
  obtain ⟨target, errors, after, halias, -, hrun, -⟩ :=
    exists_downgraded config wanted hclosed hfunction cause
  refine ⟨target, errors, after, halias, hrun, ?_, ?_⟩
  · intro htarget
    obtain ⟨others, later, hother, hretracted⟩ :=
      hclosed.downgrade_of_retractable halias htarget config cause
    rw [hrun, Except.ok.injEq, Prod.mk.injEq] at hother
    rw [hother.1, hother.2]
    exact hretracted
  · intro htarget
    exact downgrade_of_insists halias htarget hrun

/-- A function that was inferred not to throw, a caller for which the same was inferred, and a
caller of that one in the source of which it is written. -/
def inferredCallers : Arena where
  declarations := #[(Declaration.ofBody []).conclude .nothrow true,
    (Declaration.ofBody [.call ⟨0⟩ .synthetic]).conclude .nothrow true,
    { Declaration.ofBody [.call ⟨1⟩ .synthetic] with storage := {.nothrow, .inference} }]

theorem downgrade_retracts_inferredCallers :
    inferredCallers.Closed ∧ (⟨0⟩ : DeclId).number < inferredCallers.size ∧
    ⟨0⟩ ∈ inferredCallers.retractable .nothrow ∧
    ∃ errors after, inferredCallers.downgrade {} ⟨0⟩ .nothrow none = .ok (errors, after) ∧
      Retracted .nothrow ⟨0⟩ inferredCallers after errors := by
  have hclosed : inferredCallers.Closed := by decide
  have hsize : (⟨0⟩ : DeclId).number < inferredCallers.size := by decide
  have hretractable : ⟨0⟩ ∈ inferredCallers.retractable .nothrow := ⟨_, rfl, by decide⟩
  have halias : inferredCallers.aliasedFunction ⟨0⟩ = .ok ⟨0⟩ := rfl
  obtain ⟨target, errors, after, htarget, hrun, hretracts, -⟩ :=
    hclosed.downgrade_retracts hsize {} .nothrow none
  rw [halias, Except.ok.injEq] at htarget
  rw [← htarget] at hretracts
  exact ⟨hclosed, hsize, hretractable, errors, after, hrun, hretracts hretractable⟩

end Arena

end Declarations
