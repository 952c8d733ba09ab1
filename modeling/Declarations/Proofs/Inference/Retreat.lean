import Declarations.Proofs.Inference.Withdrawal

/-!
# Taking an attribute from callers

When a function loses an attribute, the functions that have it because of a call of the first one
lose it as well, and so on along the calls.  The work is done with a list of functions whose callers
are still to be looked at.  It ends because every caller is looked at once, and at the end no
function with an inferred attribute calls one that has lost it.
-/

namespace Declarations

open Relation

namespace Arena

/-- What a lost attribute leaves behind.  Every function in `dropped` leads to `root` by calls of
functions in `dropped`, and a caller of one of them is in `dropped` as well, unless its attribute
cannot be taken back. -/
structure Retreats (config : Config) (wanted : Attribute) (root : DeclId) (dropped : List DeclId)
    (before after : Arena) : Prop where
  withdrawn : Withdrawn wanted dropped before after
  root_mem : root ∈ dropped
  leads : ∀ id ∈ dropped, ReflTransGen (fun caller callee =>
    caller ∈ dropped ∧ before.CallsTo caller callee) id root
  complete : ∀ callee ∈ dropped, ∀ caller declaration, before.get caller = .ok declaration →
    declaration.isWithdrawable wanted = true → caller ∈ before.withStatus config wanted .holds →
    before.CallsTo caller callee → caller ∈ dropped

variable {arena before after : Arena} {config : Config} {wanted : Attribute} {root : DeclId}
variable {edges rest : List CallEdge} {dropped : List DeclId}

/-! ## The calls of functions that have the attribute -/

/-- The edges of a caller are the calls that its effects make. -/
theorem exists_callEdges (hclosed : arena.Closed) (caller : DeclId) {effects : List Effect}
    (heffects : ∀ effect ∈ effects, ∀ handle ∈ effect.handles, handle.number < arena.size) :
    ∃ edges, arena.callEdges caller effects = .ok edges ∧
      ∀ edge, edge ∈ edges ↔ edge.caller = caller ∧ edge.effect ∈ effects ∧
        edge.callee ∈ arena.calleesOf edge.effect := by
  induction effects with
  | nil => exact ⟨[], rfl, by simp⟩
  | cons effect effects ih =>
    obtain ⟨edges, hedges, hmem⟩ :=
      ih fun other hother => heffects other (List.mem_cons_of_mem effect hother)
    cases hnamed : effect.callee? with
    | none =>
      refine ⟨edges, by simp [callEdges, hnamed, hedges], fun edge => ?_⟩
      rw [hmem]
      refine and_congr_right fun _ =>
        ⟨fun hedge => ⟨List.mem_cons_of_mem effect hedge.1, hedge.2⟩, ?_⟩
      rintro ⟨heffect, hcallee⟩
      obtain heffect | heffect := List.mem_cons.mp heffect
      · obtain ⟨named, hcall, -⟩ := hcallee
        rw [heffect, hnamed] at hcall
        contradiction
      · exact ⟨heffect, hcallee⟩
    | some named =>
      have hbound : named.number < arena.size := by
        apply heffects effect List.mem_cons_self
        cases effect <;> simp_all [Effect.callee?, Effect.handles]
      obtain ⟨callee, halias, -⟩ := hclosed.aliasedFunction hbound
      have hcallees : ∀ other, other ∈ arena.calleesOf effect ↔ other = callee := by
        intro other
        simp [calleesOf, hnamed, halias, eq_comm]
      refine ⟨⟨callee, caller, effect⟩ :: edges,
        by simp [callEdges, hnamed, halias, hedges], fun edge => ?_⟩
      rw [List.mem_cons, hmem, List.mem_cons]
      obtain ⟨edgeCallee, edgeCaller, edgeEffect⟩ := edge
      simp only [CallEdge.mk.injEq]
      by_cases heffect : edgeEffect = effect
      · subst edgeEffect
        rw [hcallees]
        tauto
      · simp [heffect]

/-- The edges of a declaration are its calls if it has the attribute. -/
theorem exists_edgesOf (config : Config) (wanted : Attribute) (hclosed : arena.Closed)
    {caller : DeclId} {declaration : Declaration}
    (hget : arena.get caller = .ok declaration) :
    ∃ edges, arena.edgesOf wanted caller declaration = .ok edges ∧
      ∀ edge, edge ∈ edges ↔ edge.caller = caller ∧
        caller ∈ arena.withStatus config wanted .holds ∧
        edge.effect ∈ arena.effectsOf caller ∧ edge.callee ∈ arena.calleesOf edge.effect := by
  rw [mem_withStatus_iff_of_get hget, Declaration.status_eq_holds_iff]
  cases hfunc : declaration.asFunc? with
  | none => exact ⟨[], by simp [edgesOf, hfunc], by simp [Declaration.isFunction, hfunc]⟩
  | some state =>
    by_cases hholds : wanted.holdsIn declaration.storage = true
    · obtain ⟨edges, hedges, hmem⟩ := exists_callEdges hclosed caller
        (fun effect heffect handle hhandle => hclosed.lt_of_mem_handles hget
          (mem_handles_of_effect hfunc heffect hhandle))
      refine ⟨edges, by simp [edgesOf, hfunc, hholds, hedges], fun edge => ?_⟩
      simp [hmem, effectsOf_of_get hget hfunc, Declaration.isFunction, hfunc, hholds]
    · exact ⟨[], by simp [edgesOf, hfunc, hholds], by simp [hholds]⟩

/-- The edges are the calls of the functions that have the attribute. -/
theorem exists_holdingEdges (config : Config) (wanted : Attribute) (hclosed : arena.Closed) :
    ∃ edges, arena.holdingEdges wanted = .ok edges ∧
      ∀ edge, edge ∈ edges ↔ edge.caller ∈ arena.withStatus config wanted .holds ∧
        edge.effect ∈ arena.effectsOf edge.caller ∧
        edge.callee ∈ arena.calleesOf edge.effect := by
  have hentries : ∀ (declaration : Declaration) (number : Nat),
      (declaration, number) ∈ arena.declarations.toList.zipIdx ↔
        arena.get ⟨number⟩ = .ok declaration := by
    intro declaration number
    rw [List.mem_zipIdx_iff_getElem?, get_eq_ok_iff]
    simp
  have hedges : ∀ entry ∈ arena.declarations.toList.zipIdx,
      ∃ edges, arena.edgesOf wanted ⟨entry.2⟩ entry.1 = .ok edges := by
    rintro ⟨declaration, number⟩ hentry
    obtain ⟨edges, hedges, -⟩ := exists_edgesOf config wanted hclosed ((hentries _ _).mp hentry)
    exact ⟨edges, hedges⟩
  obtain ⟨lists, hlists, hmem⟩ := exists_mapM hedges
  refine ⟨lists.flatten, by simp only [holdingEdges]; rw [hlists]; rfl, fun edge => ?_⟩
  rw [List.mem_flatten]
  constructor
  · rintro ⟨list, hlist, hedge⟩
    obtain ⟨⟨declaration, number⟩, hentry, hlist⟩ := (hmem list).mp hlist
    obtain ⟨found, hfound, hiff⟩ := exists_edgesOf config wanted hclosed
      ((hentries _ _).mp hentry)
    rw [hfound, Except.ok.injEq] at hlist
    subst hlist
    obtain ⟨hcaller, hcall⟩ := (hiff edge).mp hedge
    rwa [hcaller]
  · intro hedge
    obtain ⟨declaration, hget, -⟩ := hedge.1
    obtain ⟨found, hfound, hiff⟩ := exists_edgesOf config wanted hclosed
      hget
    exact ⟨found, (hmem found).mpr ⟨⟨declaration, _⟩, (hentries _ _).mpr hget, hfound⟩,
      (hiff edge).mpr ⟨rfl, hedge⟩⟩

end Arena

namespace Retreat

open Arena

variable {arena before : Arena} {config : Config} {wanted : Attribute} {root : DeclId}
variable {edges rest : List CallEdge} {dropped : List DeclId} {retreat : Retreat}

/-- How far the work has come.  An edge into a dropped function either waits with that function, is
one of those in `rest`, or was looked at. -/
structure Sound (wanted : Attribute) (before : Arena) (root : DeclId) (edges rest : List CallEdge)
    (dropped : List DeclId) (retreat : Retreat) : Prop where
  withdrawn : Withdrawn wanted dropped before retreat.arena
  root_mem : root ∈ dropped
  waiting_subset : ∀ id ∈ retreat.waiting, id ∈ dropped
  seen_nodup : retreat.seen.Nodup
  seen_lt : ∀ id ∈ retreat.seen, id.number < before.size
  seen_dropped : ∀ caller ∈ retreat.seen, ∀ declaration, before.get caller = .ok declaration →
    declaration.isWithdrawable wanted = true → caller ∈ dropped
  leads : ∀ id ∈ dropped, ReflTransGen (fun caller callee =>
    caller ∈ dropped ∧ ∃ edge ∈ edges, edge.caller = caller ∧ edge.callee = callee) id root
  complete : ∀ edge ∈ edges, edge.callee ∈ dropped →
    edge.callee ∈ retreat.waiting ∨ edge ∈ rest ∨ edge.caller ∈ retreat.seen

/-- The functions that can still be looked at, as often as they can be. -/
def budget (before : Arena) (retreat : Retreat) : Nat :=
  retreat.waiting.length + (before.size - retreat.seen.length)

/-- The caller of the next edge is looked at, so the edge is not needed any more. -/
theorem Sound.complete_of_seen {edge : CallEdge} {waiting seen : List DeclId}
    (hsound : Sound wanted before root edges (edge :: rest) dropped retreat)
    (hwaiting : retreat.waiting ⊆ waiting) (hseen : retreat.seen ⊆ seen)
    (hcaller : edge.caller ∈ seen) {other : CallEdge} (hother : other ∈ edges)
    (hcallee : other.callee ∈ dropped) :
    other.callee ∈ waiting ∨ other ∈ rest ∨ other.caller ∈ seen := by
  obtain hmem | hmem | hmem := hsound.complete other hother hcallee
  · exact .inl (hwaiting hmem)
  · obtain rfl | hrest := List.mem_cons.mp hmem
    · exact .inr (.inr hcaller)
    · exact .inr (.inl hrest)
  · exact .inr (.inr (hseen hmem))

/-- When no one waits any more, everyone who calls a function that lost the attribute was looked
at. -/
theorem Sound.seen_of_call {edge : CallEdge}
    (hsound : Sound wanted before root edges [] dropped retreat) (hwaiting : retreat.waiting = [])
    (hedge : edge ∈ edges) (hcallee : edge.callee ∈ dropped) : edge.caller ∈ retreat.seen := by
  obtain hwait | hrest | hseen := hsound.complete edge hedge hcallee
  · simp [hwaiting] at hwait
  · contradiction
  · exact hseen

/-- The attribute is taken from the caller of the next edge, so its own callers have to be looked
at. -/
theorem Sound.dropCaller {edge : CallEdge} {changed : Arena}
    (hsound : Sound wanted before root edges (edge :: rest) dropped retreat)
    (hedge : edge ∈ edges) (hcallee : edge.callee ∈ dropped)
    (hcaller : edge.caller.number < before.size) (hunseen : edge.caller ∉ retreat.seen)
    (hwithdrawn : Withdrawn wanted (edge.caller :: dropped) before changed) :
    Sound wanted before root edges rest (edge.caller :: dropped)
      ⟨changed, edge.caller :: retreat.waiting, edge.caller :: retreat.seen, retreat.errors⟩ where
  withdrawn := hwithdrawn
  root_mem := List.mem_cons_of_mem _ hsound.root_mem
  waiting_subset id hid := by
    obtain rfl | hid := List.mem_cons.mp hid
    · exact List.mem_cons_self
    · exact List.mem_cons_of_mem _ (hsound.waiting_subset id hid)
  seen_nodup := List.nodup_cons.mpr ⟨hunseen, hsound.seen_nodup⟩
  seen_lt := List.forall_mem_cons.mpr ⟨hcaller, hsound.seen_lt⟩
  seen_dropped caller hmem declaration hget hinferred := by
    obtain rfl | hmem := List.mem_cons.mp hmem
    · exact List.mem_cons_self
    · exact List.mem_cons_of_mem _ (hsound.seen_dropped caller hmem declaration hget hinferred)
  leads id hid := by
    have hleads : ∀ id ∈ dropped, ReflTransGen (fun caller callee =>
        caller ∈ edge.caller :: dropped ∧
          ∃ edge ∈ edges, edge.caller = caller ∧ edge.callee = callee) id root :=
      fun id hid => ReflTransGen.mono
        (fun _ _ hcall => ⟨List.mem_cons_of_mem _ hcall.1, hcall.2⟩) _ _ (hsound.leads id hid)
    obtain rfl | hid := List.mem_cons.mp hid
    · exact .head ⟨List.mem_cons_self, edge, hedge, rfl, rfl⟩ (hleads edge.callee hcallee)
    · exact hleads id hid
  complete other hother hdropped := by
    obtain hnew | hdropped := List.mem_cons.mp hdropped
    · exact .inl (by simp [hnew])
    · exact hsound.complete_of_seen (List.subset_cons_self _ _) (List.subset_cons_self _ _)
        List.mem_cons_self hother hdropped

/-- A caller that cannot lose the attribute stays as it is, whether or not that is an error. -/
theorem Sound.keepCaller {edge : CallEdge} {current : Declaration} (errors : List DeclError)
    (hsound : Sound wanted before root edges (edge :: rest) dropped retreat)
    (hcaller : edge.caller.number < before.size) (hunseen : edge.caller ∉ retreat.seen)
    (hcurrent : retreat.arena.get edge.caller = .ok current)
    (hkept : current.isWithdrawable wanted = false) :
    Sound wanted before root edges rest dropped
      { retreat with seen := edge.caller :: retreat.seen, errors } where
  withdrawn := hsound.withdrawn
  root_mem := hsound.root_mem
  waiting_subset := hsound.waiting_subset
  seen_nodup := List.nodup_cons.mpr ⟨hunseen, hsound.seen_nodup⟩
  seen_lt := List.forall_mem_cons.mpr ⟨hcaller, hsound.seen_lt⟩
  seen_dropped caller hmem declaration hget hinferred := by
    obtain rfl | hmem := List.mem_cons.mp hmem
    · by_contra hnot
      rw [hsound.withdrawn.get_eq, if_neg hnot, hget, Except.ok.injEq] at hcurrent
      rw [hcurrent, hkept] at hinferred
      contradiction
    · exact hsound.seen_dropped caller hmem declaration hget hinferred
  leads := hsound.leads
  complete other hother hdropped :=
    hsound.complete_of_seen (fun _ => id) (List.subset_cons_self _ _) List.mem_cons_self hother
      hdropped

/-- Looking at the next edge. -/
theorem lookAt_sound {edge : CallEdge}
    (hsound : Sound wanted before root edges (edge :: rest) dropped retreat)
    (hedge : edge ∈ edges) (hcallee : edge.callee ∈ dropped)
    (hcaller : edge.caller.number < before.size) :
    ∃ looked larger, lookAt wanted retreat edge = .ok looked ∧
      Sound wanted before root edges rest larger looked ∧ dropped ⊆ larger ∧
      looked.budget before ≤ retreat.budget before := by
  by_cases hseen : edge.caller ∈ retreat.seen
  · refine ⟨retreat, dropped, by simp [lookAt, hseen], ?_, fun _ => id, le_rfl⟩
    exact { hsound with
      complete := fun other => hsound.complete_of_seen (fun _ => id) (fun _ => id) hseen }
  have hbudget : retreat.seen.length + 1 ≤ before.size :=
    DeclId.length_le_of_nodup (List.nodup_cons.mpr ⟨hseen, hsound.seen_nodup⟩)
      (List.forall_mem_cons.mpr ⟨hcaller, hsound.seen_lt⟩)
  obtain ⟨current, hcurrent⟩ : ∃ current, retreat.arena.get edge.caller = .ok current :=
    exists_get (by rwa [hsound.withdrawn.size_eq])
  cases hwithdrawable : current.isWithdrawable wanted with
  | true =>
    obtain ⟨changed, hwithdraw, hmodify⟩ :=
      exists_withdraw hcurrent hwithdrawable (some edge.effect)
    obtain ⟨-, hwithdrawn⟩ := hsound.withdrawn.tail hcurrent hwithdrawable hmodify
    refine ⟨_, _, by simp [lookAt, hseen, hwithdraw],
      hsound.dropCaller hedge hcallee hcaller hseen hwithdrawn, List.subset_cons_self _ _, ?_⟩
    simp only [budget, List.length_cons]
    omega
  | false =>
    have hkept := fun errors => hsound.keepCaller errors hcaller hseen hcurrent hwithdrawable
    have hless : ∀ errors, budget before
        { retreat with seen := edge.caller :: retreat.seen, errors } ≤ retreat.budget before := by
      intro errors
      simp only [budget, List.length_cons]
      omega
    obtain ⟨hwithdraw, -⟩ | ⟨hwithdraw, -⟩ :=
      withdraw_of_not_isWithdrawable hcurrent hwithdrawable (some edge.effect)
    · exact ⟨_, dropped, by simp [lookAt, hseen, hwithdraw], hkept retreat.errors, fun _ => id,
        hless retreat.errors⟩
    · exact ⟨_, dropped, by simp [lookAt, hseen, hwithdraw]; rfl, hkept _, fun _ => id, hless _⟩

/-- Looking at the rest of the edges into one function. -/
theorem lookAt_foldlM_sound {callee : DeclId}
    (hsound : Sound wanted before root edges rest dropped retreat) (hcallee : callee ∈ dropped)
    (hrest : ∀ edge ∈ rest, edge ∈ edges ∧ edge.callee = callee)
    (hedges : ∀ edge ∈ edges, edge.caller.number < before.size) :
    ∃ looked larger, rest.foldlM (lookAt wanted) retreat = .ok looked ∧
      Sound wanted before root edges [] larger looked ∧
      looked.budget before ≤ retreat.budget before := by
  induction rest generalizing retreat dropped with
  | nil => exact ⟨retreat, dropped, rfl, hsound, le_rfl⟩
  | cons edge rest ih =>
    obtain ⟨hedge, hsame⟩ := hrest edge List.mem_cons_self
    obtain ⟨middle, larger, hlook, hmiddle, hsubset, hfirst⟩ :=
      lookAt_sound hsound hedge (by rwa [hsame]) (hedges edge hedge)
    obtain ⟨looked, largest, hfold, hlooked, hsecond⟩ := ih hmiddle (hsubset hcallee)
      fun other hother => hrest other (List.mem_cons_of_mem edge hother)
    exact ⟨looked, largest, by rw [List.foldlM_cons, hlook, ok_bind, hfold], hlooked,
      hsecond.trans hfirst⟩

/-- The rounds are enough to look at all callers. -/
theorem run_sound (rounds : Nat) (hsound : Sound wanted before root edges [] dropped retreat)
    (hedges : ∀ edge ∈ edges, edge.caller.number < before.size)
    (hrounds : retreat.budget before < rounds) :
    ∃ looked larger, run wanted edges rounds retreat = .ok looked ∧
      Sound wanted before root edges [] larger looked ∧ looked.waiting = [] := by
  induction rounds generalizing retreat dropped with
  | zero => simp at hrounds
  | succ rounds ih =>
    simp only [run]
    cases hwaiting : retreat.waiting with
    | nil => exact ⟨retreat, dropped, rfl, hsound, hwaiting⟩
    | cons callee waiting =>
      have hcallee : callee ∈ dropped := hsound.waiting_subset callee (by simp [hwaiting])
      have hpopped : Sound wanted before root edges (edges.filter fun edge => edge.callee = callee)
          dropped { retreat with waiting } := by
        refine { hsound with
          waiting_subset := fun id hid => hsound.waiting_subset id (by simp [hwaiting, hid])
          complete := fun edge hedge hdropped => ?_ }
        by_cases hsame : edge.callee = callee
        · exact .inr (.inl (List.mem_filter.mpr ⟨hedge, by simpa using hsame⟩))
        · obtain hmem | hmem | hseen := hsound.complete edge hedge hdropped
          · exact .inl (by simpa [hwaiting, hsame] using hmem)
          · contradiction
          · exact .inr (.inr hseen)
      obtain ⟨middle, larger, hfold, hmiddle, hless⟩ := lookAt_foldlM_sound hpopped hcallee
        (fun edge hedge => by simpa using List.mem_filter.mp hedge) hedges
      have hnext : middle.budget before < rounds := by
        simp only [budget, hwaiting, List.length_cons] at hless hrounds ⊢
        omega
      obtain ⟨looked, largest, hrun, hlooked⟩ := ih hmiddle hnext
      exact ⟨looked, largest, by simp only [hfold, ok_bind, hrun], hlooked⟩

/-- What every look at a caller keeps is kept by the whole work.  Only callers of functions that
waited are looked at, and `reached` may say more about those. -/
theorem run_keeps (holds : Retreat → Prop) (reached : DeclId → Prop)
    (hreached : ∀ retreat, holds retreat → ∀ id ∈ retreat.waiting, reached id)
    (hpop : ∀ retreat callee waiting, holds retreat → retreat.waiting = callee :: waiting →
      holds { retreat with waiting })
    (hlook : ∀ retreat, holds retreat → ∀ edge ∈ edges, reached edge.callee →
      ∀ looked, lookAt wanted retreat edge = .ok looked → holds looked)
    {rounds : Nat} {looked : Retreat} (hholds : holds retreat)
    (hrun : run wanted edges rounds retreat = .ok looked) : holds looked := by
  induction rounds generalizing retreat with
  | zero => contradiction
  | succ rounds ih =>
    simp only [run] at hrun
    split at hrun
    · cases hrun
      exact hholds
    · next callee waiting hwaiting =>
      obtain ⟨middle, hfold, hrest⟩ := bind_eq_ok_iff.mp hrun
      have hcallee : reached callee := hreached retreat hholds callee (by simp [hwaiting])
      apply ih _ hrest
      apply foldlM_keeps _ (hpop retreat callee waiting hholds hwaiting) hfold
      intro state hstate edge hedge next hnext
      rw [List.mem_filter, decide_eq_true_eq] at hedge
      exact hlook state hstate edge hedge.1 (hedge.2 ▸ hcallee) next hnext

end Retreat

namespace Arena

/-- The callers of a function that lost the attribute are looked at until none waits.  The edges are
the calls, as they were before, of the other functions that have the attribute. -/
theorem exists_retreat (config : Config) {start : Arena} {declaration : Declaration}
    (hclosed : before.Closed) (hget : before.get root = .ok declaration)
    (hwithdrawable : declaration.isWithdrawable wanted = true)
    (hstart : (before.modify root fun declaration => declaration.withdraw wanted) = .ok start) :
    ∃ edges retreat dropped, start.downgradeCallers root wanted =
        .ok (retreat.errors, retreat.arena) ∧
      Retreat.run wanted edges (start.size + 2) { arena := start, waiting := [root] } =
        .ok retreat ∧
      Retreat.Sound wanted before root edges [] dropped retreat ∧ retreat.waiting = [] ∧
      ∀ edge, edge ∈ edges ↔ edge.caller ≠ root ∧
        edge.caller ∈ before.withStatus config wanted .holds ∧
        edge.effect ∈ before.effectsOf edge.caller ∧
        edge.callee ∈ before.calleesOf edge.effect := by
  obtain ⟨-, hwithdrawn⟩ := Withdrawn.refl.tail hget hwithdrawable hstart
  obtain ⟨edges, hedges, hmem⟩ := exists_holdingEdges config wanted
    (hwithdrawn.closed hclosed)
  have hcalls : ∀ edge, edge ∈ edges ↔ edge.caller ≠ root ∧
      edge.caller ∈ before.withStatus config wanted .holds ∧
      edge.effect ∈ before.effectsOf edge.caller ∧
      edge.callee ∈ before.calleesOf edge.effect := by
    intro edge
    rw [hmem, hwithdrawn.mem_holds_iff, List.mem_singleton, effectsOf_congr hwithdrawn.outline_eq,
      calleesOf_congr hwithdrawn.outline_eq, and_assoc]
  have hsound : Retreat.Sound wanted before root edges [] [root]
      { arena := start, waiting := [root] } := by
    refine ⟨hwithdrawn, by simp, by simp, List.nodup_nil, by simp, by simp, ?_, ?_⟩
    · intro id hid
      rw [List.mem_singleton.mp hid]
    · intro edge _ hcallee
      exact .inl hcallee
  obtain ⟨retreat, dropped, hrun, hdone, hwaiting⟩ := Retreat.run_sound (start.size + 2)
    hsound (fun edge hedge => lt_of_mem_withStatus ((hcalls edge).mp hedge).2.1) (by
      simp only [Retreat.budget, List.length_singleton, List.length_nil, hwithdrawn.size_eq]
      omega)
  exact ⟨edges, retreat, dropped, by simp [downgradeCallers, hedges, hrun], hrun, hdone, hwaiting,
    hcalls⟩

/-- After the callers were looked at, the attribute is gone from everyone who relied on it. -/
theorem downgradeCallers_retreats (config : Config) {start : Arena} {declaration : Declaration}
    (hclosed : before.Closed) (hget : before.get root = .ok declaration)
    (hwithdrawable : declaration.isWithdrawable wanted = true)
    (hstart : (before.modify root fun declaration => declaration.withdraw wanted) = .ok start) :
    ∃ errors after dropped, start.downgradeCallers root wanted = .ok (errors, after) ∧
      Retreats config wanted root dropped before after := by
  obtain ⟨edges, retreat, dropped, hdowngrade, -, hdone, hwaiting, hedges⟩ :=
    exists_retreat config hclosed hget hwithdrawable hstart
  refine ⟨retreat.errors, retreat.arena, dropped, hdowngrade, hdone.withdrawn, hdone.root_mem,
    ?_, ?_⟩
  · intro id hid
    refine ReflTransGen.mono ?_ _ _ (hdone.leads id hid)
    rintro _ _ ⟨hmem, edge, hedge, rfl, rfl⟩
    exact ⟨hmem, edge.effect, ((hedges edge).mp hedge).2.2⟩
  · intro callee hcallee caller found hfound hinferred hholds hcall
    by_cases hroot : caller = root
    · exact hroot ▸ hdone.root_mem
    obtain ⟨effect, heffect, hcallees⟩ := hcall
    have hedge : ⟨callee, caller, effect⟩ ∈ edges :=
      (hedges _).mpr ⟨hroot, hholds, heffect, hcallees⟩
    have hseen := hdone.seen_of_call hwaiting hedge hcallee
    exact hdone.seen_dropped caller hseen found hfound hinferred

inductive Downgraded (config : Config) (wanted : Attribute) (target : DeclId)
    (cause : Option Effect) (before : Arena) : List DeclError → Arena → Prop where
  /-- The attribute was taken back. -/
  | dropped {errors : List DeclError} {dropped : List DeclId} {after : Arena}
      (retreats : Retreats config wanted target dropped before after) :
      Downgraded config wanted target cause before errors after
  /-- The attribute was undecided and is denied now. -/
  | refused {after : Arena} (undecided : target ∈ before.withStatus config wanted .undecided)
      (concluded : before.conclude wanted false [target] = .ok after) :
      Downgraded config wanted target cause before [] after
  /-- The attribute is written in the source. -/
  | violated (holds : target ∈ before.withStatus config wanted .holds)
      (written : ∀ declaration, before.get target = .ok declaration →
        declaration.isWithdrawable wanted = false) :
      Downgraded config wanted target cause before [.attributeViolation target wanted cause] before
  /-- There was nothing to take back. -/
  | settled (fails : target ∈ before.withStatus config wanted .fails) :
      Downgraded config wanted target cause before [] before
  /-- Trusted functions may do what is unsafe. -/
  | trusted {declaration : Declaration} (safety : wanted = .safety)
      (get_eq : before.get target = .ok declaration) (mem : .trusted ∈ declaration.storage)
      (holds : target ∈ before.withStatus config wanted .holds) :
      Downgraded config wanted target cause before [] before

/-- A downgrade leaves the record of other attributes alone. -/
theorem Downgraded.keep_eq {target : DeclId} {cause : Option Effect} {errors : List DeclError}
    (hdowngraded : Downgraded config wanted target cause before errors after) {kept : Attributes}
    (hwanted : wanted ∉ kept) : after.keep kept = before.keep kept := by
  cases hdowngraded with
  | dropped retreats => exact retreats.withdrawn.keep_eq kept hwanted
  | refused undecided concluded => exact keep_of_conclude hwanted concluded
  | violated | settled | trusted => rfl

theorem Downgraded.outline_eq {target : DeclId} {cause : Option Effect} {errors : List DeclError}
    (hdowngraded : Downgraded config wanted target cause before errors after) :
    after.keep ∅ = before.keep ∅ :=
  hdowngraded.keep_eq (FlagSet.not_mem_empty wanted)

/-- A downgrade always comes to an end. -/
theorem exists_downgraded (config : Config) (wanted : Attribute) (hclosed : before.Closed)
    {function : DeclId}
    (hfunction : function.number < before.size) (cause : Option Effect) :
    ∃ target errors after, before.aliasedFunction function = .ok target ∧
      target.number < before.size ∧
      before.downgrade config function wanted cause = .ok (errors, after) ∧
      Downgraded config wanted target cause before errors after := by
  obtain ⟨target, halias, htarget⟩ := hclosed.aliasedFunction hfunction
  obtain ⟨declaration, hget⟩ := exists_get htarget
  have hstatus := mem_withStatus_iff_of_get hget config wanted
  cases hwithdrawable : declaration.isWithdrawable wanted with
  | true =>
    obtain ⟨start, hwithdraw, hstart⟩ := exists_withdraw hget hwithdrawable cause
    obtain ⟨errors, after, dropped, hrun, hretreats⟩ :=
      downgradeCallers_retreats config hclosed hget hwithdrawable hstart
    exact ⟨target, errors, after, halias, htarget, by simp [downgrade, halias, hwithdraw, hrun],
      .dropped hretreats⟩
  | false =>
    obtain ⟨hwithdraw, htrusted⟩ | ⟨hwithdraw, hholds, hisFunction⟩ :=
      withdraw_of_not_isWithdrawable hget hwithdrawable cause
    · cases hknown : declaration.status config wanted with
      | holds =>
        obtain ⟨hisFunction, hholds⟩ := Declaration.status_eq_holds_iff.mp hknown
        obtain ⟨hsafety, hmem⟩ := htrusted hholds hisFunction
        exact ⟨target, [], before, halias, htarget,
          by simp [downgrade, halias, hwithdraw, refuse, hget, hknown],
          .trusted hsafety hget hmem ((hstatus .holds).mpr hknown)⟩
      | fails =>
        exact ⟨target, [], before, halias, htarget,
          by simp [downgrade, halias, hwithdraw, refuse, hget, hknown],
          .settled ((hstatus .fails).mpr hknown)⟩
      | undecided =>
        obtain ⟨after, hconclude⟩ := exists_conclude wanted false
          (List.forall_mem_singleton.mpr htarget)
        have hmodify : (before.modify target fun declaration => declaration.conclude wanted false) =
            .ok after := by
          rw [conclude_cons] at hconclude
          obtain ⟨changed, hchanged, hrest⟩ := bind_eq_ok_iff.mp hconclude
          rw [hchanged, ← hrest]
          rfl
        exact ⟨target, [], after, halias, htarget,
          by simp [downgrade, halias, hwithdraw, refuse, hget, hknown, hmodify],
          .refused ((hstatus .undecided).mpr hknown) hconclude⟩
    · refine ⟨target, [.attributeViolation target wanted cause], before, halias, htarget,
        by simp [downgrade, halias, hwithdraw], .violated ?_ ?_⟩
      · exact (hstatus .holds).mpr (Declaration.status_eq_holds_iff.mpr ⟨hisFunction, hholds⟩)
      · intro found hfound
        rwa [← Except.ok.inj (hget.symm.trans hfound)]

end Arena

end Declarations
