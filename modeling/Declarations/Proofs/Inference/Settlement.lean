import Declarations.Inference.Session
import Declarations.Proofs.Inference.Entitlement

/-!
# Settling functions in groups

Inference settles an attribute for a group of functions at a time.  A group gets the attribute if
its members support each other, and is denied it if all of them lead through calls to a member with
an effect that nothing can excuse.  In both cases the conclusion is the right one, so settling a
group never changes which functions have the attribute.
-/

namespace Declarations.Arena

open Relation

/-- The function that an effect really calls, whatever name the call goes by. -/
def calleesOf (arena : Arena) (effect : Effect) : Set DeclId :=
  {callee | ∃ named, effect.callee? = some named ∧ arena.aliasedFunction named = .ok callee}

def CallsTo (arena : Arena) (caller callee : DeclId) : Prop :=
  ∃ effect ∈ arena.effectsOf caller, callee ∈ arena.calleesOf effect

/-- Whether an undecided function calls another function. -/
def DependsOn (arena : Arena) (config : Config) (wanted : Attribute) (caller callee : DeclId) :
    Prop :=
  caller ∈ arena.withStatus config wanted .undecided ∧ arena.CallsTo caller callee

def conclude (arena : Arena) (wanted : Attribute) (holds : Bool) (members : List DeclId) :
    Except Fault Arena :=
  Session.concludeAll holds arena (members.map fun function => ⟨function, wanted⟩)

/-- One conclusion about a group of undecided functions. -/
inductive Settles (config : Config) (wanted : Attribute) (before after : Arena) : Prop where
  /-- The members support each other. -/
  | grant (members : List DeclId) (nodup : members.Nodup)
      (undecided : ∀ member ∈ members, member ∈ before.withStatus config wanted .undecided)
      (supported : ∀ member ∈ members, before.Supports wanted
        (before.withStatus config wanted .holds ∪ {member | member ∈ members}) member)
      (concluded : before.conclude wanted true members = .ok after)
  /-- All members lead to one whose body would be broken even if every undecided function had the
  attribute. -/
  | deny (members : List DeclId) (nodup : members.Nodup)
      (undecided : ∀ member ∈ members, member ∈ before.withStatus config wanted .undecided)
      (culprit : DeclId) (mem : culprit ∈ members)
      (broken : ¬before.Supports wanted (before.withStatus config wanted .holds ∪
        before.withStatus config wanted .undecided) culprit)
      (reaches : ∀ member ∈ members, ReflTransGen (before.DependsOn config wanted) member culprit)
      (concluded : before.conclude wanted false members = .ok after)

variable {arena before after : Arena} {config : Config} {wanted : Attribute} {id : DeclId}

/-! ## Calls -/

theorem Allows.mem_of_callee {relied : Set DeclId} {effect : Effect} {callee : DeclId}
    (hallows : arena.Allows wanted relied effect) (hcallee : callee ∈ arena.calleesOf effect) :
    callee ∈ relied := by
  obtain ⟨named, hnamed, halias⟩ := hcallee
  simp only [Allows, hnamed] at hallows
  obtain ⟨function, hfunction, hother⟩ := hallows
  rwa [Except.ok.inj (halias.symm.trans hother)]

/-- Only the function that is really called has to be relied on. -/
theorem Allows.of_callees {relied other : Set DeclId} {effect : Effect}
    (hallows : arena.Allows wanted relied effect)
    (hcallees : ∀ callee ∈ arena.calleesOf effect, callee ∈ relied → callee ∈ other) :
    arena.Allows wanted other effect := by
  unfold Allows at *
  split
  · next named hnamed =>
    simp only [hnamed] at hallows
    obtain ⟨function, hfunction, halias⟩ := hallows
    exact ⟨function, hcallees function ⟨named, hnamed, halias⟩ hfunction, halias⟩
  · next hnamed => simpa only [hnamed] using hallows

/-- A call is fine when the function that is really called is relied on. -/
theorem allows_of_mem_callees {relied : Set DeclId} {effect : Effect} {callee : DeclId}
    (hcallee : callee ∈ arena.calleesOf effect) (hrelied : callee ∈ relied) :
    arena.Allows wanted relied effect := by
  obtain ⟨named, hnamed, halias⟩ := hcallee
  simp only [Allows, hnamed]
  exact ⟨callee, hrelied, halias⟩

/-- What a function that has the attribute depends on has it as well. -/
theorem entitled_of_dependsOn {caller callee : DeclId}
    (hdepends : arena.DependsOn config wanted caller callee)
    (hcaller : caller ∈ arena.entitled config wanted) :
    callee ∈ arena.entitled config wanted := by
  obtain ⟨hundecided, effect, heffect, hcallee⟩ := hdepends
  exact (supports_of_entitled hcaller hundecided effect heffect).mem_of_callee hcallee

theorem entitled_of_reaches {caller callee : DeclId}
    (hreaches : ReflTransGen (arena.DependsOn config wanted) caller callee)
    (hcaller : caller ∈ arena.entitled config wanted) :
    callee ∈ arena.entitled config wanted := by
  induction hreaches with
  | refl => exact hcaller
  | tail _ hdepends ih => exact entitled_of_dependsOn hdepends ih

/-! ## The conclusion of a group -/

theorem conclude_cons {holds : Bool} {member : DeclId} {members : List DeclId} :
    arena.conclude wanted holds (member :: members) =
      (arena.modify member fun declaration => declaration.conclude wanted holds) >>=
        fun concluded => concluded.conclude wanted holds members :=
  rfl

/-- A conclusion can be recorded for declarations of the arena. -/
theorem exists_conclude (wanted : Attribute) (holds : Bool) {members : List DeclId}
    (hmembers : ∀ member ∈ members, member.number < arena.size) :
    ∃ concluded, arena.conclude wanted holds members = .ok concluded := by
  induction members generalizing arena with
  | nil => exact ⟨arena, rfl⟩
  | cons member members ih =>
    obtain ⟨changed, hchanged⟩ : ∃ changed,
        arena.modify member (fun declaration => declaration.conclude wanted holds) =
          .ok changed := by
      simp [modify, hmembers member]
    have hrest : ∀ other ∈ members, other.number < changed.size := by
      rw [size_of_modify hchanged]
      exact fun other hother => hmembers other (List.mem_cons_of_mem _ hother)
    obtain ⟨concluded, hconcluded⟩ := ih hrest
    exact ⟨concluded, by rw [conclude_cons, hchanged, ok_bind, hconcluded]⟩

/-- A conclusion is seen at the members of its group alone. -/
theorem get_of_conclude {holds : Bool} {members : List DeclId} (hnodup : members.Nodup)
    (hconclude : before.conclude wanted holds members = .ok after) (id : DeclId) :
    after.get id =
      if id ∈ members then
        (before.get id).map fun declaration => declaration.conclude wanted holds
      else before.get id := by
  induction members generalizing before with
  | nil =>
    obtain rfl := Except.ok.inj hconclude
    simp
  | cons member members ih =>
    rw [List.nodup_cons] at hnodup
    rw [conclude_cons] at hconclude
    obtain ⟨changed, hchanged, hrest⟩ := bind_eq_ok_iff.mp hconclude
    rw [ih hnodup.2 hrest, get_of_modify hchanged id]
    by_cases hid : id = member
    · subst id
      simp [hnodup.1]
    · simp [hid]

/-- A conclusion about one attribute leaves the record of the others alone. -/
theorem keep_of_conclude {holds : Bool} {members : List DeclId} {kept : Attributes}
    (hwanted : wanted ∉ kept) (hconclude : before.conclude wanted holds members = .ok after) :
    after.keep kept = before.keep kept := by
  induction members generalizing before with
  | nil =>
    obtain rfl := Except.ok.inj hconclude
    rfl
  | cons member members ih =>
    rw [conclude_cons] at hconclude
    obtain ⟨changed, hchanged, hrest⟩ := bind_eq_ok_iff.mp hconclude
    have hmember : member.number < before.size :=
      modify_isOk_iff.mp (by rw [hchanged]; rfl)
    obtain ⟨declaration, hget⟩ := exists_get hmember
    rw [ih hrest, keep_eq_of_modify hget (Declaration.keep_conclude hwanted holds) hchanged]

/-! ## What settling a group changes -/

namespace Settles

/-- Members that support each other have the attribute. -/
theorem granted_subset_entitled {members : List DeclId}
    (hundecided : ∀ member ∈ members, member ∈ before.withStatus config wanted .undecided)
    (hsupported : ∀ member ∈ members, before.Supports wanted
      (before.withStatus config wanted .holds ∪ {member | member ∈ members}) member) :
    ∀ member ∈ members, member ∈ before.entitled config wanted := by
  have hsubset : before.withStatus config wanted .holds ∪ {member | member ∈ members} ⊆
      before.entitled config wanted := by
    apply subset_entitled
    rintro id (hholds | hmember)
    · exact .inl hholds
    · exact .inr ⟨hundecided id hmember, hsupported id hmember⟩
  exact fun member hmember => hsubset (.inr hmember)

/-- A function whose body nothing can excuse does not have the attribute. -/
theorem not_entitled_of_broken {culprit : DeclId}
    (hundecided : culprit ∈ before.withStatus config wanted .undecided)
    (hbroken : ¬before.Supports wanted (before.withStatus config wanted .holds ∪
      before.withStatus config wanted .undecided) culprit) :
    culprit ∉ before.entitled config wanted :=
  fun hentitled => hbroken ((supports_of_entitled hentitled hundecided).mono entitled_subset)

/-- The conclusion about a group is right for each of its members. -/
theorem exists_group (hsettles : Settles config wanted before after) :
    ∃ (members : List DeclId) (holds : Bool), members.Nodup ∧
      (∀ member ∈ members, member ∈ before.withStatus config wanted .undecided ∧
        (member ∈ before.entitled config wanted ↔ holds = true)) ∧
      before.conclude wanted holds members = .ok after := by
  cases hsettles with
  | grant members nodup undecided supported concluded =>
    refine ⟨members, true, nodup, fun member hmember => ⟨undecided member hmember, ?_⟩, concluded⟩
    simpa using granted_subset_entitled undecided supported member hmember
  | deny members nodup undecided culprit mem broken reaches concluded =>
    refine ⟨members, false, nodup, fun member hmember => ⟨undecided member hmember, ?_⟩, concluded⟩
    simp only [Bool.false_eq_true, iff_false]
    exact fun hentitled => not_entitled_of_broken (undecided culprit mem) broken
      (entitled_of_reaches (reaches member hmember) hentitled)

theorem keep_eq (hsettles : Settles config wanted before after) {kept : Attributes}
    (hwanted : wanted ∉ kept) : after.keep kept = before.keep kept := by
  obtain ⟨members, holds, -, -, hconclude⟩ := hsettles.exists_group
  exact keep_of_conclude hwanted hconclude

/-- A member is decided, and the status of any other declaration is what it was. -/
theorem mem_withStatus_iff {members : List DeclId} {holds : Bool} (hnodup : members.Nodup)
    (hundecided : ∀ member ∈ members, member ∈ before.withStatus config wanted .undecided)
    (hconclude : before.conclude wanted holds members = .ok after) (id : DeclId)
    (status : Status) :
    id ∈ after.withStatus config wanted status ↔
      if id ∈ members then status = (if holds then .holds else .fails)
      else id ∈ before.withStatus config wanted status := by
  by_cases hmember : id ∈ members
  · obtain ⟨declaration, hget, hstatus⟩ := hundecided id hmember
    have hafter : after.get id = .ok (declaration.conclude wanted holds) := by
      rw [get_of_conclude hnodup hconclude, if_pos hmember, hget, ok_map]
    rw [if_pos hmember, mem_withStatus_iff_of_get hafter,
      Declaration.status_conclude hstatus, eq_comm]
  · rw [if_neg hmember]
    simp only [withStatus, Set.mem_ofPred_eq, get_of_conclude hnodup hconclude, if_neg hmember]

/-- A declaration that the attribute is not undecided for is left alone. -/
theorem get_eq (hsettles : Settles config wanted before after)
    (hdecided : id ∉ before.withStatus config wanted .undecided) :
    after.get id = before.get id := by
  obtain ⟨members, holds, hnodup, hmembers, hconclude⟩ := hsettles.exists_group
  have hnot : id ∉ members := fun hmember => hdecided (hmembers id hmember).1
  rw [get_of_conclude hnodup hconclude, if_neg hnot]

/-- What holds goes on to hold. -/
theorem holds_subset (hsettles : Settles config wanted before after) :
    before.withStatus config wanted .holds ⊆ after.withStatus config wanted .holds := by
  obtain ⟨members, holds, hnodup, hmembers, hconclude⟩ := hsettles.exists_group
  intro id hid
  have hnot : id ∉ members := by
    intro hmember
    have := withStatus_eq_of_mem hid (hmembers id hmember).1
    contradiction
  rwa [mem_withStatus_iff hnodup (fun member hmember => (hmembers member hmember).1) hconclude,
    if_neg hnot]

/-- What was granted is supported by what holds now. -/
theorem supports_of_granted (hsettles : Settles config wanted before after)
    (hbefore : id ∈ before.withStatus config wanted .undecided)
    (hafter : id ∈ after.withStatus config wanted .holds) :
    before.Supports wanted (after.withStatus config wanted .holds) id := by
  have hholds := hsettles.holds_subset
  cases hsettles with
  | grant members nodup undecided supported concluded =>
    have hstatus := mem_withStatus_iff nodup undecided concluded
    rw [hstatus] at hafter
    split at hafter
    · next hmember =>
      refine (supported id hmember).mono (Set.union_subset hholds ?_)
      intro member hmember
      exact (hstatus member .holds).mpr (by simpa using fun hnot => absurd hmember hnot)
    · exact absurd hbefore (notMem_withStatus hafter)
  | deny members nodup undecided culprit mem broken reaches concluded =>
    rw [mem_withStatus_iff nodup undecided concluded] at hafter
    split at hafter
    · simp at hafter
    · exact absurd hbefore (notMem_withStatus hafter)

end Settles

/-- An effect calls the same functions in arenas that differ in the record alone. -/
theorem calleesOf_congr {left right : Arena} {kept : Attributes}
    (hkeep : left.keep kept = right.keep kept) (effect : Effect) :
    left.calleesOf effect = right.calleesOf effect := by
  have hcallees : ∀ arena : Arena, (arena.keep kept).calleesOf effect = arena.calleesOf effect := by
    simp [calleesOf]
  rw [← hcallees, hkeep, hcallees]

/-- The same functions are called in arenas that differ in the record alone. -/
theorem callsTo_congr {left right : Arena} {kept : Attributes}
    (hkeep : left.keep kept = right.keep kept) {caller callee : DeclId} :
    left.CallsTo caller callee ↔ right.CallsTo caller callee := by
  simp only [CallsTo, effectsOf_congr hkeep, calleesOf_congr hkeep]

/-- Settling a group changes for no function whether it has the attribute. -/
theorem Settles.entitled_eq (hsettles : Settles config wanted before after) :
    after.entitled config wanted = before.entitled config wanted := by
  obtain ⟨members, holds, hnodup, hmembers, hconclude⟩ := hsettles.exists_group
  have hstatus := fun (id : DeclId) (status : Status) =>
    mem_withStatus_iff hnodup (fun member hmember => (hmembers member hmember).1) hconclude id
      status
  have hkeep : after.keep ∅ = before.keep ∅ := hsettles.keep_eq (FlagSet.not_mem_empty wanted)
  apply Set.Subset.antisymm
  · -- The functions that have it before or after support each other before.
    have hunion : after.entitled config wanted ∪ before.entitled config wanted ⊆
        before.entitled config wanted := by
      apply subset_entitled
      rintro id (hafter | hbefore)
      · by_cases hmember : id ∈ members
        · have hholds : id ∈ before.entitled config wanted := by
            rw [(hmembers id hmember).2]
            obtain hholds | ⟨hundecided, -⟩ := entitled_cases hafter
            · rw [hstatus, if_pos hmember] at hholds
              by_contra hnot
              simp [hnot] at hholds
            · rw [hstatus, if_pos hmember] at hundecided
              cases holds <;> contradiction
          exact .inr ⟨(hmembers id hmember).1, (supports_of_entitled hholds
            (hmembers id hmember).1).mono Set.subset_union_right⟩
        · obtain hholds | ⟨hundecided, hsupports⟩ := entitled_cases hafter
          · rw [hstatus, if_neg hmember] at hholds
            exact .inl hholds
          · rw [hstatus, if_neg hmember] at hundecided
            rw [supports_congr hkeep] at hsupports
            exact .inr ⟨hundecided, hsupports.mono Set.subset_union_left⟩
      · obtain hholds | ⟨hundecided, hsupports⟩ := entitled_cases hbefore
        · exact .inl hholds
        · exact .inr ⟨hundecided, hsupports.mono Set.subset_union_right⟩
    exact Set.subset_union_left.trans hunion
  · apply subset_entitled
    intro id hid
    simp only [hstatus]
    by_cases hmember : id ∈ members
    · simp [if_pos hmember, (hmembers id hmember).2.mp hid]
    · rw [if_neg hmember, if_neg hmember, supports_congr hkeep]
      exact entitled_cases hid

/-! ## Settling one group after the other -/

/-- What is known about an attribute grows by settling groups. -/
def Learns (config : Config) (wanted : Attribute) : Arena → Arena → Prop :=
  ReflTransGen (Settles config wanted)

namespace Learns

theorem refl : Learns config wanted arena arena :=
  ReflTransGen.refl

theorem trans {middle : Arena} (hfirst : Learns config wanted before middle)
    (hsecond : Learns config wanted middle after) : Learns config wanted before after :=
  ReflTransGen.trans hfirst hsecond

theorem step {middle : Arena} (hlearns : Learns config wanted before middle)
    (hsettles : Settles config wanted middle after) : Learns config wanted before after :=
  ReflTransGen.tail hlearns hsettles

theorem keep_eq (hlearns : Learns config wanted before after) {kept : Attributes}
    (hwanted : wanted ∉ kept) : after.keep kept = before.keep kept := by
  induction hlearns with
  | refl => rfl
  | tail _ hsettles ih => rw [hsettles.keep_eq hwanted, ih]

theorem outline_eq (hlearns : Learns config wanted before after) :
    after.keep ∅ = before.keep ∅ :=
  hlearns.keep_eq (FlagSet.not_mem_empty wanted)

theorem size_eq (hlearns : Learns config wanted before after) : after.size = before.size :=
  size_of_keep_eq hlearns.outline_eq

theorem aliasedFunction_eq (hlearns : Learns config wanted before after) (id : DeclId) :
    after.aliasedFunction id = before.aliasedFunction id :=
  aliasedFunction_of_keep_eq hlearns.outline_eq id

theorem effectsOf_eq (hlearns : Learns config wanted before after) (id : DeclId) :
    after.effectsOf id = before.effectsOf id :=
  effectsOf_congr hlearns.outline_eq id

theorem allows_iff (hlearns : Learns config wanted before after) {other : Attribute}
    {relied : Set DeclId} {effect : Effect} :
    after.Allows other relied effect ↔ before.Allows other relied effect :=
  allows_congr hlearns.outline_eq

theorem supports_iff (hlearns : Learns config wanted before after) {other : Attribute}
    {relied : Set DeclId} :
    after.Supports other relied id ↔ before.Supports other relied id :=
  supports_congr hlearns.outline_eq

theorem callsTo_iff (hlearns : Learns config wanted before after) {caller callee : DeclId} :
    after.CallsTo caller callee ↔ before.CallsTo caller callee :=
  callsTo_congr hlearns.outline_eq

theorem holds_subset (hlearns : Learns config wanted before after) :
    before.withStatus config wanted .holds ⊆ after.withStatus config wanted .holds := by
  induction hlearns with
  | refl => exact Set.Subset.rfl
  | tail _ hsettles ih => exact ih.trans hsettles.holds_subset

/-- Learning about one attribute changes for no attribute which functions have it. -/
theorem entitled_eq (hlearns : Learns config wanted before after) (other : Attribute) :
    after.entitled config other = before.entitled config other := by
  by_cases hother : other = wanted
  · subst other
    induction hlearns with
    | refl => rfl
    | tail _ hsettles ih => rw [hsettles.entitled_eq, ih]
  · have hkept : other ∈ ({other} : Attributes) := by simp
    have hwanted : wanted ∉ ({other} : Attributes) := by simpa using Ne.symm hother
    rw [← entitled_keep hkept, hlearns.keep_eq hwanted, entitled_keep hkept]

end Learns

end Declarations.Arena
