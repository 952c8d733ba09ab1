import Declarations.Overload.Chain
import Declarations.Proofs.Arena.Change
import Declarations.Proofs.Overload.Tour

/-!
# Chains that end

A declaration that joins a chain becomes the one after the last.  Nobody looks at the chain that the
new declaration has already.  If that one ends with the same declaration, the two chains now follow
each other in a ring.  This file shows that nothing else ever makes a ring: as long as no insertion
brings together two chains with the same end, every chain can be followed to its end.
-/

namespace Declarations

open Relation

namespace Declaration

variable {declaration : Declaration} {next handle : DeclId}

theorem isChainable_of_isOverloadable (hoverloadable : declaration.isOverloadable = true) :
    declaration.isChainable = true := by
  unfold isOverloadable at hoverloadable
  unfold isChainable
  split at hoverloadable <;> simp_all

theorem next?_withNext (hchainable : declaration.isChainable = true) :
    (declaration.withNext next).next? = some next := by
  unfold isChainable at hchainable
  unfold withNext next?
  split at hchainable <;> simp_all

/-- The next entry is the only handle that an entry of a chain gains. -/
theorem mem_handles_withNext (hhandle : handle ∈ (declaration.withNext next).handles) :
    handle = next ∨ handle ∈ declaration.handles := by
  cases hentity : declaration.entity with
  | var | tuple => exact .inr (by simpa [withNext, hentity] using hhandle)
  | aliasing state | anchor state =>
    simp only [withNext, handles, hentity, Entity.handles, List.mem_append, Option.mem_toList,
      Option.some.injEq] at hhandle ⊢
    grind
  | func state =>
    have heffects : Func.effects { state with next := some next } = state.effects := rfl
    simp only [withNext, handles, hentity, Entity.handles, Func.handles, heffects, List.mem_append,
      Option.mem_toList, Option.some.injEq] at hhandle ⊢
    grind

theorem aggregateHandles_withNext :
    (declaration.withNext next).aggregateHandles = declaration.aggregateHandles := by
  unfold withNext
  split <;> simp [aggregateHandles, Entity.aggregateHandles, *]

end Declaration

namespace Arena

variable {arena after : Arena} {id left right next other head added current member tail : DeclId}

def IsFollowedBy (arena : Arena) (id next : DeclId) : Prop :=
  ∃ declaration, arena.get id = .ok declaration ∧ declaration.next? = some next

/-- The declarations on the way along a chain to its end. -/
inductive ChainFrom (arena : Arena) : DeclId → List DeclId → Prop where
  | last {id : DeclId} {declaration : Declaration} (get_eq : arena.get id = .ok declaration)
      (next_eq : declaration.next? = none) : ChainFrom arena id [id]
  | link {id next : DeclId} {members : List DeclId} (followed : arena.IsFollowedBy id next)
      (rest : ChainFrom arena next members) : ChainFrom arena id (id :: members)

/-- From every declaration on, the chain comes to an end and passes no declaration twice. -/
def ChainsEnd (arena : Arena) : Prop :=
  ∀ id, id.number < arena.size → ∃ members, arena.ChainFrom id members ∧ members.Nodup

def HasRing (arena : Arena) : Prop :=
  ∃ id, TransGen arena.IsFollowedBy id id

/-! ## Following a chain -/

theorem IsFollowedBy.unique (hleft : arena.IsFollowedBy id left)
    (hright : arena.IsFollowedBy id right) : left = right := by
  obtain ⟨declaration, hget, hnext⟩ := hleft
  obtain ⟨found, hfound, hother⟩ := hright
  obtain rfl := Except.ok.inj (hget.symm.trans hfound)
  exact Option.some.inj (hnext.symm.trans hother)

theorem rightUnique_isFollowedBy : Relator.RightUnique arena.IsFollowedBy :=
  fun _ _ _ => IsFollowedBy.unique

theorem Closed.lt_of_isFollowedBy (hclosed : arena.Closed) (hnext : arena.IsFollowedBy id next) :
    next.number < arena.size := by
  obtain ⟨declaration, hget, hsome⟩ := hnext
  exact hclosed.lt_of_mem_handles hget (Declaration.mem_handles_of_next? hsome)

theorem isFollowedBy_iff_of_get {declaration : Declaration}
    (hget : arena.get id = .ok declaration) :
    arena.IsFollowedBy id next ↔ declaration.next? = some next := by
  simp [IsFollowedBy, hget]

/-- What comes later in a chain is what comes later from the next declaration on. -/
theorem reflTransGen_of_transGen (hnext : arena.IsFollowedBy id next)
    (hlater : TransGen arena.IsFollowedBy id other) :
    ReflTransGen arena.IsFollowedBy next other := by
  obtain ⟨first, hfirst, hrest⟩ := TransGen.head'_iff.mp hlater
  rwa [hnext.unique hfirst]

/-- Where no step leads away is the end of everything that leads to it, if steps are determined. -/
theorem eq_of_last {step : DeclId → DeclId → Prop} (hunique : Relator.RightUnique step)
    (hleft : ReflTransGen step id left) (hright : ReflTransGen step id right)
    (hleftLast : ∀ next, ¬step left next) (hrightLast : ∀ next, ¬step right next) :
    left = right := by
  obtain hpath | hpath := ReflTransGen.total_of_right_unique hunique hleft hright
  · obtain rfl | ⟨next, hnext, -⟩ := hpath.cases_head
    · rfl
    · exact absurd hnext (hleftLast next)
  · obtain rfl | ⟨next, hnext, -⟩ := hpath.cases_head
    · rfl
    · exact absurd hnext (hrightLast next)

theorem ChainFrom.reaches {members : List DeclId} (hchain : arena.ChainFrom id members) :
    ∀ member ∈ members, ReflTransGen arena.IsFollowedBy id member := by
  induction hchain with
  | last get_eq next_eq => simpa using ReflTransGen.refl
  | link followed rest ih =>
    exact List.forall_mem_cons.mpr ⟨.refl, fun member hmem => .head followed (ih member hmem)⟩

theorem ChainFrom.not_transGen {members : List DeclId} (hchain : arena.ChainFrom id members) :
    ¬TransGen arena.IsFollowedBy id id := by
  induction hchain with
  | last get_eq next_eq =>
    intro hring
    obtain ⟨next, hnext, -⟩ := TransGen.head'_iff.mp hring
    rw [isFollowedBy_iff_of_get get_eq, next_eq] at hnext
    contradiction
  | link followed rest ih =>
    intro hring
    exact ih (.tail' (reflTransGen_of_transGen followed hring) followed)

/-- Without a ring there is room for only so many declarations on the way to the end.  The ones in
`passed` were met before. -/
theorem Closed.exists_chainFrom (hclosed : arena.Closed) (hring : ¬arena.HasRing) (steps : Nat)
    {passed : List DeclId} (hcurrent : current.number < arena.size) (hnodup : passed.Nodup)
    (hpassed : ∀ id ∈ passed, id.number < arena.size ∧ TransGen arena.IsFollowedBy id current)
    (hsteps : arena.size ≤ passed.length + steps) :
    ∃ members, arena.ChainFrom current members := by
  have hfresh : current ∉ passed := fun hmem => hring ⟨current, (hpassed current hmem).2⟩
  have hbound := DeclId.length_le_of_nodup (List.nodup_cons.mpr ⟨hfresh, hnodup⟩)
    (List.forall_mem_cons.mpr ⟨hcurrent, fun id hid => (hpassed id hid).1⟩)
  rw [List.length_cons] at hbound
  induction steps generalizing current passed with
  | zero => omega
  | succ steps ih =>
    obtain ⟨declaration, hget⟩ := exists_get hcurrent
    cases hnext : declaration.next? with
    | none => exact ⟨[current], .last hget hnext⟩
    | some next =>
      have hfollowed : arena.IsFollowedBy current next := ⟨declaration, hget, hnext⟩
      have hnextLt := hclosed.lt_of_isFollowedBy hfollowed
      have hlead : ∀ id ∈ current :: passed, id.number < arena.size ∧
          TransGen arena.IsFollowedBy id next :=
        List.forall_mem_cons.mpr ⟨⟨hcurrent, .single hfollowed⟩,
          fun id hid => ⟨(hpassed id hid).1, (hpassed id hid).2.tail hfollowed⟩⟩
      have hnew : next ∉ current :: passed := fun hmem => hring ⟨next, (hlead next hmem).2⟩
      have hnodupNew := List.nodup_cons.mpr ⟨hfresh, hnodup⟩
      have hroom := DeclId.length_le_of_nodup (List.nodup_cons.mpr ⟨hnew, hnodupNew⟩)
        (List.forall_mem_cons.mpr ⟨hnextLt, fun id hid => (hlead id hid).1⟩)
      obtain ⟨members, hmembers⟩ := ih hnextLt hnodupNew hlead
        (by rw [List.length_cons]; omega) hnew (by simpa using hroom)
      exact ⟨current :: members, .link hfollowed hmembers⟩

theorem ChainFrom.nodup {members : List DeclId} (hring : ¬arena.HasRing)
    (hchain : arena.ChainFrom id members) : members.Nodup := by
  induction hchain with
  | last get_eq next_eq => simp
  | link followed rest ih =>
    have hfresh := fun hmem => hring ⟨_, .head' followed (rest.reaches _ hmem)⟩
    exact List.nodup_cons.mpr ⟨hfresh, ih⟩

/-- All chains of a closed arena end exactly if it has no ring. -/
theorem Closed.chainsEnd_iff (hclosed : arena.Closed) : arena.ChainsEnd ↔ ¬arena.HasRing := by
  constructor
  · rintro hends ⟨id, hring⟩
    obtain ⟨next, ⟨declaration, hget, -⟩, -⟩ := TransGen.head'_iff.mp hring
    obtain ⟨members, hchain, -⟩ := hends id (lt_of_get hget)
    exact hchain.not_transGen hring
  · intro hring id hid
    obtain ⟨members, hchain⟩ := hclosed.exists_chainFrom hring arena.size hid List.nodup_nil
      (by simp) (by simp)
    exact ⟨members, hchain, hchain.nodup hring⟩

/-! ## Joining a chain -/

theorem Closed.accepts (hclosed : arena.Closed) (hmember : member.number < arena.size)
    (hadded : added.number < arena.size) :
    ∃ accepted, arena.accepts member added = .ok accepted := by
  obtain ⟨joining, hjoining⟩ := exists_get hadded
  obtain ⟨declaration, hget⟩ := exists_get hmember
  simp only [Arena.accepts, hjoining, hget, ok_bind]
  split
  · exact ⟨false, rfl⟩
  · cases hentity : declaration.entity with
    | aliasing state =>
      cases htarget : state.target with
      | none => exact ⟨true, by simp [htarget]⟩
      | some target =>
        have hlt : target.number < arena.size := hclosed.lt_of_mem_handles hget (by
          simp [Declaration.handles, hentity, Entity.handles, htarget])
        obtain ⟨named, hnamed⟩ := exists_get hlt
        exact ⟨named.isChainable, by simp [htarget, hnamed]⟩
    | _ => exact ⟨declaration.isOverloadable, rfl⟩

/-- A declaration that lets others join its chain can have a next one. -/
theorem isChainable_of_accepts {declaration : Declaration}
    (haccepts : arena.accepts member added = .ok true)
    (hget : arena.get member = .ok declaration) : declaration.isChainable = true := by
  obtain ⟨joining, -, hrest⟩ := bind_eq_ok_iff.mp haccepts
  split at hrest
  · simp at hrest
  · simp only [hget, ok_bind] at hrest
    cases hentity : declaration.entity with
    | aliasing state => simp [Declaration.isChainable, hentity]
    | _ =>
      apply Declaration.isChainable_of_isOverloadable
      simpa [hentity] using hrest

inductive EndsIn (arena : Arena) (added current : DeclId) : ChainEnd → Prop where
  | last {tail : DeclId} (reaches : ReflTransGen arena.IsFollowedBy current tail)
      (last : ∀ next, ¬arena.IsFollowedBy tail next)
      (accepts : ∀ member, ReflTransGen arena.IsFollowedBy current member →
        arena.accepts member added = .ok true)
      (apart : ¬TransGen arena.IsFollowedBy current added) : EndsIn arena added current (.last tail)
  | present (reaches : TransGen arena.IsFollowedBy current added) :
      EndsIn arena added current .alreadyPresent
  | unwilling {member : DeclId} (reaches : ReflTransGen arena.IsFollowedBy current member)
      (accepts_eq : arena.accepts member added = .ok false) : EndsIn arena added current .refused
  | ring (hasRing : arena.HasRing) : EndsIn arena added current .refused

/-- What is found from the next declaration on is found from a declaration that is willing. -/
theorem EndsIn.of_next {found : ChainEnd} (hfollowed : arena.IsFollowedBy current next)
    (haccepts : arena.accepts current added = .ok true) (hne : next ≠ added)
    (hends : arena.EndsIn added next found) : arena.EndsIn added current found := by
  cases hends with
  | last reaches last accepts apart =>
    refine .last (.head hfollowed reaches) last (fun member hmember => ?_) fun hpath => ?_
    · obtain rfl | ⟨first, hfirst, hrest⟩ := hmember.cases_head
      · exact haccepts
      · exact accepts member (hfollowed.unique hfirst ▸ hrest)
    · obtain heq | hlater := reflTransGen_iff_eq_or_transGen.mp
        (reflTransGen_of_transGen hfollowed hpath)
      · exact hne heq.symm
      · exact apart hlater
  | present reaches => exact .present (.head hfollowed reaches)
  | unwilling reaches accepts_eq => exact .unwilling (.head hfollowed reaches) accepts_eq
  | ring hasRing => exact .ring hasRing

/-- The search for the end of a chain comes to an end in every arena. -/
theorem Closed.exists_findChainEnd (hclosed : arena.Closed) (hadded : added.number < arena.size)
    (steps : Nat) {passed : List DeclId} (hcurrent : current.number < arena.size)
    (hnodup : (current :: passed).Nodup)
    (hpassed : ∀ id ∈ passed, id.number < arena.size ∧ TransGen arena.IsFollowedBy id current)
    (hsteps : arena.size + 1 ≤ passed.length + steps) :
    ∃ found, arena.findChainEnd added steps passed current = .ok found ∧
      arena.EndsIn added current found := by
  have hbound := DeclId.length_le_of_nodup hnodup
    (List.forall_mem_cons.mpr ⟨hcurrent, fun id hid => (hpassed id hid).1⟩)
  rw [List.length_cons] at hbound
  induction steps generalizing current passed with
  | zero => omega
  | succ steps ih =>
    obtain ⟨accepted, haccepted⟩ := hclosed.accepts hcurrent hadded
    obtain ⟨declaration, hget⟩ := exists_get hcurrent
    simp only [findChainEnd, haccepted, hget, ok_bind]
    cases accepted with
    | false => exact ⟨.refused, rfl, .unwilling .refl haccepted⟩
    | true =>
      simp only [Bool.not_true, Bool.false_eq_true, if_false]
      cases hnext : declaration.next? with
      | none =>
        have hlast : ∀ next, ¬arena.IsFollowedBy current next := by
          simp [isFollowedBy_iff_of_get hget, hnext]
        refine ⟨.last current, rfl, .last .refl hlast (fun member hmember => ?_) fun hpath => ?_⟩
        · obtain rfl | ⟨first, hfirst, -⟩ := hmember.cases_head
          · exact haccepted
          · exact absurd hfirst (hlast first)
        · obtain ⟨first, hfirst, -⟩ := TransGen.head'_iff.mp hpath
          exact hlast first hfirst
      | some next =>
        have hfollowed : arena.IsFollowedBy current next := ⟨declaration, hget, hnext⟩
        have hlead : ∀ id ∈ current :: passed, id.number < arena.size ∧
            TransGen arena.IsFollowedBy id next :=
          List.forall_mem_cons.mpr ⟨⟨hcurrent, .single hfollowed⟩,
            fun id hid => ⟨(hpassed id hid).1, (hpassed id hid).2.tail hfollowed⟩⟩
        simp only
        split
        · next heq => exact ⟨.alreadyPresent, rfl, .present (heq ▸ .single hfollowed)⟩
        · next hne =>
          split
          · next hmem => exact ⟨.refused, rfl, .ring ⟨next, (hlead next hmem).2⟩⟩
          · next hfresh =>
            have hnextLt := hclosed.lt_of_isFollowedBy hfollowed
            have hroom := DeclId.length_le_of_nodup (List.nodup_cons.mpr ⟨hfresh, hnodup⟩)
              (List.forall_mem_cons.mpr ⟨hnextLt, fun id hid => (hlead id hid).1⟩)
            obtain ⟨found, hfound, hends⟩ := ih hnextLt (List.nodup_cons.mpr ⟨hfresh, hnodup⟩)
              hlead (by rw [List.length_cons]; omega) (by simpa using hroom)
            exact ⟨found, hfound, hends.of_next hfollowed haccepted hne⟩

/-- What becomes of an arena when a declaration joins a chain. -/
inductive Joined (arena : Arena) (head added : DeclId) :
    Except DeclError Unit → Arena → Prop where
  | present (reaches : ReflTransGen arena.IsFollowedBy head added) :
      Joined arena head added (.ok ()) arena
  | refused (search : arena.EndsIn added head .refused) :
      Joined arena head added (.error (.notOverloadable head added)) arena
  | linked {tail : DeclId} {after : Arena} (ne : head ≠ added)
      (search : arena.EndsIn added head (.last tail))
      (modify_eq : (arena.modify tail fun declaration => declaration.withNext added) = .ok after) :
      Joined arena head added (.ok ()) after

/-- Whether a declaration joins a chain can always be said. -/
theorem Closed.exists_joined (hclosed : arena.Closed) (hhead : head.number < arena.size)
    (hadded : added.number < arena.size) :
    ∃ answer after, arena.joinChain head added = .ok (answer, after) ∧
      arena.Joined head added answer after := by
  unfold joinChain
  split
  · next heq => exact ⟨.ok (), arena, rfl, .present (heq ▸ .refl)⟩
  · next hne =>
    obtain ⟨found, hfound, hends⟩ := hclosed.exists_findChainEnd hadded (arena.size + 1) hhead
      (List.nodup_singleton head) (by simp) (by simp)
    rw [hfound, ok_bind]
    cases found with
    | alreadyPresent =>
      cases hends with
      | present reaches => exact ⟨.ok (), arena, rfl, .present reaches.to_reflTransGen⟩
    | refused => exact ⟨_, arena, rfl, .refused hends⟩
    | last tail =>
      have htail : tail.number < arena.size := by
        cases hends with
        | last reaches =>
          obtain rfl | ⟨before, -, hstep⟩ := reaches.cases_tail
          · exact hhead
          · exact hclosed.lt_of_isFollowedBy hstep
      obtain ⟨after, hmodify⟩ := exists_modify (fun declaration => declaration.withNext added) htail
      exact ⟨.ok (), after, by simp [hmodify], .linked hne hends hmodify⟩

/-- The end of the chain is followed by the new declaration, and nothing else changes. -/
theorem isFollowedBy_of_linked (hsearch : arena.EndsIn added head (.last tail))
    (hmodify : (arena.modify tail fun declaration => declaration.withNext added) = .ok after) :
    after.IsFollowedBy left right ↔
      arena.IsFollowedBy left right ∨ left = tail ∧ right = added := by
  cases hsearch with
  | last reaches last accepts apart =>
    by_cases hleft : left = tail
    · subst left
      obtain ⟨declaration, hget⟩ := exists_get (lt_of_modify hmodify)
      have hchanged : after.get tail = .ok (declaration.withNext added) := by
        rw [get_of_modify hmodify, if_pos rfl, hget, ok_map]
      rw [isFollowedBy_iff_of_get hchanged, Declaration.next?_withNext
        (isChainable_of_accepts (accepts tail reaches) hget), Option.some.injEq]
      simp [last, eq_comm]
    · have hsame : after.get left = arena.get left := by rw [get_of_modify hmodify, if_neg hleft]
      simp [IsFollowedBy, hsame, hleft]

variable {answer : Except DeclError Unit}

theorem Joined.size_eq (hjoined : arena.Joined head added answer after) :
    after.size = arena.size := by
  cases hjoined with
  | present | refused => rfl
  | linked _ _ modify_eq => exact size_of_modify modify_eq

theorem Joined.closed (hclosed : arena.Closed) (hadded : added.number < arena.size)
    (hjoined : arena.Joined head added answer after) : after.Closed := by
  cases hjoined with
  | present | refused => exact hclosed
  | @linked tail _ _ _ modify_eq =>
    obtain ⟨declaration, hget⟩ := exists_get (lt_of_modify modify_eq)
    refine closed_of_modify hclosed hget (fun handle hhandle => ?_)
      Declaration.aggregateHandles_withNext modify_eq
    obtain rfl | hold := Declaration.mem_handles_withNext hhandle
    · exact hadded
    · exact hclosed.lt_of_mem_handles hget hold

/-- No declaration leaves its place in a chain. -/
theorem Joined.isFollowedBy_le (hjoined : arena.Joined head added answer after) :
    arena.IsFollowedBy ≤ after.IsFollowedBy := by
  intro left right hfollowed
  cases hjoined with
  | present | refused => exact hfollowed
  | linked _ search modify_eq =>
    exact (isFollowedBy_of_linked search modify_eq).mpr (.inl hfollowed)

theorem Joined.hasRing (hjoined : arena.Joined head added answer after) (hring : arena.HasRing) :
    after.HasRing := by
  obtain ⟨id, hreturns⟩ := hring
  exact ⟨id, TransGen.mono hjoined.isFollowedBy_le id id hreturns⟩

/-- A chain after the insertion is one from before, or it goes over from the old end to the new
declaration. -/
theorem transGen_of_linked (hsearch : arena.EndsIn added head (.last tail))
    (hmodify : (arena.modify tail fun declaration => declaration.withNext added) = .ok after)
    (hpath : TransGen after.IsFollowedBy left right) :
    TransGen arena.IsFollowedBy left right ∨
      ReflTransGen arena.IsFollowedBy left tail ∧ ReflTransGen arena.IsFollowedBy added right := by
  induction hpath with
  | single hstep =>
    obtain hold | ⟨rfl, rfl⟩ := (isFollowedBy_of_linked hsearch hmodify).mp hstep
    · exact .inl (.single hold)
    · exact .inr ⟨.refl, .refl⟩
  | tail _ hstep ih =>
    obtain hold | ⟨rfl, rfl⟩ := (isFollowedBy_of_linked hsearch hmodify).mp hstep
    · obtain hfirst | ⟨hthere, hback⟩ := ih
      · exact .inl (hfirst.tail hold)
      · exact .inr ⟨hthere, hback.tail hold⟩
    · obtain hfirst | ⟨hthere, -⟩ := ih
      · exact .inr ⟨hfirst.to_reflTransGen, .refl⟩
      · exact .inr ⟨hthere, .refl⟩

/-! ## Rings -/

/-- The declaration is not in the chain and would be taken into it, but has a chain with the same
end already. -/
structure ClosesRing (arena : Arena) (head added : DeclId) : Prop where
  apart : ¬ReflTransGen arena.IsFollowedBy head added
  accepts : ∀ member, ReflTransGen arena.IsFollowedBy head member →
    arena.accepts member added = .ok true
  meets : ∃ tail, ReflTransGen arena.IsFollowedBy head tail ∧
    ReflTransGen arena.IsFollowedBy added tail ∧ ∀ next, ¬arena.IsFollowedBy tail next

/-- The first ring of an arena is made by an insertion that closes one. -/
theorem Joined.hasRing_iff (hring : ¬arena.HasRing)
    (hjoined : arena.Joined head added answer after) :
    after.HasRing ↔ arena.ClosesRing head added := by
  have hgrows := hjoined.isFollowedBy_le
  cases hjoined with
  | present reaches => exact iff_of_false hring fun hcloses => hcloses.apart reaches
  | refused search =>
    refine iff_of_false hring fun hcloses => ?_
    cases search with
    | unwilling reaches accepts_eq =>
      have haccepts := hcloses.accepts _ reaches
      rw [accepts_eq] at haccepts
      contradiction
    | ring hasRing => exact hring hasRing
  | @linked tail _ ne search modify_eq =>
    have hends := search
    cases hends with
    | last reaches last accepts apart =>
      constructor
      · rintro ⟨id, hreturns⟩
        obtain hold | ⟨hthere, hback⟩ := transGen_of_linked search modify_eq hreturns
        · exact absurd ⟨id, hold⟩ hring
        · refine ⟨fun hpath => ?_, accepts, tail, reaches, hback.trans hthere, last⟩
          obtain heq | hlater := reflTransGen_iff_eq_or_transGen.mp hpath
          · exact ne heq.symm
          · exact apart hlater
      · rintro ⟨-, -, end_, hreaches, hmeets, hlast⟩
        obtain rfl := eq_of_last rightUnique_isFollowedBy reaches hreaches last hlast
        have hnew : after.IsFollowedBy tail added :=
          (isFollowedBy_of_linked search modify_eq).mpr (.inr ⟨rfl, rfl⟩)
        exact ⟨tail, .head' hnew (ReflTransGen.mono hgrows added tail hmeets)⟩

/-! ## Sequences of insertions -/

/-- The arena after declarations have joined chains, one after the other.  Each pair has the head of
a chain and the declaration that joins it. -/
def joinAll : Arena → List (DeclId × DeclId) → Except Fault Arena
  | arena, [] => .ok arena
  | arena, (head, added) :: later => do
      let (_, arena) ← arena.joinChain head added
      arena.joinAll later

theorem Closed.exists_joinAll (hclosed : arena.Closed) {joins : List (DeclId × DeclId)}
    (hjoins : ∀ join ∈ joins, join.1.number < arena.size ∧ join.2.number < arena.size) :
    ∃ after, arena.joinAll joins = .ok after ∧ after.Closed ∧ (arena.HasRing → after.HasRing) := by
  induction joins generalizing arena with
  | nil => exact ⟨arena, rfl, hclosed, id⟩
  | cons join joins ih =>
    obtain ⟨⟨hhead, hadded⟩, hlater⟩ := List.forall_mem_cons.mp hjoins
    obtain ⟨answer, middle, hjoin, hjoined⟩ := hclosed.exists_joined hhead hadded
    obtain ⟨after, hrest, hafter, hkeeps⟩ := ih (hjoined.closed hclosed hadded)
      (by rwa [hjoined.size_eq])
    exact ⟨after, by simp [joinAll, hjoin, hrest], hafter,
      fun hring => hkeeps (hjoined.hasRing hring)⟩

def SomeClosesRing (arena : Arena) (joins : List (DeclId × DeclId)) : Prop :=
  ∃ earlier head added later middle, joins = earlier ++ (head, added) :: later ∧
    arena.joinAll earlier = .ok middle ∧ middle.ClosesRing head added

theorem someClosesRing_cons {joins : List (DeclId × DeclId)}
    (hjoin : arena.joinChain head added = .ok (answer, after)) :
    arena.SomeClosesRing ((head, added) :: joins) ↔
      arena.ClosesRing head added ∨ after.SomeClosesRing joins := by
  constructor
  · rintro ⟨earlier, first, second, later, middle, hjoins, hmiddle, hcloses⟩
    cases earlier with
    | nil =>
      simp only [List.nil_append, List.cons.injEq, Prod.mk.injEq] at hjoins
      obtain ⟨⟨rfl, rfl⟩, -⟩ := hjoins
      obtain rfl := Except.ok.inj hmiddle
      exact .inl hcloses
    | cons join earlier =>
      simp only [List.cons_append, List.cons.injEq] at hjoins
      obtain ⟨rfl, rfl⟩ := hjoins
      rw [joinAll, hjoin, ok_bind] at hmiddle
      exact .inr ⟨earlier, first, second, later, middle, rfl, hmiddle, hcloses⟩
  · rintro (hcloses | ⟨earlier, first, second, later, middle, rfl, hmiddle, hcloses⟩)
    · exact ⟨[], head, added, joins, arena, rfl, rfl, hcloses⟩
    · exact ⟨(head, added) :: earlier, first, second, later, middle, rfl,
        by simp [joinAll, hjoin, hmiddle], hcloses⟩

/-- A sequence of insertions makes a ring exactly if one of them closes it. -/
theorem Closed.hasRing_joinAll_iff (hclosed : arena.Closed) (hring : ¬arena.HasRing)
    {joins : List (DeclId × DeclId)}
    (hjoins : ∀ join ∈ joins, join.1.number < arena.size ∧ join.2.number < arena.size)
    (hrun : arena.joinAll joins = .ok after) :
    after.HasRing ↔ arena.SomeClosesRing joins := by
  induction joins generalizing arena with
  | nil =>
    obtain rfl := Except.ok.inj hrun
    exact iff_of_false hring (by simp [SomeClosesRing])
  | cons join joins ih =>
    obtain ⟨⟨hhead, hadded⟩, hlater⟩ := List.forall_mem_cons.mp hjoins
    obtain ⟨answer, middle, hjoin, hjoined⟩ := hclosed.exists_joined hhead hadded
    have hmiddle : middle.Closed := hjoined.closed hclosed hadded
    rw [← hjoined.size_eq] at hlater
    rw [joinAll, hjoin, ok_bind] at hrun
    rw [someClosesRing_cons hjoin, ← hjoined.hasRing_iff hring]
    by_cases hbroken : middle.HasRing
    · obtain ⟨last, hlast, -, hkeeps⟩ := hmiddle.exists_joinAll hlater
      obtain rfl := Except.ok.inj (hrun.symm.trans hlast)
      exact iff_of_true (hkeeps hbroken) (.inl hbroken)
    · rw [ih hmiddle hbroken hlater hrun, or_iff_right hbroken]

/-- From an arena without chains on, all chains can be followed to their ends after any sequence of
insertions, unless one of them brings two chains with the same end together. -/
theorem Closed.chainsEnd_after_joins_iff (hclosed : arena.Closed)
    (hunchained : ∀ declaration ∈ arena.declarations.toList, declaration.next? = none)
    {joins : List (DeclId × DeclId)}
    (hjoins : ∀ join ∈ joins, join.1.number < arena.size ∧ join.2.number < arena.size) :
    ∃ after, arena.joinAll joins = .ok after ∧
      (after.ChainsEnd ↔ ∀ earlier head added later middle,
        joins = earlier ++ (head, added) :: later → arena.joinAll earlier = .ok middle →
          ¬middle.ClosesRing head added) := by
  have hring : ¬arena.HasRing := by
    rintro ⟨id, hreturns⟩
    obtain ⟨next, ⟨declaration, hget, hnext⟩, -⟩ := TransGen.head'_iff.mp hreturns
    rw [hunchained declaration (mem_of_get hget)] at hnext
    contradiction
  obtain ⟨after, hrun, hafter, -⟩ := hclosed.exists_joinAll hjoins
  refine ⟨after, hrun, ?_⟩
  rw [hafter.chainsEnd_iff, hclosed.hasRing_joinAll_iff hring hjoins hrun]
  simp only [SomeClosesRing, not_exists, not_and]

def twoFunctions : Arena where
  declarations := #[.func .anonymous .synthetic .plain [], .func .anonymous .synthetic .plain []]

theorem Closed.chainsEnd_after_joins_iff_twoFunctions :
    twoFunctions.Closed ∧
    (∀ declaration ∈ twoFunctions.declarations.toList, declaration.next? = none) ∧
    ∃ after, twoFunctions.joinAll [(⟨0⟩, ⟨1⟩), (⟨1⟩, ⟨0⟩)] = .ok after ∧
      (after.ChainsEnd ↔ ∀ earlier head added later middle,
        [(⟨0⟩, ⟨1⟩), (⟨1⟩, ⟨0⟩)] = earlier ++ (head, added) :: later →
          twoFunctions.joinAll earlier = .ok middle → ¬middle.ClosesRing head added) := by
  have hclosed : twoFunctions.Closed := by decide
  exact ⟨hclosed, by decide, hclosed.chainsEnd_after_joins_iff (by decide) (by decide)⟩

/-- The second function joins the chain of the first one, and then the first one that of the second
one.  From then on each is the next after the other. -/
theorem joinAll_ring_twoFunctions :
    twoFunctions.Closed ∧
    (∀ declaration ∈ twoFunctions.declarations.toList, declaration.next? = none) ∧
    ∃ after, twoFunctions.joinAll [(⟨0⟩, ⟨1⟩), (⟨1⟩, ⟨0⟩)] = .ok after ∧ ¬after.ChainsEnd := by
  refine ⟨by decide, by decide, _, rfl, fun hends => ?_⟩
  obtain ⟨members, hchain, -⟩ := hends ⟨0⟩ (by decide)
  exact hchain.not_transGen (.tail (.single ⟨_, rfl, rfl⟩) ⟨_, rfl, rfl⟩)

end Arena

end Declarations
