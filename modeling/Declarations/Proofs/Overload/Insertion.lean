import Declarations.Proofs.Overload.Sharing

/-!
# What an insertion does to overload sets

An insertion is refused and leaves the arena alone, or it finds the new declaration in the chain, or
it makes one link: the last declaration of the chain gets the new one as its next.  A tour may come
to that link along any way, through chains and through other names.  Whatever the way, beyond the
link it sees the set of the new declaration, so the set at the head becomes the union of two sets,
and no set loses a function.
-/

namespace Declarations

open Relation

namespace Declaration

def unlinked (declaration : Declaration) : Declaration :=
  match declaration.entity with
  | .func state => { declaration with entity := .func { state with next := none } }
  | .aliasing state => { declaration with entity := .aliasing { state with next := none } }
  | .anchor state => { declaration with entity := .anchor { state with next := none } }
  | .var _ => declaration
  | .tuple _ => declaration

theorem unlinked_withNext {declaration : Declaration} {next : DeclId} :
    (declaration.withNext next).unlinked = declaration.unlinked := by
  cases hentity : declaration.entity <;> simp [withNext, unlinked, hentity]

end Declaration

namespace Arena

def unlinked (arena : Arena) : Arena :=
  { arena with declarations := arena.declarations.map Declaration.unlinked }

/-- The arena has changed in one link: the last declaration of the chain from `head` on, which had
no next one, is now followed by `added`. -/
structure GainsLink (before : Arena) (head added : DeclId) (after : Arena) : Prop where
  unlinked_eq : after.unlinked = before.unlinked
  exists_last : ∃ tail, ReflTransGen before.IsFollowedBy head tail ∧
    (∀ next, ¬before.IsFollowedBy tail next) ∧
    ∀ left right, after.IsFollowedBy left right ↔
      before.IsFollowedBy left right ∨ left = tail ∧ right = added

/-- The functions of the set at `head` are those that it had before and those of the set at
`added`. -/
def UnitesSets (before : Arena) (head added : DeclId) (after : Arena) : Prop :=
  ∃ earlier gained united, before.candidates head = .ok earlier ∧
    after.candidates added = .ok gained ∧ after.candidates head = .ok united ∧
    ∀ function, function ∈ united ↔ function ∈ earlier ∨ function ∈ gained

def KeepsSets (before after : Arena) : Prop :=
  ∀ start, start.number < before.size → ∃ earlier later, before.candidates start = .ok earlier ∧
    after.candidates start = .ok later ∧ ∀ function ∈ earlier, function ∈ later

variable {arena before after : Arena} {head added current start node tail : DeclId}
  {answer : Except DeclError Unit}

/-! ## The link -/

theorem unlinked_of_modify
    (hmodify : (before.modify tail fun declaration => declaration.withNext added) = .ok after) :
    after.unlinked = before.unlinked := by
  have hbound : tail.number < before.size := lt_of_modify hmodify
  simp only [modify, hbound, if_true, Except.ok.injEq] at hmodify
  subst after
  simp only [unlinked, mk.injEq, and_true]
  apply map_modify_of_look_eq
  intro declaration _
  exact Declaration.unlinked_withNext

/-- The search for the end of a chain refuses nothing if the chain comes to an end and all its
members are willing. -/
theorem ChainFrom.findChainEnd_ne_refused {members : List DeclId}
    (hchain : arena.ChainFrom current members)
    (haccepts : ∀ member ∈ members, arena.accepts member added = .ok true) {steps : Nat}
    {passed : List DeclId} (hpassed : ∀ id ∈ passed, TransGen arena.IsFollowedBy id current) :
    arena.findChainEnd added steps passed current ≠ .ok .refused := by
  induction hchain generalizing steps passed with
  | @last current declaration get_eq next_eq =>
    have hwilling := haccepts current List.mem_cons_self
    cases steps <;> simp [findChainEnd, hwilling, get_eq, next_eq]
  | @link current next members followed rest ih =>
    obtain ⟨hwilling, hothers⟩ := List.forall_mem_cons.mp haccepts
    have hlead : ∀ id ∈ current :: passed, TransGen arena.IsFollowedBy id next :=
      List.forall_mem_cons.mpr ⟨.single followed, fun id hid => (hpassed id hid).tail followed⟩
    have hnew : next ∉ current :: passed := fun hmem => rest.not_transGen (hlead next hmem)
    have hrest : ∀ steps,
        arena.findChainEnd added steps (current :: passed) next ≠ .ok .refused :=
      fun steps => ih hothers hlead
    obtain ⟨declaration, hget, hnext⟩ := followed
    cases steps with
    | zero => simp [findChainEnd]
    | succ steps =>
      simp only [findChainEnd, hwilling, hget, hnext, hnew, ok_bind, Bool.not_true,
        Bool.false_eq_true, if_false]
      split
      · simp
      · exact hrest steps

theorem ChainFrom.lt {members : List DeclId} (hchain : arena.ChainFrom current members) :
    ∀ member ∈ members, member.number < arena.size := by
  induction hchain with
  | last get_eq next_eq => simpa using lt_of_get get_eq
  | link followed rest ih =>
    obtain ⟨declaration, hget, -⟩ := followed
    exact List.forall_mem_cons.mpr ⟨lt_of_get hget, ih⟩

/-- An insertion into a chain that comes to an end is refused only by a member of the chain. -/
theorem Closed.exists_unwilling {cause : DeclError} {members : List DeclId}
    (hclosed : arena.Closed) (hadded : added.number < arena.size)
    (hjoin : arena.joinChain head added = .ok (.error cause, after))
    (hchain : arena.ChainFrom head members) :
    ∃ member ∈ members, arena.accepts member added = .ok false := by
  by_contra hnone
  have haccepts : ∀ member ∈ members, arena.accepts member added = .ok true := by
    intro member hmem
    obtain ⟨accepted, haccepted⟩ := hclosed.accepts (hchain.lt member hmem) hadded
    cases accepted with
    | true => exact haccepted
    | false => exact absurd ⟨member, hmem, haccepted⟩ hnone
  unfold joinChain at hjoin
  split at hjoin
  · simp at hjoin
  · obtain ⟨found, hfound, hrest⟩ := bind_eq_ok_iff.mp hjoin
    cases found with
    | alreadyPresent => simp at hrest
    | last tail =>
      obtain ⟨linked, -, hanswer⟩ := bind_eq_ok_iff.mp hrest
      simp at hanswer
    | refused => exact hchain.findChainEnd_ne_refused haccepts (by simp) hfound

/-- An insertion that succeeds finds the new declaration in the chain, or makes one link. -/
theorem Joined.unchanged_or_gainsLink (hjoined : arena.Joined head added (.ok ()) after) :
    ReflTransGen arena.IsFollowedBy head added ∧ after = arena ∨
      ¬ReflTransGen arena.IsFollowedBy head added ∧ arena.GainsLink head added after := by
  cases hjoined with
  | present reaches => exact .inl ⟨reaches, rfl⟩
  | @linked tail _ ne search modify_eq =>
    have hends := search
    cases hends with
    | last reaches last _ apart =>
      refine .inr ⟨fun hpath => ?_, unlinked_of_modify modify_eq, tail, reaches, last,
        fun left right => isFollowedBy_of_linked search modify_eq⟩
      obtain hsame | hlater := reflTransGen_iff_eq_or_transGen.mp hpath
      · exact ne hsame.symm
      · exact apart hlater

/-! ## The sets -/

/-- Beyond a new step lies what can be reached from its far end. -/
theorem reflTransGen_of_new_step {step grown : DeclId → DeclId → Prop}
    (hgrown : ∀ left right, grown left right ↔ step left right ∨ left = tail ∧ right = added)
    (hpath : ReflTransGen grown start node) :
    ReflTransGen step start node ∨ ReflTransGen grown added node := by
  induction hpath with
  | refl => exact .inl .refl
  | tail _ hstep ih =>
    obtain hold | hbeyond := ih
    · obtain hstep | ⟨-, rfl⟩ := (hgrown _ _).mp hstep
      · exact .inl (hold.tail hstep)
      · exact .inr .refl
    · exact .inr (hbeyond.tail hstep)

/-- A tour goes everywhere it went before. -/
theorem Joined.goesTo_le (hclosed : arena.Closed) (hadded : added.number < arena.size)
    (hjoined : arena.Joined head added answer after) : arena.GoesTo ≤ after.GoesTo := by
  intro left right hgoes
  have honly : OnlyChains arena after := hjoined.onlyChains hclosed hadded
  rw [hclosed.goesTo_iff] at hgoes
  rw [honly.closed.goesTo_iff, honly.entersAt_eq]
  exact hgoes.imp_left (hjoined.isFollowedBy_le left right)

/-- After an insertion the new declaration is in the chain of the head. -/
theorem Joined.reaches_added (hjoined : arena.Joined head added (.ok ()) after) :
    ReflTransGen after.IsFollowedBy head added := by
  have hgrows : arena.IsFollowedBy ≤ after.IsFollowedBy := hjoined.isFollowedBy_le
  obtain ⟨hpath, rfl⟩ | ⟨-, -, tail, hreaches, -, hlink⟩ := hjoined.unchanged_or_gainsLink
  · exact hpath
  · have hnew : after.IsFollowedBy tail added := (hlink tail added).mpr (.inr ⟨rfl, rfl⟩)
    exact (ReflTransGen.mono hgrows head tail hreaches).tail hnew

/-- From the head of the chain a tour comes where it came before, and where it comes from the new
declaration. -/
theorem Joined.reaches_iff (hclosed : arena.Closed) (hadded : added.number < arena.size)
    (hjoined : arena.Joined head added (.ok ()) after) :
    ReflTransGen after.GoesTo head node ↔
      ReflTransGen arena.GoesTo head node ∨ ReflTransGen after.GoesTo added node := by
  have honly : OnlyChains arena after := hjoined.onlyChains hclosed hadded
  constructor
  · intro hpath
    obtain ⟨-, rfl⟩ | ⟨-, -, tail, -, -, hlink⟩ := hjoined.unchanged_or_gainsLink
    · exact .inl hpath
    · have hgrown : ∀ left right, after.GoesTo left right ↔
          arena.GoesTo left right ∨ left = tail ∧ right = added := by
        intro left right
        rw [honly.closed.goesTo_iff, hclosed.goesTo_iff, honly.entersAt_eq, hlink, or_right_comm]
      exact reflTransGen_of_new_step hgrown hpath
  · rintro (hold | hbeyond)
    · exact ReflTransGen.mono (hjoined.goesTo_le hclosed hadded) head node hold
    · have hchain : after.IsFollowedBy ≤ after.GoesTo := by
        intro left right hfollowed
        exact honly.closed.goesTo_iff.mpr (.inl hfollowed)
      exact (ReflTransGen.mono hchain head added hjoined.reaches_added).trans hbeyond

theorem Joined.keepsSets (hclosed : arena.Closed) (hadded : added.number < arena.size)
    (hjoined : arena.Joined head added answer after) : arena.KeepsSets after := by
  intro start hstart
  have honly : OnlyChains arena after := hjoined.onlyChains hclosed hadded
  have hlt : start.number < after.size := by rwa [hjoined.size_eq]
  obtain ⟨earlier, hearlier, -, hmemEarlier, -⟩ := hclosed.exists_candidates hstart
  obtain ⟨later, hlater, -, hmemLater, -⟩ := honly.closed.exists_candidates hlt
  refine ⟨earlier, later, hearlier, hlater, fun function hmem => ?_⟩
  obtain ⟨node, hpath, hoffers⟩ := (hmemEarlier function).mp hmem
  have hgrown : ReflTransGen after.GoesTo start node :=
    ReflTransGen.mono (hjoined.goesTo_le hclosed hadded) start node hpath
  rw [← honly.offers_eq hclosed] at hoffers
  exact (hmemLater function).mpr ⟨node, hgrown, hoffers⟩

theorem Joined.unitesSets (hclosed : arena.Closed) (hhead : head.number < arena.size)
    (hadded : added.number < arena.size) (hjoined : arena.Joined head added (.ok ()) after) :
    arena.UnitesSets head added after := by
  have honly : OnlyChains arena after := hjoined.onlyChains hclosed hadded
  have hsize : after.size = arena.size := hjoined.size_eq
  obtain ⟨earlier, hearlier, -, hmemEarlier, -⟩ := hclosed.exists_candidates hhead
  obtain ⟨gained, hgained, -, hmemGained, -⟩ :=
    honly.closed.exists_candidates (by rwa [hsize] : added.number < after.size)
  obtain ⟨united, hunited, -, hmemUnited, -⟩ :=
    honly.closed.exists_candidates (by rwa [hsize] : head.number < after.size)
  refine ⟨earlier, gained, united, hearlier, hgained, hunited, fun function => ?_⟩
  rw [hmemEarlier, hmemGained, hmemUnited, honly.offers_eq hclosed]
  simp only [hjoined.reaches_iff hclosed hadded, or_and_right, exists_or]

/-- An insertion always comes to an end, and no overload set loses a function by it.  If it is
refused, the arena stays as it is, and if the chain of the head comes to an end, one of its members
was unwilling.  If it succeeds, the new declaration was in the chain already and the arena stays as
it is, or the last declaration of the chain gets it as its next one and nothing else changes.  The
functions at the head are then those that were there before and those at the new declaration. -/
theorem Closed.joinChain_unites (hclosed : arena.Closed) (hhead : head.number < arena.size)
    (hadded : added.number < arena.size) :
    ∃ answer after, arena.joinChain head added = .ok (answer, after) ∧
      (answer = .error (.notOverloadable head added) ∧ after = arena ∧
          (∀ members, arena.ChainFrom head members →
            ∃ member ∈ members, arena.accepts member added = .ok false) ∨
        answer = .ok () ∧
          (ReflTransGen arena.IsFollowedBy head added ∧ after = arena ∨
            ¬ReflTransGen arena.IsFollowedBy head added ∧ arena.GainsLink head added after) ∧
          arena.UnitesSets head added after) ∧
      arena.KeepsSets after := by
  obtain ⟨answer, after, hjoin, hjoined⟩ := hclosed.exists_joined hhead hadded
  refine ⟨answer, after, hjoin, ?_, hjoined.keepsSets hclosed hadded⟩
  cases answer with
  | error cause =>
    cases hjoined with
    | refused search =>
      exact .inl ⟨rfl, rfl, fun members hchain => hclosed.exists_unwilling hadded hjoin hchain⟩
  | ok done =>
    exact .inr ⟨rfl, hjoined.unchanged_or_gainsLink, hjoined.unitesSets hclosed hhead hadded⟩

/-- A function, an alias of it, and two functions of which the second one follows the first. -/
def aliasAndOverloads : Arena where
  declarations :=
    #[.func .anonymous .synthetic .plain [],
      .aliasing .anonymous .synthetic (.toSymbol ⟨0⟩),
      (Declaration.func .anonymous .synthetic .plain []).withNext ⟨3⟩,
      .func .anonymous .synthetic .plain []]

theorem Closed.joinChain_unites_aliasAndOverloads :
    aliasAndOverloads.Closed ∧ (⟨1⟩ : DeclId).number < aliasAndOverloads.size ∧
    (⟨2⟩ : DeclId).number < aliasAndOverloads.size ∧
    ∃ answer after, aliasAndOverloads.joinChain ⟨1⟩ ⟨2⟩ = .ok (answer, after) ∧
      (answer = .error (.notOverloadable ⟨1⟩ ⟨2⟩) ∧ after = aliasAndOverloads ∧
          (∀ members, aliasAndOverloads.ChainFrom ⟨1⟩ members →
            ∃ member ∈ members, aliasAndOverloads.accepts member ⟨2⟩ = .ok false) ∨
        answer = .ok () ∧
          (ReflTransGen aliasAndOverloads.IsFollowedBy ⟨1⟩ ⟨2⟩ ∧ after = aliasAndOverloads ∨
            ¬ReflTransGen aliasAndOverloads.IsFollowedBy ⟨1⟩ ⟨2⟩ ∧
              aliasAndOverloads.GainsLink ⟨1⟩ ⟨2⟩ after) ∧
          aliasAndOverloads.UnitesSets ⟨1⟩ ⟨2⟩ after) ∧
      aliasAndOverloads.KeepsSets after := by
  have hclosed : aliasAndOverloads.Closed := by decide
  exact ⟨hclosed, by decide, by decide, hclosed.joinChain_unites (by decide) (by decide)⟩

/-- With the first of the two functions both of them come to the function behind the alias. -/
example : (do
    let (_, after) ← aliasAndOverloads.joinChain ⟨1⟩ ⟨2⟩
    return (← aliasAndOverloads.candidates ⟨1⟩, ← after.candidates ⟨1⟩)) =
      .ok ([⟨0⟩], [⟨0⟩, ⟨2⟩, ⟨3⟩]) :=
  rfl

end Arena

end Declarations
