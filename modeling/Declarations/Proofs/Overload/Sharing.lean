import Declarations.Proofs.Overload.Chain

/-!
# Functions that share their name

Destructors and postblits never share their name with other functions.  A declaration is asked for
its own kind when it joins a chain, so neither of them ever gets into a chain itself.  But a tour of
an overload set goes on from a name to what it stands for, and a declaration that is another name
for a destructor is not refused.  This file shows that nothing else goes wrong: sequences of
insertions bring a destructor or postblit together with another function exactly if the arena has
two declarations that can join chains and stand for those two.
-/

namespace Declarations

open Relation

/-- What decides with whom a declaration shares its name, apart from what it stands for. -/
structure SharingProfile where
  isFunction : Bool
  isOverloadable : Bool
  standsAlone : Bool

namespace Declaration

variable {declaration : Declaration} {next : DeclId}

/-- The declaration is a function that never shares its name: a destructor or a postblit. -/
def standsAlone (declaration : Declaration) : Bool :=
  declaration.asFunc?.any fun state => state.role = .dtor || state.role = .postblit

def sharingProfile (declaration : Declaration) : SharingProfile :=
  ⟨declaration.isFunction, declaration.isOverloadable, declaration.standsAlone⟩

theorem sharingProfile_withNext :
    (declaration.withNext next).sharingProfile = declaration.sharingProfile := by
  cases hentity : declaration.entity <;>
    simp [withNext, sharingProfile, isFunction, asFunc?, isOverloadable, standsAlone, hentity]

theorem aliasedFunction?_withNext :
    (declaration.withNext next).aliasedFunction? = declaration.aliasedFunction? := by
  cases hentity : declaration.entity <;> simp [withNext, aliasedFunction?, hentity]

end Declaration

namespace Arena

variable {arena before after : Arena} {id node source target start head added tail : DeclId}
  {function other : DeclId} {declaration : Declaration}

def stop (arena : Arena) (node : DeclId) : Except Fault Stop := do
  arena.stopAt node (← arena.get node)

/-- The node is another name for the set that begins at `target`. -/
def EntersAt (arena : Arena) (node target : DeclId) : Prop :=
  arena.stop node = .ok (.entrance target)

/-- The declaration stands, by itself or through other names, for a function. -/
def StandsFor (arena : Arena) (id function : DeclId) : Prop :=
  ∃ node, ReflTransGen arena.EntersAt id node ∧ arena.Offers node function

def CanJoin (arena : Arena) (id : DeclId) : Prop :=
  ∃ declaration, arena.get id = .ok declaration ∧ declaration.isOverloadable = true

theorem CanJoin.lt (hjoin : arena.CanJoin id) : id.number < arena.size := by
  obtain ⟨declaration, hget, -⟩ := hjoin
  exact lt_of_get hget

def StandsAlone (arena : Arena) (id : DeclId) : Prop :=
  ∃ declaration, arena.get id = .ok declaration ∧ declaration.standsAlone = true

/-- In no overload set is a destructor or a postblit together with other functions. -/
def KeepsApart (arena : Arena) : Prop :=
  ∀ start, start.number < arena.size → ∃ functions, arena.candidates start = .ok functions ∧
    (2 ≤ functions.length → ∀ function ∈ functions, ¬arena.StandsAlone function)

/-! ## What a declaration stands for -/

theorem stop_of_get (hget : arena.get node = .ok declaration) :
    arena.stop node = arena.stopAt node declaration := by
  simp [stop, hget]

theorem Closed.goesTo_iff (hclosed : arena.Closed) :
    arena.GoesTo node target ↔ arena.IsFollowedBy node target ∨ arena.EntersAt node target := by
  by_cases hnode : node.number < arena.size
  · obtain ⟨declaration, hget⟩ := exists_get hnode
    obtain ⟨found, hfound, -⟩ := hclosed.stopAt hget
    rw [Arena.goesTo_iff hclosed hget hfound, isFollowedBy_iff_of_get hget, EntersAt,
      stop_of_get hget, hfound, Except.ok.injEq]
  · have hmissing : arena.get node = .error (.noDeclaration node) := get_of_size_le (by omega)
    constructor
    · intro hgoes
      cases hgoes <;> simp_all
    · simp [IsFollowedBy, EntersAt, stop, hmissing]

theorem Closed.offers_iff (hclosed : arena.Closed) :
    arena.Offers node function ↔
      arena.stop node = .ok (.function function) ∧ arena.IsFunction function := by
  by_cases hnode : node.number < arena.size
  · obtain ⟨declaration, hget⟩ := exists_get hnode
    obtain ⟨found, hfound, -⟩ := hclosed.stopAt hget
    rw [Arena.offers_iff hclosed hget hfound, stop_of_get hget, hfound, Except.ok.injEq]
  · have hmissing : arena.get node = .error (.noDeclaration node) := get_of_size_le (by omega)
    constructor
    · intro hoffers
      cases hoffers <;> simp_all
    · simp [stop, hmissing]

theorem EntersAt.unique (hfirst : arena.EntersAt node source)
    (hsecond : arena.EntersAt node target) : source = target := by
  rw [EntersAt] at hfirst
  rw [EntersAt, hfirst, Except.ok.injEq, Stop.entrance.injEq] at hsecond
  exact hsecond

/-- A node that offers a function is no other name for a set. -/
theorem Closed.not_entersAt_of_offers (hclosed : arena.Closed)
    (hoffers : arena.Offers node function) : ¬arena.EntersAt node target := by
  intro henters
  rw [hclosed.offers_iff, henters, Except.ok.injEq] at hoffers
  exact Stop.noConfusion hoffers.1

/-- What a declaration stands for, the declarations on the way to it stand for as well. -/
theorem Closed.standsFor_of_path (hclosed : arena.Closed) (hstands : arena.StandsFor start function)
    (hpath : ReflTransGen arena.EntersAt start source) : arena.StandsFor source function := by
  obtain ⟨node, hnode, hoffers⟩ := hstands
  have hunique : Relator.RightUnique arena.EntersAt := fun _ _ _ => EntersAt.unique
  obtain hback | honward := ReflTransGen.total_of_right_unique hunique hnode hpath
  · obtain hsame | ⟨target, henters, -⟩ := hback.cases_head
    · exact ⟨node, by rw [hsame], hoffers⟩
    · exact absurd henters (hclosed.not_entersAt_of_offers hoffers)
  · exact ⟨node, honward, hoffers⟩

/-- A declaration stands for one function at most. -/
theorem Closed.standsFor_unique (hclosed : arena.Closed) (hfirst : arena.StandsFor id function)
    (hsecond : arena.StandsFor id other) : function = other := by
  obtain ⟨node, hnode, hoffers⟩ := hsecond
  obtain ⟨last, hlast, hsame⟩ := hclosed.standsFor_of_path hfirst hnode
  obtain hend | ⟨target, henters, -⟩ := hlast.cases_head
  · rw [← hend, hclosed.offers_iff] at hsame
    rw [hclosed.offers_iff, hsame.1, Except.ok.injEq, Stop.function.injEq] at hoffers
    exact hoffers.1
  · exact absurd henters (hclosed.not_entersAt_of_offers hoffers)

/-! ## Insertions -/

/-- What a node adds to a tour depends on function aliases and on which declarations are
functions. -/
theorem stopAt_congr (halias : ∀ id, after.aliasedFunction id = before.aliasedFunction id)
    (hfunction : ∀ id, (after.get id).map Declaration.isFunction =
      (before.get id).map Declaration.isFunction) :
    after.stopAt node declaration = before.stopAt node declaration := by
  simp only [stopAt, halias]
  split
  · rfl
  · split
    · rfl
    · split
      · rfl
      · next target _ _ =>
        have hsame := hfunction target
        cases hafter : after.get target <;> cases hbefore : before.get target <;>
          simp_all
  · rfl
  · rfl
  · rfl

/-- The next entry of its chain is not what a node itself adds to a tour. -/
theorem stopAt_withNext :
    arena.stopAt node (declaration.withNext target) = arena.stopAt node declaration := by
  cases hentity : declaration.entity <;> simp [Declaration.withNext, stopAt, hentity]

structure OnlyChains (before after : Arena) : Prop where
  closed : after.Closed
  stop_eq : after.stop = before.stop
  lookAlike : LookAlike Declaration.sharingProfile before after

/-- Whatever follows another declaration in a chain, both are of a kind that can join chains. -/
def ChainsJoinable (arena : Arena) : Prop :=
  ∀ node target, arena.IsFollowedBy node target → arena.CanJoin node ∧ arena.CanJoin target

namespace OnlyChains

theorem refl (hclosed : arena.Closed) : OnlyChains arena arena :=
  ⟨hclosed, rfl, .refl arena⟩

theorem trans {middle : Arena} (hfirst : OnlyChains before middle)
    (hsecond : OnlyChains middle after) : OnlyChains before after :=
  ⟨hsecond.closed, hsecond.stop_eq.trans hfirst.stop_eq, hfirst.lookAlike.trans hsecond.lookAlike⟩

theorem entersAt_eq (honly : OnlyChains before after) : after.EntersAt = before.EntersAt := by
  funext node target
  rw [EntersAt, EntersAt, honly.stop_eq]

theorem canJoin_iff (honly : OnlyChains before after) : after.CanJoin id ↔ before.CanJoin id :=
  honly.lookAlike.exists_get_iff SharingProfile.isOverloadable (fun _ => rfl) id true

theorem standsAlone_iff (honly : OnlyChains before after) :
    after.StandsAlone id ↔ before.StandsAlone id :=
  honly.lookAlike.exists_get_iff SharingProfile.standsAlone (fun _ => rfl) id true

theorem offers_eq (hclosed : before.Closed) (honly : OnlyChains before after) :
    after.Offers = before.Offers := by
  funext node function
  apply propext
  rw [honly.closed.offers_iff, hclosed.offers_iff, honly.stop_eq]
  apply and_congr_right
  intro _
  exact honly.lookAlike.exists_get_iff SharingProfile.isFunction (fun _ => rfl) function true

/-- What a declaration stands for is in the overload set at it. -/
theorem exists_offers (hclosed : before.Closed) (honly : OnlyChains before after)
    (hstands : before.StandsFor id function) :
    ∃ node, ReflTransGen after.GoesTo id node ∧ after.Offers node function := by
  obtain ⟨node, hnode, hoffers⟩ := hstands
  refine ⟨node, ?_, by rwa [honly.offers_eq hclosed]⟩
  apply ReflTransGen.mono _ _ _ hnode
  intro left right henters
  rw [honly.closed.goesTo_iff, honly.entersAt_eq]
  exact .inr henters

end OnlyChains

/-- Both sides of an accepted insertion are of a kind that can join chains. -/
theorem canJoin_of_accepts (haccepts : arena.accepts node added = .ok true) :
    arena.CanJoin node ∧ arena.CanJoin added := by
  obtain ⟨joining, hjoining, hrest⟩ := bind_eq_ok_iff.mp haccepts
  split at hrest
  · simp at hrest
  · next hoverloadable =>
    rw [Bool.not_eq_true', Bool.not_eq_false] at hoverloadable
    obtain ⟨declaration, hget, hmember⟩ := bind_eq_ok_iff.mp hrest
    refine ⟨⟨declaration, hget, ?_⟩, joining, hjoining, hoverloadable⟩
    cases hentity : declaration.entity with
    | aliasing state => simp [Declaration.isOverloadable, hentity]
    | _ => simpa [hentity] using hmember

theorem Joined.onlyChains {answer : Except DeclError Unit} (hclosed : arena.Closed)
    (hadded : added.number < arena.size) (hjoined : arena.Joined head added answer after) :
    OnlyChains arena after := by
  have hafter : after.Closed := hjoined.closed hclosed hadded
  have hsize : after.size = arena.size := hjoined.size_eq
  cases hjoined with
  | present | refused => exact .refl hclosed
  | linked _ _ modify_eq =>
    have hget := get_of_modify modify_eq
    have halike : LookAlike Declaration.sharingProfile arena after :=
      map_get_of_change hget fun _ => Declaration.sharingProfile_withNext
    have hfunction : ∀ id, (after.get id).map Declaration.isFunction =
        (arena.get id).map Declaration.isFunction :=
      map_get_of_change hget fun _ =>
        congrArg SharingProfile.isFunction Declaration.sharingProfile_withNext
    have halias : ∀ id, after.aliasedFunction id = arena.aliasedFunction id :=
      aliasedFunction_congr hsize
        (map_get_of_change hget fun _ => Declaration.aliasedFunction?_withNext)
    refine ⟨hafter, ?_, halike⟩
    funext node
    rw [stop, stop, hget]
    split
    · cases arena.get node with
      | error fault => rfl
      | ok declaration =>
        rw [ok_map, ok_bind, ok_bind, stopAt_withNext, stopAt_congr halias hfunction]
    · cases arena.get node with
      | error fault => rfl
      | ok declaration => rw [ok_bind, ok_bind, stopAt_congr halias hfunction]

theorem Joined.chainsJoinable {answer : Except DeclError Unit} (hclosed : arena.Closed)
    (hadded : added.number < arena.size) (hjoined : arena.Joined head added answer after)
    (hjoinable : arena.ChainsJoinable) : after.ChainsJoinable := by
  have honly : OnlyChains arena after := hjoined.onlyChains hclosed hadded
  intro left right hfollowed
  rw [honly.canJoin_iff, honly.canJoin_iff]
  cases hjoined with
  | present | refused => exact hjoinable left right hfollowed
  | @linked tail _ _ search modify_eq =>
    obtain hold | ⟨hleft, hright⟩ := (isFollowedBy_of_linked search modify_eq).mp hfollowed
    · exact hjoinable left right hold
    · rw [hleft, hright]
      cases search with
      | last reaches _ accepts => exact canJoin_of_accepts (accepts tail reaches)

/-- Insertions change nothing but chains, and put nothing into them that cannot join chains. -/
theorem Closed.exists_joinAll_onlyChains (hclosed : arena.Closed) {joins : List (DeclId × DeclId)}
    (hjoins : ∀ join ∈ joins, join.1.number < arena.size ∧ join.2.number < arena.size)
    (hjoinable : arena.ChainsJoinable) :
    ∃ after, arena.joinAll joins = .ok after ∧ OnlyChains arena after ∧ after.ChainsJoinable := by
  induction joins generalizing arena with
  | nil => exact ⟨arena, rfl, .refl hclosed, hjoinable⟩
  | cons join joins ih =>
    obtain ⟨⟨hhead, hadded⟩, hlater⟩ := List.forall_mem_cons.mp hjoins
    obtain ⟨answer, middle, hjoin, hjoined⟩ := hclosed.exists_joined hhead hadded
    have hmiddle : OnlyChains arena middle := hjoined.onlyChains hclosed hadded
    rw [← hjoined.size_eq] at hlater
    obtain ⟨after, hrest, hafter, hchains⟩ :=
      ih hmiddle.closed hlater (hjoined.chainsJoinable hclosed hadded hjoinable)
    exact ⟨after, by simp [joinAll, hjoin, hrest], hmiddle.trans hafter, hchains⟩

/-! ## Who shares a name with whom -/

/-- A way through an overload set goes from name to name only, or it goes along a chain at some
place.  Both sides of the first and of the last such place can join chains. -/
theorem split_path (honly : OnlyChains arena after) (hjoinable : after.ChainsJoinable)
    (hpath : ReflTransGen after.GoesTo start node) :
    ReflTransGen arena.EntersAt start node ∨
      ∃ source target, ReflTransGen arena.EntersAt start source ∧ arena.CanJoin source ∧
        arena.CanJoin target ∧ ReflTransGen arena.EntersAt target node := by
  induction hpath with
  | refl => exact .inl .refl
  | @tail middle node _ hgoes ih =>
    rw [honly.closed.goesTo_iff, honly.entersAt_eq] at hgoes
    obtain hfollowed | henters := hgoes
    · have ⟨hmiddle, hnode⟩ := hjoinable middle node hfollowed
      rw [honly.canJoin_iff] at hmiddle hnode
      obtain hnames | ⟨source, -, hsource, hcanJoin, -, -⟩ := ih
      · exact .inr ⟨middle, node, hnames, hmiddle, hnode, .refl⟩
      · exact .inr ⟨source, node, hsource, hcanJoin, hnode, .refl⟩
    · obtain hnames | ⟨source, target, hsource, hcanJoin, htarget, hrest⟩ := ih
      · exact .inl (hnames.tail henters)
      · exact .inr ⟨source, target, hsource, hcanJoin, htarget, hrest.tail henters⟩

/-- Two functions in one overload set are those that two declarations stand for that can join
chains. -/
theorem exists_canJoin_of_offers (hclosed : arena.Closed) (honly : OnlyChains arena after)
    (hjoinable : after.ChainsJoinable) {left right : DeclId}
    (hleft : ReflTransGen after.GoesTo start left) (hfunction : after.Offers left function)
    (hright : ReflTransGen after.GoesTo start right) (hother : after.Offers right other)
    (hne : function ≠ other) :
    ∃ first second, arena.CanJoin first ∧ arena.CanJoin second ∧ arena.StandsFor first function ∧
      arena.StandsFor second other := by
  rw [honly.offers_eq hclosed] at hfunction hother
  obtain hleft | ⟨source, target, hsource, hfirst, htarget, hleft⟩ :=
    split_path honly hjoinable hleft <;>
  obtain hright | ⟨otherSource, otherTarget, hotherSource, hsecond, hotherTarget, hright⟩ :=
    split_path honly hjoinable hright
  · have hstart : arena.StandsFor start function := ⟨left, hleft, hfunction⟩
    exact absurd (hclosed.standsFor_unique hstart ⟨right, hright, hother⟩) hne
  · have hstart : arena.StandsFor start function := ⟨left, hleft, hfunction⟩
    exact ⟨otherSource, otherTarget, hsecond, hotherTarget,
      hclosed.standsFor_of_path hstart hotherSource, right, hright, hother⟩
  · have hstart : arena.StandsFor start other := ⟨right, hright, hother⟩
    exact ⟨target, source, htarget, hfirst, ⟨left, hleft, hfunction⟩,
      hclosed.standsFor_of_path hstart hsource⟩
  · exact ⟨target, otherTarget, htarget, hotherTarget, ⟨left, hleft, hfunction⟩, right, hright,
      hother⟩

/-- Only a declaration that can be in a chain stands for a function. -/
theorem Closed.isChainable_of_standsFor (hclosed : arena.Closed)
    (hget : arena.get id = .ok declaration) (hstands : arena.StandsFor id function) :
    declaration.isChainable = true := by
  by_contra hunchainable
  have hstop : arena.stop id = .ok .nothing := by
    rw [stop_of_get hget]
    cases hentity : declaration.entity <;>
      simp_all [Declaration.isChainable, Arena.stopAt]
  obtain ⟨node, hnode, hoffers⟩ := hstands
  obtain hend | ⟨target, henters, -⟩ := hnode.cases_head
  · rw [← hend, hclosed.offers_iff, hstop, Except.ok.injEq] at hoffers
    exact Stop.noConfusion hoffers.1
  · rw [EntersAt, hstop, Except.ok.injEq] at henters
    exact Stop.noConfusion henters

/-- A declaration that stands for a function, and can join chains, lets others join its chain. -/
theorem Closed.accepts_of_standsFor (hclosed : arena.Closed) (hnode : arena.CanJoin node)
    (hadded : arena.CanJoin added) (hstands : arena.StandsFor node function) :
    arena.accepts node added = .ok true := by
  obtain ⟨declaration, hget, hmember⟩ := hnode
  obtain ⟨joining, hjoining, hoverloadable⟩ := hadded
  cases hentity : declaration.entity with
  | aliasing state =>
    cases htarget : state.target with
    | none => simp [Arena.accepts, hget, hjoining, hoverloadable, hentity, htarget]
    | some target =>
      have henters : arena.EntersAt node target := by
        rw [EntersAt, stop_of_get hget]
        simp [Arena.stopAt, hentity, htarget]
      have htargetStands : arena.StandsFor target function :=
        hclosed.standsFor_of_path hstands (.single henters)
      obtain ⟨named, hnamed⟩ : ∃ named, arena.get target = .ok named := by
        apply exists_get
        apply hclosed.lt_of_mem_handles hget
        simp [Declaration.handles, hentity, Entity.handles, htarget]
      simp [Arena.accepts, hget, hjoining, hoverloadable, hentity, htarget, hnamed,
        hclosed.isChainable_of_standsFor hnamed htargetStands]
  | _ => simp [Arena.accepts, hget, hjoining, hoverloadable, hentity, hmember]

/-- In an arena without chains, one of two declarations that can join chains and stand for different
functions can be inserted after the other. -/
theorem exists_followed_of_canJoin (hclosed : arena.Closed)
    (hunchained : ∀ node target, ¬arena.IsFollowedBy node target)
    {first second : DeclId} (hfirst : arena.CanJoin first) (hsecond : arena.CanJoin second)
    (hfunction : arena.StandsFor first function) (hother : arena.StandsFor second other)
    (hne : function ≠ other) :
    ∃ after, arena.joinAll [(first, second)] = .ok after ∧ OnlyChains arena after ∧
      after.IsFollowedBy first second := by
  have hsecondLt : second.number < arena.size := hsecond.lt
  have halone : ∀ id, ReflTransGen arena.IsFollowedBy first id → id = first := by
    intro id hpath
    obtain hsame | ⟨next, hnext, -⟩ := hpath.cases_head
    · exact hsame.symm
    · exact absurd hnext (hunchained first next)
  have haccepts : arena.accepts first second = .ok true :=
    hclosed.accepts_of_standsFor hfirst hsecond hfunction
  obtain ⟨answer, after, hjoin, hjoined⟩ := hclosed.exists_joined hfirst.lt hsecondLt
  refine ⟨after, by simp [joinAll, hjoin], hjoined.onlyChains hclosed hsecondLt, ?_⟩
  cases hjoined with
  | present reaches =>
    have hsame : second = first := halone second reaches
    rw [hsame] at hother
    exact absurd (hclosed.standsFor_unique hfunction hother) hne
  | refused search =>
    cases search with
    | unwilling reaches accepts_eq =>
      rw [halone _ reaches, haccepts, Except.ok.injEq] at accepts_eq
      contradiction
    | ring hasRing =>
      obtain ⟨id, hring⟩ := hasRing
      obtain ⟨next, hnext, -⟩ := TransGen.head'_iff.mp hring
      exact absurd hnext (hunchained id next)
  | linked ne search modify_eq =>
    rw [isFollowedBy_of_linked search modify_eq]
    cases search with
    | last reaches => exact .inr ⟨(halone _ reaches).symm, rfl⟩

/-- A list without repetitions has two members or more exactly if some member is not this one. -/
theorem two_le_length_iff {functions : List DeclId} (hnodup : functions.Nodup)
    (hmem : function ∈ functions) :
    2 ≤ functions.length ↔ ∃ other ∈ functions, other ≠ function := by
  have hlength : (functions.erase function).length = functions.length - 1 :=
    List.length_erase_of_mem hmem
  calc 2 ≤ functions.length
      ↔ 0 < (functions.erase function).length := by omega
    _ ↔ ∃ other, other ∈ functions.erase function := List.length_pos_iff_exists_mem
    _ ↔ ∃ other ∈ functions, other ≠ function := by simp [hnodup.mem_erase_iff, and_comm]

/-- Two functions in one overload set are kept apart only if neither is a destructor or postblit. -/
theorem KeepsApart.eq_of_standsAlone (hclosed : arena.Closed) (hkeeps : arena.KeepsApart)
    (hstart : start.number < arena.size) {left right : DeclId}
    (hleft : ReflTransGen arena.GoesTo start left) (hfunction : arena.Offers left function)
    (hright : ReflTransGen arena.GoesTo start right) (hother : arena.Offers right other)
    (halone : arena.StandsAlone function) : function = other := by
  obtain ⟨functions, hcandidates, happly⟩ := hkeeps start hstart
  obtain ⟨listed, hlisted, hnodup, hoffered, -⟩ := hclosed.exists_candidates hstart
  rw [hcandidates, Except.ok.injEq] at hlisted
  rw [← hlisted] at hnodup hoffered
  have hmem : function ∈ functions := (hoffered function).mpr ⟨left, hleft, hfunction⟩
  by_contra hne
  apply happly _ function hmem halone
  rw [two_le_length_iff hnodup hmem]
  exact ⟨other, (hoffered other).mpr ⟨right, hright, hother⟩, Ne.symm hne⟩

/-- From an arena without chains on, no sequence of insertions brings a destructor or a postblit
together with another function, exactly if no two declarations that can join chains stand for
different functions one of which is a destructor or a postblit. -/
theorem Closed.keepsApart_after_joins_iff (hclosed : arena.Closed)
    (hunchained : ∀ declaration ∈ arena.declarations.toList, declaration.next? = none) :
    (∀ joins : List (DeclId × DeclId),
      (∀ join ∈ joins, join.1.number < arena.size ∧ join.2.number < arena.size) →
        ∃ after, arena.joinAll joins = .ok after ∧ after.KeepsApart) ↔
      ∀ first second function other, arena.CanJoin first → arena.CanJoin second →
        arena.StandsFor first function → arena.StandsFor second other →
          arena.StandsAlone function → function = other := by
  have hnoChain : ∀ node target, ¬arena.IsFollowedBy node target := by
    rintro node target ⟨declaration, hget, hnext⟩
    rw [hunchained declaration (mem_of_get hget)] at hnext
    contradiction
  constructor
  · intro hapart first second function other hfirst hsecond hfunction hother halone
    by_contra hne
    obtain ⟨linked, hlinked, honly, hfollowed⟩ :=
      exists_followed_of_canJoin hclosed hnoChain hfirst hsecond hfunction hother hne
    obtain ⟨after, hrun, hkeeps⟩ := hapart [(first, second)] (by simp [hfirst.lt, hsecond.lt])
    rw [hlinked, Except.ok.injEq] at hrun
    subst hrun
    obtain ⟨left, hleft, hleftOffers⟩ := honly.exists_offers hclosed hfunction
    obtain ⟨right, hright, hrightOffers⟩ := honly.exists_offers hclosed hother
    have hgoes : linked.GoesTo first second := honly.closed.goesTo_iff.mpr (.inl hfollowed)
    apply hne
    exact hkeeps.eq_of_standsAlone honly.closed (honly.lookAlike.lt_iff.mpr hfirst.lt) hleft
      hleftOffers (.head hgoes hright) hrightOffers (honly.standsAlone_iff.mpr halone)
  · intro hnames joins hjoins
    have hjoinable : arena.ChainsJoinable :=
      fun node target hfollowed => absurd hfollowed (hnoChain node target)
    obtain ⟨after, hrun, honly, hchains⟩ := hclosed.exists_joinAll_onlyChains hjoins hjoinable
    refine ⟨after, hrun, ?_⟩
    intro start hstart
    obtain ⟨functions, hcandidates, hnodup, hoffered, -⟩ := honly.closed.exists_candidates hstart
    refine ⟨functions, hcandidates, ?_⟩
    intro hlength function hmem halone
    obtain ⟨other, hother, hne⟩ := (two_le_length_iff hnodup hmem).mp hlength
    obtain ⟨left, hleft, hleftOffers⟩ := (hoffered function).mp hmem
    obtain ⟨right, hright, hrightOffers⟩ := (hoffered other).mp hother
    obtain ⟨first, second, hfirst, hsecond, hfirstStands, hsecondStands⟩ :=
      exists_canJoin_of_offers hclosed honly hchains hleft hleftOffers hright hrightOffers
        hne.symm
    rw [honly.standsAlone_iff] at halone
    exact hne (hnames first second function other hfirst hsecond hfirstStands hsecondStands
      halone).symm

def destructorAndFunction : Arena where
  declarations := #[.func .anonymous .synthetic .dtor [], .func .anonymous .synthetic .plain []]

/-- Without other names, the destructor stays alone. -/
theorem Closed.keepsApart_after_joins_iff_destructorAndFunction :
    destructorAndFunction.Closed ∧
    (∀ declaration ∈ destructorAndFunction.declarations.toList, declaration.next? = none) ∧
    ∀ joins : List (DeclId × DeclId), (∀ join ∈ joins,
      join.1.number < destructorAndFunction.size ∧ join.2.number < destructorAndFunction.size) →
        ∃ after, destructorAndFunction.joinAll joins = .ok after ∧ after.KeepsApart := by
  have hclosed : destructorAndFunction.Closed := by decide
  have honlyPlain : ∀ id, destructorAndFunction.CanJoin id → id = ⟨1⟩ := by
    rintro ⟨number⟩ ⟨declaration, hget, hoverloadable⟩
    have hbound : number < 2 := lt_of_get hget
    obtain rfl | rfl : number = 0 ∨ number = 1 := by omega
    · rw [← Except.ok.inj hget] at hoverloadable
      contradiction
    · rfl
  refine ⟨hclosed, by decide, (hclosed.keepsApart_after_joins_iff (by decide)).mpr ?_⟩
  intro first second function other hfirst hsecond hfunction hother _
  rw [honlyPlain first hfirst] at hfunction
  rw [honlyPlain second hsecond] at hother
  exact hclosed.standsFor_unique hfunction hother

def aliasOfDestructor : Arena where
  declarations :=
    #[.func .anonymous .synthetic .dtor [], .aliasing .anonymous .synthetic (.toSymbol ⟨0⟩),
      .func .anonymous .synthetic .plain []]

/-- The plain function joins the chain of the alias, and so it comes together with the
destructor. -/
theorem joinAll_shared_aliasOfDestructor :
    aliasOfDestructor.Closed ∧
    (∀ declaration ∈ aliasOfDestructor.declarations.toList, declaration.next? = none) ∧
    ∃ after, aliasOfDestructor.joinAll [(⟨1⟩, ⟨2⟩)] = .ok after ∧ ¬after.KeepsApart := by
  refine ⟨by decide, by decide, _, rfl, ?_⟩
  intro hkeeps
  obtain ⟨functions, hcandidates, happly⟩ := hkeeps ⟨1⟩ (by decide)
  have hboth : [⟨0⟩, ⟨2⟩] = functions := Except.ok.inj hcandidates
  rw [← hboth] at happly
  exact happly (by decide) ⟨0⟩ (by decide) ⟨_, rfl, rfl⟩

end Arena

end Declarations
