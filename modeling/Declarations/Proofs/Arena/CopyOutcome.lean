import Declarations.Proofs.Arena.Copying
import Mathlib.Data.Set.Card
import Mathlib.Order.Interval.Set.Nat

/-!
# What comes of a copy

A copy takes one new declaration for each node of a tree.  It has one of three outcomes: the tree
has been copied, the arena has become full on the way, or a tuple was met deeper than the copy goes.
Each of them says how large or how deep the tree is, so which one it is follows from the tree.
Where no tuple contains itself and there is room, the copy stands by itself.
-/

namespace Declarations

namespace Arena

variable {source before middle after : Arena} {id : DeclId} {depth : Nat}
  {element : TupleElement} {elements rest : List TupleElement}

/-! ## The size of a tree -/

theorem added_eq_image (before after : Arena) :
    added before after = DeclId.mk '' Set.Ico before.size after.size := by
  ext ⟨number⟩
  simp [added]

theorem finite_added (before after : Arena) : (added before after).Finite := by
  rw [added_eq_image]
  exact (Set.finite_Ico _ _).image _

theorem ncard_added (before after : Arena) :
    (added before after).ncard = after.size - before.size := by
  have hinjective : Function.Injective DeclId.mk := fun _ _ hsame => congrArg DeclId.number hsame
  rw [added_eq_image, Set.ncard_image_of_injective _ hinjective, Set.ncard_Ico_nat]

namespace CopiesTree

variable {copyOf : List Nat → DeclId}

theorem finite_ways (htree : CopiesTree source before after id copyOf) :
    (source.ways id).Finite :=
  htree.bijOn.finite_iff_finite.mpr (finite_added before after)

/-- The copy of a tree takes one declaration for each way through the tree. -/
theorem size_eq (htree : CopiesTree source before after id copyOf)
    (hextends : before.Extends after) :
    after.size = before.size + (source.ways id).ncard := by
  rw [htree.bijOn.ncard_eq, ncard_added]
  have hsize := hextends.size_le
  omega

theorem cast_size_eq (htree : CopiesTree source before after id copyOf)
    (hextends : before.Extends after) :
    (after.size : ℕ∞) = before.size + (source.ways id).encard := by
  rw [htree.size_eq hextends, Nat.cast_add, htree.finite_ways.cast_ncard_eq]

end CopiesTree

theorem one_le_encard_ways (source : Arena) (id : DeclId) : 1 ≤ (source.ways id).encard :=
  Set.one_le_encard_iff_nonempty.mpr ⟨[], id, rfl⟩

/-- Each way through the tree of an element has a place of its own among the elements. -/
theorem encard_elementWays_cons : (source.elementWays (element :: rest)).encard =
    (source.waysBelow element).encard + (source.elementWays rest).encard := by
  have hapart : Disjoint (Prod.mk 0 '' source.waysBelow element)
      ((fun entry : Nat × List Nat => (entry.1 + 1, entry.2)) '' source.elementWays rest) := by
    rw [Set.disjoint_left]
    rintro _ ⟨way, -, rfl⟩ ⟨entry, -, hsame⟩
    exact Nat.succ_ne_zero _ (Prod.mk.inj hsame).1
  rw [elementWays_cons, Set.encard_union_eq hapart, (Prod.mk_right_injective 0).encard_image,
    injective_nextPlace.encard_image]

/-- A tree has its root, and the trees of the elements. -/
theorem encard_ways {declaration : Declaration} (hget : source.get id = .ok declaration)
    (helements : ∀ place, declaration.member? place = memberAt? elements place) :
    (source.ways id).encard = 1 + (source.elementWays elements).encard := by
  have hapart : Disjoint ({[]} : Set (List Nat))
      ((fun entry : Nat × List Nat => entry.1 :: entry.2) '' source.elementWays elements) := by
    rw [Set.disjoint_left]
    rintro _ rfl ⟨entry, -, hsame⟩
    exact List.cons_ne_nil _ _ hsame
  rw [ways_eq_union hget helements, Set.encard_union_eq hapart, Set.encard_singleton,
    injective_cons.encard_image]

/-- There is room for one more declaration for each node of the tree. -/
def HasRoomFor (arena : Arena) (id : DeclId) : Prop :=
  (arena.size : ℕ∞) + (arena.ways id).encard ≤ (capacity : ℕ∞)

/-! ## The three outcomes -/

/-- What comes of copying a tree of `source` into an arena that has grown to `before`. -/
inductive CopyOutcome (source before : Arena) (depth : Nat) (id : DeclId) :
    Except Fault (DeclId × Arena) → Prop
  | copied {after : Arena} {copyOf : List Nat → DeclId} (grows : before.Extends after)
      (tree : CopiesTree source before after id copyOf) (fits : after.size ≤ capacity)
      (shallow : ∀ way ∈ source.ways id, way.length < depth) :
      CopyOutcome source before depth id (.ok (copyOf [], after))
  | noRoom (overfull : (capacity : ℕ∞) < before.size + (source.ways id).encard) :
      CopyOutcome source before depth id (.error .noRoom)
  /-- A copy that goes too deep has found room for a declaration on each level that it may go. -/
  | unfinished (deep : ∃ way ∈ source.ways id, depth ≤ way.length)
      (room : 0 < depth → before.size + depth ≤ capacity) :
      CopyOutcome source before depth id (.error .unfinished)

inductive ElementsOutcome (source before : Arena) (depth : Nat) (elements : List TupleElement) :
    Except Fault (List TupleElement × Arena) → Prop
  | copied {after : Arena} {copies : List TupleElement} {copyOf : Nat → List Nat → DeclId}
      (grows : before.Extends after)
      (forest : CopiesElements source before after elements copies copyOf)
      (fits : after.size ≤ capacity)
      (shallow : ∀ entry ∈ source.elementWays elements, entry.2.length < depth) :
      ElementsOutcome source before depth elements (.ok (copies, after))
  | noRoom (overfull : (capacity : ℕ∞) < before.size + (source.elementWays elements).encard) :
      ElementsOutcome source before depth elements (.error .noRoom)
  | unfinished (deep : ∃ entry ∈ source.elementWays elements, depth ≤ entry.2.length)
      (room : before.size + depth ≤ capacity) :
      ElementsOutcome source before depth elements (.error .unfinished)

/-- What comes of copying the other elements when the first one has been copied. -/
theorem ElementsOutcome.cons {answer : Except Fault (List TupleElement × Arena)}
    {copied : TupleElement} {first : List Nat → DeclId} (hgrows : before.Extends middle)
    (hsize : (middle.size : ℕ∞) = before.size + (source.waysBelow element).encard)
    (hshallow : ∀ way ∈ source.waysBelow element, way.length < depth)
    (hforest : ∀ {after copies others}, middle.Extends after →
      CopiesElements source middle after rest copies others →
      CopiesElements source before after (element :: rest) (copied :: copies)
        (prepend first others))
    (houtcome : ElementsOutcome source middle depth rest answer) :
    ElementsOutcome source before depth (element :: rest)
      (answer >>= fun answer => .ok (copied :: answer.1, answer.2)) := by
  cases houtcome with
  | copied grows forest fits shallow =>
    refine .copied (hgrows.trans grows) (hforest grows forest) fits fun entry hentry => ?_
    rw [elementWays_cons] at hentry
    obtain ⟨way, hway, rfl⟩ | ⟨later, hlater, rfl⟩ := hentry
    · exact hshallow way hway
    · exact shallow later hlater
  | noRoom overfull =>
    refine .noRoom ?_
    rwa [encard_elementWays_cons, ← add_assoc, ← hsize]
  | unfinished deep room =>
    obtain ⟨entry, hentry, hlength⟩ := deep
    refine .unfinished ⟨(entry.1 + 1, entry.2), ?_, hlength⟩ ?_
    · rw [elementWays_cons]
      exact .inr ⟨entry, hentry, rfl⟩
    · exact (Nat.add_le_add_right hgrows.size_le depth).trans room

/-- The elements have an outcome when the declarations among them have. -/
theorem elementsOutcome {copy : Arena → DeclId → Except Fault (DeclId × Arena)}
    (hcopy : ∀ member, .declaration member ∈ elements → ∀ before : Arena, source.Extends before →
      CopyOutcome source before depth member (copy before member))
    (hsource : source.Extends before) (hfits : before.size ≤ capacity) :
    ElementsOutcome source before depth elements (copyElements copy before elements) := by
  induction elements generalizing before with
  | nil =>
    exact .copied (.refl before) (.nil fun _ _ => ⟨0⟩) hfits (by simp [elementWays, memberAt?])
  | cons element rest ih =>
    have hothers : ∀ member, .declaration member ∈ rest → ∀ before : Arena,
        source.Extends before → CopyOutcome source before depth member (copy before member) :=
      fun member hmember => hcopy member (List.mem_cons_of_mem element hmember)
    have hstays (helement : element.declaration? = none) :
        ElementsOutcome source before depth (element :: rest)
          (copyElements copy before rest >>= fun answer =>
            .ok (element :: answer.1, answer.2)) := by
      refine .cons (.refl before) ?_ ?_ (.other helement) (ih hothers hsource hfits)
      · simp [waysBelow_eq_empty helement]
      · simp [waysBelow_eq_empty helement]
    cases element with
    | type named => exact hstays rfl
    | expression value => exact hstays rfl
    | declaration member =>
      have hfirst := hcopy member List.mem_cons_self before hsource
      simp only [copyElements]
      generalize copy before member = answer at hfirst
      cases hfirst with
      | copied grows tree fits shallow =>
        rw [ok_bind]
        refine .cons grows ?_ ?_ (.declaration grows tree) (ih hothers (hsource.trans grows) fits)
        · rw [waysBelow_declaration, tree.cast_size_eq grows]
        · rwa [waysBelow_declaration]
      | noRoom overfull =>
        refine .noRoom (overfull.trans_le ?_)
        rw [encard_elementWays_cons, waysBelow_declaration, ← add_assoc]
        exact le_self_add
      | unfinished deep room =>
        obtain ⟨way, hway, hlength⟩ := deep
        refine .unfinished ⟨(0, way), ⟨member, rfl, hway⟩, hlength⟩ ?_
        obtain rfl | hdepth := Nat.eq_zero_or_pos depth
        · exact hfits
        · exact room hdepth

/-- A declaration that is no tuple is copied if it finds room. -/
theorem CopyOutcome.leaf {declaration : Declaration} (hget : source.get id = .ok declaration)
    (htuple : declaration.asTuple? = none)
    (hfits : (before.add declaration.asWritten).2.size ≤ capacity) :
    CopyOutcome source before (depth + 1) id (.ok (before.add declaration.asWritten)) := by
  have hmembers : ∀ place, declaration.member? place = memberAt? [] place := by
    simp [Declaration.member?, htuple, memberAt?]
  refine .copied (.add before _) (.leaf hget htuple) hfits fun way hway => ?_
  rw [ways_eq_union hget hmembers, elementWays_nil, Set.image_empty, Set.union_empty] at hway
  obtain rfl := Set.mem_singleton_iff.mp hway
  exact Nat.succ_pos depth

/-- A tuple is copied if it finds room and the trees of its elements are copied. -/
theorem CopyOutcome.tuple {declaration : Declaration} {state : Tuple}
    {answer : Except Fault (List TupleElement × Arena)}
    (hget : source.get id = .ok declaration) (htuple : declaration.asTuple? = some state)
    (houtcome : ElementsOutcome source (before.add declaration.asWritten).2 depth state.elements
      answer) :
    CopyOutcome source before (depth + 1) id (answer >>= fun answer =>
      answer.2.modify ⟨before.size⟩ (·.withElements answer.1) >>= fun after =>
        .ok (⟨before.size⟩, after)) := by
  have hadded := Extends.add before declaration.asWritten
  have hmembers : ∀ place, declaration.member? place = memberAt? state.elements place := by
    simp [Declaration.member?, htuple]
  cases houtcome with
  | @copied last copies others grows forest fits shallow =>
    have hnew : before.size < last.size :=
      Nat.lt_of_lt_of_le (by rw [size_add]; exact Nat.lt_succ_self _) grows.size_le
    obtain ⟨after, hmodify⟩ : ∃ after,
        last.modify ⟨before.size⟩ (·.withElements copies) = .ok after := exists_modify _ hnew
    have hgrows : before.Extends after := (hadded.trans grows).modify le_rfl
      (fun _ => Declaration.asVariable?_withElements) hmodify
    rw [ok_bind, hmodify, ok_bind]
    refine .copied hgrows (.tuple hget htuple grows forest hmodify)
      (size_of_modify hmodify ▸ fits) fun way hway => ?_
    rw [ways_eq_union hget hmembers] at hway
    obtain rfl | ⟨entry, hentry, rfl⟩ := hway
    · exact Nat.succ_pos depth
    · exact Nat.succ_lt_succ (shallow entry hentry)
  | noRoom overfull =>
    refine .noRoom ?_
    rw [size_add, Nat.cast_add, Nat.cast_one] at overfull
    rwa [encard_ways hget hmembers, ← add_assoc]
  | unfinished deep room =>
    obtain ⟨entry, hentry, hlength⟩ := deep
    refine .unfinished ⟨entry.1 :: entry.2, ?_, Nat.succ_le_succ hlength⟩ fun _ => ?_
    · rw [ways_eq_union hget hmembers]
      exact .inr ⟨entry, hentry, rfl⟩
    · rw [size_add] at room
      omega

/-- In a closed arena every copy has one of the three outcomes. -/
theorem Closed.copyOutcome (hclosed : source.Closed) (depth : Nat) (hsource : source.Extends before)
    (hid : id.number < source.size) :
    CopyOutcome source before depth id (copyWithin depth before id) := by
  induction depth generalizing before id with
  | zero => exact .unfinished ⟨[], ⟨id, rfl⟩, le_rfl⟩ nofun
  | succ depth ih =>
    obtain ⟨declaration, hget⟩ := exists_get hid
    have hread : before.get id = .ok declaration := (hsource.get_eq id hid).trans hget
    simp only [copyWithin, hread, ok_bind]
    obtain hroom | hfull := Nat.lt_or_ge before.size capacity
    · have hadded := Extends.add before declaration.asWritten
      have hfits : (before.add declaration.asWritten).2.size ≤ capacity := by
        rw [size_add]
        exact hroom
      rw [tryAdd_of_lt _ hroom, ok_bind]
      cases htuple : declaration.asTuple? with
      | none => exact .leaf hget htuple hfits
      | some state =>
        refine .tuple hget htuple (elementsOutcome ?_ (hsource.trans hadded) hfits)
        intro member hmember before hbefore
        obtain ⟨place, hat⟩ := (contains_iff_mem hget htuple).mpr hmember
        exact ih hbefore (hclosed.lt_of_member? hat)
    · rw [tryAdd_of_le _ hfull, error_bind]
      refine .noRoom ?_
      calc (capacity : ℕ∞) < before.size + 1 := by exact_mod_cast Nat.lt_succ_of_le hfull
        _ ≤ before.size + (source.ways id).encard := by
          gcongr
          exact one_le_encard_ways source id

/-- A copy that goes deep enough is refused for want of room exactly where its tree does not fit. -/
theorem CopyOutcome.of_shallow {answer : Except Fault (DeclId × Arena)}
    (houtcome : CopyOutcome source source depth id answer)
    (hshallow : ∀ way ∈ source.ways id, way.length < depth) :
    (source.HasRoomFor id ∧ ∃ after copyOf, answer = .ok (copyOf [], after) ∧
      source.Extends after ∧ CopiesTree source source after id copyOf) ∨
    (¬source.HasRoomFor id ∧ answer = .error .noRoom) := by
  cases houtcome with
  | copied grows tree fits _ =>
    refine .inl ⟨?_, _, _, rfl, grows, tree⟩
    rw [HasRoomFor, ← tree.cast_size_eq grows]
    exact_mod_cast fits
  | noRoom overfull => exact .inr ⟨not_le.mpr overfull, rfl⟩
  | unfinished deep _ =>
    obtain ⟨way, hway, hlength⟩ := deep
    exact absurd (hshallow way hway) (Nat.not_lt.mpr hlength)

/-- Where no tuple contains itself, a copy always goes deep enough. -/
theorem Closed.copy_of_acyclic {arena : Arena} (hclosed : arena.Closed)
    (hid : id.number < arena.size) (hacyclic : arena.Acyclic id) :
    (arena.HasRoomFor id ∧ ∃ after copyOf, arena.copy id = .ok (copyOf [], after) ∧
      arena.Extends after ∧ CopiesTree arena arena after id copyOf) ∨
    (¬arena.HasRoomFor id ∧ arena.copy id = .error .noRoom) := by
  have hshallow : ∀ way ∈ arena.ways id, way.length < arena.size + 1 :=
    fun way hway => Nat.lt_succ_of_lt (hclosed.length_lt_of_acyclic hid hacyclic hway)
  exact (hclosed.copyOutcome (arena.size + 1) (.refl arena) hid).of_shallow hshallow

/-! ## Independent copies -/

/-- A declaration has been copied with its tree, and the copy stands by itself. -/
structure CopiedApart (before after : Arena) (id : DeclId) (copyOf : List Nat → DeclId) :
    Prop where
  grows : before.Extends after
  tree : CopiesTree before before after id copyOf
  /-- No declaration among the elements of a copied tuple is an old one. -/
  member_mem_added : ∀ tuple ∈ added before after, ∀ place member,
    after.member? tuple place = some member → member ∈ added before after
  /-- No two elements of copied tuples are the same copy. -/
  member_unshared : ∀ tuple ∈ added before after, ∀ other ∈ added before after,
    ∀ place another member, after.member? tuple place = some member →
      after.member? other another = some member → tuple = other ∧ place = another

/-- An element of the copy of a tuple is the copy of the element that the way goes on to. -/
theorem CopiesTree.exists_way {copyOf : List Nat → DeclId}
    (htree : CopiesTree source before after id copyOf) (hclosed : source.Closed)
    (hid : id.number < source.size) {tuple member : DeclId} (htuple : tuple ∈ added before after)
    {place : Nat} (hmember : after.member? tuple place = some member) :
    ∃ way, copyOf way = tuple ∧ way ++ [place] ∈ source.ways id ∧
      copyOf (way ++ [place]) = member := by
  obtain ⟨way, ⟨node, hnode⟩, rfl⟩ := htree.bijOn.surjOn htuple
  obtain ⟨declaration, hget⟩ := exists_get (hclosed.lt_of_follow? hid hnode)
  obtain ⟨copied, hcopied, hsame⟩ := htree.get way node declaration hnode hget
  rw [member?_of_get hcopied, hsame.member?_eq] at hmember
  obtain ⟨original, horiginal, rfl⟩ := Option.map_eq_some_iff.mp hmember
  refine ⟨way, rfl, ⟨original, ?_⟩, rfl⟩
  rw [follow?_concat, hnode, Option.bind_some, member?_of_get hget, horiginal]

theorem CopiesTree.copiedApart {copyOf : List Nat → DeclId} (hclosed : before.Closed)
    (hid : id.number < before.size) (hgrows : before.Extends after)
    (htree : CopiesTree before before after id copyOf) : CopiedApart before after id copyOf := by
  refine ⟨hgrows, htree, ?_, ?_⟩
  · intro tuple htuple place member hmember
    obtain ⟨way, -, hway, rfl⟩ := htree.exists_way hclosed hid htuple hmember
    exact htree.bijOn.mapsTo hway
  · intro tuple htuple other hother place another member hmember hsame
    obtain ⟨way, rfl, hway, rfl⟩ := htree.exists_way hclosed hid htuple hmember
    obtain ⟨path, rfl, hpath, hequal⟩ := htree.exists_way hclosed hid hother hsame
    obtain ⟨rfl, hplace⟩ := List.append_inj' (htree.bijOn.injOn hpath hway hequal) rfl
    exact ⟨rfl, (List.cons.inj hplace).1.symm⟩

/-- A declaration from which no tuple contains itself is copied into new declarations, one for each
node of its tree, if there is room for them.  Each has what is written in the original and nothing
that analysis found out; no element leads back to an old declaration, and no two lead to the same
copy. -/
theorem Closed.copy_copiedApart {arena : Arena} (hclosed : arena.Closed)
    (hid : id.number < arena.size) (hacyclic : arena.Acyclic id) :
    (arena.HasRoomFor id → ∃ after copyOf, arena.copy id = .ok (⟨arena.size⟩, after) ∧
      CopiedApart arena after id copyOf) ∧
    (¬arena.HasRoomFor id → arena.copy id = .error .noRoom) := by
  obtain ⟨hroom, after, copyOf, hrun, hgrows, htree⟩ | ⟨hfull, hrun⟩ :=
    hclosed.copy_of_acyclic hid hacyclic
  · rw [htree.root_eq] at hrun
    exact ⟨fun _ => ⟨after, copyOf, hrun, htree.copiedApart hclosed hid hgrows⟩, absurd hroom⟩
  · exact ⟨fun hroom => absurd hroom hfull, fun _ => hrun⟩

/-- A variable, a function that was inferred to be pure and has a place in an overload chain, a
tuple with the variable twice, and a tuple with that tuple twice. -/
def nestedTuples : Arena where
  declarations := #[
    { Declaration.var ⟨11⟩ .synthetic (some ⟨1⟩) with
      entity := .var { offset := 8, initializer := some .zero } },
    { name := ⟨12⟩, span := .synthetic, storage := {.pure, .inference}
      entity := .func { next := some ⟨0⟩, inferred := {.purity}, concluded := {.purity}
                        body := some { effects := [.globalAccess ⟨0⟩ false .synthetic] } } },
    { name := ⟨13⟩, span := .synthetic
      entity := .tuple { kind := .expressions
                         elements := [.declaration ⟨0⟩, .expression ⟨5⟩, .declaration ⟨0⟩] } },
    { name := ⟨14⟩, span := .synthetic
      entity := .tuple { kind := .expressions
                         elements := [.declaration ⟨2⟩, .declaration ⟨1⟩, .declaration ⟨2⟩] } }]
  nextSequence := 1

theorem Closed.copy_copiedApart_nestedTuples :
    (nestedTuples.Closed ∧ (⟨3⟩ : DeclId).number < nestedTuples.size ∧ nestedTuples.Acyclic ⟨3⟩) ∧
    nestedTuples.HasRoomFor ⟨3⟩ ∧
    ∃ after copyOf, nestedTuples.copy ⟨3⟩ = .ok (⟨nestedTuples.size⟩, after) ∧
      CopiedApart nestedTuples after ⟨3⟩ copyOf := by
  have hclosed : nestedTuples.Closed := by decide
  have hbound : (⟨3⟩ : DeclId).number < nestedTuples.size := by decide
  have hacyclic : nestedTuples.Acyclic ⟨3⟩ := acyclic_of_handles_lt (by decide) ⟨3⟩
  obtain ⟨hcopies, hrefuses⟩ := hclosed.copy_copiedApart hbound hacyclic
  have hroom : nestedTuples.HasRoomFor ⟨3⟩ := by
    by_contra hfull
    have hrefused := hrefuses hfull
    contradiction
  exact ⟨⟨hclosed, hbound, hacyclic⟩, hroom, hcopies hroom⟩

end Arena

end Declarations
