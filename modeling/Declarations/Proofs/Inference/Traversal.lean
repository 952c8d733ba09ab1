import Declarations.Proofs.Inference.FrameStack
import Declarations.Proofs.Inference.Journal
import Declarations.Proofs.Inference.Settlement

/-!
# Going through calls

The walk of inference keeps the functions that it has entered and not settled on a stack.  While a
function is looked into, calls lead from every function on the stack to it, so one broken effect
condemns everything above it.  A function that stays on the stack after it was left leads to an
older one, and its body is fine as long as the functions from there on have the attribute; that is
why the oldest function of a cycle can settle all of it.  The main statement says that every walk is
a sequence of groups settled rightly, and that it always ends.  It is about the walk with its
journal, and says of each event in it why it was the right thing to do.
-/

namespace Declarations.Session

open Relation Arena

/-- The open questions are about one attribute of the given functions. -/
structure Working (config : Config) (wanted : Attribute) (session : Session)
    (opened : List DeclId) : Prop where
  frames_eq : session.stack.frames = opened.map fun function => ⟨function, wanted⟩
  indexed : session.stack.Indexed
  nodup : opened.Nodup
  undecided : ∀ function ∈ opened,
    function ∈ session.arena.withStatus config wanted .undecided
  closed : session.arena.Closed

/-- Calls by open functions lead from one function to another. -/
def Leads (arena : Arena) (opened : List DeclId) : DeclId → DeclId → Prop :=
  ReflTransGen fun caller callee => caller ∈ opened ∧ arena.CallsTo caller callee

def reliedOn (opened : List DeclId) : Option Nat → Set DeclId
  | none => ∅
  | some place => {function | function ∈ opened.drop place}

variable {config : Config} {wanted : Attribute} {session : Session} {arena before after : Arena}
variable {opened kept : List DeclId}

/-! ## Open functions -/

theorem Leads.mono {smaller larger : List DeclId} (hsubset : smaller ⊆ larger)
    (hlearns : Learns config wanted before after) {source target : DeclId}
    (hleads : Leads before smaller source target) : Leads after larger source target :=
  ReflTransGen.mono (fun _ _ hcall => ⟨hsubset hcall.1, hlearns.callsTo_iff.mpr hcall.2⟩)
    _ _ hleads

theorem Leads.grow {smaller larger : List DeclId} (hsubset : smaller ⊆ larger)
    {source target : DeclId} (hleads : Leads arena smaller source target) :
    Leads arena larger source target :=
  ReflTransGen.mono (fun _ _ hcall => ⟨hsubset hcall.1, hcall.2⟩) _ _ hleads

/-- Open functions are undecided, so what one leads to it depends on. -/
theorem Working.reaches (hworking : Working config wanted session opened)
    {source target : DeclId} (hleads : Leads session.arena opened source target) :
    ReflTransGen (session.arena.DependsOn config wanted) source target :=
  ReflTransGen.mono (fun _ _ hcall => ⟨hworking.undecided _ hcall.1, hcall.2⟩) _ _ hleads

/-- There are no more open functions than declarations. -/
theorem Working.length_le (hworking : Working config wanted session opened) :
    opened.length ≤ session.arena.size :=
  DeclId.length_le_of_nodup hworking.nodup fun function hfunction =>
    lt_of_mem_withStatus (hworking.undecided function hfunction)

theorem Working.mem_frames_iff (hworking : Working config wanted session opened)
    {function : DeclId} : ⟨function, wanted⟩ ∈ session.stack.frames ↔ function ∈ opened := by
  simp [hworking.frames_eq]

theorem Working.getElem?_of_place? (hworking : Working config wanted session opened)
    {function : DeclId} {place : Nat}
    (hplace : session.stack.place? ⟨function, wanted⟩ = some place) :
    opened[place]? = some function := by
  rw [hworking.indexed, hworking.frames_eq, List.getElem?_map, Option.map_eq_some_iff] at hplace
  obtain ⟨found, hfound, hframe⟩ := hplace
  rw [hfound, (Frame.mk.inj hframe).1]

theorem Working.notMem_of_place? (hworking : Working config wanted session opened)
    {function : DeclId} (hplace : session.stack.place? ⟨function, wanted⟩ = none) :
    function ∉ opened := by
  rwa [hworking.indexed.place?_eq_none_iff, hworking.mem_frames_iff] at hplace

/-- Opening an undecided function. -/
theorem Working.push (hworking : Working config wanted session opened) {function : DeclId}
    (hundecided : function ∈ session.arena.withStatus config wanted .undecided)
    (hnew : function ∉ opened) :
    Working config wanted (session.push ⟨function, wanted⟩) (opened ++ [function]) where
  frames_eq := by simp [Session.push, hworking.frames_eq]
  indexed := hworking.indexed.push (by rwa [hworking.mem_frames_iff])
  nodup := by
    rw [List.nodup_append]
    refine ⟨hworking.nodup, List.nodup_singleton function, ?_⟩
    rintro other hother _ hsame rfl
    rw [List.mem_singleton] at hsame
    exact hnew (hsame ▸ hother)
  undecided := by
    intro other hother
    obtain hother | hother := List.mem_append.mp hother
    · exact hworking.undecided other hother
    · rwa [List.mem_singleton.mp hother]
  closed := hworking.closed

/-! ## Settling the newest open functions -/

/-- The newest questions are about the newest open functions. -/
theorem Working.above_eq {below group : List DeclId}
    (hworking : Working config wanted session (below ++ group)) :
    session.stack.above below.length = group.map fun function => ⟨function, wanted⟩ := by
  have hframes := hworking.frames_eq
  rw [List.map_append] at hframes
  have habove := FrameStack.above_of_append hframes
  rwa [List.length_map] at habove

/-- Settling the newest open functions closes them and leaves the older ones open. -/
theorem Working.settleFrom {below group : List DeclId}
    (hworking : Working config wanted session (below ++ group)) {holds : Bool}
    (hconclude : session.arena.conclude wanted holds group = .ok after) :
    session.settleFrom below.length holds = .ok ⟨after, session.stack.cut below.length⟩ ∧
      Working config wanted ⟨after, session.stack.cut below.length⟩ below ∧
      ∀ member ∈ group,
        member ∈ after.withStatus config wanted (if holds then .holds else .fails) := by
  have hframes : session.stack.frames = (below.map fun function => ⟨function, wanted⟩) ++
      group.map fun function => ⟨function, wanted⟩ := by
    rw [hworking.frames_eq, List.map_append]
  have hgroup := hworking.above_eq
  have hbelow := FrameStack.frames_cut_of_append hframes
  rw [List.length_map] at hbelow
  obtain ⟨hnodup, hgroupNodup, hdisjoint⟩ := List.nodup_append.mp hworking.nodup
  have hstatus := fun (id : DeclId) => Settles.mem_withStatus_iff hgroupNodup
    (fun member hmember => hworking.undecided member (List.mem_append_right below hmember))
    hconclude
    id
  refine ⟨?_, ⟨hbelow, hworking.indexed.cut below.length, hnodup, ?_, ?_⟩, ?_⟩
  · rw [Session.settleFrom, hgroup]
    rw [Arena.conclude] at hconclude
    rw [hconclude]
    rfl
  · intro function hfunction
    have hnot : function ∉ group := fun hmem => hdisjoint function hfunction function hmem rfl
    rw [hstatus, if_neg hnot]
    exact hworking.undecided function (List.mem_append_left group hfunction)
  · exact closed_of_keep_eq (keep_of_conclude (FlagSet.not_mem_empty wanted) hconclude)
      hworking.closed
  · intro member hmember
    rw [hstatus, if_pos hmember]

/-! ## What happens in a walk -/

/-- What a walk does when it has come to a session. -/
inductive Moves (config : Config) (wanted : Attribute) (roots : Set DeclId) (before : Session) :
    Moment → Prop where
  /-- A function is opened to which all open functions lead; the first one is a root. -/
  | opened {opened : List DeclId} {function : DeclId}
      (working : Working config wanted before opened)
      (undecided : function ∈ before.arena.withStatus config wanted .undecided)
      (new : function ∉ opened)
      (leads : ∀ other ∈ opened, Leads before.arena opened other function)
      (first : opened = [] → function ∈ roots) :
      Moves config wanted roots before
        ⟨.opened ⟨function, wanted⟩, before.push ⟨function, wanted⟩⟩
  /-- The newest open functions support each other. -/
  | granted {below group : List DeclId} {after : Arena}
      (working : Working config wanted before (below ++ group))
      (supported : ∀ member ∈ group, before.arena.Supports wanted
        (before.arena.withStatus config wanted .holds ∪ {member | member ∈ group}) member)
      (concluded : before.arena.conclude wanted true group = .ok after) :
      Moves config wanted roots before
        ⟨.settled below.length true, ⟨after, before.stack.cut below.length⟩⟩
  /-- Nothing can excuse the body of an open function, to which all open functions lead. -/
  | denied {below kept : List DeclId} {active : DeclId} {after : Arena}
      (working : Working config wanted before (below ++ active :: kept))
      (broken : ¬before.arena.Supports wanted (before.arena.withStatus config wanted .holds ∪
        before.arena.withStatus config wanted .undecided) active)
      (leads : ∀ function ∈ below ++ active :: kept,
        Leads before.arena (below ++ active :: kept) function active)
      (concluded : before.arena.conclude wanted false (active :: kept) = .ok after) :
      Moves config wanted roots before
        ⟨.settled below.length false, ⟨after, before.stack.cut below.length⟩⟩

variable {roots : Set DeclId}

/-- Every move is what its event makes of the session. -/
theorem Moves.perform_eq {moment : Moment} (hmoves : Moves config wanted roots session moment) :
    moment.event.perform session = .ok moment.after := by
  cases hmoves with
  | opened => rfl
  | granted working _ concluded => exact (working.settleFrom concluded).1
  | denied working _ _ concluded => exact (working.settleFrom concluded).1

/-! ## Looking at one function or effect -/

/-- How a look came out.  What was looked at is fine when `fine` says so of the functions that have
the attribute, and `sources` are the functions that were looked into. -/
inductive Outcome (config : Config) (wanted : Attribute) (before : Arena) (opened : List DeclId)
    (fine : Set DeclId → Prop) (sources : Set DeclId) : Verdict → Session → Prop where
  /-- It is not fine even if every undecided function has the attribute. -/
  | fails {after : Session} (learns : Learns config wanted before after.arena)
      (working : Working config wanted after opened)
      (broken : ¬fine (after.arena.withStatus config wanted .holds ∪
        after.arena.withStatus config wanted .undecided)) :
      Outcome config wanted before opened fine sources .fails after
  /-- It is fine because of what is known. -/
  | holds {after : Session} (learns : Learns config wanted before after.arena)
      (working : Working config wanted after opened)
      (sound : fine (after.arena.withStatus config wanted .holds)) :
      Outcome config wanted before opened fine sources (.holds none) after
  /-- It is fine if the open functions from a place on have the attribute.  The functions that stay
  open lead to the function at that place. -/
  | relies {after : Session} {place : Nat} {target : DeclId} {kept : List DeclId}
      (learns : Learns config wanted before after.arena)
      (working : Working config wanted after (opened ++ kept))
      (place_eq : opened[place]? = some target)
      (sound : fine (after.arena.withStatus config wanted .holds ∪
        reliedOn (opened ++ kept) (some place)))
      (supported : ∀ function ∈ kept, after.arena.Supports wanted
        (after.arena.withStatus config wanted .holds ∪ reliedOn (opened ++ kept) (some place))
          function)
      (leads_kept : ∀ function ∈ kept, Leads after.arena (opened ++ kept) function target)
      (leads_source : ∃ source ∈ sources, Leads after.arena (opened ++ kept) source target) :
      Outcome config wanted before opened fine sources (.holds (some place)) after

/-- Looking into a function comes out as it should when there are enough levels for all functions
that can still be opened. -/
def LooksRightly (config : Config) (wanted : Attribute) (roots : Set DeclId) (levels : Nat)
    (look : Session → DeclId → Except Fault (Journaled Verdict)) : Prop :=
  ∀ {session : Session} {opened : List DeclId} {function : DeclId},
    Working config wanted session opened → function.number < session.arena.size →
    (∀ other ∈ opened, Leads session.arena opened other function) →
    (opened = [] → function ∈ roots) → session.arena.size < levels + opened.length →
    ∃ verdict after journal, look session function = .ok ((verdict, after), journal) ∧
      Outcome config wanted session.arena opened (function ∈ ·) {function} verdict after ∧
      journal.Tells (Moves config wanted roots) session after

/-- A call is looked at by looking into the function that is really called. -/
theorem Outcome.of_callee {effect : Effect} {callee : DeclId} {verdict : Verdict} {after : Session}
    (hcallee : callee ∈ session.arena.calleesOf effect)
    (houtcome : Outcome config wanted session.arena opened (callee ∈ ·) {callee} verdict after) :
    Outcome config wanted session.arena opened (session.arena.Allows wanted · effect)
      (session.arena.calleesOf effect) verdict after := by
  cases houtcome with
  | fails learns working broken =>
    exact .fails learns working fun hallows => broken (hallows.mem_of_callee hcallee)
  | holds learns working sound => exact .holds learns working (allows_of_mem_callees hcallee sound)
  | relies learns working place_eq sound supported leads_kept leads_source =>
    obtain ⟨source, rfl, hleads⟩ := leads_source
    exact .relies learns working place_eq (allows_of_mem_callees hcallee sound) supported leads_kept
      ⟨source, hcallee, hleads⟩

/-- A declaration that is no function never has an attribute. -/
theorem mem_fails_of_not_isFunction {function : DeclId} {declaration : Declaration}
    (hget : arena.get function = .ok declaration) (hfunction : declaration.isFunction = false) :
    function ∈ arena.withStatus config wanted .fails := by
  rw [mem_withStatus_iff_of_get hget]
  have hnone : declaration.asFunc? = none := by simpa [Declaration.isFunction] using hfunction
  simp [Declaration.status, hnone]

theorem judgeEffect_outcome {levels : Nat}
    {look : Session → DeclId → Except Fault (Journaled Verdict)}
    (hlook : LooksRightly config wanted roots levels look)
    (hworking : Working config wanted session opened) {effect : Effect}
    (heffect : ∀ handle ∈ effect.handles, handle.number < session.arena.size)
    (hleads : ∀ callee ∈ session.arena.calleesOf effect, ∀ other ∈ opened,
      Leads session.arena opened other callee)
    (hroots : opened = [] → session.arena.calleesOf effect ⊆ roots)
    (hlevels : session.arena.size < levels + opened.length) :
    ∃ verdict after journal,
      judgeEffectJournal look wanted session effect = .ok ((verdict, after), journal) ∧
      Outcome config wanted session.arena opened (session.arena.Allows wanted · effect)
        (session.arena.calleesOf effect) verdict after ∧
      journal.Tells (Moves config wanted roots) session after := by
  unfold judgeEffectJournal
  cases hnamed : effect.callee? with
  | some named =>
    have hbound : named.number < session.arena.size := by
      apply heffect
      cases effect <;> simp_all [Effect.callee?, Effect.handles]
    obtain ⟨callee, halias, hcallee⟩ := hworking.closed.aliasedFunction hbound
    obtain ⟨declaration, hget⟩ := exists_get hcallee
    have hmem : callee ∈ session.arena.calleesOf effect := ⟨named, hnamed, halias⟩
    simp only [halias, hget, ok_bind]
    by_cases hfunction : declaration.isFunction = true
    · rw [if_pos hfunction]
      obtain ⟨verdict, after, journal, hrun, houtcome, htells⟩ :=
        hlook hworking hcallee (hleads callee hmem) (fun hopened => hroots hopened hmem) hlevels
      exact ⟨verdict, after, journal, hrun, houtcome.of_callee hmem, htells⟩
    · rw [if_neg hfunction]
      refine ⟨.fails, session, [], rfl, .fails .refl hworking fun hallows => ?_, .nil⟩
      have hfails : callee ∈ session.arena.withStatus config wanted .fails :=
        mem_fails_of_not_isFunction hget (by simpa using hfunction)
      obtain hholds | hundecided := hallows.mem_of_callee hmem
      · exact absurd hfails (notMem_withStatus hholds)
      · exact absurd hfails (notMem_withStatus hundecided)
  | none =>
    obtain ⟨broken, hbroken⟩ := exists_breaksDirectly wanted heffect
    simp only [hbroken, ok_bind, pure_eq_ok]
    cases broken with
    | true =>
      refine ⟨.fails, session, [], rfl, .fails .refl hworking ?_, .nil⟩
      simp [Allows, hnamed, hbroken]
    | false =>
      refine ⟨.holds none, session, [], rfl, .holds .refl hworking ?_, .nil⟩
      simp [Allows, hnamed, hbroken]

/-! ## Looking at a body -/

theorem reliedOn_append {relies : Option Nat} :
    reliedOn opened relies ⊆ reliedOn (opened ++ kept) relies := by
  cases relies with
  | none => exact Set.empty_subset _
  | some place =>
    intro function hfunction
    simp only [reliedOn, Set.mem_ofPred_eq, List.drop_append, List.mem_append] at *
    exact .inl hfunction

theorem reliedOn_of_le {place later : Nat} (hplace : place ≤ later) :
    reliedOn opened (some later) ⊆ reliedOn opened (some place) :=
  fun _ hfunction => List.drop_subset_drop_left opened hplace hfunction

/-- The older of two verdicts relies on everything that one of them relies on. -/
theorem reliedOn_oldest_left {relies further : Option Nat} :
    reliedOn opened relies ⊆ reliedOn opened (Verdict.oldest relies further) := by
  cases relies with
  | none => exact Set.empty_subset _
  | some place =>
    cases further with
    | none => exact Set.Subset.rfl
    | some other => exact reliedOn_of_le (min_le_left place other)

theorem reliedOn_oldest_right {relies further : Option Nat} :
    reliedOn opened further ⊆ reliedOn opened (Verdict.oldest relies further) := by
  cases further with
  | none => exact Set.empty_subset _
  | some other =>
    cases relies with
    | none => exact Set.Subset.rfl
    | some place => exact reliedOn_of_le (min_le_right place other)

theorem oldest_none_right (relies : Option Nat) : Verdict.oldest relies none = relies := by
  cases relies <;> rfl

/-- How far the look at the body of the function `active` has come.  The functions in `kept` stayed
open since it began. -/
structure Progress (config : Config) (wanted : Attribute) (below : List DeclId) (active : DeclId)
    (kept opened : List DeclId) (relies : Option Nat) (looked : List Effect) (session : Session) :
    Prop where
  opened_eq : opened = below ++ active :: kept
  working : Working config wanted session opened
  leads : ∀ function ∈ opened, Leads session.arena opened function active
  kept_eq_nil : relies = none → kept = []
  place_le : ∀ place, relies = some place → place ≤ below.length
  leads_place : ∀ place, relies = some place → ∀ target, opened[place]? = some target →
    Leads session.arena opened active target
  supported : ∀ function ∈ kept, session.arena.Supports wanted
    (session.arena.withStatus config wanted .holds ∪ reliedOn opened relies) function
  allowed : ∀ effect ∈ looked, session.arena.Allows wanted
    (session.arena.withStatus config wanted .holds ∪ reliedOn opened relies) effect

variable {below : List DeclId} {active : DeclId} {relies : Option Nat} {looked : List Effect}

/-- A function that was just opened. -/
theorem Progress.start (hworking : Working config wanted session (below ++ [active]))
    (hleads : ∀ function ∈ below, Leads session.arena below function active) :
    Progress config wanted below active [] (below ++ [active]) none [] session where
  opened_eq := rfl
  working := hworking
  leads := by
    intro function hfunction
    obtain hfunction | hfunction := List.mem_append.mp hfunction
    · exact (hleads function hfunction).grow (List.subset_append_left below [active])
    · rw [List.mem_singleton.mp hfunction]
      exact ReflTransGen.refl
  kept_eq_nil _ := rfl
  place_le _ hplace := by contradiction
  leads_place _ hplace := by contradiction
  supported := by simp
  allowed := by simp

/-- Knowing that an effect is fine takes the look one step further. -/
theorem Progress.known {after : Session} {effect : Effect}
    (hprogress : Progress config wanted below active kept opened relies looked session)
    (learns : Learns config wanted session.arena after.arena)
    (working : Working config wanted after opened)
    (sound : session.arena.Allows wanted (after.arena.withStatus config wanted .holds) effect) :
    Progress config wanted below active kept opened relies (looked ++ [effect]) after where
  opened_eq := hprogress.opened_eq
  working := working
  leads function hfunction := (hprogress.leads function hfunction).mono (fun _ => id) learns
  kept_eq_nil := hprogress.kept_eq_nil
  place_le := hprogress.place_le
  leads_place place hplace target htarget :=
    (hprogress.leads_place place hplace target htarget).mono (fun _ => id) learns
  supported function hfunction :=
    learns.supports_iff.mpr ((hprogress.supported function hfunction).mono
      (Set.union_subset_union_left _ learns.holds_subset))
  allowed other hother := by
    apply learns.allows_iff.mpr
    obtain hother | hother := List.mem_append.mp hother
    · exact (hprogress.allowed other hother).mono
        (Set.union_subset_union_left _ learns.holds_subset)
    · rw [List.mem_singleton.mp hother]
      exact sound.mono Set.subset_union_left

/-- The place on which the first function that stays open relies is not above the active one. -/
theorem Progress.oldest_le {place : Nat}
    (hprogress : Progress config wanted below active kept opened relies looked session)
    (hplace : place < opened.length) :
    ∀ oldest, Verdict.oldest relies (some place) = some oldest → oldest ≤ below.length := by
  intro oldest holdest
  cases relies with
  | none =>
    have hkept := hprogress.kept_eq_nil rfl
    simp only [hprogress.opened_eq, hkept, List.length_append, List.length_singleton] at hplace
    rw [← Option.some.inj holdest]
    omega
  | some other =>
    have hother := hprogress.place_le other rfl
    rw [← Option.some.inj holdest]
    exact (min_le_left other place).trans hother

/-- Finding that an effect is fine if open functions have the attribute takes the look one step
further, and more functions stay open. -/
theorem Progress.relying {after : Session} {effect : Effect} {place : Nat} {target : DeclId}
    {more : List DeclId}
    (hprogress : Progress config wanted below active kept opened relies looked session)
    (heffect : effect ∈ session.arena.effectsOf active)
    (learns : Learns config wanted session.arena after.arena)
    (working : Working config wanted after (opened ++ more))
    (place_eq : opened[place]? = some target)
    (sound : session.arena.Allows wanted (after.arena.withStatus config wanted .holds ∪
      reliedOn (opened ++ more) (some place)) effect)
    (supported : ∀ function ∈ more, after.arena.Supports wanted
      (after.arena.withStatus config wanted .holds ∪ reliedOn (opened ++ more) (some place))
        function)
    (leads_more : ∀ function ∈ more, Leads after.arena (opened ++ more) function target)
    (leads_source : ∃ source ∈ session.arena.calleesOf effect,
      Leads after.arena (opened ++ more) source target) :
    Progress config wanted below active (kept ++ more) (opened ++ more)
      (Verdict.oldest relies (some place)) (looked ++ [effect]) after := by
  obtain ⟨hbound, htarget⟩ := List.getElem?_eq_some_iff.mp place_eq
  have hleads : ∀ function ∈ opened, Leads after.arena (opened ++ more) function active :=
    fun function hfunction =>
      (hprogress.leads function hfunction).mono (List.subset_append_left opened more) learns
  have htargetLeads : Leads after.arena (opened ++ more) target active :=
    hleads target (htarget ▸ List.getElem_mem hbound)
  have hactiveLeads : Leads after.arena (opened ++ more) active target := by
    obtain ⟨callee, hcallee, hcalleeLeads⟩ := leads_source
    have hactive : active ∈ opened ++ more := by simp [hprogress.opened_eq]
    exact ReflTransGen.head ⟨hactive, learns.callsTo_iff.mpr ⟨effect, heffect, hcallee⟩⟩
      hcalleeLeads
  have hold : session.arena.withStatus config wanted .holds ∪ reliedOn opened relies ⊆
      after.arena.withStatus config wanted .holds ∪
        reliedOn (opened ++ more) (Verdict.oldest relies (some place)) :=
    Set.union_subset_union learns.holds_subset (reliedOn_append.trans reliedOn_oldest_left)
  have hnew : after.arena.withStatus config wanted .holds ∪
        reliedOn (opened ++ more) (some place) ⊆
      after.arena.withStatus config wanted .holds ∪
        reliedOn (opened ++ more) (Verdict.oldest relies (some place)) :=
    Set.union_subset_union_right _ reliedOn_oldest_right
  constructor
  case opened_eq =>
    simp [hprogress.opened_eq]
  case working => exact working
  case leads =>
    intro function hfunction
    obtain hfunction | hfunction := List.mem_append.mp hfunction
    · exact hleads function hfunction
    · exact (leads_more function hfunction).trans htargetLeads
  case kept_eq_nil =>
    cases relies <;> simp [Verdict.oldest]
  case place_le => exact hprogress.oldest_le hbound
  case leads_place =>
    -- The oldest place is the new one, or one that the active function led to before.
    intro oldest holdest goal hgoal
    have hbelow : oldest < opened.length := by
      have hle := hprogress.oldest_le hbound oldest holdest
      simp only [hprogress.opened_eq, List.length_append, List.length_cons]
      omega
    rw [List.getElem?_append_left hbelow] at hgoal
    by_cases hsame : oldest = place
    · rw [hsame, place_eq] at hgoal
      rwa [← Option.some.inj hgoal]
    · have hrelies : relies = some oldest := by
        cases relies with
        | none => exact absurd (Option.some.inj holdest).symm hsame
        | some other =>
          simp only [Verdict.oldest, Option.some.injEq] at holdest
          rw [Option.some.injEq]
          omega
      exact (hprogress.leads_place oldest hrelies goal hgoal).mono
        (List.subset_append_left opened more) learns
  case supported =>
    intro function hfunction
    obtain hfunction | hfunction := List.mem_append.mp hfunction
    · exact learns.supports_iff.mpr ((hprogress.supported function hfunction).mono hold)
    · exact (supported function hfunction).mono hnew
  case allowed =>
    intro other hother
    apply learns.allows_iff.mpr
    obtain hother | hother := List.mem_append.mp hother
    · exact (hprogress.allowed other hother).mono hold
    · rw [List.mem_singleton.mp hother]
      exact sound.mono hnew

inductive Inspected (config : Config) (wanted : Attribute) (below : List DeclId)
    (active : DeclId) (before : Arena) (effects : List Effect) : Verdict → Session → Prop where
  /-- An effect breaks the attribute, and every open function leads to the one with that effect. -/
  | fails {after : Session} {kept : List DeclId}
      (learns : Learns config wanted before after.arena)
      (working : Working config wanted after (below ++ active :: kept))
      (leads : ∀ function ∈ below ++ active :: kept,
        Leads after.arena (below ++ active :: kept) function active)
      (broken : ¬after.arena.Supports wanted (after.arena.withStatus config wanted .holds ∪
        after.arena.withStatus config wanted .undecided) active) :
      Inspected config wanted below active before effects .fails after
  | holds {after : Session} {relies : Option Nat} {kept opened : List DeclId}
      (learns : Learns config wanted before after.arena)
      (progress : Progress config wanted below active kept opened relies effects after) :
      Inspected config wanted below active before effects (.holds relies) after

theorem judgeEffects_inspected {levels : Nat}
    {look : Session → DeclId → Except Fault (Journaled Verdict)}
    (hlook : LooksRightly config wanted roots levels look) (effects : List Effect)
    (hprogress : Progress config wanted below active kept opened relies looked session)
    (heffects : ∀ effect ∈ effects, effect ∈ session.arena.effectsOf active)
    (hlevels : session.arena.size < levels + (below.length + 1)) :
    ∃ verdict after journal,
      judgeEffectsJournal look wanted session relies effects = .ok ((verdict, after), journal) ∧
      Inspected config wanted below active session.arena (looked ++ effects) verdict after ∧
      journal.Tells (Moves config wanted roots) session after := by
  induction effects generalizing session kept opened relies looked with
  | nil =>
    refine ⟨.holds relies, session, [], rfl, ?_, .nil⟩
    rw [List.append_nil]
    exact .holds .refl hprogress
  | cons effect effects ih =>
    have heffect := heffects effect List.mem_cons_self
    have hactive : active ∈ opened := by simp [hprogress.opened_eq]
    have hlength : below.length + 1 ≤ opened.length := by
      simp only [hprogress.opened_eq, List.length_append, List.length_cons]
      omega
    obtain ⟨verdict, middle, journal, hrun, houtcome, htells⟩ :=
      judgeEffect_outcome hlook hprogress.working
        (fun handle hhandle => hprogress.working.closed.lt_of_mem_effectsOf heffect hhandle)
        (fun callee hcallee other hother => (hprogress.leads other hother).tail
          ⟨hactive, effect, heffect, hcallee⟩)
        (fun hopened => absurd hactive (hopened ▸ List.not_mem_nil))
        (by omega)
    simp only [judgeEffectsJournal, hrun, ok_bind]
    have hgoOn : ∀ {kept' opened' : List DeclId} {further : Option Nat},
        Learns config wanted session.arena middle.arena →
        Progress config wanted below active kept' opened' further (looked ++ [effect]) middle →
        ∃ verdict after later,
          judgeEffectsJournal look wanted middle further effects =
            .ok ((verdict, after), later) ∧
          Inspected config wanted below active session.arena (looked ++ effect :: effects) verdict
            after ∧
          (journal ++ later).Tells (Moves config wanted roots) session after := by
      intro kept' opened' further hlearns hnext
      obtain ⟨verdict, after, later, hrest, hinspected, hlater⟩ := ih hnext
        (fun other hother => by
          rw [hlearns.effectsOf_eq]
          exact heffects other (List.mem_cons_of_mem _ hother))
        (by rw [hlearns.size_eq]; exact hlevels)
      refine ⟨verdict, after, later, hrest, ?_, htells.append hlater⟩
      rw [List.append_assoc, List.singleton_append] at hinspected
      cases hinspected with
      | fails learns working leads broken =>
        exact .fails (hlearns.trans learns) working leads broken
      | holds learns progress => exact .holds (hlearns.trans learns) progress
    cases houtcome with
    | fails learns working broken =>
      refine ⟨.fails, middle, journal, rfl, ?_, htells⟩
      have hopened := hprogress.opened_eq
      subst hopened
      refine .fails learns working ?_ ?_
      · exact fun function hfunction =>
          (hprogress.leads function hfunction).mono (fun _ => id) learns
      · intro hsupports
        have := hsupports effect (by rw [learns.effectsOf_eq]; exact heffect)
        exact broken (learns.allows_iff.mp this)
    | holds learns working sound =>
      simp only [oldest_none_right]
      obtain ⟨verdict, after, later, hrest, hinspected, hall⟩ :=
        hgoOn learns (hprogress.known learns working sound)
      exact ⟨verdict, after, journal ++ later, by simp [hrest], hinspected, hall⟩
    | relies learns working place_eq sound supported leads_kept leads_source =>
      obtain ⟨verdict, after, later, hrest, hinspected, hall⟩ :=
        hgoOn learns (hprogress.relying heffect learns working place_eq sound supported
          leads_kept leads_source)
      exact ⟨verdict, after, journal ++ later, by simp [hrest], hinspected, hall⟩

/-! ## Looking into a function -/

/-- A function with a broken effect is denied the attribute together with all that stayed open
since. -/
theorem Working.deny {after : Session}
    (hworking : Working config wanted after (below ++ active :: kept))
    (hlearns : Learns config wanted session.arena after.arena)
    (hleads : ∀ function ∈ below ++ active :: kept,
      Leads after.arena (below ++ active :: kept) function active)
    (hbroken : ¬after.arena.Supports wanted (after.arena.withStatus config wanted .holds ∪
      after.arena.withStatus config wanted .undecided) active) :
    ∃ settled, after.settleFrom below.length false = .ok settled ∧
      Outcome config wanted session.arena below (active ∈ ·) {active} .fails settled ∧
      Moves config wanted roots after ⟨.settled below.length false, settled⟩ := by
  obtain ⟨-, hnodup, -⟩ := List.nodup_append.mp hworking.nodup
  have hundecided := fun member (hmember : member ∈ active :: kept) =>
    hworking.undecided member (List.mem_append_right below hmember)
  obtain ⟨arena, hconclude⟩ := exists_conclude wanted false fun member hmember =>
    lt_of_mem_withStatus (hundecided member hmember)
  obtain ⟨hsettle, hclosed, hstatus⟩ := hworking.settleFrom hconclude
  have hsettles : Settles config wanted after.arena arena :=
    .deny (active :: kept) hnodup hundecided active List.mem_cons_self hbroken
      (fun member hmember =>
        hworking.reaches (hleads member (List.mem_append_right below hmember)))
      hconclude
  have hfails := hstatus active List.mem_cons_self
  refine ⟨_, hsettle, .fails (hlearns.step hsettles) hclosed ?_,
    .denied hworking hbroken hleads hconclude⟩
  rintro (hholds | hopen)
  · exact absurd hfails (notMem_withStatus hholds)
  · exact absurd hfails (notMem_withStatus hopen)

/-- A function that relies on no older one is granted the attribute together with all that stayed
open since. -/
theorem Progress.grant {after : Session}
    (hlearns : Learns config wanted session.arena after.arena)
    (hprogress : Progress config wanted below active kept opened relies
      (session.arena.effectsOf active) after)
    (hself : isSelfContained below.length relies = true) :
    ∃ settled, after.settleFrom below.length true = .ok settled ∧
      Outcome config wanted session.arena below (active ∈ ·) {active} (.holds none) settled ∧
      Moves config wanted roots after ⟨.settled below.length true, settled⟩ := by
  obtain rfl := hprogress.opened_eq
  have hworking := hprogress.working
  obtain ⟨-, hnodup, -⟩ := List.nodup_append.mp hworking.nodup
  have hundecided := fun member (hmember : member ∈ active :: kept) =>
    hworking.undecided member (List.mem_append_right below hmember)
  have hrelied :
      reliedOn (below ++ active :: kept) relies ⊆ {member | member ∈ active :: kept} := by
    cases relies with
    | none => exact Set.empty_subset _
    | some place =>
      simp only [isSelfContained, decide_eq_true_iff] at hself
      intro member hmember
      have hdrop := List.drop_subset_drop_left (below ++ active :: kept) hself hmember
      rwa [List.drop_left' rfl] at hdrop
  have hsupported : ∀ member ∈ active :: kept, after.arena.Supports wanted
      (after.arena.withStatus config wanted .holds ∪ {member | member ∈ active :: kept})
      member := by
    intro member hmember
    have hmono := Set.union_subset_union_right (after.arena.withStatus config wanted .holds) hrelied
    obtain rfl | hkept := List.mem_cons.mp hmember
    · intro effect heffect
      rw [hlearns.effectsOf_eq] at heffect
      exact (hprogress.allowed effect heffect).mono hmono
    · exact (hprogress.supported member hkept).mono hmono
  obtain ⟨arena, hconclude⟩ := exists_conclude wanted true fun member hmember =>
    lt_of_mem_withStatus (hundecided member hmember)
  obtain ⟨hsettle, hclosed, hstatus⟩ := hworking.settleFrom hconclude
  have hsettles : Settles config wanted after.arena arena :=
    .grant (active :: kept) hnodup hundecided hsupported hconclude
  exact ⟨_, hsettle, .holds (hlearns.step hsettles) hclosed (hstatus active List.mem_cons_self),
    .granted hworking hsupported hconclude⟩

/-- A function that relies on an older one stays open. -/
theorem Progress.suspend {after : Session} {place : Nat}
    (hlearns : Learns config wanted session.arena after.arena)
    (hprogress : Progress config wanted below active kept opened (some place)
      (session.arena.effectsOf active) after)
    (hself : isSelfContained below.length (some place) = false) :
    Outcome config wanted session.arena below (active ∈ ·) {active} (.holds (some place))
      after := by
  obtain rfl := hprogress.opened_eq
  have hplace : place < below.length := by simpa [isSelfContained] using hself
  have htarget : (below ++ active :: kept)[place]? = some below[place] := by
    rw [List.getElem?_append_left hplace, List.getElem?_eq_getElem hplace]
  have hleads := hprogress.leads_place place rfl _ htarget
  refine .relies hlearns hprogress.working (List.getElem?_eq_getElem hplace) ?_ ?_ ?_
    ⟨active, rfl, hleads⟩
  · right
    change active ∈ (below ++ active :: kept).drop place
    rw [List.drop_append_of_le_length hplace.le]
    simp
  · intro function hfunction
    obtain rfl | hkept := List.mem_cons.mp hfunction
    · intro effect heffect
      rw [hlearns.effectsOf_eq] at heffect
      exact hprogress.allowed effect heffect
    · exact hprogress.supported function hkept
  · intro function hfunction
    exact (hprogress.leads function (List.mem_append_right below hfunction)).trans hleads

/-- Looking into functions comes out as it should. -/
theorem enterJournal_looksRightly (config : Config) (wanted : Attribute) (roots : Set DeclId)
    (levels : Nat) :
    LooksRightly config wanted roots levels (enterJournal config wanted levels) := by
  induction levels with
  | zero =>
    intro session opened function hworking hbound hleads hroots hlevels
    have := hworking.length_le
    omega
  | succ levels ih =>
    intro session opened function hworking hbound hleads hroots hlevels
    obtain ⟨declaration, hget⟩ := exists_get hbound
    have hstatus := mem_withStatus_iff_of_get hget config wanted
    simp only [enterJournal, hget, ok_bind]
    cases hknown : declaration.status config wanted with
    | holds =>
      exact ⟨.holds none, session, [], rfl, .holds .refl hworking ((hstatus .holds).mpr hknown),
        .nil⟩
    | fails =>
      refine ⟨.fails, session, [], rfl, .fails .refl hworking ?_, .nil⟩
      rintro (hholds | hopen)
      · simp [hstatus, hknown] at hholds
      · simp [hstatus, hknown] at hopen
    | undecided =>
      have hundecided := (hstatus .undecided).mpr hknown
      cases hplace : session.stack.place? ⟨function, wanted⟩ with
      | some place =>
        have hfunction := hworking.getElem?_of_place? hplace
        refine ⟨.holds (some place), session, [], rfl, ?_, .nil⟩
        rw [← List.append_nil opened] at hworking
        refine .relies .refl hworking hfunction (.inr ?_) (by simp) (by simp)
          ⟨function, rfl, ReflTransGen.refl⟩
        obtain ⟨hlt, rfl⟩ := List.getElem?_eq_some_iff.mp hfunction
        simp only [reliedOn, List.append_nil, Set.mem_ofPred_eq]
        rw [List.drop_eq_getElem_cons hlt]
        exact List.mem_cons_self
      | none =>
        have hnew := hworking.notMem_of_place? hplace
        have hdepth : session.stack.depth = opened.length := by
          simp [FrameStack.depth, hworking.frames_eq]
        have heffects : (declaration.asFunc?.map Func.effects).getD [] =
            session.arena.effectsOf function := by simp [effectsOf, hget]
        obtain ⟨verdict, after, later, hrun, hinspected, hlater⟩ := judgeEffects_inspected ih
          (session.arena.effectsOf function)
          (Progress.start (hworking.push hundecided hnew) hleads) (fun effect heffect => heffect)
          (by change session.arena.size < _; omega)
        have htells : Journal.Tells (Moves config wanted roots) session
            (⟨.opened ⟨function, wanted⟩, session.push ⟨function, wanted⟩⟩ :: later) after :=
          .cons (.opened hworking hundecided hnew hleads hroots) hlater
        simp only [heffects, hrun, hdepth, ok_bind]
        rw [List.nil_append] at hinspected
        cases hinspected with
        | fails learns working leads broken =>
          obtain ⟨settled, hsettle, houtcome, hmove⟩ := working.deny learns leads broken
          exact ⟨.fails, settled, _, by simp [hsettle], houtcome, htells.concat hmove⟩
        | @holds _ relies _ _ learns progress =>
          cases hself : isSelfContained opened.length relies with
          | true =>
            obtain ⟨settled, hsettle, houtcome, hmove⟩ := progress.grant learns hself
            exact ⟨.holds none, settled, _, by simp [hself, hsettle], houtcome,
              htells.concat hmove⟩
          | false =>
            cases relies with
            | none => simp [isSelfContained] at hself
            | some place =>
              exact ⟨.holds (some place), after, _, by simp [hself], progress.suspend learns hself,
                htells⟩

end Declarations.Session
