import Declarations.Overload.Tour
import Declarations.Proofs.Arena.Closed
import Mathlib.Logic.Relation

/-!
# Nodes of overload sets

An overload set is a graph.  A node leads to the next entry of its chain and, if it forwards another
set, to the first node of that; and a node that stands for one function offers that function.  This
file states both for an arena, and shows that a tour finds at each node just what the node leads to
and offers.
-/

namespace Declarations.Arena

variable {arena : Arena} {id node target function : DeclId} {declaration : Declaration}

inductive GoesTo (arena : Arena) (node target : DeclId) : Prop where
  /-- The next entry of the chain. -/
  | next {declaration : Declaration} (get_eq : arena.get node = .ok declaration)
      (next_eq : declaration.next? = some target)
  /-- The node is another name for all overloads of a function. -/
  | overloads {declaration : Declaration} {state : Func}
      (get_eq : arena.get node = .ok declaration) (entity_eq : declaration.entity = .func state)
      (role_eq : state.role = .aliasTo target true)
  | aliasing {declaration : Declaration} {state : Alias}
      (get_eq : arena.get node = .ok declaration) (entity_eq : declaration.entity = .aliasing state)
      (target_eq : state.target = some target)
  /-- An anchor forwards a set if it says so, and if its target is no function. -/
  | anchor {declaration : Declaration} {state : Anchor}
      (get_eq : arena.get node = .ok declaration) (entity_eq : declaration.entity = .anchor state)
      (target_eq : state.target = some target)
      (forwards : state.forwardsSet = true ∨ ¬arena.IsFunction target)

/-- A node of an overload set stands for one function. -/
inductive Offers (arena : Arena) (node : DeclId) : DeclId → Prop where
  /-- The node is a function and no other name for one. -/
  | own {declaration : Declaration} (get_eq : arena.get node = .ok declaration)
      (isFunction_eq : declaration.isFunction = true)
      (alias_eq : declaration.aliasedFunction? = none) : Offers arena node node
  /-- The node is another name for a function. -/
  | named {declaration : Declaration} {state : Func} {target function : DeclId}
      (get_eq : arena.get node = .ok declaration) (entity_eq : declaration.entity = .func state)
      (role_eq : state.role = .aliasTo target false)
      (alias_eq : arena.aliasedFunction node = .ok function)
      (isFunction : arena.IsFunction function) : Offers arena node function
  | anchored {declaration : Declaration} {state : Anchor} {target function : DeclId}
      (get_eq : arena.get node = .ok declaration) (entity_eq : declaration.entity = .anchor state)
      (target_eq : state.target = some target) (forwards_eq : state.forwardsSet = false)
      (target_isFunction : arena.IsFunction target)
      (alias_eq : arena.aliasedFunction target = .ok function)
      (isFunction : arena.IsFunction function) : Offers arena node function

theorem Offers.isFunction (hoffers : arena.Offers node function) : arena.IsFunction function := by
  cases hoffers with
  | own get_eq isFunction_eq => exact ⟨_, get_eq, isFunction_eq⟩
  | named _ _ _ _ isFunction => exact isFunction
  | anchored _ _ _ _ _ _ isFunction => exact isFunction

/-! ## What a tour finds at a node -/

/-- An anchor that forwards a set is an entrance to it. -/
theorem stopAt_of_forwards {state : Anchor} (hclosed : arena.Closed)
    (hget : arena.get node = .ok declaration) (hentity : declaration.entity = .anchor state)
    (htarget : state.target = some target)
    (hforwards : state.forwardsSet = true ∨ ¬arena.IsFunction target) :
    arena.stopAt node declaration = .ok (.entrance target) := by
  obtain ⟨named, hnamed⟩ : ∃ named, arena.get target = .ok named :=
    exists_get (hclosed.lt_of_mem_handles hget
      (by simp [Declaration.handles, hentity, Entity.handles, htarget]))
  rw [isFunction_iff_of_get hnamed] at hforwards
  by_cases hset : state.forwardsSet = true
  · simp [stopAt, hentity, htarget, hset]
  · simp [stopAt, hentity, htarget, hset, hnamed, hforwards.resolve_left hset]

/-- Any other anchor stands for the function that its target stands for. -/
theorem stopAt_of_not_forwards {state : Anchor} (hentity : declaration.entity = .anchor state)
    (htarget : state.target = some target) (hforwards : state.forwardsSet = false)
    (hfunction : arena.IsFunction target) :
    arena.stopAt node declaration = (arena.aliasedFunction target).map Stop.function := by
  obtain ⟨named, hnamed, hisFunction⟩ := hfunction
  cases halias : arena.aliasedFunction target <;>
    simp [stopAt, hentity, htarget, hforwards, hnamed, hisFunction, halias]

/-- A node leads to the next entry of its chain, and to the set at which a tour stops. -/
theorem goesTo_iff (hclosed : arena.Closed) {stop : Stop} (hget : arena.get node = .ok declaration)
    (hstop : arena.stopAt node declaration = .ok stop) :
    arena.GoesTo node target ↔ declaration.next? = some target ∨ stop = .entrance target := by
  constructor
  · intro hgoes
    cases hgoes with
    | next get_eq next_eq =>
      obtain rfl := Except.ok.inj (hget.symm.trans get_eq)
      exact .inl next_eq
    | overloads get_eq entity_eq role_eq =>
      obtain rfl := Except.ok.inj (hget.symm.trans get_eq)
      simp only [stopAt, entity_eq, role_eq, pure_eq_ok, Except.ok.injEq] at hstop
      exact .inr hstop.symm
    | aliasing get_eq entity_eq target_eq =>
      obtain rfl := Except.ok.inj (hget.symm.trans get_eq)
      simp only [stopAt, entity_eq, target_eq, pure_eq_ok, Except.ok.injEq] at hstop
      exact .inr hstop.symm
    | anchor get_eq entity_eq target_eq forwards =>
      obtain rfl := Except.ok.inj (hget.symm.trans get_eq)
      rw [stopAt_of_forwards hclosed hget entity_eq target_eq forwards, Except.ok.injEq] at hstop
      exact .inr hstop.symm
  · rintro (hnext | rfl)
    · exact .next hget hnext
    · cases hentity : declaration.entity with
      | var | tuple => simp [stopAt, hentity] at hstop
      | aliasing state =>
        cases htarget : state.target with
        | none => simp [stopAt, hentity, htarget] at hstop
        | some first =>
          simp only [stopAt, hentity, htarget, pure_eq_ok, Except.ok.injEq,
            Stop.entrance.injEq] at hstop
          exact .aliasing hget hentity (hstop ▸ htarget)
      | anchor state =>
        cases htarget : state.target with
        | none => simp [stopAt, hentity, htarget] at hstop
        | some first =>
          by_cases hforwards : state.forwardsSet = true ∨ ¬arena.IsFunction first
          · rw [stopAt_of_forwards hclosed hget hentity htarget hforwards, Except.ok.injEq,
              Stop.entrance.injEq] at hstop
            subst first
            exact .anchor hget hentity htarget hforwards
          · rw [not_or, Bool.not_eq_true, Classical.not_not] at hforwards
            rw [stopAt_of_not_forwards hentity htarget hforwards.1 hforwards.2] at hstop
            cases halias : arena.aliasedFunction first <;> simp [halias] at hstop
      | func state =>
        cases hrole : state.role with
        | aliasTo first forwardsSet =>
          cases forwardsSet with
          | true =>
            simp only [stopAt, hentity, hrole, pure_eq_ok, Except.ok.injEq,
              Stop.entrance.injEq] at hstop
            exact .overloads hget hentity (hstop ▸ hrole)
          | false =>
            cases halias : arena.aliasedFunction node <;>
              simp [stopAt, hentity, hrole, halias] at hstop
        | _ => simp [stopAt, hentity, hrole] at hstop

/-- A node offers the function at which a tour stops. -/
theorem offers_iff (hclosed : arena.Closed) {stop : Stop} (hget : arena.get node = .ok declaration)
    (hstop : arena.stopAt node declaration = .ok stop) :
    arena.Offers node function ↔ stop = .function function ∧ arena.IsFunction function := by
  constructor
  · intro hoffers
    refine ⟨?_, hoffers.isFunction⟩
    cases hoffers with
    | own get_eq isFunction_eq alias_eq =>
      obtain rfl := Except.ok.inj (hget.symm.trans get_eq)
      obtain ⟨state, hfunc⟩ := Option.isSome_iff_exists.mp isFunction_eq
      have hentity := Declaration.entity_of_asFunc? hfunc
      simp only [Declaration.aliasedFunction?, hentity] at alias_eq
      cases hrole : state.role with
      | aliasTo => simp [hrole] at alias_eq
      | _ =>
        simp only [stopAt, hentity, hrole, pure_eq_ok, Except.ok.injEq] at hstop
        exact hstop.symm
    | named get_eq entity_eq role_eq alias_eq =>
      obtain rfl := Except.ok.inj (hget.symm.trans get_eq)
      simp only [stopAt, entity_eq, role_eq, alias_eq, ok_bind, pure_eq_ok,
        Except.ok.injEq] at hstop
      exact hstop.symm
    | anchored get_eq entity_eq target_eq forwards_eq target_isFunction alias_eq =>
      obtain rfl := Except.ok.inj (hget.symm.trans get_eq)
      rw [stopAt_of_not_forwards entity_eq target_eq forwards_eq target_isFunction, alias_eq,
        ok_map, Except.ok.injEq] at hstop
      exact hstop.symm
  · rintro ⟨rfl, hfunction⟩
    cases hentity : declaration.entity with
    | var | tuple => simp [stopAt, hentity] at hstop
    | aliasing state => cases htarget : state.target <;> simp [stopAt, hentity, htarget] at hstop
    | anchor state =>
      cases htarget : state.target with
      | none => simp [stopAt, hentity, htarget] at hstop
      | some target =>
        by_cases hforwards : state.forwardsSet = true ∨ ¬arena.IsFunction target
        · simp [stopAt_of_forwards hclosed hget hentity htarget hforwards] at hstop
        · rw [not_or, Bool.not_eq_true, Classical.not_not] at hforwards
          rw [stopAt_of_not_forwards hentity htarget hforwards.1 hforwards.2] at hstop
          cases halias : arena.aliasedFunction target with
          | error fault => simp [halias] at hstop
          | ok resolved =>
            obtain rfl : resolved = function := by simpa [halias] using hstop
            exact .anchored hget hentity htarget hforwards.1 hforwards.2 halias hfunction
    | func state =>
      have hisFunction : declaration.isFunction = true := by
        simp [Declaration.isFunction, Declaration.asFunc?, hentity]
      cases hrole : state.role with
      | aliasTo target forwardsSet =>
        cases forwardsSet with
        | true => simp [stopAt, hentity, hrole] at hstop
        | false =>
          cases halias : arena.aliasedFunction node with
          | error fault => simp [stopAt, hentity, hrole, halias] at hstop
          | ok resolved =>
            obtain rfl : resolved = function := by
              simpa [stopAt, hentity, hrole, halias] using hstop
            exact .named hget hentity hrole halias hfunction
      | _ =>
        obtain rfl : node = function := by simpa [stopAt, hentity, hrole] using hstop
        exact .own hget hisFunction (by simp [Declaration.aliasedFunction?, hentity, hrole])

end Declarations.Arena
