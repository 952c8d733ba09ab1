import Declarations.Proofs.Arena.FunctionAlias
import Declarations.Proofs.Overload.Tour

/-!
# The functions of an overload set

The functions of an overload set are those that are offered by a node that can be reached from the
first one, each of them once.  Anchors and aliases that lead back to a node that was entered are no
obstacle.  As long as no function alias leads back to itself, all of the functions are proper ones.
-/

namespace Declarations.Arena

open Relation

variable {arena : Arena} {start function : DeclId}

/-- A node offers a proper function. -/
theorem Offers.isProper (hacyclic : ∀ id, ¬TransGen arena.AliasOf id id) {node : DeclId}
    (hoffers : arena.Offers node function) : arena.IsProper function := by
  cases hoffers with
  | own get_eq _ alias_eq =>
    intro declaration hget
    rwa [← Except.ok.inj (get_eq.symm.trans hget)]
  | named _ _ _ alias_eq => exact isProper_of_aliasedFunction hacyclic alias_eq
  | anchored _ _ _ _ _ alias_eq => exact isProper_of_aliasedFunction hacyclic alias_eq

/-- The functions of an overload set can always be listed.  They are those that the nodes that can
be reached offer, each of them once, and they are proper functions if no function alias leads back
to itself. -/
theorem Closed.candidates_spec (hclosed : arena.Closed) (hstart : start.number < arena.size) :
    ∃ functions, arena.candidates start = .ok functions ∧ functions.Nodup ∧
      (∀ function, function ∈ functions ↔
        ∃ node, ReflTransGen arena.GoesTo start node ∧ arena.Offers node function) ∧
      ((∀ id, ¬TransGen arena.AliasOf id id) →
        ∀ function ∈ functions, arena.IsProper function) := by
  obtain ⟨functions, hcandidates, hnodup, hoffered, -⟩ := hclosed.exists_candidates hstart
  refine ⟨functions, hcandidates, hnodup, hoffered, fun hacyclic function hmem => ?_⟩
  obtain ⟨node, -, hoffers⟩ := (hoffered function).mp hmem
  exact hoffers.isProper hacyclic

/-- A function whose chain goes on to an alias of the whole set. -/
def selfForwarding : Arena where
  declarations := #[(Declaration.func .anonymous .synthetic .plain []).withNext ⟨1⟩,
    .aliasing .anonymous .synthetic (.toSymbol ⟨0⟩)]

theorem Closed.candidates_spec_selfForwarding :
    selfForwarding.Closed ∧
    ∃ functions, selfForwarding.candidates ⟨0⟩ = .ok functions ∧ functions.Nodup ∧
      (∀ function, function ∈ functions ↔ ∃ node,
        ReflTransGen selfForwarding.GoesTo ⟨0⟩ node ∧ selfForwarding.Offers node function) ∧
      ((∀ id, ¬TransGen selfForwarding.AliasOf id id) →
        ∀ function ∈ functions, selfForwarding.IsProper function) := by
  have hclosed : selfForwarding.Closed := by decide
  exact ⟨hclosed, hclosed.candidates_spec (by decide)⟩

end Declarations.Arena
