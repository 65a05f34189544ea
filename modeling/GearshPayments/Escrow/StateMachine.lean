import GearshPayments.Problem
import GearshPayments.Store.Schema

/-!
# The escrow state machine

`escrow-state.machine.ts`: the transition table and its resolver, which throws
`ESCROW_FROZEN` when a disputed hold is used as if it were not, and
`ESCROW_ILLEGAL_TRANSITION` for everything else the table does not list.
-/

namespace GearshPayments

/-- The logical actions on a hold. -/
inductive EscrowAction where
  | release | refund | partialRefund | freeze | resolveRelease | resolveRefund | resolveSplit
deriving DecidableEq, Repr

/-- The name of a state in messages. -/
def EscrowState.name : EscrowState → String
  | .held => "HELD"
  | .released => "RELEASED"
  | .partiallyRefunded => "PARTIALLY_REFUNDED"
  | .refunded => "REFUNDED"
  | .disputed => "DISPUTED"

namespace EscrowAction

def all : List EscrowAction :=
  [release, refund, partialRefund, freeze, resolveRelease, resolveRefund, resolveSplit]

theorem mem_all (action : EscrowAction) : action ∈ all := by
  cases action <;> decide

/-- The name of an action in messages. -/
def name : EscrowAction → String
  | release => "RELEASE"
  | refund => "REFUND"
  | partialRefund => "PARTIAL_REFUND"
  | freeze => "FREEZE"
  | resolveRelease => "RESOLVE_RELEASE"
  | resolveRefund => "RESOLVE_REFUND"
  | resolveSplit => "RESOLVE_SPLIT"

/-- `FROZEN_BYPASS_ACTIONS`: the actions that are legal on a disputed hold. -/
def frozenBypass : EscrowAction → Bool
  | resolveRelease | resolveRefund | resolveSplit => true
  | _ => false

end EscrowAction

/-- The transition table. -/
def transitions : EscrowState → EscrowAction → Option EscrowState
  | .held, .release => some .released
  | .held, .refund => some .refunded
  | .held, .partialRefund => some .partiallyRefunded
  | .held, .freeze => some .disputed
  | .partiallyRefunded, .release => some .released
  | .partiallyRefunded, .partialRefund => some .partiallyRefunded
  | .partiallyRefunded, .freeze => some .disputed
  | .disputed, .resolveRelease => some .released
  | .disputed, .resolveRefund => some .refunded
  | .disputed, .resolveSplit => some .refunded
  | _, _ => none

def canTransition (src : EscrowState) (action : EscrowAction) : Bool :=
  (transitions src action).isSome

/-- Resolve a state and an action to the target state, or throw. -/
def nextState (src : EscrowState) (action : EscrowAction) : Except Failure EscrowState :=
  match transitions src action with
  | some target => .ok target
  | none =>
    if src = .disputed ∧ action.frozenBypass = false then
      .error (.withDetail .escrowFrozen
        s!"Hold is DISPUTED; cannot apply {action.name}. Use resolve-release, resolve-refund, or resolve-split.")
    else
      .error (.withDetail .escrowIllegalTransition
        s!"Cannot apply {action.name} to a hold in state {src.name}.")

/-- The state has no outgoing edge in the table. -/
def isTerminal (state : EscrowState) : Bool :=
  EscrowAction.all.all fun action ↦ (transitions state action).isNone

theorem nextState_eq_ok_iff {src target : EscrowState} {action : EscrowAction} :
    nextState src action = .ok target ↔ transitions src action = some target := by
  unfold nextState
  cases transitions src action with
  | none => dsimp only; split <;> simp
  | some t => simp

/-- The state that an action leads to, from wherever it is legal. -/
def EscrowAction.target : EscrowAction → EscrowState
  | .release | .resolveRelease => .released
  | .refund | .resolveRefund | .resolveSplit => .refunded
  | .partialRefund => .partiallyRefunded
  | .freeze => .disputed

theorem target_of_legal {src target : EscrowState} {action : EscrowAction}
    (h : transitions src action = some target) : target = action.target := by
  cases src <;> cases action <;> cases h <;> rfl

/-- An action is legal from the states it is meant for: those of a dispute on a
disputed hold, a full refund on a hold that is merely held, the rest on open holds. -/
theorem source_of_legal {src target : EscrowState} {action : EscrowAction}
    (h : transitions src action = some target) :
    if action.frozenBypass then src = .disputed
    else if action = .refund then src = .held
    else src = .held ∨ src = .partiallyRefunded := by
  cases src <;> cases action <;> cases h <;> simp [EscrowAction.frozenBypass]

theorem isTerminal_iff {state : EscrowState} :
    isTerminal state = true ↔ state = .released ∨ state = .refunded := by
  cases state <;> decide

/-- Nothing can be done to a hold in a terminal state. -/
theorem transitions_of_isTerminal {state : EscrowState} (h : isTerminal state = true)
    (action : EscrowAction) : transitions state action = none := by
  have := List.all_eq_true.mp h action action.mem_all
  exact Option.isNone_iff_eq_none.mp this

/-- An action refused with `ESCROW_FROZEN` was not meant for a disputed hold. -/
theorem nextState_code {src : EscrowState} {action : EscrowAction} {e : Failure}
    (h : nextState src action = .error e) :
    e.code? = some (if src = .disputed ∧ action.frozenBypass = false then .escrowFrozen
      else .escrowIllegalTransition) := by
  unfold nextState at h
  split at h
  · cases h
  · split at h
    · rename_i hf
      cases h
      rw [if_pos hf, Failure.code?_withDetail]
    · rename_i hf
      cases h
      rw [if_neg hf, Failure.code?_withDetail]

end GearshPayments
