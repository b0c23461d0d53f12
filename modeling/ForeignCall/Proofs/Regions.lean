import ForeignCall.Routine
import Mathlib.Data.Nat.Notation

/-!
# Trees of guarded regions

Guarded regions lie inside each other: native code under a recovery point makes calls, and each of
those sets up a point of its own. What such a tree of regions comes to can be said without any
recovery points. A region ends with its result or with the signal that is raised in it, whichever
comes first; a region inside it is one step, after which it goes on with how that region ended. The
recovery points only carry this out: a signal jumps to the point of the region that it is raised in,
since any region inside that one has been left by then and has put the point back.

## Scope

A signal that is not trapped ends the process and no region, so the trees here raise none.

## Main definitions

* `Region` — a tree of guarded regions, over any state that they share
* `Region.body` — the tree run under the fault trap
* `Region.result` — what the tree comes to, without recovery points

## Main results

* `Region.body_eq` — a signal gets to the innermost recovery point
* `Region.guarded_body` — a region ends with its own result, and restores the recovery points
-/

namespace ForeignCall

/-- The end of a stretch of code whose signals jump to a recovery point. -/
def Guarded.ending {α : Type} (point : ℕ) : Guarded α → Ending α
  | .completed a => .returned a
  | .faulted signal => .unwinding point signal

section Guarded

variable {σ α : Type} {body : Thread σ → Ending α × Thread σ} {t t' : Thread σ}

/-- A region whose body returns. -/
theorem guarded_of_returned {a : α}
    (h : body ⟨t.state, t.points.length :: t.points⟩ = (.returned a, t')) :
    guarded body t = (.returned (.completed a), ⟨t'.state, t.points⟩) := by
  simp only [guarded, h]

/-- A region whose body raises a signal. -/
theorem guarded_of_unwinding {signal : Signal}
    (h : body ⟨t.state, t.points.length :: t.points⟩ = (.unwinding t.points.length signal, t')) :
    guarded body t = (.returned (.faulted signal), ⟨t'.state, t.points⟩) := by
  simp only [guarded, h, if_true]

/-- Code whose signals jump to the innermost recovery point does not get out of a region with
them. -/
theorem guarded_of_ending {result : σ → Guarded α × σ}
    (h : ∀ s p ps, body ⟨s, p :: ps⟩ = ((result s).1.ending p, ⟨(result s).2, p :: ps⟩))
    (t : Thread σ) :
    guarded body t = (.returned (result t.state).1, ⟨(result t.state).2, t.points⟩) := by
  have hbody := h t.state t.points.length t.points
  cases hresult : (result t.state).1 with
  | completed a =>
    rw [hresult] at hbody
    exact guarded_of_returned hbody
  | faulted signal =>
    rw [hresult] at hbody
    exact guarded_of_unwinding hbody

end Guarded

/-- A tree of guarded regions: what the outermost one does from some point on. -/
inductive Region (σ α : Type) where
  | done (a : α)
  | raise (signal : Signal) (trapped : signal ∈ Signal.trapped)
  /-- Changes the shared state, and looks at it. -/
  | step (act : σ → σ) (next : σ → Region σ α)
  /-- Runs another region, and goes on with how it ended. -/
  | nested (inner : Region σ α) (next : Guarded α → Region σ α)

namespace Region

variable {σ α : Type}

/-- Runs a region under the recovery points that are active, with a point of its own for each region
inside it. -/
def body : Region σ α → Thread σ → Ending α × Thread σ
  | .done a, t => (.returned a, t)
  | .raise signal _, t => ForeignCall.raise signal t
  | .step act next, t => (next (act t.state)).body (t.modify act)
  | .nested inner next, t =>
    match guarded inner.body t with
    | (.returned g, t') => (next g).body t'
    | (.unwinding point signal, t') => (.unwinding point signal, t')
    | (.died signal, t') => (.died signal, t')

/-- How a region ends, and the state that it leaves. A signal ends the region that raises it, and no
other one. -/
def result : Region σ α → σ → Guarded α × σ
  | .done a, s => (.completed a, s)
  | .raise signal _, s => (.faulted signal, s)
  | .step act next, s => (next (act s)).result (act s)
  | .nested inner next, s => (next (inner.result s).1).result (inner.result s).2

/-- **A signal gets to the innermost recovery point**, whatever regions there were before. -/
theorem body_eq (r : Region σ α) (s : σ) (p : ℕ) (ps : List ℕ) :
    r.body ⟨s, p :: ps⟩ = ((r.result s).1.ending p, ⟨(r.result s).2, p :: ps⟩) := by
  induction r generalizing s p ps with
  | done a => rfl
  | raise signal trapped =>
    simp only [body, ForeignCall.raise, if_pos trapped, result, Guarded.ending]
  | step act next ih => exact ih (act s) (act s) p ps
  | nested inner next ihInner ihNext =>
    have hinner := guarded_of_ending ihInner ⟨s, p :: ps⟩
    rw [body, hinner]
    exact ihNext _ _ p ps

/-- **A region ends with its own result**, and the recovery points are the ones it was entered
with. -/
theorem guarded_body (r : Region σ α) (t : Thread σ) :
    guarded r.body t = (.returned (r.result t.state).1, ⟨(r.result t.state).2, t.points⟩) :=
  guarded_of_ending r.body_eq t

/-- A signal inside a region inside a region: the outer one goes on with its number. -/
example : guarded (Region.nested (.raise Signal.illegalInstruction (by decide)) fun
      | .completed (_ : ℕ) => .done 0
      | .faulted signal => .done signal.toNat).body ⟨(), []⟩ =
    (.returned (.completed 4), ⟨(), []⟩) := rfl

end Region

end ForeignCall
