import Mathlib.Data.LawfulXor.Basic
import Mathlib.Data.List.Induction

/-!
Networks of rounds that change one half of a pair by a function of the other half. Whatever the
function is, the same network with its keys the other way round undoes one.
-/

namespace SoftHSM.Feistel

variable {κ α : Type*} [XorOp α] (f : κ → α → α)

/-- One round: the half in front is kept and comes second. -/
def round (k : κ) (x : α × α) : α × α := (x.2 ^^^ f k x.1, x.1)

def rounds (ks : List κ) (x : α × α) : α × α := ks.foldl (fun x k => round f k x) x

/-- The rounds, of which the last one leaves the halves where they are. -/
def network (ks : List κ) (x : α × α) : α × α := (rounds f ks x).swap

@[simp] lemma rounds_nil (x : α × α) : rounds f [] x = x := rfl

lemma rounds_append (ks ks' : List κ) (x : α × α) :
    rounds f (ks ++ ks') x = rounds f ks' (rounds f ks x) :=
  List.foldl_append

lemma rounds_concat (ks : List κ) (k : κ) (x : α × α) :
    rounds f (ks ++ [k]) x = round f k (rounds f ks x) := by
  rw [rounds_append]
  rfl

lemma network_concat (ks : List κ) (k : κ) (x : α × α) :
    network f (ks ++ [k]) x =
      ((rounds f ks x).1, (rounds f ks x).2 ^^^ f k (rounds f ks x).1) := by
  rw [network, rounds_concat]
  rfl

variable [Zero α] [LawfulXor α]

/-- A round undoes itself once the halves have changed places. -/
lemma round_swap_round (k : κ) (x : α × α) : round f k (round f k x).swap = x.swap := by
  obtain ⟨a, b⟩ := x
  simp [round]

lemma rounds_reverse (ks : List κ) (x : α × α) :
    rounds f ks.reverse (network f ks x) = x.swap := by
  induction ks using List.reverseRecOn generalizing x with
  | nil => rfl
  | append_singleton ks k ih =>
    have hback : round f k (network f (ks ++ [k]) x) = network f ks x := by
      rw [network, rounds_concat, round_swap_round]
      rfl
    rw [List.reverse_append, List.reverse_singleton, rounds_append, ← ih x, ← hback]
    rfl

/-- **The network** with its keys the other way round undoes the network. -/
theorem network_reverse (ks : List κ) (x : α × α) :
    network f ks.reverse (network f ks x) = x := by
  rw [network, rounds_reverse, Prod.swap_swap]

end SoftHSM.Feistel
