import Mathlib.Data.LawfulXor.Basic
import SoftHSM.Lib.Memory

/-!
Codes of authentication from a block cipher: the blocks of a text are chained, and the last one goes
under one of two masks, the first if it is whole, the second if it had to be filled up.
-/

namespace SoftHSM.Omac

variable {n : ℕ} (E : Block n → Block n) (k1 k2 : Block n)

/-- The first bytes of a text as a block, with zeros where there are none. -/
def blockOf (text : List UInt8) : Block n := fun i => text.getD i 0

/-- The last block, ended with a bit if it is not whole. -/
def lastBlock (p : List UInt8) : Block n :=
  if p.length = n then blockOf p ^^^ k1 else blockOf (p ++ [0x80]) ^^^ k2

/-- The chain over a text, which has a last block even if it is empty. -/
def chain [NeZero n] (s : Block n) (text : List UInt8) : Block n :=
  if n < text.length then chain (E (s ^^^ blockOf (text.take n))) (text.drop n)
  else E (s ^^^ lastBlock k1 k2 text)
termination_by text.length
decreasing_by
  have hpos : 0 < n := NeZero.pos n
  rw [List.length_drop]
  omega

/-- **The code** of a text: the masks are one and two doublings of the encrypted zero block. -/
def omac [NeZero n] (double : Block n → Block n) (text : List UInt8) : Block n :=
  chain E (double (E 0)) (double (double (E 0))) 0 text

lemma blockOf_take (text : List UInt8) : (blockOf (text.take n) : Block n) = blockOf text := by
  funext i
  simp [blockOf, List.getD_eq_getElem?_getD, List.getElem?_take_of_lt i.isLt]

/-- The blocks in front of the last one. -/
def chained (text : List UInt8) (s : Block n) (count : ℕ) : Block n :=
  (List.range count).foldl (fun s k => E (s ^^^ blockOf (text.drop (k * n)))) s

lemma chained_succ (text : List UInt8) (s : Block n) (count : ℕ) :
    chained E text s (count + 1) = chained E (text.drop n) (E (s ^^^ blockOf text)) count := by
  rw [chained, List.range_succ_eq_map, List.foldl_cons, List.foldl_map, zero_mul, List.drop_zero]
  refine congrArg (fun f => List.foldl f _ _) (funext fun s => funext fun k => ?_)
  rw [List.drop_drop, Nat.succ_mul, Nat.add_comm]

/-- **The chain** is a loop over the blocks, and what comes behind them. -/
lemma chain_eq [NeZero n] (s : Block n) (text : List UInt8) :
    chain E k1 k2 s text = E (chained E text s ((text.length - 1) / n) ^^^
      lastBlock k1 k2 (text.drop ((text.length - 1) / n * n))) := by
  have hn : 0 < n := NeZero.pos n
  induction s, text using chain.induct E with
  | case1 s text hlong ih =>
    have hdiv : (text.length - 1) / n = (text.length - n - 1) / n + 1 := by
      rw [← Nat.add_div_right _ hn]
      congr 1
      omega
    rw [chain, if_pos hlong, ih, List.length_drop, hdiv, chained_succ, blockOf_take, List.drop_drop,
      Nat.succ_mul, Nat.add_comm n]
  | case2 s text hshort =>
    have hdiv : (text.length - 1) / n = 0 := Nat.div_eq_of_lt (by omega)
    rw [chain, if_neg hshort, hdiv, zero_mul, List.drop_zero]
    rfl

end SoftHSM.Omac
