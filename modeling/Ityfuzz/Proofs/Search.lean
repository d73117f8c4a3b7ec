import Ityfuzz.Sanity.DfsBound
import Ityfuzz.Proofs.Routes

/-! The two searches of `find_path_subgraph`, call by call.

From a token that is not pegged, `get_all_hops` calls itself on distinct tokens, after the
first never on a pegged one; `known` ends as the tokens of its calls and the map's keys are the
tokens of the calls above the last level, each stored with its `get_pair` list. `dfs` over that
map makes the same calls on tokens that are not pegged, in the same order and at the same
depths, and leaves `visited` equal to `known` (`getAllHops_dfs_lockstep`).

`dfs` does not need its fuel: from an empty `visited`, one level per key of `hops` and one more
is never exhausted and more changes nothing. It enters each token once, lies at most as deep
as `hops` has keys, makes at most one call more than `hops` stores pairs, and records one route
per call on a pegged token (`dfs_resources`). That is at most one route per pair from a start
that is not pegged; a pegged start records its route whatever `hops` holds. -/

namespace ITY

theorem dfs_resources (onchain : OnChainConfig) (network : String) (P : List (String × String))
    (hops : HopMap) (t : String) :
    (∀ k, dfs onchain network P hops (hops.keys.length + 1 + k) t [] [] [] =
      dfs onchain network P hops (hops.keys.length + 1) t [] [] []) ∧
    dfsRun onchain network P hops (hops.keys.length + 1) t [] [] [] ≠ .error .outOfFuel ∧
    ∀ r, dfsRun onchain network P hops (hops.keys.length + 1) t [] [] [] = .ok r →
      r.1 = (enteredTokens P r.2.2).reverse ∧ r.1.Nodup ∧
      (∀ e ∈ r.2.2, e.2 ≤ hops.keys.length) ∧
      r.2.2.length ≤ 1 + (hops.entries.map fun e => e.2.length).sum ∧
      r.2.1.length = peggedCalls P r.2.2 ∧
      (isPeggedToken P t = false → r.2.1.length ≤ (hops.entries.map fun e => e.2.length).sum) ∧
      (isPeggedToken P t = true →
        ∃ g, getPeggedNextHop onchain t network = some g ∧ r = ([], [[g]], [(t, 0)])) := by
  have hf : keysLeft hops [] < hops.keys.length + 1 := by rw [keysLeft_nil]; omega
  refine ⟨dfs_add_fuel onchain network (List.not_mem_nil t) hf,
    dfsRun_ne_outOfFuel onchain network _ t [] [] [] (List.not_mem_nil t) hf, fun r hr => ?_⟩
  obtain ⟨hv, hnd, ⟨new, hR, hnew⟩, hc, hp, hd⟩ := dfsRun_bound onchain network _ t [] [] [] r
    (List.not_mem_nil t) hr
  rw [pairsLeft_nil] at hc hp
  rw [keysLeft_nil] at hd
  rw [List.append_nil] at hv
  rw [List.nil_append] at hR
  refine ⟨hv, hnd List.nodup_nil, fun e he => by simpa using hd e he, by omega, by rw [hR, hnew],
    fun hpt => ?_, fun hpt => by simpa using dfsRun_pegged_ok hr hpt⟩
  rw [hpt, if_neg Bool.false_ne_true] at hp
  rw [hR, hnew]
  omega

/-- From WETH, `dfs` records the pegged hop of WETH itself over a map with no pairs. -/
theorem dfs_weth_route_without_pairs :
    dfsRun diamond "eth" (getPeggedToken "eth") ∅ 1 (getWeth "eth") [] [] [] =
      .ok ([], [[peggedWethHop]], [(getWeth "eth", 0)]) ∧
    ((∅ : HopMap).entries.map fun e => e.2.length).sum = 0 :=
  ⟨rfl, rfl⟩

end ITY
