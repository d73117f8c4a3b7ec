import Ityfuzz.Sanity.FetchPath
import Ityfuzz.Sanity.DfsBound
import Ityfuzz.Proofs.Reserves

/-! What `fetch_uniswap_path` hands to the flash-loan oracle.

Every swap path of the `TokenContext` is one route of `find_path_subgraph` parsed hop by hop.
It holds at most `MAX_HOPS + 1` pair contexts before the final pegged hop, which sets the final
ratio to the rate `get_pegged_next_hop` gave and has no pair exactly for WETH
(`fetchUniswapPath_paths_end_pegged`). From a token that is not pegged, every pair context holds
the reserves `fetch_reserve` reported for its pair, decoded to the very values `add_reserve_info`
found significant (`fetchUniswapPath_pairs_significant`). On a chain without a pegged-token
table nothing is ever pegged, `dfs` records no route and cannot fail, and the context is the
default one whatever the endpoint answers (`fetchUniswapPath_unknown_chain`). -/

namespace ITY

section Forall₂

variable {α β : Type} {R : α → β → Prop}

theorem forall₂_exists_left : ∀ {l : List α} {r : List β}, List.Forall₂ R l r → ∀ b ∈ r, ∃ a ∈ l, R a b
  | _, _, .nil => fun b hb => absurd hb (List.not_mem_nil b)
  | _, _, .cons hab h => fun b hb => by
    rcases List.mem_cons.1 hb with rfl | hb
    · exact ⟨_, List.mem_cons_self _ _, hab⟩
    · obtain ⟨a, ha, hr⟩ := forall₂_exists_left h b hb
      exact ⟨a, List.mem_cons_of_mem _ ha, hr⟩

theorem forall₂_append_singleton_left {a : α} : ∀ {l : List α} {r : List β},
    List.Forall₂ R (l ++ [a]) r → ∃ r' b, r = r' ++ [b] ∧ List.Forall₂ R l r' ∧ R a b
  | [], _, h => by
    obtain ⟨b, u, hab, hu, rfl⟩ := List.forall₂_cons_left_iff.1 h
    exact ⟨[], b, by rw [List.forall₂_nil_left_iff.1 hu]; rfl, .nil, hab⟩
  | _ :: _, _, h => by
    obtain ⟨b, u, hxb, hu, rfl⟩ := List.forall₂_cons_left_iff.1 h
    obtain ⟨r', c, rfl, hl, hac⟩ := forall₂_append_singleton_left hu
    exact ⟨b :: r', c, rfl, .cons hxb hl, hac⟩

end Forall₂

/-- The verdict of one side of `add_reserve_info`, on the numbers: the reserve exceeds
`10^(decimals - 1)`, except that from `257` decimals on, where the threshold wraps to `0`, any
positive reserve passes. -/
def reserveSignificant (d : UInt32) (r : Nat) : Bool :=
  decide (if 257 ≤ d.toNat then 0 < r else minReserve d < r)

theorem decodeReserve_agree {s : String} {v : Int} {w : EVMU256}
    (hv : i128FromStrRadix s 16 = some v) (hw : decodeReserve s = some w) : v = w.toNat := by
  obtain ⟨bytes, hb, hw⟩ := Option.bind_eq_some.1 hw
  have hd := ((hexDecodeChars_isSome s.toList).1 (Option.isSome_iff_exists.2 ⟨bytes, hb⟩)).2
  obtain ⟨n, hn, -, rfl⟩ := i128FromStrRadix_of_digits hv hd
  rw [digitsValue_of_hexDecode hb, Option.some.injEq] at hn
  unfold tryFromBeSlice at hw
  split at hw
  · cases hw
    rw [BitVec.toNat_ofNat, Nat.mod_eq_of_lt (by assumption), hn]
  · cases hw

section Reserve

variable {onchain : OnChainConfig}

/-- What `add_reserve_info` returns: a `pegged_weth` hop unchanged and significant; any other
hop with the strings `fetch_reserve` reports for its pair, read by `from_str_radix` as
non-negative reserves, and the verdict on them. -/
theorem addReserveInfo_eq_some {p q : PairData} {b : Bool} (h : addReserveInfo onchain p = some (q, b)) :
    (p.src = "pegged_weth" ∧ q = p ∧ b = true) ∨
    (p.src ≠ "pegged_weth" ∧
      q = { p with initialReserves0 := (onchain.fetchReserve p.pair).1,
                   initialReserves1 := (onchain.fetchReserve p.pair).2 } ∧
      ∃ r0 r1 : Int, i128FromStrRadix q.initialReserves0 16 = some r0 ∧ 0 ≤ r0 ∧
        i128FromStrRadix q.initialReserves1 16 = some r1 ∧ 0 ≤ r1 ∧
        b = (reserveSignificant q.decimals0 r0.toNat && reserveSignificant q.decimals1 r1.toNat)) := by
  unfold addReserveInfo at h
  split at h
  · cases h
    exact .inl ⟨by assumption, rfl, rfl⟩
  · rename_i hs
    simp only [Option.bind_eq_bind, Option.bind_eq_some, u256OfI128, Option.pure_def,
      Option.some.injEq, Prod.mk.injEq] at h
    obtain ⟨r0, h0, w0, hw0, r1, h1, w1, hw1, rfl, rfl⟩ := h
    split at hw0 <;> split at hw1 <;> cases hw0 <;> cases hw1
    refine .inr ⟨hs, rfl, r0, r1, h0, by assumption, h1, by assumption, ?_⟩
    rw [verdict_eq _ (by assumption) (i128FromStrRadix_lt h0),
      verdict_eq _ (by assumption) (i128FromStrRadix_lt h1)]
    rfl

theorem addReserveInfo_keeps {p q : PairData} {b : Bool} (h : addReserveInfo onchain p = some (q, b)) :
    q.src = p.src ∧ q.rate = p.rate := by
  rcases addReserveInfo_eq_some h with ⟨-, rfl, -⟩ | ⟨-, rfl, -⟩ <;> exact ⟨rfl, rfl⟩

/-- A hop `add_reserve_info` found significant, other than `pegged_weth`, holds the reserve
strings of its pair, and both read as significant reserves. -/
theorem addReserveInfo_true {p q : PairData} (h : addReserveInfo onchain p = some (q, true))
    (hq : q.src ≠ "pegged_weth") :
    onchain.fetchReserve q.pair = (q.initialReserves0, q.initialReserves1) ∧
      ∃ r0 r1 : Int, i128FromStrRadix q.initialReserves0 16 = some r0 ∧
        i128FromStrRadix q.initialReserves1 16 = some r1 ∧
        reserveSignificant q.decimals0 r0.toNat ∧ reserveSignificant q.decimals1 r1.toNat := by
  rcases addReserveInfo_eq_some h with ⟨hs, rfl, -⟩ | ⟨-, rfl, r0, r1, h0, -, h1, -, hb⟩
  · exact absurd hs hq
  · exact ⟨rfl, r0, r1, h0, h1, Bool.and_eq_true_iff.1 hb.symm⟩

theorem getPeggedNextHop_src {x network : String} {g : PairData}
    (h : getPeggedNextHop onchain x network = some g) :
    g.src = if x = getWeth network then "pegged_weth" else "pegged" := by
  unfold getPeggedNextHop at h
  split at h
  · cases h
    rw [if_pos (by assumption)]
    rfl
  · rw [if_neg (by assumption)]
    simp only [Option.bind_eq_bind, Option.bind_eq_some, Option.pure_def, Option.some.injEq] at h
    obtain ⟨_, -, _, -, _, -, _, -, rfl⟩ := h
    rfl

end Reserve

section Search

variable {onchain : OnChainConfig} {T : String} {info : Info}

theorem findPathSubgraph_pegged (hT : isPeggedToken (getPeggedToken onchain.chainName) T = true)
    (h : findPathSubgraph onchain T = some info) :
    ∃ g, getPeggedNextHop onchain T onchain.chainName = some g ∧ info.routes = [[g]] := by
  simp only [findPathSubgraph, hT, if_true] at h
  obtain ⟨g, hg, rfl⟩ := Option.map_eq_some'.1 h
  exact ⟨g, hg, rfl⟩

/-- From a token that is not pegged, every route `find_path_subgraph` returns is a route of
`dfs` as `add_reserve_info` refreshed it, hop by hop, with a `true` verdict. -/
theorem findPathSubgraph_unpegged (hT : isPeggedToken (getPeggedToken onchain.chainName) T = false)
    (h : findPathSubgraph onchain T = some info) :
    ∃ routes, dfsRoutes onchain T = some routes ∧ ∀ r ∈ info.routes, ∃ route ∈ routes,
      List.Forall₂ (fun x y => addReserveInfo onchain x = some (y, true)) route r := by
  simp only [findPathSubgraph, hT] at h
  obtain ⟨routes, hroutes, h⟩ := Option.bind_eq_some.1 h
  obtain ⟨checked, hchecked, rfl⟩ := Option.map_eq_some'.1 h
  refine ⟨routes, hroutes, fun r hr => ?_⟩
  obtain ⟨⟨r', b⟩, hc, hkeep⟩ := List.mem_filterMap.1 hr
  cases b <;> cases hkeep
  obtain ⟨route, hroute, hcheck⟩ := mem_of_mapM_eq_some hchecked _ hc
  exact ⟨route, hroute, reserveCheck_true hcheck⟩

/-- Every route `find_path_subgraph` returns, from any token, is at most `MAX_HOPS + 1` hops
and a last hop with the source and rate of the pegged hop of a pegged token. -/
theorem findPathSubgraph_route_end (h : findPathSubgraph onchain T = some info) :
    ∀ r ∈ info.routes, ∃ hs g' x g, r = hs ++ [g'] ∧ hs.length ≤ MAX_HOPS + 1 ∧
      isPeggedToken (getPeggedToken onchain.chainName) x = true ∧
      getPeggedNextHop onchain x onchain.chainName = some g ∧ g'.src = g.src ∧ g'.rate = g.rate := by
  intro r hr
  cases hT : isPeggedToken (getPeggedToken onchain.chainName) T
  case true =>
    obtain ⟨g, hg, hroutes⟩ := findPathSubgraph_pegged hT h
    rw [hroutes, List.mem_singleton] at hr
    exact ⟨[], g, T, g, hr, Nat.zero_le _, hT, hg, rfl, rfl⟩
  case false =>
    obtain ⟨routes, hroutes, hrs⟩ := findPathSubgraph_unpegged hT h
    obtain ⟨route, hroute, hfor⟩ := hrs r hr
    obtain ⟨-, -, -, hnew⟩ := dfsRoutes_lockstep hT hroutes
    obtain ⟨hs, g, rfl, hlen, hpeg⟩ := hnew route hroute
    obtain ⟨-, last, -, -, -, -, hlast, hg⟩ := hpeg.shape
    rw [List.nil_append] at hfor
    obtain ⟨r', g', rfl, hhs, hg'⟩ := forall₂_append_singleton_left hfor
    exact ⟨r', g', _, g, rfl, hhs.length_eq ▸ hlen, hlast, hg, (addReserveInfo_keeps hg').1,
      (addReserveInfo_keeps hg').2⟩

end Search

section Fetch

variable {ps : PathParsers} {onchain : OnChainConfig} {a : EVMAddress} {ctx : TokenContext}

theorem fetchUniswapPath_swaps (h : fetchUniswapPath ps onchain a = some ctx) :
    ∃ info, findPathSubgraph onchain (addrDebug a) = some info ∧
      ∀ path ∈ ctx.swaps, ∃ r ∈ info.routes, parsePath ps onchain.chainName r = some path := by
  unfold fetchUniswapPath at h
  obtain ⟨info, hinfo, h⟩ := Option.bind_eq_some.1 h
  refine ⟨info, hinfo, ?_⟩
  split at h
  · cases h
    exact fun path hp => absurd hp (List.not_mem_nil path)
  · obtain ⟨_, -, h⟩ := Option.bind_eq_some.1 h
    obtain ⟨swaps, hswaps, h⟩ := Option.bind_eq_some.1 h
    cases h
    exact mem_of_mapM_eq_some hswaps

/-- Every provider and chain name parses. -/
def allKnown : PathParsers := ⟨fun _ => true, fun _ => true⟩

/-- On `eth`, the token at address `1` pairs with WETH through the pair at address `2`, and
every reserve reads `ffff`. -/
def oneHop : OnChainConfig where
  chainName := "eth"
  getPair token _ _ _ := if token = addrDebug 1 then [v2Pair (addrDebug 2) (getWeth "eth")] else []
  fetchReserve _ := ("ffff", "ffff")
  fetchUniswapPathCached a := ⟨[], false, 0, a⟩

theorem fetchUniswapPath_paths_end_pegged (ps : PathParsers) (onchain : OnChainConfig) (a : EVMAddress)
    (ctx : TokenContext) (h : fetchUniswapPath ps onchain a = some ctx) :
    ∀ path ∈ ctx.swaps, path.route.length ≤ MAX_HOPS + 1 ∧
      ∃ x g, isPeggedToken (getPeggedToken onchain.chainName) x = true ∧
        getPeggedNextHop onchain x onchain.chainName = some g ∧
        path.finalPeggedRatio = BitVec.ofNat 256 g.rate.toNat ∧
        (path.finalPeggedPair = none ↔ x = getWeth onchain.chainName) := by
  intro path hpath
  obtain ⟨info, hinfo, hswaps⟩ := fetchUniswapPath_swaps h
  obtain ⟨r, hr, hparse⟩ := hswaps path hpath
  obtain ⟨hs, g', x, g, rfl, hlen, hx, hg, hsrc, hrate⟩ := findPathSubgraph_route_end hinfo r hr
  have hsrc' := getPeggedNextHop_src hg
  have hv2 : g'.src ≠ "v2" := by rw [hsrc, hsrc']; split <;> decide
  obtain ⟨hratio, hpair⟩ := parsePath_last hparse hv2
  refine ⟨?_, x, g, hx, hg, hrate ▸ hratio, hpair.trans ?_⟩
  · have hcount : (hs ++ [g']).countP (·.src = "v2") ≤ hs.length := by
      rw [List.countP_append, List.countP_singleton, decide_eq_false hv2]
      exact List.countP_le_length _
    rw [parsePath_route_length hparse]
    exact Nat.le_trans (by simpa [PathContext.default] using hcount) hlen
  · rw [hsrc, hsrc']
    split <;> simp_all

theorem fetchUniswapPath_paths_end_pegged_oneHop :
    ∃ ctx, fetchUniswapPath allKnown oneHop 1 = some ctx ∧ ctx.swaps ≠ [] ∧
      ∀ path ∈ ctx.swaps, path.route.length ≤ MAX_HOPS + 1 ∧
        ∃ x g, isPeggedToken (getPeggedToken oneHop.chainName) x = true ∧
          getPeggedNextHop oneHop x oneHop.chainName = some g ∧
          path.finalPeggedRatio = BitVec.ofNat 256 g.rate.toNat ∧
          (path.finalPeggedPair = none ↔ x = getWeth oneHop.chainName) :=
  ⟨_, rfl, List.cons_ne_nil _ _, fetchUniswapPath_paths_end_pegged allKnown oneHop 1 _ rfl⟩

theorem fetchUniswapPath_pairs_significant (ps : PathParsers) (onchain : OnChainConfig) (a : EVMAddress)
    (ctx : TokenContext) (hT : isPeggedToken (getPeggedToken onchain.chainName) (addrDebug a) = false)
    (h : fetchUniswapPath ps onchain a = some ctx) :
    ∀ path ∈ ctx.swaps, ∀ c ∈ path.pairs, ∃ q, pairContextOf ps onchain.chainName q = some c ∧
      onchain.fetchReserve q.pair = (q.initialReserves0, q.initialReserves1) ∧
      reserveSignificant q.decimals0 c.initialReserves.1.toNat ∧
      reserveSignificant q.decimals1 c.initialReserves.2.toNat := by
  intro path hpath c hc
  obtain ⟨info, hinfo, hswaps⟩ := fetchUniswapPath_swaps h
  obtain ⟨r, hr, hparse⟩ := hswaps path hpath
  obtain ⟨_, -, hrs⟩ := findPathSubgraph_unpegged hT hinfo
  obtain ⟨route, -, hfor⟩ := hrs r hr
  rcases parsePath_pairs hparse c hc with hc | ⟨q, hq, hsrc, hctx⟩
  · exact absurd hc (List.not_mem_nil c)
  obtain ⟨p, -, hp⟩ := forall₂_exists_left hfor q hq
  obtain ⟨hfetch, r0, r1, h0, h1, hs0, hs1⟩ := addReserveInfo_true hp hsrc
  obtain ⟨hd0, hd1⟩ := pairContextOf_reserves hctx
  rw [decodeReserve_agree h0 hd0, Int.toNat_ofNat] at hs0
  rw [decodeReserve_agree h1 hd1, Int.toNat_ofNat] at hs1
  exact ⟨q, hctx, hfetch, hs0, hs1⟩

theorem fetchUniswapPath_pairs_significant_oneHop :
    isPeggedToken (getPeggedToken oneHop.chainName) (addrDebug 1) = false ∧
    ∃ ctx, fetchUniswapPath allKnown oneHop 1 = some ctx ∧ ctx.swaps.flatMap PathContext.pairs ≠ [] ∧
      ∀ path ∈ ctx.swaps, ∀ c ∈ path.pairs, ∃ q, pairContextOf allKnown oneHop.chainName q = some c ∧
        oneHop.fetchReserve q.pair = (q.initialReserves0, q.initialReserves1) ∧
        reserveSignificant q.decimals0 c.initialReserves.1.toNat ∧
        reserveSignificant q.decimals1 c.initialReserves.2.toNat :=
  ⟨by decide, _, rfl, List.cons_ne_nil _ _,
    fetchUniswapPath_pairs_significant allKnown oneHop 1 _ (by decide) rfl⟩

theorem getWeth_of_getPeggedToken_nil {network : String} (h : getPeggedToken network = []) :
    getWeth network = "" := by
  unfold getWeth
  split <;> simp_all [getPeggedToken]

/-- On such a chain `dfs` ends without a route: nothing is pegged, so it never records one and
never reaches the `expect` of `get_pegged_next_hop`, and its fuel suffices. -/
theorem dfsRoutes_of_getPeggedToken_nil (h : getPeggedToken onchain.chainName = []) (T : String) :
    dfsRoutes onchain T = some [] := by
  have hP : ∀ t, isPeggedToken (getPeggedToken onchain.chainName) t = false := fun t => by rw [h]; rfl
  let hops := (getAllHops onchain T onchain.chainName 0 []).1
  have hf : keysLeft hops [] < hops.keys.length + 1 := by rw [keysLeft_nil]; omega
  obtain ⟨r, hr⟩ : ∃ r, dfsRun onchain onchain.chainName (getPeggedToken onchain.chainName) hops
      (hops.keys.length + 1) T [] [] [] = .ok r := by
    rcases hrun : dfsRun onchain onchain.chainName (getPeggedToken onchain.chainName) hops
      (hops.keys.length + 1) T [] [] [] with (_ | _) | r
    · exact absurd hrun (dfsRun_ne_panic onchain _ hP _ T [] [] [])
    · exact absurd hrun (dfsRun_ne_outOfFuel onchain _ _ T [] [] [] (List.not_mem_nil T) hf)
    · exact ⟨r, rfl⟩
  obtain ⟨-, -, ⟨new, hR, hnew⟩, -⟩ := dfsRun_bound onchain onchain.chainName _ T [] [] [] r
    (List.not_mem_nil T) hr
  have hnil : new = [] := by
    rw [← List.length_eq_zero, hnew, peggedCalls, List.length_eq_zero, List.filter_eq_nil_iff]
    simp [hP]
  simp only [dfsRoutes]
  rw [← dfsRun_proj, hr, dfsOutcome_ok, Option.map_some', hR, hnil]
  rfl

theorem fetchUniswapPath_unknown_chain (ps : PathParsers) (onchain : OnChainConfig) (a : EVMAddress)
    (h : getPeggedToken onchain.chainName = []) :
    fetchUniswapPath ps onchain a = some TokenContext.default := by
  have hT : isPeggedToken (getPeggedToken onchain.chainName) (addrDebug a) = false := by rw [h]; rfl
  simp [fetchUniswapPath, findPathSubgraph, hT, dfsRoutes_of_getPeggedToken_nil h, withInfo,
    getWeth_of_getPeggedToken_nil h, List.mapM.loop, show "".isEmpty = true from rfl]

/-- On `mumbai`, which `get_pegged_token` does not know, every token pairs with the token at
address `3`, and no reserve string reads as a number. -/
def mumbai : OnChainConfig where
  chainName := "mumbai"
  getPair _ _ _ _ := [v2Pair (addrDebug 2) (addrDebug 3)]
  fetchReserve _ := ("zz", "zz")
  fetchUniswapPathCached a := ⟨[], false, 0, a⟩

theorem fetchUniswapPath_unknown_chain_mumbai :
    getPeggedToken mumbai.chainName = [] ∧ fetchUniswapPath allKnown mumbai 1 = some TokenContext.default :=
  ⟨rfl, fetchUniswapPath_unknown_chain allKnown mumbai 1 rfl⟩

end Fetch

end ITY
