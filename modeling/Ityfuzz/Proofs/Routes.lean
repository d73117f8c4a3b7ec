import Ityfuzz.Sanity.Dfs

/-! The routes of `find_path_subgraph`.

Every route it returns is a pegged route through the map `get_all_hops` built, of at most
`MAX_HOPS + 1` pairs and the pegged hop, with each hop as `add_reserve_info` refreshed it
(`findPathSubgraph_routes`). The search is not complete: `visited` is never cleared on
backtracking, so a token first reached along a longer path is not entered again along a
shorter one (the `diamond` graph). What `dfs` does cover is every pegged exit of every token
`get_all_hops` stored (`dfsRoutes_pegged_exits`). -/

namespace ITY

theorem mem_of_mapM_eq_some {α β : Type} {f : α → Option β} :
    ∀ {l : List α} {l' : List β}, l.mapM f = some l' → ∀ b ∈ l', ∃ a ∈ l, f a = some b
  | [], _, h => by
    cases h
    exact fun b hb => absurd hb (List.not_mem_nil b)
  | a :: l, _, h => by
    rw [List.mapM_cons] at h
    obtain ⟨b, hb, h⟩ := Option.bind_eq_some.1 h
    obtain ⟨bs, hbs, h⟩ := Option.bind_eq_some.1 h
    cases h
    intro c hc
    rcases List.mem_cons.1 hc with rfl | hc
    · exact ⟨a, List.mem_cons_self a l, hb⟩
    · obtain ⟨a', ha', hfa⟩ := mem_of_mapM_eq_some hbs c hc
      exact ⟨a', List.mem_cons_of_mem a ha', hfa⟩

section

variable {onchain : OnChainConfig}

/-- The flag of the refreshing loop only falls; when it ends `true`, every hop was significant
and the loop collected the refreshed hops. -/
theorem reserveCheck_fold :
    ∀ (route acc : List PairData) (b : Bool) (r : List PairData),
      route.foldlM (fun acc hop => (addReserveInfo onchain hop).map fun x =>
        (acc.1 ++ [x.1], acc.2 && x.2)) (acc, b) = some (r, true) →
      b = true ∧ ∃ r', r = acc ++ r' ∧
        List.Forall₂ (fun x y => addReserveInfo onchain x = some (y, true)) route r'
  | [], acc, b, r, h => by
    cases h
    exact ⟨rfl, [], by simp, .nil⟩
  | x :: route, acc, b, r, h => by
    obtain ⟨_, h₁, h₂⟩ := Option.bind_eq_some.1 h
    obtain ⟨⟨y, c⟩, hy, rfl⟩ := Option.map_eq_some'.1 h₁
    obtain ⟨hbc, r', rfl, hr'⟩ := reserveCheck_fold route _ _ r h₂
    obtain ⟨rfl, rfl⟩ : b = true ∧ c = true := by simpa using hbc
    exact ⟨rfl, y :: r', by simp, .cons hy hr'⟩

theorem reserveCheck_true {route r : List PairData} (h : reserveCheck onchain route = some (r, true)) :
    List.Forall₂ (fun x y => addReserveInfo onchain x = some (y, true)) route r := by
  obtain ⟨-, r', rfl, hr'⟩ := reserveCheck_fold route [] true r h
  exact hr'

variable {T : String} {routes : List (List PairData)}

/-- The `dfs` call of `find_path_subgraph` runs in lockstep with the `get_all_hops` call that
built its map. -/
theorem dfsRoutes_lockstep (hT : isPeggedToken (getPeggedToken onchain.chainName) T = false)
    (h : dfsRoutes onchain T = some routes) :
    ∃ V, dfs onchain onchain.chainName (getPeggedToken onchain.chainName)
        (getAllHops onchain T onchain.chainName 0 []).1
        ((getAllHops onchain T onchain.chainName 0 []).1.keys.length + 1) T [] [] [] = some (V, routes) ∧
      V = (getAllHops onchain T onchain.chainName 0 []).2 ∧
      RoutesFrom onchain onchain.chainName (getAllHops onchain T onchain.chainName 0 []).1 T [] [] 3
        routes := by
  obtain ⟨⟨V, R⟩, hd, rfl⟩ := Option.map_eq_some'.1 h
  obtain ⟨hV, new, rfl, hnew⟩ := lockstep (getAllHopsAt_spec onchain onchain.chainName 3 T []).values
    3 _ T [] [] [] V R hT (List.not_mem_nil T) (fun _ _ _ => Iff.rfl) hd
  exact ⟨V, hd, hV, hnew⟩

end

theorem findPathSubgraph_routes (onchain : OnChainConfig) (T : String) (info : Info)
    (hT : isPeggedToken (getPeggedToken onchain.chainName) T = false)
    (h : findPathSubgraph onchain T = some info) :
    ∀ r ∈ info.routes, ∃ init last g,
      List.Forall₂ (fun x y => addReserveInfo onchain x = some (y, true)) (init ++ [last, g]) r ∧
      init.length ≤ MAX_HOPS ∧
      HopChain (getAllHops onchain T onchain.chainName 0 []).1 T (init ++ [last]) ∧
      (T :: init.map (·.next)).Nodup ∧
      (∀ x ∈ T :: init.map (·.next), isPeggedToken (getPeggedToken onchain.chainName) x = false) ∧
      isPeggedToken (getPeggedToken onchain.chainName) last.next = true ∧
      getPeggedNextHop onchain last.next onchain.chainName = some g := by
  intro r hr
  simp only [findPathSubgraph, hT] at h
  obtain ⟨routes, hroutes, h⟩ := Option.bind_eq_some.1 h
  obtain ⟨checked, hchecked, rfl⟩ := Option.map_eq_some'.1 h
  obtain ⟨⟨r', b⟩, hc, hkeep⟩ := List.mem_filterMap.1 hr
  cases b <;> cases hkeep
  obtain ⟨route, hroute, hcheck⟩ := mem_of_mapM_eq_some hchecked _ hc
  obtain ⟨-, -, -, hnew⟩ := dfsRoutes_lockstep hT hroutes
  obtain ⟨hs, g, rfl, hlen, hpeg⟩ := hnew route hroute
  obtain ⟨init, last, rfl, hchain, hnd, hx, hlast, hg⟩ := hpeg.shape
  refine ⟨init, last, g, by simpa using reserveCheck_true hcheck, ?_, hchain, hnd,
    fun x hx' => (hx x hx').2, hlast, hg⟩
  simp only [List.length_append, List.length_singleton] at hlen
  exact Nat.le_of_lt_succ hlen

/-- A pair from the endpoint, before its reserves are fetched. -/
def v2Pair (pair next : String) : PairData :=
  { src := "v2", rate := 0, in_ := 0, next := next, pair := pair, initialReserves0 := "",
    initialReserves1 := "", srcExact := "", decimals0 := 0, decimals1 := 0 }

/-- On `eth`: `0xaa` pairs with `0xbb` and `0xcc`, `0xbb` with `0xcc`, and `0xcc` with WETH,
all with reserves `0xff`. -/
def diamond : OnChainConfig where
  chainName := "eth"
  getPair token _ _ _ :=
    if token = "0xaa" then [v2Pair "0x01" "0xbb", v2Pair "0x02" "0xcc"]
    else if token = "0xbb" then [v2Pair "0x03" "0xcc"]
    else if token = "0xcc" then [v2Pair "0x04" (getWeth "eth")] else []
  fetchReserve _ := ("ff", "ff")
  fetchUniswapPathCached a := ⟨[], false, 0, a⟩

/-- The one route returned from `0xaa` starts with the pair `0x01` as `add_reserve_info`
refreshed it, which is not in the list stored for `0xaa`. -/
theorem findPathSubgraph_diamond_refreshed :
    (findPathSubgraph diamond "0xaa").map Info.routes =
      some [[{ v2Pair "0x01" "0xbb" with initialReserves0 := "ff", initialReserves1 := "ff" },
        { v2Pair "0x03" "0xcc" with initialReserves0 := "ff", initialReserves1 := "ff" },
        { v2Pair "0x04" (getWeth "eth") with initialReserves0 := "ff", initialReserves1 := "ff" },
        peggedWethHop]] ∧
    (getAllHops diamond "0xaa" "eth" 0 []).1.lookup "0xaa" =
      some [v2Pair "0x01" "0xbb", v2Pair "0x02" "0xcc"] ∧
    { v2Pair "0x01" "0xbb" with initialReserves0 := "ff", initialReserves1 := "ff" } ∉
      [v2Pair "0x01" "0xbb", v2Pair "0x02" "0xcc"] := by
  decide

theorem findPathSubgraph_routes_diamond :
    isPeggedToken (getPeggedToken diamond.chainName) "0xaa" = false ∧
    ∃ info, findPathSubgraph diamond "0xaa" = some info ∧ info.routes ≠ [] ∧
      ∀ r ∈ info.routes, ∃ init last g,
        List.Forall₂ (fun x y => addReserveInfo diamond x = some (y, true)) (init ++ [last, g]) r ∧
        init.length ≤ MAX_HOPS ∧
        HopChain (getAllHops diamond "0xaa" diamond.chainName 0 []).1 "0xaa" (init ++ [last]) ∧
        ("0xaa" :: init.map (·.next)).Nodup ∧
        (∀ x ∈ "0xaa" :: init.map (·.next), isPeggedToken (getPeggedToken diamond.chainName) x = false) ∧
        isPeggedToken (getPeggedToken diamond.chainName) last.next = true ∧
        getPeggedNextHop diamond last.next diamond.chainName = some g :=
  ⟨by decide, _, rfl, by decide, findPathSubgraph_routes diamond "0xaa" _ (by decide) rfl⟩

/-- The path `0xaa → 0xcc → WETH` over the pairs `0x02` and `0x04` is simple, but `dfs` does
not produce it: it reached `0xcc` through `0xbb` first and never enters it again. -/
theorem dfsRoutes_diamond_misses_path :
    v2Pair "0x02" "0xcc" ∈ getPair diamond "0xaa" "eth" false ∧
    v2Pair "0x04" (getWeth "eth") ∈ getPair diamond "0xcc" "eth" false ∧
    "0xaa" ≠ "0xcc" ∧ isPeggedToken (getPeggedToken "eth") "0xaa" = false ∧
    isPeggedToken (getPeggedToken "eth") "0xcc" = false ∧
    isPeggedToken (getPeggedToken "eth") (getWeth "eth") = true ∧
    getPeggedNextHop diamond (getWeth "eth") "eth" = some peggedWethHop ∧
    dfsRoutes diamond "0xaa" =
      some [[v2Pair "0x01" "0xbb", v2Pair "0x03" "0xcc", v2Pair "0x04" (getWeth "eth"), peggedWethHop]] ∧
    [v2Pair "0x02" "0xcc", v2Pair "0x04" (getWeth "eth"), peggedWethHop] ∉
      [[v2Pair "0x01" "0xbb", v2Pair "0x03" "0xcc", v2Pair "0x04" (getWeth "eth"), peggedWethHop]] := by
  decide

theorem dfsRoutes_pegged_exits (onchain : OnChainConfig) (T : String) (routes : List (List PairData))
    (hT : isPeggedToken (getPeggedToken onchain.chainName) T = false)
    (h : dfsRoutes onchain T = some routes) :
    (∀ p ∈ getPair onchain T onchain.chainName false,
      isPeggedToken (getPeggedToken onchain.chainName) p.next = true →
      ∃ g, getPeggedNextHop onchain p.next onchain.chainName = some g ∧ [p, g] ∈ routes) ∧
    ∀ t ∈ (getAllHops onchain T onchain.chainName 0 []).1, ∀ p ∈ getPair onchain t onchain.chainName false,
      isPeggedToken (getPeggedToken onchain.chainName) p.next = true →
      ∃ pre g, getPeggedNextHop onchain p.next onchain.chainName = some g ∧ pre ++ [p, g] ∈ routes := by
  obtain ⟨V, hd, hV, -⟩ := dfsRoutes_lockstep hT h
  obtain ⟨hpost, hroot⟩ := dfs_post _ T [] [] [] V routes (fun x hx => absurd hx (List.not_mem_nil x)) hd
  have hspec := getAllHopsAt_spec onchain onchain.chainName 3 T []
  refine ⟨hroot hT _ (getAllHopsAt_lookup_self onchain onchain.chainName 2 T []), fun t ht p hp hpeg => ?_⟩
  obtain ⟨v, hv⟩ := Option.isSome_iff_exists.1 (AList.lookup_isSome.2 ht)
  rw [hspec.values t v hv] at hv
  exact hpost.entered_covered t (hV ▸ (hspec.key_fresh t ht).1) (List.not_mem_nil t) _ hv p hp hpeg

theorem dfsRoutes_pegged_exits_diamond :
    isPeggedToken (getPeggedToken diamond.chainName) "0xaa" = false ∧
    dfsRoutes diamond "0xaa" =
      some [[v2Pair "0x01" "0xbb", v2Pair "0x03" "0xcc", v2Pair "0x04" (getWeth "eth"), peggedWethHop]] ∧
    (∀ p ∈ getPair diamond "0xaa" diamond.chainName false,
      isPeggedToken (getPeggedToken diamond.chainName) p.next = true →
      ∃ g, getPeggedNextHop diamond p.next diamond.chainName = some g ∧ [p, g] ∈
        [[v2Pair "0x01" "0xbb", v2Pair "0x03" "0xcc", v2Pair "0x04" (getWeth "eth"), peggedWethHop]]) ∧
    ∀ t ∈ (getAllHops diamond "0xaa" diamond.chainName 0 []).1,
      ∀ p ∈ getPair diamond t diamond.chainName false,
      isPeggedToken (getPeggedToken diamond.chainName) p.next = true →
      ∃ pre g, getPeggedNextHop diamond p.next diamond.chainName = some g ∧ pre ++ [p, g] ∈
        [[v2Pair "0x01" "0xbb", v2Pair "0x03" "0xcc", v2Pair "0x04" (getWeth "eth"), peggedWethHop]] :=
  ⟨by decide, by decide, dfsRoutes_pegged_exits diamond "0xaa" _ (by decide) (by decide)⟩

end ITY
