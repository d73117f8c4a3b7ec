import Ityfuzz.Spec.FetchPath

/-! How `fetch_uniswap_path` parses one route. The source of a hop decides what the hop does
to the path (`parseHop_eq_some`): `v2` appends a pair context, `pegged` and `pegged_weth`
overwrite the final ratio and pair. Over a route, every pair context the path holds is that
of one of its hops other than `pegged_weth` (`parsePath_pairs`), the route holds one context
per `v2` hop (`parsePath_route_length`), and a last hop that is not `v2` decides the final
ratio and whether there is a final pair (`parsePath_last`). -/

namespace ITY

/-- The pair contexts a path holds: its route, then its final pegged pair. -/
def PathContext.pairs (path : PathContext) : List PairContext :=
  path.route ++ path.finalPeggedPair.toList

section

variable {ps : PathParsers} {cn : String}

theorem parseHop_eq_some {path path' : PathContext} {p : PairData} :
    parseHop ps cn path p = some path' ↔
      (p.src = "v2" ∧ ∃ c, pairContextOf ps cn p = some c ∧ path' = { path with route := path.route ++ [c] }) ∨
      (p.src = "pegged" ∧ ∃ c, pairContextOf ps cn p = some c ∧
        path' = { path with finalPeggedRatio := BitVec.ofNat 256 p.rate.toNat, finalPeggedPair := some c }) ∨
      (p.src = "pegged_weth" ∧
        path' = { path with finalPeggedRatio := BitVec.ofNat 256 p.rate.toNat, finalPeggedPair := none }) := by
  unfold parseHop
  split
  case h_4 h1 h2 h3 =>
    exact iff_of_false nofun (by rintro (⟨h, -⟩ | ⟨h, -⟩ | ⟨h, -⟩); exacts [h1 h, h2 h, h3 h])
  all_goals rename_i h; simp [h, Option.map_eq_some', @eq_comm _ path']

/-- A pair context holds the two reserves of its hop as `hex::decode` and
`try_from_be_slice` read them. -/
theorem pairContextOf_reserves {p : PairData} {c : PairContext} (h : pairContextOf ps cn p = some c) :
    decodeReserve p.initialReserves0 = some c.initialReserves.1 ∧
      decodeReserve p.initialReserves1 = some c.initialReserves.2 := by
  unfold pairContextOf at h
  split at h
  · simp only [Option.bind_eq_bind, Option.bind_eq_some, Option.pure_def, Option.some.injEq] at h
    obtain ⟨_, _, _, _, _, h0, _, h1, rfl⟩ := h
    exact ⟨h0, h1⟩
  · cases h

/-- One turn adds at most the pair context of its own hop, never of a `pegged_weth` hop. -/
theorem parseHop_pairs {b b' : PathContext} {a : PairData} (h : parseHop ps cn b a = some b') :
    ∀ c ∈ b'.pairs, c ∈ b.pairs ∨ a.src ≠ "pegged_weth" ∧ pairContextOf ps cn a = some c := by
  intro c hc
  rcases parseHop_eq_some.1 h with ⟨hs, c', hc', rfl⟩ | ⟨hs, c', hc', rfl⟩ | ⟨-, rfl⟩
  all_goals simp only [PathContext.pairs, List.mem_append, Option.mem_toList, List.mem_singleton,
    Option.mem_def, Option.some.injEq, reduceCtorEq, or_false] at hc ⊢
  · rcases hc with (hc | rfl) | hc
    exacts [.inl (.inl hc), .inr ⟨by rw [hs]; decide, hc'⟩, .inl (.inr hc)]
  · rcases hc with hc | rfl
    exacts [.inl (.inl hc), .inr ⟨by rw [hs]; decide, hc'⟩]
  · exact .inl (.inl hc)

theorem parseHop_route_length {b b' : PathContext} {a : PairData} (h : parseHop ps cn b a = some b') :
    b'.route.length = b.route.length + if a.src = "v2" then 1 else 0 := by
  rcases parseHop_eq_some.1 h with ⟨hs, -, -, rfl⟩ | ⟨hs, -, -, rfl⟩ | ⟨hs, rfl⟩ <;> simp [hs]

/-- An invariant that every turn of the parse keeps holds of the parsed path. -/
theorem parsePath_inv (P : PathContext → Prop) {l : List PairData} {acc r : PathContext}
    (h₀ : P acc) (h₁ : ∀ b, P b → ∀ a ∈ l, ∀ b', parseHop ps cn b a = some b' → P b')
    (h : l.foldlM (parseHop ps cn) acc = some r) : P r :=
  SatisfiesM_Option_eq.1
    (List.satisfiesM_foldlM h₀ fun b hb a ha => SatisfiesM_Option_eq.2 (h₁ b hb a ha)) r h

theorem parsePath_pairs {l : List PairData} {acc r : PathContext}
    (h : l.foldlM (parseHop ps cn) acc = some r) :
    ∀ c ∈ r.pairs, c ∈ acc.pairs ∨ ∃ q ∈ l, q.src ≠ "pegged_weth" ∧ pairContextOf ps cn q = some c := by
  refine parsePath_inv (fun b => ∀ c ∈ b.pairs, c ∈ acc.pairs ∨
    ∃ q ∈ l, q.src ≠ "pegged_weth" ∧ pairContextOf ps cn q = some c)
    (fun c hc => .inl hc) (fun b hb a ha b' hstep c hc => ?_) h
  rcases parseHop_pairs hstep c hc with hc | hq
  exacts [hb c hc, .inr ⟨a, ha, hq⟩]

theorem parsePath_route_length : ∀ {l : List PairData} {acc r : PathContext},
    l.foldlM (parseHop ps cn) acc = some r → r.route.length = acc.route.length + l.countP (·.src = "v2")
  | [], _, _, h => by cases h; rfl
  | a :: l, _, _, h => by
    obtain ⟨b, hb, h⟩ := Option.bind_eq_some.1 h
    rw [parsePath_route_length h, parseHop_route_length hb, List.countP_cons]
    simp only [decide_eq_true_eq]
    split <;> omega

/-- The last hop, when it is not `v2`, sets the final ratio to its rate, and leaves no final
pair exactly when it is `pegged_weth`. -/
theorem parsePath_last {l : List PairData} {g : PairData} {acc r : PathContext}
    (h : (l ++ [g]).foldlM (parseHop ps cn) acc = some r) (hg : g.src ≠ "v2") :
    r.finalPeggedRatio = BitVec.ofNat 256 g.rate.toNat ∧ (r.finalPeggedPair = none ↔ g.src = "pegged_weth") := by
  rw [List.foldlM_append] at h
  obtain ⟨b, -, h⟩ := Option.bind_eq_some.1 h
  obtain ⟨r', hr', h⟩ := Option.bind_eq_some.1 h
  cases h
  rcases parseHop_eq_some.1 hr' with ⟨hs, -⟩ | ⟨hs, -, -, rfl⟩ | ⟨hs, rfl⟩
  · exact absurd hs hg
  · simp [hs]
  · simp [hs]

end

end ITY
