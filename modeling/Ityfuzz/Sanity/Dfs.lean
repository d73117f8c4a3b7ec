import Ityfuzz.Sanity.Hops

/-! `dfs` of `find_path_subgraph`, in two parts.

Whatever map it walks, a `dfs` call that returns only adds to `visited` and `routes`, never
puts a pegged token in `visited`, and for every token it enters records a route through each
pair of that token's list that ends in a pegged token (`dfs_post`).

Over the map `get_all_hops` built, `dfs` makes the calls `get_all_hops` made, in the same
order: both skip a pair whose next token is known, and `get_all_hops` skips a pegged one,
where `dfs` records a route instead. So `dfs` leaves `visited` equal to `known`, and it descends
no deeper than the map has levels; every route it records is a `PeggedRoute`. Its calls that
enter a token are the calls of `get_all_hops`, with the same depths (`lockstepRun`, from which
`lockstep` forgets the logs). -/

namespace ITY

section Equations

variable {onchain : OnChainConfig} {network : String} {P : List (String × String)} {hops : HopMap}
  {f : Nat} {t : String} {path : List PairData} {V : List String} {R : List (List PairData)}

theorem dfs_pegged (h : isPeggedToken P t = true) :
    dfs onchain network P hops (f + 1) t path V R =
      (getPeggedNextHop onchain t network).map fun hop => (V, R ++ [path ++ [hop]]) := if_pos h

theorem dfs_unpegged_none (hp : isPeggedToken P t = false) (hl : hops.lookup t = none) :
    dfs onchain network P hops (f + 1) t path V R = some (V.insert t, R) := by
  simp [dfs, hp, hl]

theorem dfs_unpegged_some {l : List PairData} (hp : isPeggedToken P t = false)
    (hl : hops.lookup t = some l) :
    dfs onchain network P hops (f + 1) t path V R =
      l.foldlM (dfsStep (dfs onchain network P hops f) path) (V.insert t, R) := by
  simp [dfs, hp, hl]

/-- A call at a pegged token that returns records one route and nothing else. -/
theorem dfs_pegged_some {V' : List String} {R' : List (List PairData)}
    (h : dfs onchain network P hops f t path V R = some (V', R')) (hp : isPeggedToken P t = true) :
    ∃ g, getPeggedNextHop onchain t network = some g ∧ V' = V ∧ R' = R ++ [path ++ [g]] := by
  cases f with
  | zero => cases h
  | succ f =>
    obtain ⟨g, hg, hVR⟩ := Option.map_eq_some'.1 ((dfs_pegged hp).symm.trans h)
    cases hVR
    exact ⟨g, hg, rfl, rfl⟩

theorem dfsStep_visited {recur : String → List PairData → List String → List (List PairData) →
      Option (List String × List (List PairData))} {acc : List String × List (List PairData)}
    {p : PairData} (h : p.next ∈ acc.1) : dfsStep recur path acc p = some acc :=
  if_pos (by simpa using h)

theorem dfsStep_fresh {recur : String → List PairData → List String → List (List PairData) →
      Option (List String × List (List PairData))} {acc : List String × List (List PairData)}
    {p : PairData} (h : p.next ∉ acc.1) :
    dfsStep recur path acc p = recur p.next (path ++ [p]) acc.1 acc.2 :=
  if_neg (by simpa using h)

end Equations

section Post

variable (onchain : OnChainConfig) (network : String) (P : List (String × String)) (hops : HopMap)

/-- Every pair `p` of the list stored for `x` that ends in a pegged token ends a route of `R`,
followed by the pegged hop of `p.next`. -/
def ExitsCovered (x : String) (R : List (List PairData)) : Prop :=
  ∀ l, hops.lookup x = some l → ∀ p ∈ l, isPeggedToken P p.next = true →
    ∃ pre g, getPeggedNextHop onchain p.next network = some g ∧ pre ++ [p, g] ∈ R

/-- What a stretch of `dfs` from `(V, R)` to `(V', R')` guarantees about the tokens it entered. -/
structure DfsPost (V V' : List String) (R R' : List (List PairData)) : Prop where
  visited_mono : V ⊆ V'
  entered_unpegged : ∀ x ∈ V', x ∉ V → isPeggedToken P x = false
  routes_grow : R <+: R'
  entered_covered : ∀ x ∈ V', x ∉ V → ExitsCovered onchain network P hops x R'

variable {onchain network P hops}

theorem ExitsCovered.mono {x : String} {R R' : List (List PairData)}
    (h : ExitsCovered onchain network P hops x R) (hR : R <+: R') :
    ExitsCovered onchain network P hops x R' := fun l hl p hp hpeg =>
  (h l hl p hp hpeg).imp fun _ ⟨g, hg, hm⟩ => ⟨g, hg, hR.subset hm⟩

/-- A stretch that enters no token. -/
theorem DfsPost.of_routes (V : List String) {R R' : List (List PairData)} (hR : R <+: R') :
    DfsPost onchain network P hops V V R R' :=
  ⟨List.Subset.refl V, fun _ h h' => absurd h h', hR, fun _ h h' => absurd h h'⟩

theorem DfsPost.trans {V₁ V₂ V₃ : List String} {R₁ R₂ R₃ : List (List PairData)}
    (h₁ : DfsPost onchain network P hops V₁ V₂ R₁ R₂) (h₂ : DfsPost onchain network P hops V₂ V₃ R₂ R₃) :
    DfsPost onchain network P hops V₁ V₃ R₁ R₃ := by
  refine ⟨h₁.visited_mono.trans h₂.visited_mono, fun x hx hx₁ => ?_,
    h₁.routes_grow.trans h₂.routes_grow, fun x hx hx₁ => ?_⟩
  · by_cases hx₂ : x ∈ V₂
    exacts [h₁.entered_unpegged x hx₂ hx₁, h₂.entered_unpegged x hx hx₂]
  · by_cases hx₂ : x ∈ V₂
    exacts [(h₁.entered_covered x hx₂ hx₁).mono h₂.routes_grow, h₂.entered_covered x hx hx₂]

/-- The loop of a `dfs` call over `l`, given what its recursive calls guarantee: each pair of
`l` ending in a pegged token gets the route `path ++ [p, g]`, since pegged tokens are never
visited. -/
theorem dfs_loop_post {f : Nat} {path : List PairData}
    (ih : ∀ t path V R V' R', (∀ x ∈ V, isPeggedToken P x = false) →
      dfs onchain network P hops f t path V R = some (V', R') →
      DfsPost onchain network P hops V V' R R') :
    ∀ (l : List PairData) (V : List String) (R : List (List PairData)) V' R',
      (∀ x ∈ V, isPeggedToken P x = false) →
      l.foldlM (dfsStep (dfs onchain network P hops f) path) (V, R) = some (V', R') →
      DfsPost onchain network P hops V V' R R' ∧
        ∀ p ∈ l, isPeggedToken P p.next = true →
          ∃ g, getPeggedNextHop onchain p.next network = some g ∧ path ++ [p, g] ∈ R'
  | [], V, R, V', R', _, h => by
    cases h
    exact ⟨.of_routes _ (List.prefix_refl _), fun p hp => absurd hp (List.not_mem_nil p)⟩
  | p :: l, V, R, V', R', hV, h => by
    obtain ⟨⟨V₁, R₁⟩, h₁, h₂⟩ := Option.bind_eq_some.1 h
    have hstep : DfsPost onchain network P hops V V₁ R R₁ ∧ (isPeggedToken P p.next = true →
        ∃ g, getPeggedNextHop onchain p.next network = some g ∧ path ++ [p, g] ∈ R₁) := by
      by_cases hv : p.next ∈ V
      · rw [dfsStep_visited hv] at h₁
        cases h₁
        exact ⟨.of_routes V (List.prefix_refl R), fun hpeg => by simp [hV _ hv] at hpeg⟩
      rw [dfsStep_fresh hv] at h₁
      cases hpeg : isPeggedToken P p.next
      · exact ⟨ih _ _ _ _ _ _ hV h₁, fun h => by cases h⟩
      · obtain ⟨g, hg, rfl, rfl⟩ := dfs_pegged_some h₁ hpeg
        exact ⟨.of_routes _ (List.prefix_append _ _), fun _ => ⟨g, hg, by simp⟩⟩
    have hV₁ : ∀ x ∈ V₁, isPeggedToken P x = false := fun x hx =>
      if hxV : x ∈ V then hV x hxV else hstep.1.entered_unpegged x hx hxV
    obtain ⟨hpost, hexits⟩ := dfs_loop_post ih l V₁ R₁ V' R' hV₁ h₂
    refine ⟨hstep.1.trans hpost, fun q hq hpeg => ?_⟩
    rcases List.mem_cons.1 hq with rfl | hq
    · obtain ⟨g, hg, hm⟩ := hstep.2 hpeg
      exact ⟨g, hg, hpost.routes_grow.subset hm⟩
    · exact hexits q hq hpeg

/-- A `dfs` call that returns, from a `visited` set with no pegged token. Besides `DfsPost`,
when its own token is not pegged, each of that token's pegged exits gets a route after `path`. -/
theorem dfs_post :
    ∀ (f : Nat) (t : String) (path : List PairData) (V : List String) (R : List (List PairData)) V' R',
      (∀ x ∈ V, isPeggedToken P x = false) →
      dfs onchain network P hops f t path V R = some (V', R') →
      DfsPost onchain network P hops V V' R R' ∧
        (isPeggedToken P t = false → ∀ l, hops.lookup t = some l → ∀ p ∈ l,
          isPeggedToken P p.next = true →
          ∃ g, getPeggedNextHop onchain p.next network = some g ∧ path ++ [p, g] ∈ R')
  | 0, _, _, _, _, _, _, _, h => by cases h
  | f + 1, t, path, V, R, V', R', hV, h => by
    cases hpt : isPeggedToken P t
    case true =>
      obtain ⟨g, -, rfl, rfl⟩ := dfs_pegged_some h hpt
      exact ⟨.of_routes _ (List.prefix_append _ _), fun h => by cases h⟩
    have hVt : ∀ x ∈ V.insert t, isPeggedToken P x = false := fun x hx =>
      (List.mem_insert_iff.1 hx).elim (fun h => h ▸ hpt) (hV x)
    cases hl : hops.lookup t with
    | none =>
      rw [dfs_unpegged_none hpt hl] at h
      cases h
      refine ⟨⟨fun _ => List.mem_insert_of_mem, fun x hx _ => hVt x hx, List.prefix_refl R,
        fun x hx hxV l' hl' => ?_⟩, fun _ l' hl' => by cases hl'⟩
      rw [(List.mem_insert_iff.1 hx).resolve_right hxV, hl] at hl'
      cases hl'
    | some l =>
      rw [dfs_unpegged_some hpt hl] at h
      obtain ⟨hpost, hexits⟩ := dfs_loop_post
        (fun t path V R V' R' hV h => (dfs_post f t path V R V' R' hV h).1) l _ R V' R' hVt h
      have hown : ∀ l', some l = some l' → ∀ p ∈ l', isPeggedToken P p.next = true →
          ∃ g, getPeggedNextHop onchain p.next network = some g ∧ path ++ [p, g] ∈ R' := by
        rintro l' ⟨⟩
        exact hexits
      refine ⟨⟨fun x hx => hpost.visited_mono (List.mem_insert_of_mem hx), fun x hx _ => ?_,
        hpost.routes_grow, fun x hx hxV => ?_⟩, fun _ => hown⟩
      · by_cases hxt : x ∈ V.insert t
        exacts [hVt x hxt, hpost.entered_unpegged x hx hxt]
      · by_cases hxt : x ∈ V.insert t
        · rw [(List.mem_insert_iff.1 hxt).resolve_right hxV]
          exact fun l' hl' p hp hpeg => ⟨path, hown l' (hl.symm.trans hl') p hp hpeg⟩
        · exact hpost.entered_covered x hx hxt

end Post

section Lockstep

variable (onchain : OnChainConfig) (network : String)

/-- `PeggedRoute hops t S hs g`: the pairs `hs` lead from `t`, each taken from the list `hops`
stores for the token it leaves, through tokens that are not pegged, not in `S` and not met
before on the way, to a pegged token whose pegged hop is `g`. -/
inductive PeggedRoute (hops : HopMap) : String → List String → List PairData → PairData → Prop
  | last {t S l h g} : t ∉ S → isPeggedToken (getPeggedToken network) t = false →
      hops.lookup t = some l → h ∈ l → isPeggedToken (getPeggedToken network) h.next = true →
      getPeggedNextHop onchain h.next network = some g → PeggedRoute hops t S [h] g
  | cons {t S l h rest g} : t ∉ S → isPeggedToken (getPeggedToken network) t = false →
      hops.lookup t = some l → h ∈ l → PeggedRoute hops h.next (t :: S) rest g →
      PeggedRoute hops t S (h :: rest) g

/-- Each pair of `hs` is in the list `hops` stores for the token the pair before it leads to,
the first one in the list stored for `t`. -/
def HopChain (hops : HopMap) : String → List PairData → Prop
  | _, [] => True
  | t, h :: hs => (∃ l, hops.lookup t = some l ∧ h ∈ l) ∧ HopChain hops h.next hs

variable (hops : HopMap)

/-- Every route of `new` is `path` followed by a pegged route of at most `n` pairs from `t`
that avoids `K`. -/
def RoutesFrom (t : String) (K : List String) (path : List PairData) (n : Nat)
    (new : List (List PairData)) : Prop :=
  ∀ r ∈ new, ∃ hs g, r = path ++ hs ++ [g] ∧ hs.length ≤ n ∧ PeggedRoute onchain network hops t K hs g

/-- `dfs` with fuel `f`, started at an unpegged `t` outside `visited = K`, over a map that agrees
on the keys it adds with the level-`n` call `getAllHopsAt … n t K`, returns that call's `known`
as its `visited`, and adds only `RoutesFrom … n` routes. -/
def Lockstep (n f : Nat) : Prop :=
  ∀ t path K R V' R', isPeggedToken (getPeggedToken network) t = false → t ∉ K →
    (∀ k ∈ (getAllHopsAt onchain network n t K).2, k ∉ K →
      (k ∈ hops ↔ k ∈ (getAllHopsAt onchain network n t K).1)) →
    dfs onchain network (getPeggedToken network) hops f t path K R = some (V', R') →
    V' = (getAllHopsAt onchain network n t K).2 ∧
      ∃ new, R' = R ++ new ∧ RoutesFrom onchain network hops t K path n new

/-- `Lockstep` for the runs with their logs: besides, the calls of `dfs` that entered their
token are, in order and with their depths, the calls of `get_all_hops` from depth `path.len()`. -/
def LockstepRun (n f : Nat) : Prop :=
  ∀ t path K R r, isPeggedToken (getPeggedToken network) t = false → t ∉ K →
    (∀ k ∈ (getAllHopsAt onchain network n t K).2, k ∉ K →
      (k ∈ hops ↔ k ∈ (getAllHopsAt onchain network n t K).1)) →
    dfsRun onchain network (getPeggedToken network) hops f t path K R = .ok r →
    r.1 = (getAllHopsAt onchain network n t K).2 ∧
      (∃ new, r.2.1 = R ++ new ∧ RoutesFrom onchain network hops t K path n new) ∧
      enteredCalls (getPeggedToken network) r.2.2 = (getAllHopsRun onchain network n path.length t K).2.2

variable {onchain network hops}

theorem PeggedRoute.mono {t : String} {S S' : List String} {hs : List PairData} {g : PairData}
    (h : PeggedRoute onchain network hops t S hs g) (hS : S' ⊆ S) :
    PeggedRoute onchain network hops t S' hs g := by
  induction h generalizing S' with
  | last ht hp hl hh hn hg => exact .last (fun h => ht (hS h)) hp hl hh hn hg
  | cons ht hp hl hh _ ih => exact .cons (fun h => ht (hS h)) hp hl hh (ih (List.cons_subset_cons _ hS))

/-- A pegged route spelled out: `hs = init ++ [last]`, a chain through the stored lists,
entering distinct unpegged tokens outside `S`, and leaving through a pegged token. -/
theorem PeggedRoute.shape {t : String} {S : List String} {hs : List PairData} {g : PairData}
    (h : PeggedRoute onchain network hops t S hs g) :
    ∃ init last, hs = init ++ [last] ∧ HopChain hops t hs ∧ (t :: init.map (·.next)).Nodup ∧
      (∀ x ∈ t :: init.map (·.next), x ∉ S ∧ isPeggedToken (getPeggedToken network) x = false) ∧
      isPeggedToken (getPeggedToken network) last.next = true ∧
      getPeggedNextHop onchain last.next network = some g := by
  induction h with
  | last ht hp hl hh hn hg =>
    exact ⟨[], _, rfl, ⟨⟨_, hl, hh⟩, trivial⟩, List.nodup_singleton _, by simpa using ⟨ht, hp⟩, hn, hg⟩
  | cons ht hp hl hh _ ih =>
    obtain ⟨init, last, rfl, hc, hnd, hx, hn, hg⟩ := ih
    refine ⟨_ :: init, last, rfl, ⟨⟨_, hl, hh⟩, hc⟩,
      List.nodup_cons.2 ⟨fun hm => (hx _ hm).1 (List.mem_cons_self _ _), hnd⟩, fun x hm => ?_, hn, hg⟩
    rcases List.mem_cons.1 hm with rfl | hm
    · exact ⟨ht, hp⟩
    · exact ⟨fun hS => (hx x hm).1 (List.mem_cons_of_mem _ hS), (hx x hm).2⟩

theorem mem_iff_of_lookup_eq {k : String} {s₁ s₂ : HopMap} (h : s₁.lookup k = s₂.lookup k) :
    k ∈ s₁ ↔ k ∈ s₂ := by
  rw [← AList.lookup_isSome, ← AList.lookup_isSome, h]

/-- The loops of the two functions at `t`, over a suffix `l` of the pair list `L` of `t`, with
accumulators `(H, Kacc, Lh)` and `(Kacc, R, Ld)`, given `LockstepRun` one level down. -/
theorem lockstepRun_loop {n f : Nat} (ih : LockstepRun onchain network hops n f) {t : String}
    {K : List String} {L path : List PairData} (ht : t ∉ K)
    (hpt : isPeggedToken (getPeggedToken network) t = false) (hL : hops.lookup t = some L) :
    ∀ (l : List PairData) (H : HopMap) (Kacc : List String) (R : List (List PairData))
      (Ld Lh : List (String × Nat)) r,
      (∀ p ∈ l, p ∈ L) → t :: K ⊆ Kacc → (∀ k ∈ H, k ∈ Kacc) →
      (∀ k ∈ (l.foldl (hopsStep (getPeggedToken network) (getAllHopsAt onchain network n)) (H, Kacc)).2,
        k ∉ Kacc →
        (k ∈ hops ↔ k ∈ (l.foldl (hopsStep (getPeggedToken network) (getAllHopsAt onchain network n))
          (H, Kacc)).1)) →
      enteredCalls (getPeggedToken network) Ld = Lh →
      l.foldlM (dfsRunStep (dfsRun onchain network (getPeggedToken network) hops f) path) (Kacc, R, Ld) =
        .ok r →
      r.1 = (l.foldl (hopsStep (getPeggedToken network) (getAllHopsAt onchain network n)) (H, Kacc)).2 ∧
        (∃ new, r.2.1 = R ++ new ∧ RoutesFrom onchain network hops t K path (n + 1) new) ∧
        enteredCalls (getPeggedToken network) r.2.2 =
          (l.foldl (hopsRunStep (getPeggedToken network) (getAllHopsRun onchain network n (path.length + 1)))
            (H, Kacc, Lh)).2.2
  | [], H, Kacc, R, Ld, Lh, r, _, _, _, _, hlog, h => by
    cases h
    exact ⟨rfl, ⟨[], by simp, fun r hr => absurd hr (List.not_mem_nil r)⟩, hlog⟩
  | p :: l, H, Kacc, R, Ld, Lh, r, hl, hsub, hkeys, hagree, hlog, h => by
    obtain ⟨a₁, h₁, h₂⟩ := foldlM_cons_eq_ok.1 h
    have hl' : ∀ q ∈ l, q ∈ L := fun q hq => hl q (List.mem_cons_of_mem p hq)
    have hp : p ∈ L := hl p (List.mem_cons_self p l)
    simp only [List.foldl_cons] at hagree ⊢
    rcases dfsRunStep_eq_ok.1 h₁ with ⟨hv, rfl⟩ | ⟨hv, rc, hc, rfl⟩
    · -- both skip a known token
      rw [hopsStep_of_skip (by simp_all)] at hagree ⊢
      rw [hopsRunStep_of_skip (by simp_all)]
      exact lockstepRun_loop ih ht hpt hL l H Kacc R Ld Lh r hl' hsub hkeys hagree hlog h₂
    cases hpeg : isPeggedToken (getPeggedToken network) p.next with
    | true =>
      -- `get_all_hops` skips a pegged token; `dfs` records the route ending there
      obtain ⟨g, hg, rfl⟩ := dfsRun_pegged_ok hc hpeg
      rw [hopsStep_of_skip (by simp [hpeg])] at hagree ⊢
      rw [hopsRunStep_of_skip (by simp [hpeg])]
      obtain ⟨hV, ⟨new, hnR, hnew⟩, hlog'⟩ := lockstepRun_loop ih ht hpt hL l H _ _ _ Lh r hl' hsub hkeys
        hagree (by simp [hpeg, hlog]) h₂
      refine ⟨hV, ⟨(path ++ [p] ++ [g]) :: new, by simp [hnR], fun r hr => ?_⟩, hlog'⟩
      rcases List.mem_cons.1 hr with rfl | hr
      · exact ⟨[p], g, by simp, by simp, .last ht hpt hL hp hpeg hg⟩
      · exact hnew r hr
    | false =>
      -- both descend into `p.next`
      have hspec := getAllHopsAt_spec onchain network n p.next Kacc
      have hrest := foldSpec_foldl _ (hopsStep_spec (getAllHopsAt_spec onchain network n)) l
        ((getAllHopsAt onchain network n p.next Kacc).1 ∪ H)
        (getAllHopsAt onchain network n p.next Kacc).2
      rw [hopsStep_of_descend hpeg hv] at hagree ⊢
      rw [hopsRunStep_of_descend hpeg hv, getAllHopsRun_map, getAllHopsRun_known]
      have hsubagree : ∀ k ∈ (getAllHopsAt onchain network n p.next Kacc).2, k ∉ Kacc →
          (k ∈ hops ↔ k ∈ (getAllHopsAt onchain network n p.next Kacc).1) := by
        intro k hk hkK
        rw [hagree k (hrest.known_mono k hk) hkK, mem_iff_of_lookup_eq (hrest.lookup_old k hk),
          AList.mem_union]
        exact or_iff_left fun hH => hkK (hkeys k hH)
      obtain ⟨hV₁, ⟨new₁, hR₁, hnew₁⟩, hlog₁⟩ := ih p.next (path ++ [p]) Kacc R rc hpeg hv hsubagree hc
      rw [List.length_append, List.length_singleton] at hlog₁
      dsimp only at h₂
      rw [hV₁, hR₁] at h₂
      obtain ⟨hV, ⟨new₂, hnR, hnew₂⟩, hlog₂⟩ := lockstepRun_loop ih ht hpt hL l _ _ (R ++ new₁) _ _ r hl'
        (fun x hx => hspec.known_mono x (hsub hx))
        (fun k hk => (AList.mem_union.1 hk).elim (fun h => (hspec.key_fresh k h).1)
          (fun h => hspec.known_mono k (hkeys k h)))
        (fun k hk hkK => hagree k hk fun h => hkK (hspec.known_mono k h))
        (by rw [enteredCalls_append, hlog, hlog₁]) h₂
      refine ⟨hV, ⟨new₁ ++ new₂, by simp [hnR], fun r hr => ?_⟩, hlog₂⟩
      rcases List.mem_append.1 hr with hr | hr
      · obtain ⟨hs, g, rfl, hlen, hroute⟩ := hnew₁ r hr
        exact ⟨p :: hs, g, by simp, by simp [hlen], .cons ht hpt hL hp (hroute.mono hsub)⟩
      · exact hnew₂ r hr

/-- `dfs` runs in lockstep with `get_all_hops`, call for call, over any map whose stored lists
are `get_pair`'s. -/
theorem lockstepRun (hvals : ∀ k v, hops.lookup k = some v → v = getPair onchain k network false) :
    ∀ n f, LockstepRun onchain network hops n f
  | _, 0 => fun _ _ _ _ _ _ _ _ h => by cases h
  | 0, f + 1 => fun t path K R r hpt ht hagree h => by
    have hnot : t ∉ hops := fun hmem =>
      AList.not_mem_empty t ((hagree t (List.mem_insert_self t K) ht).1 hmem)
    rw [dfsRun_unpegged_none hpt (AList.lookup_eq_none.2 hnot)] at h
    cases h
    exact ⟨rfl, ⟨[], by simp, fun r hr => absurd hr (List.not_mem_nil r)⟩, by simp [hpt, getAllHopsRun]⟩
  | n + 1, f + 1 => fun t path K R r hpt ht hagree h => by
    have hmem : t ∈ hops := (hagree t (getAllHopsAt_spec onchain network (n + 1) t K).mem_known ht).2
      (AList.lookup_isSome.1 (by rw [getAllHopsAt_lookup_self]; rfl))
    obtain ⟨v, hv⟩ := Option.isSome_iff_exists.1 (AList.lookup_isSome.2 hmem)
    rw [hvals t v hv] at hv
    rw [dfsRun_unpegged_some hpt hv] at h
    rw [getAllHopsAt_succ] at hagree ⊢
    rw [getAllHopsRun_succ]
    exact lockstepRun_loop (lockstepRun hvals n f) ht hpt hv _ _ _ R _ _ r (fun _ h => h)
      (List.cons_subset.2 ⟨List.mem_insert_self t K, fun _ => List.mem_insert_of_mem⟩)
      (fun k hk => by
        rw [((AList.mem_insert _).1 hk).resolve_right (AList.not_mem_empty k)]
        exact List.mem_insert_self t K)
      (fun k hk hkK => hagree k hk fun h => hkK (List.mem_insert_of_mem h)) (by simp [hpt]) h

/-- `dfs` runs in lockstep with `get_all_hops` over any map whose stored lists are `get_pair`'s. -/
theorem lockstep (hvals : ∀ k v, hops.lookup k = some v → v = getPair onchain k network false)
    (n f : Nat) : Lockstep onchain network hops n f := fun t path K R V' R' hpt ht hagree h => by
  rw [← dfsRun_proj] at h
  cases hr : dfsRun onchain network (getPeggedToken network) hops f t path K R with
  | error e => rw [hr] at h; cases h
  | ok r =>
    rw [hr, dfsOutcome_ok, Option.some.injEq, Prod.mk.injEq] at h
    obtain ⟨rfl, rfl⟩ := h
    exact (lockstepRun hvals n f t path K R r hpt ht hagree hr).imp_right And.left

end Lockstep

end ITY
