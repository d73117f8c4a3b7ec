import Ityfuzz.Sanity.Offchain

/-! What `OffChainConfig::initialize` leaves in the caches. For a pair whose probes succeed,
the entry under `token0` is the one the spec describes, but the entry under `token1` names
`token1` itself as `next` (`initializePairs_token1_next_self`). A probe answered with too few
bytes panics, and the first pair that fails ends `initialize`: it and every pair after it are
left out of the caches (`initializePairs_failure_stops`). -/

namespace ITY

open OffChainConfig

section

variable {vm : ProbeVM} {pairs : List EVMAddress}

theorem initializePairs_eq (hok : ((new pairs).initializePairs vm).2 = .ok ()) :
    initializeFrom vm pairs (new pairs) = (((new pairs).initializePairs vm).1, .ok ()) :=
  Prod.ext rfl hok

/-- After `initialize` returns `Ok`, each pair's entries are in the caches as its probes read
them: under `token0` with `in_ = 0` and `next = token1`, its reserves as decimal strings, and the
balances of the pair in both tokens. -/
theorem initializePairs_cached (hnd : pairs.Nodup) (hok : ((new pairs).initializePairs vm).2 = .ok ())
    {P : EVMAddress} (hP : P ∈ pairs) {p : PairProbe} (hp : probePair vm P = .ok p)
    (hne : p.token0 ≠ p.token1) :
    (∃ l, ((new pairs).initializePairs vm).1.getPair (addrDebug p.token0) = some l ∧
      { pairDataOf P p with
        in_ := 0, next := addrDebug p.token1, inToken := addrDebug p.token0,
        interface := "uniswapv2", srcExact := "uniswapv2_eth",
        src := if isPeggedToken OffChainConfig.getPeggedToken (addrDebug p.token0) then "pegged"
          else "lp" } ∈ l) ∧
    ((new pairs).initializePairs vm).1.fetchReserve (addrDebug P) =
      some (some (toString p.reserves0.toNat, toString p.reserves1.toNat)) ∧
    ((new pairs).initializePairs vm).1.getTokenBalance p.token0 P = p.balance0 ∧
    ((new pairs).initializePairs vm).1.getTokenBalance p.token1 P = p.balance1 := by
  obtain ⟨p', hp', hc⟩ := initializeFrom_ok hnd (initializePairs_eq hok) P hP
  rw [hp] at hp'
  cases hp'
  have h0 := hc.side0
  rw [seenFrom_token0] at h0
  refine ⟨⟨_, getPair_addrDebug _, h0⟩, by simp [hc.reserves], ?_, ?_⟩
  · simp [getTokenBalance, hc.balance0, hne]
  · simp [getTokenBalance, hc.balance1]

theorem initializePairs_token1_next_self (vm : ProbeVM) (pairs : List EVMAddress) (hnd : pairs.Nodup)
    (hok : ((new pairs).initializePairs vm).2 = .ok ()) (P : EVMAddress) (hP : P ∈ pairs)
    (p : PairProbe) (hp : probePair vm P = .ok p) (hne : p.token0 ≠ p.token1) :
    ∃ l, ((new pairs).initializePairs vm).1.getPair (addrDebug p.token1) = some l ∧
      (∃ e ∈ l, e.pair = addrDebug P) ∧
      ∀ e ∈ l, e.pair = addrDebug P →
        e.in_ = 1 ∧ e.next = addrDebug p.token1 ∧ e.next ≠ addrDebug p.token0 := by
  have hrun := initializePairs_eq hok
  obtain ⟨p', hp', hc⟩ := initializeFrom_ok hnd hrun P hP
  rw [hp] at hp'
  cases hp'
  have hw := (writtenBy_new pairs).initializeFrom hrun
  refine ⟨_, getPair_addrDebug _, ⟨_, hc.side1, rfl⟩, fun e he hpair => ?_⟩
  obtain ⟨Q, -, q, hq, -, rfl⟩ := hw.pairs _ e he
  have hQ : P = Q := (addrDebug_injective hpair).symm
  subst hQ
  rw [hp] at hq
  cases hq
  rw [seenFrom_token1 hne]
  exact ⟨rfl, rfl, fun h => hne (addrDebug_injective h).symm⟩

/-- The probes of `build_cache` panic on a `token0()` answer shorter than the slice `[12..32]`. -/
theorem probePair_token0_short {P : EVMAddress} {c res : List UInt8} (hc : vm.code P = some c)
    (hres : vm.staticCall token0Input c P = some res) (hlen : res.length < 32) :
    probePair vm P = .error .panic := by
  have hs : sliceRange res 12 32 = .error .panic := if_neg (by omega)
  simp [probePair, codeOr, call, hc, hres, hs, bind, Except.bind]

theorem initializePairs_failure_stops (vm : ProbeVM) (pairs : List EVMAddress) (hnd : pairs.Nodup) :
    (∀ P post c res, pairs = P :: post → vm.code P = some c →
      vm.staticCall token0Input c P = some res → res.length < 32 →
      ((new pairs).initializePairs vm).2 = .error .panic) ∧
    ∀ e, ((new pairs).initializePairs vm).2 = .error e →
      ∃ pre P post, pairs = pre ++ P :: post ∧ probePair vm P = .error e ∧
        (∀ Q ∈ pre, ∃ q, probePair vm Q = .ok q ∧ Cached ((new pairs).initializePairs vm).1 Q q) ∧
        ∀ Q ∈ P :: post, NoEntry ((new pairs).initializePairs vm).1 Q := by
  refine ⟨fun P post c res hpairs hc hres hlen => ?_, fun e he => ?_⟩
  · simp [initializePairs, hpairs, initializeFrom, buildCache, probePair_token0_short hc hres hlen]
  · have hrun : initializeFrom vm pairs (new pairs) = (((new pairs).initializePairs vm).1, .error e) :=
      Prod.ext rfl he
    obtain ⟨pre, P, post, rfl, hpre, hP⟩ := (initializeFrom_error_iff _ _ _ _).1 hrun
    have hnd' := List.nodup_append.1 hnd
    refine ⟨pre, P, post, rfl, ?_, fun Q hQ => initializeFrom_ok hnd'.1 hpre Q hQ, fun Q hQ => ?_⟩
    · cases hp : probePair vm P with
      | error e' => rw [buildCache, hp] at hP; cases hP; rfl
      | ok p => rw [buildCache, hp] at hP; cases hP
    · have hw := (writtenBy_new (pre ++ P :: post)).initializeFrom hpre
      exact hw.noEntry fun hQpre => hnd'.2.2 (by simpa using hQpre) hQ

end

/-- Whatever the probes answer and wherever `initialize` stops, every entry `get_pair(T)`
returns names a pair of `T` whose reserves `fetch_reserve` reports as the entry's own, and whose
balance in each of its two tokens is cached. -/
theorem initializePairs_getPair_fetchReserve (vm : ProbeVM) (pairs : List EVMAddress) (T : EVMAddress) :
    ∃ l, ((new pairs).initializePairs vm).1.getPair (addrDebug T) = some l ∧
      ∀ e ∈ l, ∃ P A B, e.pair = addrDebug P ∧ e.token0 = addrDebug A ∧ e.token1 = addrDebug B ∧
        (T = A ∨ T = B) ∧
        ((new pairs).initializePairs vm).1.fetchReserve e.pair =
          some (some (toString e.initialReserves0.toNat, toString e.initialReserves1.toNat)) ∧
        (((new pairs).initializePairs vm).1.balanceCache (P, A)).isSome ∧
        (((new pairs).initializePairs vm).1.balanceCache (P, B)).isSome := by
  have hag : Agrees vm ((new pairs).initializePairs vm).1 :=
    (agrees_new pairs).initializeFrom (Prod.ext rfl rfl)
  refine ⟨_, getPair_addrDebug T, fun e he => ?_⟩
  obtain ⟨Q, q, -, ht, rfl, hc⟩ := hag T e he
  refine ⟨Q, q.token0, q.token1, rfl, rfl, rfl, ht, ?_, by rw [hc.balance0]; rfl, by rw [hc.balance1]; rfl⟩
  show _ = some (some (toString q.reserves0.toNat, toString q.reserves1.toNat))
  rw [show (seenFrom T (pairDataOf Q q)).pair = addrDebug Q from rfl, fetchReserve_addrDebug, hc.reserves]
  rfl

/-- A 32-byte big-endian word. -/
def wordBytes (n : Nat) : List UInt8 := (List.range 32).map fun i => UInt8.ofNat (n / 256 ^ (31 - i))

/-- Pair `1` is a V2 pair of tokens `2` (18 decimals) and `3` (6 decimals), with reserves
`(100, 200)` and balances `7` and `9`; pair `4` has no code; pair `5` answers `token0()` with 31
bytes. -/
def sampleVM : ProbeVM where
  code a := if a = 1 ∨ a = 2 ∨ a = 3 ∨ a = 5 then some [0] else none
  staticCall input _ target :=
    if target = 1 then
      if input = token0Input then some (wordBytes 2)
      else if input = token1Input then some (wordBytes 3)
      else if input = getReservesInput then some (wordBytes 100 ++ wordBytes 200 ++ wordBytes 0)
      else none
    else if target = 2 then
      if input = decimalsInput then some (wordBytes 18)
      else if input = balanceOfInput 1 then some (wordBytes 7) else none
    else if target = 3 then
      if input = decimalsInput then some (wordBytes 6)
      else if input = balanceOfInput 1 then some (wordBytes 9) else none
    else if target = 5 then some (List.replicate 31 0)
    else none

theorem initializePairs_token1_next_self_sample :
    [(1 : EVMAddress)].Nodup ∧ ((new [1]).initializePairs sampleVM).2 = .ok () ∧
    probePair sampleVM 1 = .ok ⟨2, 3, 18, 6, 100, 200, 7, 9⟩ ∧ (2 : EVMAddress) ≠ 3 ∧
    ∃ l, ((new [1]).initializePairs sampleVM).1.getPair (addrDebug 3) = some l ∧
      (∃ e ∈ l, e.pair = addrDebug 1) ∧
      ∀ e ∈ l, e.pair = addrDebug 1 → e.in_ = 1 ∧ e.next = addrDebug 3 ∧ e.next ≠ addrDebug 2 :=
  ⟨by decide, by decide, by decide, by decide,
    initializePairs_token1_next_self sampleVM [1] (by decide) (by decide) 1 (by decide)
      ⟨2, 3, 18, 6, 100, 200, 7, 9⟩ (by decide) (by decide)⟩

/-- Pair `1` is cached under token `2` with `next = 3`, reserves `100` and `200`, and balances
`7` and `9`. -/
theorem initializePairs_cached_sample :
    [(1 : EVMAddress)].Nodup ∧ ((new [1]).initializePairs sampleVM).2 = .ok () ∧
    probePair sampleVM 1 = .ok ⟨2, 3, 18, 6, 100, 200, 7, 9⟩ ∧ (2 : EVMAddress) ≠ 3 ∧
    (∃ l, ((new [1]).initializePairs sampleVM).1.getPair (addrDebug 2) = some l ∧
      { pairDataOf 1 ⟨2, 3, 18, 6, 100, 200, 7, 9⟩ with
        in_ := 0, next := addrDebug 3, inToken := addrDebug 2,
        interface := "uniswapv2", srcExact := "uniswapv2_eth",
        src := if isPeggedToken OffChainConfig.getPeggedToken (addrDebug 2) then "pegged" else "lp" } ∈ l) ∧
    ((new [1]).initializePairs sampleVM).1.fetchReserve (addrDebug 1) =
      some (some (toString (100 : EVMU256).toNat, toString (200 : EVMU256).toNat)) ∧
    ((new [1]).initializePairs sampleVM).1.getTokenBalance 2 1 = 7 ∧
    ((new [1]).initializePairs sampleVM).1.getTokenBalance 3 1 = 9 :=
  ⟨by decide, by decide, by decide, by decide,
    @initializePairs_cached sampleVM [1] (by decide) (by decide) 1 (by decide)
      ⟨2, 3, 18, 6, 100, 200, 7, 9⟩ (by decide) (by decide)⟩

theorem initializePairs_failure_stops_sample :
    ((new [5]).initializePairs sampleVM).2 = .error .panic ∧
    ((new [1]).initializePairs sampleVM).2 = .ok () ∧
    [(4 : EVMAddress), 1].Nodup ∧
    ((new [4, 1]).initializePairs sampleVM).2 = .error (.pairCodeNotFound 4) ∧
    (∀ e, ((new [4, 1]).initializePairs sampleVM).2 = .error e →
      ∃ pre P post, [(4 : EVMAddress), 1] = pre ++ P :: post ∧ probePair sampleVM P = .error e ∧
        (∀ Q ∈ pre, ∃ q, probePair sampleVM Q = .ok q ∧
          Cached ((new [4, 1]).initializePairs sampleVM).1 Q q) ∧
        ∀ Q ∈ P :: post, NoEntry ((new [4, 1]).initializePairs sampleVM).1 Q) :=
  ⟨(initializePairs_failure_stops sampleVM [5] (by decide)).1 5 [] [0] (List.replicate 31 0) rfl
      (by decide) (by decide) (by decide),
    by decide, by decide, by decide, (initializePairs_failure_stops sampleVM [4, 1] (by decide)).2⟩

end ITY
