import Ityfuzz.Sanity.Step

/-! The middleware as a system: `onContractInsertion`, `analyzeCall` and `onStep`
interleaved in any order from `Flashloan::new` and `FlashloanData::new()`. A reachable state
keeps its history, so that an address's first insertion can be named. The classification
sets only ever hold known addresses, each address is classified once and for all by its
first insertion, and the re-check sets only hold classified addresses (`Classified`). -/

namespace ITY

structure Sys where
  mid : Flashloan
  data : FlashloanData

inductive SysEvent
  | onContractInsertion (addr : EVMAddress) (abi : List ABIConfig) (oracleFree : Bool)
  | analyzeCall (input : EVMInput)
  | onStep (interp : Interpreter) (callers : List EVMAddress)

def Sys.step (s : Sys) : SysEvent → Option Sys
  | .onContractInsertion addr abi free =>
    some { s with mid := (s.mid.onContractInsertion addr abi free).1 }
  | .analyzeCall input => some { s with data := s.mid.analyzeCall input s.data }
  | .onStep interp callers => (s.mid.onStep interp callers s.data).map ({ s with data := · })

def Sys.init (endpoint : Option OnChainConfig) (oracle : IERC20OracleFlashloan) : Sys :=
  ⟨Flashloan.new endpoint oracle, FlashloanData.new⟩

/-- The states reachable from `Sys.init`, with the events that led there. -/
inductive Reach (endpoint : Option OnChainConfig) (oracle : IERC20OracleFlashloan) :
    Sys → List SysEvent → Prop
  | init : Reach endpoint oracle (Sys.init endpoint oracle) []
  | step {s s' : Sys} {evs : List SysEvent} {e : SysEvent} :
      Reach endpoint oracle s evs → s.step e = some s' → Reach endpoint oracle s' (evs ++ [e])

/-- The ABI and borrow state of the first insertion of `addr` in a history. -/
def firstInsertion (addr : EVMAddress) : List SysEvent → Option (List ABIConfig × Bool)
  | [] => none
  | .onContractInsertion a abi free :: evs =>
    if a = addr then some (abi, free) else firstInsertion addr evs
  | _ :: evs => firstInsertion addr evs

theorem firstInsertion_snoc (addr : EVMAddress) (evs : List SysEvent) (e : SysEvent) :
    firstInsertion addr (evs ++ [e]) = (firstInsertion addr evs).or (firstInsertion addr [e]) := by
  induction evs with
  | nil => simp [firstInsertion]
  | cons e' evs ih => cases e' <;> simp [firstInsertion, ih]; split_ifs <;> rfl

structure Inv (endpoint : Option OnChainConfig) (s : Sys) (evs : List SysEvent) : Prop where
  endpoint_eq : s.mid.endpoint = endpoint
  known : ∀ a, a ∈ s.mid.knownAddresses ↔ (firstInsertion a evs).isSome
  erc20 : ∀ a, a ∈ s.mid.erc20Address ↔
    ∃ abi free, firstInsertion a evs = some (abi, free) ∧ erc20Verdict endpoint abi free
  pair : ∀ a, a ∈ s.mid.pairAddress ↔
    ∃ abi free, firstInsertion a evs = some (abi, free) ∧ isPairAbi abi
  recheck_balance : ∀ a ∈ s.data.oracleRecheckBalance, a ∈ s.mid.erc20Address
  recheck_reserve : ∀ a ∈ s.data.oracleRecheckReserve, a ∈ s.mid.pairAddress

theorem inv_init (endpoint : Option OnChainConfig) (oracle : IERC20OracleFlashloan) :
    Inv endpoint (Sys.init endpoint oracle) [] :=
  ⟨rfl, by simp [Sys.init, Flashloan.new, firstInsertion], by simp [Sys.init, Flashloan.new, firstInsertion],
    by simp [Sys.init, Flashloan.new, firstInsertion], by simp [Sys.init, FlashloanData.new],
    by simp [Sys.init, FlashloanData.new]⟩

/-- A set that grows by at most one address meeting `S` keeps every member meeting `S`. -/
theorem mem_ite_insert {S : EVMAddress → Prop} {p : Prop} [Decidable p] {l : List EVMAddress}
    {b a : EVMAddress} (hl : ∀ x ∈ l, S x) (hb : p → S b) (ha : a ∈ if p then l.insert b else l) :
    S a := by
  split_ifs at ha with hp
  · rcases List.mem_insert_iff.1 ha with rfl | ha
    exacts [hb hp, hl a ha]
  · exact hl a ha

/-- `Inv` reads a history only through its first insertions. -/
theorem Inv.of_firstInsertion {endpoint : Option OnChainConfig} {s : Sys} {evs evs' : List SysEvent}
    (h : ∀ a, firstInsertion a evs' = firstInsertion a evs) (hI : Inv endpoint s evs) :
    Inv endpoint s evs' :=
  ⟨hI.endpoint_eq, by simpa only [h] using hI.known, by simpa only [h] using hI.erc20,
    by simpa only [h] using hI.pair, hI.recheck_balance, hI.recheck_reserve⟩

theorem firstInsertion_snoc_of_ne (addr : EVMAddress) (evs : List SysEvent) (e : SysEvent)
    (he : firstInsertion addr [e] = none) : firstInsertion addr (evs ++ [e]) = firstInsertion addr evs := by
  rw [firstInsertion_snoc, he, Option.or_none]

theorem firstInsertion_snoc_known {addr : EVMAddress} {abi : List ABIConfig} {free : Bool}
    {evs : List SysEvent} (h : (firstInsertion addr evs).isSome) (a : EVMAddress) :
    firstInsertion a (evs ++ [.onContractInsertion addr abi free]) = firstInsertion a evs := by
  by_cases ha : addr = a
  · subst ha
    obtain ⟨p, hp⟩ := Option.isSome_iff_exists.1 h
    simp [firstInsertion_snoc, hp]
  · exact firstInsertion_snoc_of_ne _ _ _ (by simp [firstInsertion, ha])

theorem firstInsertion_snoc_fresh {addr : EVMAddress} (abi : List ABIConfig) (free : Bool)
    {evs : List SysEvent} (h : firstInsertion addr evs = none) (a : EVMAddress) :
    firstInsertion a (evs ++ [.onContractInsertion addr abi free]) =
      if a = addr then some (abi, free) else firstInsertion a evs := by
  by_cases ha : a = addr
  · subst ha; simp [firstInsertion_snoc, h, firstInsertion]
  · simp [firstInsertion_snoc, firstInsertion, ha, Ne.symm ha]

theorem inv_insertion {endpoint : Option OnChainConfig} {s : Sys} {evs : List SysEvent}
    (addr : EVMAddress) (abi : List ABIConfig) (free : Bool) (hI : Inv endpoint s evs) :
    Inv endpoint { s with mid := (s.mid.onContractInsertion addr abi free).1 }
      (evs ++ [.onContractInsertion addr abi free]) := by
  by_cases hk : addr ∈ s.mid.knownAddresses
  · rw [onContractInsertion_known hk]
    exact hI.of_firstInsertion (firstInsertion_snoc_known ((hI.known addr).1 hk))
  · have hnone : firstInsertion addr evs = none := by
      simpa using (not_congr (hI.known addr)).1 hk
    have hfi := firstInsertion_snoc_fresh abi free hnone
    have hfresh := fun a => onContractInsertion_fresh abi free a hk
    have herc : addr ∉ s.mid.erc20Address := fun h => by
      obtain ⟨_, _, hs, -⟩ := (hI.erc20 addr).1 h; simp [hnone] at hs
    have hpair : addr ∉ s.mid.pairAddress := fun h => by
      obtain ⟨_, _, hs, -⟩ := (hI.pair addr).1 h; simp [hnone] at hs
    refine ⟨(hfresh addr).2.1.trans hI.endpoint_eq, fun a => ?_, fun a => ?_, fun a => ?_,
      fun a ha => ?_, fun a ha => ?_⟩
    · rw [(hfresh a).1, List.mem_insert_iff, hfi]
      by_cases ha : a = addr <;> simp [ha, hI.known]
    · rw [(hfresh a).2.2.1, hfi, ← hI.endpoint_eq]
      by_cases ha : a = addr
      · subst ha; cases free <;> simp [herc]
      · simp [ha, hI.erc20, hI.endpoint_eq]
    · rw [(hfresh a).2.2.2.1, hfi]
      by_cases ha : a = addr
      · subst ha; simp [hpair]
      · simp [ha, hI.pair]
    · exact (hfresh a).2.2.1.2 (.inl (hI.recheck_balance a ha))
    · exact (hfresh a).2.2.2.1.2 (.inl (hI.recheck_reserve a ha))

theorem inv_step {endpoint : Option OnChainConfig} {s s' : Sys} {evs : List SysEvent} {e : SysEvent}
    (hI : Inv endpoint s evs) (h : s.step e = some s') : Inv endpoint s' (evs ++ [e]) := by
  cases e with
  | onContractInsertion addr abi free =>
    obtain rfl := (Option.some.inj h).symm
    exact inv_insertion addr abi free hI
  | analyzeCall input =>
    obtain rfl := (Option.some.inj h).symm
    refine Inv.of_firstInsertion (fun a => firstInsertion_snoc_of_ne _ _ _ rfl)
      ⟨hI.endpoint_eq, hI.known, hI.erc20, hI.pair, fun a ha => ?_, fun a ha => ?_⟩
    · rw [analyzeCall_recheck_balance] at ha; exact mem_ite_insert hI.recheck_balance id ha
    · rw [analyzeCall_recheck_reserve] at ha; exact mem_ite_insert hI.recheck_reserve id ha
  | onStep interp callers =>
    obtain ⟨d, hd, rfl⟩ := Option.map_eq_some'.1 h
    obtain rfl := onStep_some hd
    refine Inv.of_firstInsertion (fun a => firstInsertion_snoc_of_ne _ _ _ rfl)
      ⟨hI.endpoint_eq, hI.known, hI.erc20, hI.pair, fun a ha => ?_, fun a ha => ?_⟩
    · exact mem_ite_insert hI.recheck_balance (fun h => h.2) ha
    · exact mem_ite_insert hI.recheck_reserve (fun h => h.2.1) ha

theorem reach_inv {endpoint : Option OnChainConfig} {oracle : IERC20OracleFlashloan} {s : Sys}
    {evs : List SysEvent} (h : Reach endpoint oracle s evs) : Inv endpoint s evs := by
  induction h with
  | init => exact inv_init endpoint oracle
  | step _ hs ih => exact inv_step ih hs

/-- The classification of a reachable state: both sets hold known addresses only; whether
an address is a pair or an ERC-20 is decided by its first insertion, which returns that
verdict, while every later insertion returns `(false, false)` and leaves the middleware
(sets and oracle) as it is; the re-check sets hold classified addresses only. -/
structure Classified (endpoint : Option OnChainConfig) (s : Sys) (evs : List SysEvent) : Prop where
  erc20_known : ∀ a ∈ s.mid.erc20Address, a ∈ s.mid.knownAddresses
  pair_known : ∀ a ∈ s.mid.pairAddress, a ∈ s.mid.knownAddresses
  pair_iff : ∀ a, a ∈ s.mid.pairAddress ↔ ∃ abi free, firstInsertion a evs = some (abi, free) ∧
    abiSignaturesPair ⊆ abi.map (·.functionName)
  erc20_iff : ∀ a, a ∈ s.mid.erc20Address ↔ ∃ abi free, firstInsertion a evs = some (abi, free) ∧
    abiSignaturesToken ⊆ abi.map (·.functionName) ∧ endpoint.isSome ∧ free = true
  first_returns : ∀ a abi free, firstInsertion a evs = none →
    (s.mid.onContractInsertion a abi free).2 =
      (decide (a ∈ (s.mid.onContractInsertion a abi free).1.erc20Address),
       decide (a ∈ (s.mid.onContractInsertion a abi free).1.pairAddress))
  later_returns : ∀ a abi free, (firstInsertion a evs).isSome →
    s.mid.onContractInsertion a abi free = (s.mid, false, false)
  recheck_balance : ∀ a ∈ s.data.oracleRecheckBalance, a ∈ s.mid.erc20Address
  recheck_reserve : ∀ a ∈ s.data.oracleRecheckReserve, a ∈ s.mid.pairAddress

theorem classification_fixed {endpoint : Option OnChainConfig} {oracle : IERC20OracleFlashloan}
    {s : Sys} {evs : List SysEvent} (h : Reach endpoint oracle s evs) : Classified endpoint s evs := by
  have hI := reach_inv h
  have hk : ∀ a, firstInsertion a evs = none → a ∉ s.mid.knownAddresses := fun a ha => by
    simp [hI.known, ha]
  refine ⟨fun a ha => ?_, fun a ha => ?_, fun a => ?_, fun a => ?_, fun a abi free ha => ?_,
    fun a abi free ha => onContractInsertion_known ((hI.known a).2 ha),
    hI.recheck_balance, hI.recheck_reserve⟩
  · obtain ⟨_, _, hs, -⟩ := (hI.erc20 a).1 ha; simp [hI.known, hs]
  · obtain ⟨_, _, hs, -⟩ := (hI.pair a).1 ha; simp [hI.known, hs]
  · simp only [hI.pair, isPairAbi, all_contains_iff]
  · simp only [hI.erc20, erc20Verdict, all_contains_iff, Bool.and_eq_true, and_assoc]
  · obtain ⟨-, -, he, hp, hr⟩ := onContractInsertion_fresh abi free a (hk a ha)
    have he' : a ∉ s.mid.erc20Address := fun h' => by
      obtain ⟨_, _, hs, -⟩ := (hI.erc20 a).1 h'; simp [ha] at hs
    have hp' : a ∉ s.mid.pairAddress := fun h' => by
      obtain ⟨_, _, hs, -⟩ := (hI.pair a).1 h'; simp [ha] at hs
    simp [hr, he, hp, he', hp']

/-- An endpoint that gives every token an empty context. -/
def emptyContexts : OnChainConfig where
  chainName := "eth"
  getPair _ _ _ _ := []
  fetchReserve _ := ("", "")
  fetchUniswapPathCached a := ⟨[], false, 0, a⟩

/-- The four functions `on_contract_insertion` asks of an ERC-20. -/
def erc20Abi : List ABIConfig :=
  [⟨"(address)", 0x70a08231, "balanceOf", true, false, false⟩,
    ⟨"(address,uint256)", 0xa9059cbb, "transfer", false, false, false⟩,
    ⟨"(address,address,uint256)", 0x23b872dd, "transferFrom", false, false, false⟩,
    ⟨"(address,uint256)", 0x095ea7b3, "approve", false, false, false⟩]

def pairAbi : List ABIConfig :=
  [⟨"(address)", 0xbc25cf77, "skim", false, false, false⟩, ⟨"()", 0xfff6cae9, "sync", false, false, false⟩,
    ⟨"(uint256,uint256,address,bytes)", 0x022c0d9f, "swap", false, false, false⟩]

/-- The token at `9` is inserted with `erc20Abi` while the oracle is free, inserted again with
`pairAbi`, and then called. -/
def tokenRun : List SysEvent :=
  [.onContractInsertion 9 erc20Abi true, .onContractInsertion 9 pairAbi true,
    .analyzeCall ⟨.ABI, 0, 9, none, 0, none, false, 0, [], [0], 1⟩]

/-- After `tokenRun` the token is an ERC-20 and flagged for a balance recheck; the second
insertion, with a pair's ABI, made it no pair. -/
theorem classification_fixed_tokenRun :
    ∃ s, Reach (some emptyContexts) ⟨[], []⟩ s tokenRun ∧ Classified (some emptyContexts) s tokenRun ∧
      s.mid.erc20Address = [9] ∧ s.mid.pairAddress = [] ∧ s.data.oracleRecheckBalance = [9] := by
  have h : Reach (some emptyContexts) ⟨[], []⟩ _ ([] ++ [.onContractInsertion 9 erc20Abi true] ++
      [.onContractInsertion 9 pairAbi true] ++ [.analyzeCall ⟨.ABI, 0, 9, none, 0, none, false, 0, [], [0], 1⟩]) :=
    .step (.step (.step .init rfl) rfl) rfl
  exact ⟨_, h, classification_fixed h, rfl, rfl, rfl⟩

end ITY
