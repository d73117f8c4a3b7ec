import Ityfuzz.Spec.Corpus
import Ityfuzz.Sanity.Step

/-! What `initialize_corpus` adds. Forgetting the caller `get_rand_caller` drew (`seed`),
the inputs it adds are exactly `initialSeeds`, the list the spec describes entry by entry: a
`Borrow` seed when an address first reaches the flash-loan middleware and is classified as an
ERC-20, then one ABI seed per function that is not a constructor, not static and not skipped
by name, unless the address is blacklisted (`initializeCorpusFrom_seeds`). Along the loop
`hash_to_address`, the artifact keys and the addresses the middleware knows only grow
(`Grows`). -/

namespace ITY

/-- An input with the caller `get_rand_caller` drew left out. -/
def EVMInput.seed (i : EVMInput) : EVMInput := { i with caller := 0 }

/-- Whether `initialize_corpus` adds a seed for a function of a contract not blacklisted. -/
def seedable (a : ABIConfig) : Bool :=
  !a.isConstructor && !a.isStatic && !skipFunction a.functionName

/-- The seed of function `a` at `addr`: `data` carries the function unless it is the synthetic
`!receive!`, and `txn_value` is `Some(0)` for a payable function. -/
def abiSeed (addr : EVMAddress) (a : ABIConfig) : EVMInput :=
  { inputType := .ABI, caller := 0, contract := addr,
    data := if a.functionName ≠ "!receive!" then some ⟨a.function, a.functionName, a.abi⟩ else none,
    sstateIdx := 0, txnValue := if a.isPayable then some 0 else none, step := false,
    liquidationPercent := 0, directData := [], randomness := [0], «repeat» := 1 }

/-- The seed of a borrow of `10^19` from `token`. -/
def borrowSeed (token : EVMAddress) : EVMInput :=
  { inputType := .Borrow, caller := 0, contract := token, data := none, sstateIdx := 0,
    txnValue := some borrowValue, step := false, liquidationPercent := 0, directData := [],
    randomness := [0], «repeat» := 1 }

/-- The seeds for the entries `cs` from position `k` on. `mid` is the middleware's endpoint and
the addresses it has seen, `none` without a middleware. -/
def initialSeeds (env : InitEnv) :
    Option (Option OnChainConfig × List EVMAddress) → Nat → List ContractInfo → List EVMInput
  | _, _, [] => []
  | mid, k, c :: cs =>
    let abi := recoverAbi env c
    let addr := c.deployedAddress
    (match mid with
     | some (endpoint, known) =>
       if addr ∉ known ∧ erc20Verdict endpoint abi (env.oracleFree k) = true then [borrowSeed addr]
       else []
     | none => []) ++
    (if addr ∈ env.blacklist then [] else (abi.filter seedable).map (abiSeed addr)) ++
    initialSeeds env (mid.map fun m => (m.1, m.2.insert addr)) (k + 1) cs

namespace CorpusState

/-- What the classification of the middleware depends on: its endpoint and known addresses. -/
def middleware (st : CorpusState) : Option (Option OnChainConfig × List EVMAddress) :=
  st.flashloan.map fun fl => (fl.endpoint, fl.knownAddresses)

variable {env : InitEnv} {st : CorpusState}

@[simp] theorem recordArtifacts_corpus (c : ContractInfo) (abi : List ABIConfig) :
    (recordArtifacts env st c abi).corpus = st.corpus := rfl

@[simp] theorem recordArtifacts_flashloan (c : ContractInfo) (abi : List ABIConfig) :
    (recordArtifacts env st c abi).flashloan = st.flashloan := rfl

@[simp] theorem recordArtifacts_hashToAddress (c : ContractInfo) (abi : List ABIConfig) :
    (recordArtifacts env st c abi).hashToAddress = st.hashToAddress := rfl

theorem onPairInsertion_endpoint (fl : Flashloan) (pair : EVMAddress) :
    (onPairInsertion env fl pair).endpoint = fl.endpoint := by
  unfold onPairInsertion; split <;> rfl

theorem onPairInsertion_knownAddresses (fl : Flashloan) (pair : EVMAddress) :
    (onPairInsertion env fl pair).knownAddresses = fl.knownAddresses := by
  unfold onPairInsertion; split <;> rfl

/-- `handle_contract_insertion!` adds a borrow seed exactly when the address is new to the
middleware and classified as an ERC-20, and the middleware records the address. -/
theorem handleContractInsertion_spec (k : Nat) (addr : EVMAddress) (abi : List ABIConfig) :
    (handleContractInsertion env k st addr abi).corpus.map EVMInput.seed =
      st.corpus.map EVMInput.seed ++
        (match st.middleware with
         | some (endpoint, known) =>
           if addr ∉ known ∧ erc20Verdict endpoint abi (env.oracleFree k) = true then
             [borrowSeed addr] else []
         | none => []) ∧
    (handleContractInsertion env k st addr abi).middleware =
      st.middleware.map (fun m => (m.1, m.2.insert addr)) ∧
    (handleContractInsertion env k st addr abi).hashToAddress = st.hashToAddress ∧
    (handleContractInsertion env k st addr abi).artifacts = st.artifacts := by
  unfold handleContractInsertion middleware
  rcases hfl : st.flashloan with _ | fl
  · simp [hfl]
  by_cases hk : addr ∈ fl.knownAddresses
  · simp [@onContractInsertion_known fl addr abi (env.oracleFree k) hk, hk, hfl,
      List.insert_of_mem hk]
  · obtain ⟨hknown, hend, -, -, hr⟩ := onContractInsertion_fresh abi (env.oracleFree k) addr hk
    simp only [hfl]
    generalize fl.onContractInsertion addr abi (env.oracleFree k) = r at hknown hend hr ⊢
    obtain ⟨fl', e, p⟩ := r
    obtain ⟨rfl, rfl⟩ := Prod.mk.inj hr
    cases hv : erc20Verdict fl.endpoint abi (env.oracleFree k) <;> cases isPairAbi abi <;>
      simp_all [onPairInsertion_endpoint, onPairInsertion_knownAddresses, registerBorrowTxn,
        addInput, EVMInput.seed, borrowSeed]

theorem addAbi_spec (a : ABIConfig) (addr : EVMAddress) :
    (addAbi env st a addr).corpus.map EVMInput.seed =
      st.corpus.map EVMInput.seed ++ (if !a.isConstructor && !a.isStatic then [abiSeed addr a] else []) ∧
    (addAbi env st a addr).middleware = st.middleware ∧
    (∀ f, (addAbi env st a addr).hashToAddress f =
      if f = a.function ∧ a.isConstructor = false then (st.hashToAddress f).insert addr
      else st.hashToAddress f) := by
  unfold addAbi
  cases hc : a.isConstructor
  · cases hs : a.isStatic
    · exact ⟨by simp [addInput, EVMInput.seed, abiSeed], rfl, fun f => by simp [addInput]⟩
    · exact ⟨by simp, rfl, fun f => by simp⟩
  · exact ⟨by simp, rfl, fun f => by simp⟩

theorem addAbi_artifactKeys (a : ABIConfig) (addr : EVMAddress) :
    (addAbi env st a addr).artifacts.addressToAbi = st.artifacts.addressToAbi ∧
    (addAbi env st a addr).artifacts.addressToBytecode = st.artifacts.addressToBytecode ∧
    (addAbi env st a addr).artifacts.addressToName = st.artifacts.addressToName := by
  unfold addAbi; split
  · exact ⟨rfl, rfl, rfl⟩
  · split <;> exact ⟨rfl, rfl, rfl⟩

/-- The keys `initialize_corpus` records for a contract at `addr`. -/
structure Recorded (st : CorpusState) (addr : EVMAddress) : Prop where
  abi : (st.artifacts.addressToAbi addr).isSome
  bytecode : (st.artifacts.addressToBytecode addr).isSome
  name : (st.artifacts.addressToName addr).isSome

/-- What only grows along `initialize_corpus`: `hash_to_address`, the recorded artifact keys and
the addresses the middleware knows. -/
structure Grows (st st' : CorpusState) : Prop where
  hashToAddress : ∀ f, st.hashToAddress f ⊆ st'.hashToAddress f
  recorded : ∀ addr, Recorded st addr → Recorded st' addr
  known : ∀ m, st.middleware = some m → ∃ m', st'.middleware = some m' ∧ m.2 ⊆ m'.2

theorem Grows.refl (st : CorpusState) : Grows st st :=
  ⟨fun _ => List.Subset.refl _, fun _ h => h, fun m h => ⟨m, h, List.Subset.refl _⟩⟩

theorem Grows.trans {st₁ st₂ st₃ : CorpusState} (h₁ : Grows st₁ st₂) (h₂ : Grows st₂ st₃) :
    Grows st₁ st₃ where
  hashToAddress f := (h₁.hashToAddress f).trans (h₂.hashToAddress f)
  recorded addr h := h₂.recorded addr (h₁.recorded addr h)
  known m h := by
    obtain ⟨m₂, h₂m, hsub₂⟩ := h₁.known m h
    obtain ⟨m₃, h₃m, hsub₃⟩ := h₂.known m₂ h₂m
    exact ⟨m₃, h₃m, hsub₂.trans hsub₃⟩

theorem Grows.of_artifacts {st' : CorpusState} (hh : ∀ f, st.hashToAddress f ⊆ st'.hashToAddress f)
    (ha : st'.artifacts.addressToAbi = st.artifacts.addressToAbi)
    (hb : st'.artifacts.addressToBytecode = st.artifacts.addressToBytecode)
    (hn : st'.artifacts.addressToName = st.artifacts.addressToName)
    (hm : ∀ m, st.middleware = some m → ∃ m', st'.middleware = some m' ∧ m.2 ⊆ m'.2) :
    Grows st st' :=
  ⟨hh, fun _ h => ⟨ha ▸ h.abi, hb ▸ h.bytecode, hn ▸ h.name⟩, hm⟩

theorem recordArtifacts_grows (c : ContractInfo) (abi : List ABIConfig) :
    Grows st (recordArtifacts env st c abi) ∧ Recorded (recordArtifacts env st c abi) c.deployedAddress := by
  refine ⟨⟨fun _ => List.Subset.refl _, fun a h => ?_, fun m h => ⟨m, h, List.Subset.refl _⟩⟩, ?_⟩
  · by_cases ha : a = c.deployedAddress <;>
      simp [recordArtifacts, ha, h.abi, h.bytecode, h.name, Recorded.mk]
  · exact ⟨by simp [recordArtifacts], by simp [recordArtifacts], by simp [recordArtifacts]⟩

theorem handleContractInsertion_grows (k : Nat) (addr : EVMAddress) (abi : List ABIConfig) :
    Grows st (handleContractInsertion env k st addr abi) := by
  obtain ⟨-, hm, hh, ha⟩ := @handleContractInsertion_spec env st k addr abi
  refine Grows.of_artifacts (by simp [hh]) (by rw [ha]) (by rw [ha]) (by rw [ha]) fun m h => ?_
  exact ⟨_, by rw [hm, h]; rfl, fun _ hx => List.mem_insert_of_mem hx⟩

theorem addAbi_grows (a : ABIConfig) (addr : EVMAddress) : Grows st (addAbi env st a addr) := by
  obtain ⟨-, hm, hh⟩ := @addAbi_spec env st a addr
  obtain ⟨ha, hb, hn⟩ := @addAbi_artifactKeys env st a addr
  refine Grows.of_artifacts (fun f x hx => ?_) ha hb hn fun m h => ⟨m, hm.trans h, List.Subset.refl _⟩
  rw [hh]; split
  · exact List.mem_insert_of_mem hx
  · exact hx

theorem addAbis_cons_skip {addr : EVMAddress} {a : ABIConfig} {abi : List ABIConfig}
    (h : skipFunction a.functionName = true) :
    addAbis env addr (a :: abi) st = addAbis env addr abi st := by
  simp [addAbis, h]

theorem addAbis_cons_add {addr : EVMAddress} {a : ABIConfig} {abi : List ABIConfig}
    (h : skipFunction a.functionName = false) :
    addAbis env addr (a :: abi) st = addAbis env addr abi (addAbi env st a addr) := by
  simp [addAbis, h]

/-- The inner loop adds one seed per seedable function, in the order of the ABI, and records
the address under every function that is not a constructor and not skipped. -/
theorem addAbis_spec (addr : EVMAddress) : ∀ (abi : List ABIConfig) (st : CorpusState),
    (addAbis env addr abi st).corpus.map EVMInput.seed =
      st.corpus.map EVMInput.seed ++ (abi.filter seedable).map (abiSeed addr) ∧
    (addAbis env addr abi st).middleware = st.middleware ∧ Grows st (addAbis env addr abi st) ∧
    ∀ a ∈ abi, a.isConstructor = false → skipFunction a.functionName = false →
      addr ∈ (addAbis env addr abi st).hashToAddress a.function
  | [], st => ⟨by simp [addAbis], rfl, Grows.refl st, by simp⟩
  | a :: abi, st => by
    cases hs : skipFunction a.functionName
    · obtain ⟨ihs, ihm, ihg, ihh⟩ := addAbis_spec addr abi (addAbi env st a addr)
      obtain ⟨hseeds, hm, hh⟩ := @addAbi_spec env st a addr
      rw [addAbis_cons_add hs]
      refine ⟨?_, ihm.trans hm, (addAbi_grows a addr).trans ihg, fun b hb hc hsk => ?_⟩
      · rw [ihs, hseeds, List.filter_cons]
        cases hc : a.isConstructor <;> cases hst : a.isStatic <;> simp [seedable, hs, hc, hst]
      · rcases List.mem_cons.1 hb with rfl | hb
        · exact ihg.hashToAddress _ (by rw [hh]; simp [hc])
        · exact ihh b hb hc hsk
    · obtain ⟨ihs, ihm, ihg, ihh⟩ := addAbis_spec addr abi st
      rw [addAbis_cons_skip hs]
      refine ⟨by rw [ihs, List.filter_cons]; simp [seedable, hs], ihm, ihg, fun b hb hc hsk => ?_⟩
      rcases List.mem_cons.1 hb with rfl | hb
      · rw [hs] at hsk; cases hsk
      · exact ihh b hb hc hsk

/-- One turn of the loop adds the seeds `initialSeeds` lists for its entry. -/
theorem corpusStep_spec (k : Nat) (c : ContractInfo) :
    (corpusStep env k st c).corpus.map EVMInput.seed =
      st.corpus.map EVMInput.seed ++ initialSeeds env st.middleware k [c] ∧
    (corpusStep env k st c).middleware =
      st.middleware.map (fun m => (m.1, m.2.insert c.deployedAddress)) ∧
    Grows st (corpusStep env k st c) ∧ Recorded (corpusStep env k st c) c.deployedAddress ∧
    (c.deployedAddress ∉ env.blacklist → ∀ a ∈ recoverAbi env c, a.isConstructor = false →
      skipFunction a.functionName = false → c.deployedAddress ∈ (corpusStep env k st c).hashToAddress a.function) := by
  obtain ⟨grec, hrec⟩ := @recordArtifacts_grows env st c (recoverAbi env c)
  set st₁ := recordArtifacts env st c (recoverAbi env c)
  obtain ⟨hs₂, hm₂, -, -⟩ := @handleContractInsertion_spec env st₁ k c.deployedAddress
    (recoverAbi env c)
  have g₂ := @handleContractInsertion_grows env st₁ k c.deployedAddress (recoverAbi env c)
  set st₂ := handleContractInsertion env k st₁ c.deployedAddress (recoverAbi env c)
  have hm₁ : st₁.middleware = st.middleware := rfl
  have hs₁ : st₁.corpus = st.corpus := rfl
  have hstep : corpusStep env k st c =
      if c.deployedAddress ∈ env.blacklist then st₂ else addAbis env c.deployedAddress (recoverAbi env c) st₂ :=
    rfl
  rw [hstep]
  by_cases hb : c.deployedAddress ∈ env.blacklist
  · rw [if_pos hb]
    refine ⟨?_, by rw [hm₂, hm₁], grec.trans g₂, g₂.recorded _ hrec, fun h => absurd hb h⟩
    rw [hs₂, hs₁, hm₁]
    simp [initialSeeds, hb]
  · obtain ⟨hs₃, hm₃, g₃, hh₃⟩ := @addAbis_spec env c.deployedAddress (recoverAbi env c) st₂
    rw [if_neg hb]
    refine ⟨?_, by rw [hm₃, hm₂, hm₁], grec.trans g₂ |>.trans g₃, g₃.recorded _ (g₂.recorded _ hrec),
      fun _ => hh₃⟩
    rw [hs₃, hs₂, hs₁, hm₁]
    simp [initialSeeds, hb]

end CorpusState

theorem initialSeeds_cons (env : InitEnv) (mid : Option (Option OnChainConfig × List EVMAddress))
    (k : Nat) (c : ContractInfo) (cs : List ContractInfo) :
    initialSeeds env mid k (c :: cs) =
      initialSeeds env mid k [c] ++ initialSeeds env (mid.map fun m => (m.1, m.2.insert c.deployedAddress)) (k + 1) cs := by
  simp [initialSeeds]

@[simp] theorem abiSeed_ne_borrowSeed (addr t : EVMAddress) (a : ABIConfig) :
    abiSeed addr a ≠ borrowSeed t := by
  simp [abiSeed, borrowSeed]

@[simp] theorem borrowSeed_inj {addr t : EVMAddress} : borrowSeed addr = borrowSeed t ↔ addr = t := by
  simp [borrowSeed]

theorem count_borrowSeed_abiSeeds (t addr : EVMAddress) (abi : List ABIConfig) :
    ((abi.filter seedable).map (abiSeed addr)).count (borrowSeed t) = 0 :=
  List.count_eq_zero.2 fun h => by
    obtain ⟨a, -, h⟩ := List.mem_map.1 h
    exact abiSeed_ne_borrowSeed _ _ _ h

/-- One entry adds at most one borrow of `t`, and none unless it sits at `t` and the middleware
has not seen `t`. -/
theorem initialSeeds_single_count_borrow (env : InitEnv) (t : EVMAddress)
    (mid : Option (Option OnChainConfig × List EVMAddress)) (k : Nat) (c : ContractInfo) :
    (initialSeeds env mid k [c]).count (borrowSeed t) ≤ 1 ∧
    ((c.deployedAddress ≠ t ∨ ∀ m, mid = some m → t ∈ m.2) →
      (initialSeeds env mid k [c]).count (borrowSeed t) = 0) := by
  have hb : (if c.deployedAddress ∈ env.blacklist then []
      else ((recoverAbi env c).filter seedable).map (abiSeed c.deployedAddress)).count (borrowSeed t) = 0 := by
    split
    · rfl
    · exact count_borrowSeed_abiSeeds _ _ _
  rcases mid with _ | ⟨endpoint, known⟩
  · simp [initialSeeds, hb]
  · simp only [initialSeeds, List.count_append, hb, List.count_nil, Nat.add_zero]
    split
    · rename_i hc
      refine ⟨by simp [List.count_cons]; split <;> omega, fun h => ?_⟩
      have hne : c.deployedAddress ≠ t := h.elim id fun hk he => hc.1 (he ▸ hk _ rfl)
      simp [List.count_cons, hne]
    · exact ⟨by simp, fun _ => rfl⟩

theorem initialSeeds_insert_mem {mid : Option (Option OnChainConfig × List EVMAddress)} {t addr : EVMAddress}
    (h : addr = t ∨ ∀ m, mid = some m → t ∈ m.2) :
    ∀ m, mid.map (fun m => (m.1, m.2.insert addr)) = some m → t ∈ m.2 := fun m hm => by
  obtain ⟨m₀, h₀, rfl⟩ := Option.map_eq_some'.1 hm
  rcases h with rfl | h
  · exact List.mem_insert_self _ _
  · exact List.mem_insert_of_mem (h m₀ h₀)

/-- Once the middleware knows `t`, or without a middleware, no entry adds a borrow of `t`. -/
theorem initialSeeds_count_borrow_known (env : InitEnv) (t : EVMAddress) :
    ∀ (mid : Option (Option OnChainConfig × List EVMAddress)) (k : Nat) (cs : List ContractInfo),
      (∀ m, mid = some m → t ∈ m.2) → (initialSeeds env mid k cs).count (borrowSeed t) = 0
  | _, _, [], _ => rfl
  | mid, k, c :: cs, h => by
    rw [initialSeeds_cons, List.count_append,
      (initialSeeds_single_count_borrow env t mid k c).2 (Or.inr h),
      initialSeeds_count_borrow_known env t _ (k + 1) cs (initialSeeds_insert_mem (Or.inr h))]

/-- However many entries share an address, at most one borrow of it is added: by the first entry
with that address to reach the middleware. -/
theorem initialSeeds_count_borrow_le (env : InitEnv) (t : EVMAddress) :
    ∀ (mid : Option (Option OnChainConfig × List EVMAddress)) (k : Nat) (cs : List ContractInfo),
      (initialSeeds env mid k cs).count (borrowSeed t) ≤ 1
  | _, _, [] => by simp [initialSeeds]
  | mid, k, c :: cs => by
    rw [initialSeeds_cons, List.count_append]
    by_cases hc : c.deployedAddress = t
    · rw [initialSeeds_count_borrow_known env t _ (k + 1) cs (initialSeeds_insert_mem (Or.inl hc))]
      exact (initialSeeds_single_count_borrow env t mid k c).1
    · rw [(initialSeeds_single_count_borrow env t mid k c).2 (Or.inl hc), Nat.zero_add]
      exact initialSeeds_count_borrow_le env t _ (k + 1) cs

/-- Each entry not blacklisted contributes the seed of each of its seedable functions. -/
theorem abiSeed_mem_initialSeeds (env : InitEnv) {c : ContractInfo} {a : ABIConfig}
    (hb : c.deployedAddress ∉ env.blacklist) (ha : a ∈ recoverAbi env c) (hs : seedable a = true) :
    ∀ (mid : Option (Option OnChainConfig × List EVMAddress)) (k : Nat) (cs : List ContractInfo),
      c ∈ cs → abiSeed c.deployedAddress a ∈ initialSeeds env mid k cs
  | _, _, [], h => absurd h (List.not_mem_nil _)
  | mid, k, d :: cs, h => by
    rw [initialSeeds_cons, List.mem_append]
    rcases List.mem_cons.1 h with rfl | h
    · left
      simp only [initialSeeds, List.append_nil, List.mem_append, if_neg hb]
      exact Or.inr (List.mem_map_of_mem _ (List.mem_filter.2 ⟨ha, hs⟩))
    · exact Or.inr (abiSeed_mem_initialSeeds env hb ha hs _ (k + 1) cs h)

open CorpusState in
/-- The corpus after `initialize_corpus`, callers forgotten, is the corpus before followed by
`initialSeeds`. -/
theorem initializeCorpusFrom_seeds (env : InitEnv) : ∀ (k : Nat) (cs : List ContractInfo) (st : CorpusState),
    (initializeCorpusFrom env k cs st).corpus.map EVMInput.seed =
      st.corpus.map EVMInput.seed ++ initialSeeds env st.middleware k cs
  | _, [], st => by simp [initializeCorpusFrom, initialSeeds]
  | k, c :: cs, st => by
    obtain ⟨hs, hm, -⟩ := @corpusStep_spec env st k c
    rw [initializeCorpusFrom, initializeCorpusFrom_seeds env (k + 1) cs, hs, hm, initialSeeds_cons _ _ _ c cs,
      List.append_assoc]

open CorpusState in
theorem initializeCorpusFrom_grows (env : InitEnv) : ∀ (k : Nat) (cs : List ContractInfo) (st : CorpusState),
    Grows st (initializeCorpusFrom env k cs st)
  | _, [], st => Grows.refl st
  | k, c :: cs, st => (@corpusStep_spec env st k c).2.2.1.trans
    (initializeCorpusFrom_grows env (k + 1) cs _)

open CorpusState in
/-- Every entry the loop walks is recorded in the artifacts, reaches the middleware, and, unless
blacklisted, is filed in `hash_to_address` under each of its functions not skipped. -/
theorem initializeCorpusFrom_entry (env : InitEnv) {c : ContractInfo} :
    ∀ (k : Nat) (cs : List ContractInfo) (st : CorpusState), c ∈ cs →
    Recorded (initializeCorpusFrom env k cs st) c.deployedAddress ∧
    (∀ m, st.middleware = some m →
      ∃ m', (initializeCorpusFrom env k cs st).middleware = some m' ∧ c.deployedAddress ∈ m'.2) ∧
    (c.deployedAddress ∉ env.blacklist → ∀ a ∈ recoverAbi env c, a.isConstructor = false →
      skipFunction a.functionName = false →
        c.deployedAddress ∈ (initializeCorpusFrom env k cs st).hashToAddress a.function)
  | _, [], _, h => absurd h (List.not_mem_nil _)
  | k, d :: cs, st, h => by
    rw [initializeCorpusFrom]
    rcases List.mem_cons.1 h with rfl | h
    · obtain ⟨-, hm, -, hrec, hh⟩ := @corpusStep_spec env st k c
      have g := initializeCorpusFrom_grows env (k + 1) cs (corpusStep env k st c)
      refine ⟨g.recorded _ hrec, fun m hm₀ => ?_, fun hb a ha hc hs =>
        g.hashToAddress _ (hh hb a ha hc hs)⟩
      obtain ⟨m', hm', hsub⟩ := g.known _ (by rw [hm, hm₀]; rfl)
      exact ⟨m', hm', hsub (List.mem_insert_self _ _)⟩
    · obtain ⟨hrec, hknown, hh⟩ := initializeCorpusFrom_entry env (k + 1) cs (corpusStep env k st d) h
      refine ⟨hrec, fun m hm₀ => ?_, hh⟩
      obtain ⟨-, hm, -⟩ := @corpusStep_spec env st k d
      exact hknown _ (by rw [hm, hm₀]; rfl)

end ITY
