import Ityfuzz.Proofs.Borrows

/-! What `initialize_corpus` registers with the flash-loan oracle.

`on_contract_insertion` registers a token with the context `get_token_context` gives exactly when
it puts the address in `erc20_address`, and `handle_contract_insertion!` calls
`on_pair_insertion`, which registers the first of the three slots `getReserves()` reads, only
for an address `on_contract_insertion` has just put in `pair_address`. So along the loop the
oracle and the middleware stay in step (`OracleAgrees`, `initializeCorpus_oracle_agrees`). -/

namespace ITY

section Oracle

variable {o : IERC20OracleFlashloan}

@[simp] theorem mem_registerToken_knownTokens {addr t : EVMAddress} {ctx c : TokenContext} :
    (t, c) ∈ (o.registerToken addr ctx).knownTokens ↔ t = addr ∧ c = ctx ∨ (t, c) ∈ o.knownTokens ∧ t ≠ addr := by
  simp [IERC20OracleFlashloan.registerToken]

@[simp] theorem mem_registerPairReserveSlot_knownPairReserveSlot {pair p : EVMAddress} {slot s : EVMU256} :
    (p, s) ∈ (o.registerPairReserveSlot pair slot).knownPairReserveSlot ↔
      p = pair ∧ s = slot ∨ (p, s) ∈ o.knownPairReserveSlot ∧ p ≠ pair := by
  simp [IERC20OracleFlashloan.registerPairReserveSlot]

@[simp] theorem registerToken_knownPairReserveSlot {addr : EVMAddress} {ctx : TokenContext} :
    (o.registerToken addr ctx).knownPairReserveSlot = o.knownPairReserveSlot := rfl

@[simp] theorem registerPairReserveSlot_knownTokens {pair : EVMAddress} {slot : EVMU256} :
    (o.registerPairReserveSlot pair slot).knownTokens = o.knownTokens := rfl

end Oracle

section

variable {fl : Flashloan} {addr : EVMAddress}

theorem onContractInsertion_knownPairReserveSlot (abi : List ABIConfig) (free : Bool) :
    (fl.onContractInsertion addr abi free).1.flashloanOracle.knownPairReserveSlot =
      fl.flashloanOracle.knownPairReserveSlot := by
  unfold Flashloan.onContractInsertion
  simp only [Flashloan.getTokenContext]
  rcases fl.endpoint with _ | e <;> cases free <;> split_ifs <;> rfl

/-- A first insertion registers the address with the context `get_token_context` gives when it
classifies it as an ERC-20, and leaves every other registration. -/
theorem mem_onContractInsertion_knownTokens (abi : List ABIConfig) (free : Bool)
    (h : addr ∉ fl.knownAddresses) (t : EVMAddress) (c : TokenContext) :
    (t, c) ∈ (fl.onContractInsertion addr abi free).1.flashloanOracle.knownTokens ↔
      erc20Verdict fl.endpoint abi free ∧ t = addr ∧ fl.getTokenContext addr = some c ∨
      (t, c) ∈ fl.flashloanOracle.knownTokens ∧ (erc20Verdict fl.endpoint abi free → t ≠ addr) := by
  simp only [Flashloan.onContractInsertion, h, if_false, erc20Verdict]
  rcases hE : fl.endpoint with _ | e <;>
    cases free <;> by_cases ht : abiSignaturesToken.all (abi.map (·.functionName)).contains <;>
    by_cases hp : abiSignaturesPair.all (abi.map (·.functionName)).contains <;>
    simp [Flashloan.getTokenContext, hE, ht, hp, @eq_comm _ c]

theorem getTokenContext_isSome (abi : List ABIConfig) (free : Bool) (hv : erc20Verdict fl.endpoint abi free = true) :
    (fl.getTokenContext addr).isSome := by
  simp only [erc20Verdict, Bool.and_eq_true] at hv
  obtain ⟨e, he⟩ := Option.isSome_iff_exists.1 hv.1.2
  simp [Flashloan.getTokenContext, he]

theorem getTokenContext_congr {fl' : Flashloan} (h : fl'.endpoint = fl.endpoint) :
    fl'.getTokenContext = fl.getTokenContext := by
  funext a; simp only [Flashloan.getTokenContext, h]

end

/-- The oracle holds a token context exactly for the ERC-20 addresses of the middleware, the
one `get_token_context` gives, and a reserve slot only for a pair of the middleware, the first
of the three slots its `getReserves()` reads. -/
def OracleAgrees (env : InitEnv) (fl : Flashloan) : Prop :=
  (∀ t, t ∈ fl.erc20Address ↔ ∃ c, (t, c) ∈ fl.flashloanOracle.knownTokens) ∧
  (∀ t c, (t, c) ∈ fl.flashloanOracle.knownTokens → fl.getTokenContext t = some c) ∧
  ∀ p s, (p, s) ∈ fl.flashloanOracle.knownPairReserveSlot →
    p ∈ fl.pairAddress ∧ ∃ s₁ s₂, env.reserveSlots p = [s, s₁, s₂]

namespace OracleAgrees

variable {env : InitEnv} {fl : Flashloan}

theorem onContractInsertion (addr : EVMAddress) (abi : List ABIConfig) (free : Bool)
    (h : OracleAgrees env fl) : OracleAgrees env (fl.onContractInsertion addr abi free).1 := by
  by_cases hk : addr ∈ fl.knownAddresses
  · rw [onContractInsertion_known hk]; exact h
  have hf := fun a => onContractInsertion_fresh abi free a hk
  have ho := mem_onContractInsertion_knownTokens abi free hk
  have hg := getTokenContext_congr (hf addr).2.1
  obtain ⟨h₁, h₂, h₃⟩ := h
  refine ⟨fun t => ?_, fun t c hc => ?_, fun p s hs => ?_⟩
  · rw [(hf t).2.2.1, h₁ t]
    simp only [ho t]
    by_cases hv : erc20Verdict fl.endpoint abi free = true
    · obtain ⟨c, hc⟩ := Option.isSome_iff_exists.1 (@getTokenContext_isSome _ addr abi free hv)
      by_cases ht : t = addr
      · simp [hv, ht, hc]
      · simp [hv, ht]
    · simp [hv]
  · rw [hg]
    rcases (ho t c).1 hc with ⟨-, rfl, hc⟩ | ⟨hc, -⟩
    exacts [hc, h₂ t c hc]
  · rw [onContractInsertion_knownPairReserveSlot] at hs
    obtain ⟨hp, hslots⟩ := h₃ p s hs
    exact ⟨(hf p).2.2.2.1.2 (.inl hp), hslots⟩

theorem onPairInsertion (pair : EVMAddress) (hp : pair ∈ fl.pairAddress) (h : OracleAgrees env fl) :
    OracleAgrees env (CorpusState.onPairInsertion env fl pair) := by
  unfold CorpusState.onPairInsertion
  split
  · rename_i slot s₁ s₂ hslots
    obtain ⟨h₁, h₂, h₃⟩ := h
    refine ⟨h₁, h₂, fun p s hs => ?_⟩
    rcases mem_registerPairReserveSlot_knownPairReserveSlot.1 hs with ⟨rfl, rfl⟩ | ⟨hs, -⟩
    exacts [⟨hp, s₁, s₂, hslots⟩, h₃ p s hs]
  · exact h

end OracleAgrees

namespace CorpusState

variable {env : InitEnv} {st : CorpusState}

theorem onContractInsertion_pair_mem {fl : Flashloan} {addr : EVMAddress} {abi : List ABIConfig} {free : Bool}
    (h : (fl.onContractInsertion addr abi free).2.2 = true) :
    addr ∈ (fl.onContractInsertion addr abi free).1.pairAddress := by
  by_cases hk : addr ∈ fl.knownAddresses
  · rw [onContractInsertion_known hk] at h; cases h
  obtain ⟨-, -, -, hp, hr⟩ := onContractInsertion_fresh abi free addr hk
  rw [hr] at h
  exact hp.2 (.inr ⟨h, rfl⟩)

/-- `handle_contract_insertion!` leaves the middleware as `on_contract_insertion` and, for a
pair, `on_pair_insertion` leave it. -/
theorem handleContractInsertion_flashloan (k : Nat) (addr : EVMAddress) (abi : List ABIConfig) :
    (handleContractInsertion env k st addr abi).flashloan = st.flashloan.map fun fl =>
      if (fl.onContractInsertion addr abi (env.oracleFree k)).2.2 then
        onPairInsertion env (fl.onContractInsertion addr abi (env.oracleFree k)).1 addr
      else (fl.onContractInsertion addr abi (env.oracleFree k)).1 := by
  unfold handleContractInsertion
  rcases hfl : st.flashloan with _ | fl
  · exact hfl
  simp only [Option.map_some']
  generalize fl.onContractInsertion addr abi (env.oracleFree k) = r
  obtain ⟨fl', e, p⟩ := r
  cases e <;> cases p <;> rfl

theorem addAbis_flashloan (addr : EVMAddress) : ∀ (abi : List ABIConfig) (st : CorpusState),
    (addAbis env addr abi st).flashloan = st.flashloan
  | [], _ => rfl
  | a :: abi, st => by
    cases hs : skipFunction a.functionName
    · rw [addAbis_cons_add hs, addAbis_flashloan addr abi, (@addAbi_borrows env st a addr).1]
    · rw [addAbis_cons_skip hs, addAbis_flashloan addr abi]

theorem corpusStep_flashloan (k : Nat) (c : ContractInfo) :
    (corpusStep env k st c).flashloan =
      (handleContractInsertion env k (recordArtifacts env st c (recoverAbi env c)) c.deployedAddress
        (recoverAbi env c)).flashloan := by
  show (if c.deployedAddress ∈ env.blacklist then _ else _ : CorpusState).flashloan = _
  split
  · rfl
  · exact addAbis_flashloan _ _ _

theorem corpusStep_oracleAgrees (k : Nat) (c : ContractInfo)
    (h : ∀ fl, st.flashloan = some fl → OracleAgrees env fl) :
    ∀ fl, (corpusStep env k st c).flashloan = some fl → OracleAgrees env fl := by
  rw [corpusStep_flashloan, handleContractInsertion_flashloan, recordArtifacts_flashloan]
  intro fl' hfl'
  obtain ⟨fl, hfl, rfl⟩ := Option.map_eq_some'.1 hfl'
  have h' := (h fl hfl).onContractInsertion c.deployedAddress (recoverAbi env c) (env.oracleFree k)
  split
  · exact h'.onPairInsertion _ (onContractInsertion_pair_mem ‹_›)
  · exact h'

end CorpusState

open CorpusState in
theorem initializeCorpusFrom_oracleAgrees (env : InitEnv) :
    ∀ (k : Nat) (cs : List ContractInfo) (st : CorpusState),
      (∀ fl, st.flashloan = some fl → OracleAgrees env fl) →
      ∀ fl, (initializeCorpusFrom env k cs st).flashloan = some fl → OracleAgrees env fl
  | _, [], _, h => h
  | k, c :: cs, _, h => initializeCorpusFrom_oracleAgrees env (k + 1) cs _ (corpusStep_oracleAgrees k c h)

theorem initializeCorpus_oracle_agrees (env : InitEnv) (cs : List ContractInfo) (st : CorpusState)
    (h₀ : ∀ fl, st.flashloan = some fl → OracleAgrees env fl) :
    ∀ fl, (initializeCorpus env cs st).flashloan = some fl → OracleAgrees env fl :=
  initializeCorpusFrom_oracleAgrees env 0 cs st h₀

/-- `getReserves()` of every contract reads the slots `5`, `6` and `7`; nothing else is asked. -/
def slotEnv : InitEnv := { failingEnv with reserveSlots := fun _ => [5, 6, 7] }

/-- The ERC-20 at `9` and a pair at `10` with `skim`, `sync` and `swap`. -/
def tokenAndPair : List ContractInfo :=
  [erc20Token, ⟨"Pair", [], [⟨"(address)", 0xbc25cf77, "skim", false, false, false⟩,
    ⟨"()", 0xfff6cae9, "sync", false, false, false⟩,
    ⟨"(uint256,uint256,address,bytes)", 0x022c0d9f, "swap", false, false, false⟩], true, 10⟩]

theorem initializeCorpus_oracle_agrees_tokenAndPair :
    (initializeCorpus slotEnv tokenAndPair borrowCorpus).flashloan.map
        (fun fl => (fl.flashloanOracle.knownTokens.map Prod.fst, fl.flashloanOracle.knownPairReserveSlot)) =
      some ([9], [(10, 5)]) ∧
    (∀ fl, borrowCorpus.flashloan = some fl → OracleAgrees slotEnv fl) ∧
    ∀ fl, (initializeCorpus slotEnv tokenAndPair borrowCorpus).flashloan = some fl → OracleAgrees slotEnv fl := by
  have h₀ : ∀ fl, borrowCorpus.flashloan = some fl → OracleAgrees slotEnv fl := by
    rintro _ ⟨⟩
    simp [OracleAgrees, borrowCorpus, emptyCorpus, Flashloan.new]
  exact ⟨by decide, h₀, initializeCorpus_oracle_agrees slotEnv tokenAndPair borrowCorpus h₀⟩

end ITY
