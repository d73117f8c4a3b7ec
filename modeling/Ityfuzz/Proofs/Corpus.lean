import Ityfuzz.Sanity.Corpus

/-! What `initialize(loader)` leaves in the corpus, the artifacts and the middleware. The corpus
gains exactly the seeds the spec lists, with at most one borrow per address however many entries
share it (`initializeCorpus_adds_seeds`). A deployment that fails only `continue`s the loop of
`initialize_contract`: the entry stays in the loader, and the separate loop of
`initialize_corpus` records it, seeds it and hands it to the middleware like any other
(`initializeAll_walks_failed_deploy`). -/

namespace ITY

open CorpusState

theorem initializeContractFrom_get_failed (env : InitEnv) {c : ContractInfo}
    (hdep : c.isCodeDeployed = false) :
    ∀ (k : Nat) (cs : List ContractInfo) (i : Nat), cs.get? i = some c → env.deploy (k + i) c = none →
      (initializeContractFrom env k cs).get? i = some c
  | _, [], _, h, _ => absurd h (by simp)
  | k, d :: cs, 0, h, hfail => by
    cases h
    rw [Nat.add_zero] at hfail
    simp [initializeContractFrom, hdep, hfail]
  | k, d :: cs, i + 1, h, hfail => by
    rw [initializeContractFrom, List.get?_cons_succ]
    exact initializeContractFrom_get_failed env hdep (k + 1) cs i h (by rw [← hfail]; congr 1; omega)

theorem initializeCorpus_adds_seeds (env : InitEnv) (cs : List ContractInfo) (st : CorpusState) :
    (initializeCorpus env cs st).corpus.map EVMInput.seed =
      st.corpus.map EVMInput.seed ++ initialSeeds env st.middleware 0 cs ∧
    (∀ t, (initialSeeds env st.middleware 0 cs).count (borrowSeed t) ≤ 1) ∧
    ∀ c ∈ cs, c.deployedAddress ∉ env.blacklist → ∀ a ∈ recoverAbi env c, a.isConstructor = false →
      skipFunction a.functionName = false →
        c.deployedAddress ∈ (initializeCorpus env cs st).hashToAddress a.function :=
  ⟨initializeCorpusFrom_seeds env 0 cs st, fun t => initialSeeds_count_borrow_le env t _ 0 cs,
    fun _ hc => (initializeCorpusFrom_entry env 0 cs st hc).2.2⟩

/-- The `i`-th entry, whose deployment failed, is still walked by `initialize_corpus`: its
address is a key of the three artifact maps, the middleware has seen it, and each of its
seedable functions is seeded at it unless it is blacklisted. -/
theorem initializeAll_walks_failed_deploy (env : InitEnv) (contracts : List ContractInfo)
    (st : CorpusState) (i : Nat) (c : ContractInfo) (hc : contracts.get? i = some c)
    (hdep : c.isCodeDeployed = false) (hfail : env.deploy i c = none) :
    Recorded (initializeAll env contracts st) c.deployedAddress ∧
    (∀ m, st.middleware = some m →
      ∃ m', (initializeAll env contracts st).middleware = some m' ∧ c.deployedAddress ∈ m'.2) ∧
    (c.deployedAddress ∉ env.blacklist → ∀ a ∈ recoverAbi env c, seedable a = true →
      abiSeed c.deployedAddress a ∈ (initializeAll env contracts st).corpus.map EVMInput.seed) := by
  have hmem : c ∈ initializeContract env contracts :=
    List.get?_mem (initializeContractFrom_get_failed env hdep 0 contracts i hc (by rw [Nat.zero_add, hfail]))
  obtain ⟨hrec, hknown, -⟩ := initializeCorpusFrom_entry env 0 _ st hmem
  refine ⟨hrec, hknown, fun hb a ha hs => ?_⟩
  rw [initializeAll, initializeCorpus, initializeCorpusFrom_seeds, List.mem_append]
  exact Or.inr (abiSeed_mem_initialSeeds env hb ha hs _ 0 _ hmem)

/-- A loader with one contract at `7`, not yet deployed, whose ABI is `transfer(address,uint256)`. -/
def undeployedToken : ContractInfo :=
  ⟨"Token", [], [⟨"(address,uint256)", 0xa9059cbb, "transfer", false, false, false⟩], false, 7⟩

/-- Every deployment fails; nothing else is asked. -/
def failingEnv : InitEnv :=
  ⟨fun _ _ => none, fun _ => none, fun _ => [], fun _ => [], fun _ => none, [], fun _ => true,
    fun _ => [], fun _ => 0⟩

def emptyCorpus : CorpusState :=
  ⟨[], fun _ => [], some (Flashloan.new none ⟨[], []⟩), ⟨fun _ => none, fun _ => none, fun _ => [],
    fun _ => none⟩⟩

theorem initializeAll_walks_failed_deploy_sample :
    [undeployedToken].get? 0 = some undeployedToken ∧ undeployedToken.isCodeDeployed = false ∧
    failingEnv.deploy 0 undeployedToken = none ∧
    (initializeAll failingEnv [undeployedToken] emptyCorpus).corpus.map (·.contract) = [7] ∧
    Recorded (initializeAll failingEnv [undeployedToken] emptyCorpus) 7 ∧
    (∀ m, emptyCorpus.middleware = some m → ∃ m',
      (initializeAll failingEnv [undeployedToken] emptyCorpus).middleware = some m' ∧ 7 ∈ m'.2) ∧
    ((7 : EVMAddress) ∉ failingEnv.blacklist → ∀ a ∈ recoverAbi failingEnv undeployedToken,
      seedable a = true →
        abiSeed 7 a ∈ (initializeAll failingEnv [undeployedToken] emptyCorpus).corpus.map EVMInput.seed) :=
  ⟨rfl, rfl, rfl, by decide,
    initializeAll_walks_failed_deploy failingEnv [undeployedToken] emptyCorpus 0 undeployedToken rfl rfl rfl⟩

theorem unknownSigs_eq (env : InitEnv) (sigs : List (BitVec 32)) :
    (sigs.filter fun s => (env.abiMap s).isNone).length =
      sigs.length - (sigs.filter fun s => (env.abiMap s).isSome).length := by
  have h := sigs.length_eq_length_filter_add fun s => (env.abiMap s).isSome
  simp only [Option.bnot_isSome] at h
  omega

/-- The ABI recovered for a contract with an empty ABI, whose code holds `N` selectors of which
`K` are keys of the `ABIMap`: Heimdall's answer, each entry replaced by its `ABIMap` entry,
exactly when `30 * (N - K) + 30 > N` (the code's `unknown_sigs >= sigs.len() / 30`), and
otherwise the `ABIMap` entries of the known selectors in order. -/
theorem recoverAbi_threshold (env : InitEnv) (c : ContractInfo) (hc : c.abi = []) :
    recoverAbi env c =
      if 30 * ((env.extractSigs c.code).length -
          ((env.extractSigs c.code).filter fun s => (env.abiMap s).isSome).length) + 30 >
          (env.extractSigs c.code).length then
        (env.fetchAbiHeimdall c.code).map fun a => (env.abiMap a.function).getD a
      else (env.extractSigs c.code).filterMap env.abiMap := by
  simp only [recoverAbi, hc, List.isEmpty_nil, if_true, unknownSigs_eq]
  congr 1
  exact propext (by omega)

def oneSelectorToken : ContractInfo := ⟨"Token", [0x00], [], true, 7⟩

/-- The `ABIMap` knows `transfer`, the code's one selector; Heimdall answers nothing. -/
def oneSelectorEnv : InitEnv :=
  ⟨fun _ _ => none, fun _ => none, fun _ => [0xa9059cbb], fun _ => [],
    fun s => if s = 0xa9059cbb then some ⟨"(address,uint256)", 0xa9059cbb, "transfer", false, false, false⟩
      else none,
    [], fun _ => true, fun _ => [], fun _ => 0⟩

theorem recoverAbi_threshold_one_selector :
    oneSelectorToken.abi = [] ∧
    recoverAbi oneSelectorEnv oneSelectorToken =
      (if 30 * ((oneSelectorEnv.extractSigs oneSelectorToken.code).length -
          ((oneSelectorEnv.extractSigs oneSelectorToken.code).filter
            fun s => (oneSelectorEnv.abiMap s).isSome).length) + 30 >
          (oneSelectorEnv.extractSigs oneSelectorToken.code).length then
        (oneSelectorEnv.fetchAbiHeimdall oneSelectorToken.code).map
          fun a => (oneSelectorEnv.abiMap a.function).getD a
      else (oneSelectorEnv.extractSigs oneSelectorToken.code).filterMap oneSelectorEnv.abiMap) ∧
    recoverAbi oneSelectorEnv oneSelectorToken = [] ∧
    (oneSelectorEnv.extractSigs oneSelectorToken.code).filterMap oneSelectorEnv.abiMap ≠ [] :=
  ⟨rfl, recoverAbi_threshold oneSelectorEnv oneSelectorToken rfl, by decide, by decide⟩

end ITY
