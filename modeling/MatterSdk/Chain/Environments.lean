import MatterSdk.Chain.FromEnvPorts

/-!
# One environment, four clients

What the clients of the four languages have in common: each is admitted to what it reads of the
variables, and they read the same unless a variable is set to nothing or to what only some of them
take for white space.
-/

namespace MatterSdk

open Connect (Network)

/-- The clients of an environment are those that its settings admit, in each language, and each
refusal that names a guard is that guard's. -/
theorem clients_admitted {ρ γ π τ ε : Type} (env : Env) (rust : Rust.Outside ρ) (go : Go.Outside γ)
    (python : Python.Outside π ε) (typescript : TypeScript.Outside τ)
    (config : TypeScript.MatterConfig) :
    Connect.Connects Rust.ConnectError.refusal (Rust.MatterClient.client rust) false rust.world
        (Rust.settings env) (Rust.fromEnv env rust) ∧
      Connect.Connects Go.refusalOf (Go.MatterClient.client go) false go.world
        (Go.settings env go) (Go.connectFromEnv env go) ∧
      Connect.Connects Python.ConnectError.refusal (Python.MatterClient.client python) false
        python.world (Python.settings env python) (Python.fromEnv env python) ∧
      Connect.Connects TypeScript.ConnectError.refusal (TypeScript.MatterClient.client typescript)
        true typescript.world (TypeScript.settings env config)
        (TypeScript.fromEnv env typescript config) :=
  ⟨Connect.connects_of_sim (Rust.fromEnv_connects env rust),
    Connect.connects_of_sim (Go.connectFromEnv_connects env go),
    Connect.connects_of_sim (Python.fromEnv_connects env python),
    Connect.connects_of_sim (TypeScript.fromEnv_connects env typescript config)⟩

/-! ### What they read -/

/-- The network that the value of a variable names, the testnet if there is none. -/
def namedNetwork : Option String → Option Network
  | none => some .testnet
  | some name =>
    if name = "testnet" then some .testnet else if name = "mainnet" then some .mainnet else none

/-- What a client reads that takes `space` for white space. -/
def settingsIn (space : Char → Bool) (env : Env) (rpcUrl : Option String) (network : Network) :
    Connect.Settings where
  network := network
  rpcUrl := rpcUrl
  key := (keyVar space env).map Prod.snd
  confirmed := env "MATTER_CONFIRM" = some "yes"
  principal := (trimmed space env "MATTER_PRINCIPAL").map String.ofList

theorem trim_nothing (space : Char → Bool) : Text.trim space "".toList = [] := rfl

/-- A variable that is set to nothing is passed over, like one that is not set. -/
theorem keyVar_getD (space : Char → Bool) (env : Env) :
    keyVar space (fun name => some ((env name).getD "")) = keyVar space env := by
  have each (names : List String) :
      firstSet space (fun name => some ((env name).getD "")) names = firstSet space env names := by
    induction names with
    | nil => rfl
    | cons name names ih =>
      simp only [firstSet]
      cases env name with
      | none => simp only [Option.getD_none, trim_nothing, if_true, ih]
      | some value => simp only [Option.getD_some, ih]
  exact each _

theorem trimmed_getD (space : Char → Bool) (env : Env) (name : String) :
    trimmed space (fun name => some ((env name).getD "")) name = trimmed space env name := by
  unfold trimmed
  cases read : env name with
  | none => simp [read, Text.trim]
  | some value => simp [read]

theorem Rust.settings_eq (env : Env) :
    Rust.settings env = (namedNetwork (env "MATTER_NETWORK")).map
      (settingsIn Text.isWhiteSpace env (env "MATTER_RPC_URL")) := by
  unfold Rust.settings Rust.envConfig namedNetwork
  cases env "MATTER_NETWORK" with
  | none => rfl
  | some name =>
    by_cases testnet : name = "testnet"
    · subst testnet
      rfl
    · by_cases mainnet : name = "mainnet"
      · subst mainnet
        rfl
      · simp only [testnet, mainnet, if_false]
        rfl

theorem Go.getenv_eq_iff (env : Env) (name : String) {value : String} (set_ : value ≠ "") :
    Go.getenv env name = value ↔ env name = some value := by
  unfold Go.getenv
  cases env name with
  | none => simpa using set_.symm
  | some _ => simp

theorem Go.settings_eq {γ : Type} (env : Env) (go : Go.Outside γ) :
    Go.settings env go = (namedNetwork ((env "MATTER_NETWORK").filter (· ≠ ""))).map
      (settingsIn Text.isWhiteSpace env ((env "MATTER_RPC_URL").filter (· ≠ ""))) := by
  have url : (if Go.getenv env "MATTER_RPC_URL" = "" then none
      else some (Go.getenv env "MATTER_RPC_URL")) = (env "MATTER_RPC_URL").filter (· ≠ "") := by
    unfold Go.getenv
    cases env "MATTER_RPC_URL" with
    | none => rfl
    | some value => by_cases empty : value = "" <;> simp [Option.filter, empty]
  have read (network : String) :
      Go.settingsOf env ⟨network, Go.getenv env "MATTER_RPC_URL", false⟩ =
        settingsIn Text.isWhiteSpace env ((env "MATTER_RPC_URL").filter (· ≠ ""))
          (Go.networkOf network) := by
    have confirm := Go.getenv_eq_iff env "MATTER_CONFIRM" (show "yes" ≠ "" by decide)
    simp only [Go.settingsOf, settingsIn, confirm, ← url, Bool.false_or]
    simp only [Go.getenv, keyVar_getD, trimmed_getD]
  unfold Go.settings Go.envConfig namedNetwork
  cases named : env "MATTER_NETWORK" with
  | none =>
    have unset : Go.getenv env "MATTER_NETWORK" = "" := by rw [Go.getenv, named, Option.getD_none]
    simp only [unset]
    exact congrArg some (read "")
  | some name =>
    have set_ : Go.getenv env "MATTER_NETWORK" = name := by
      rw [Go.getenv, named, Option.getD_some]
    simp only [set_]
    by_cases empty : name = ""
    · subst empty
      exact congrArg some (read "")
    · by_cases testnet : name = "testnet"
      · subst testnet
        exact congrArg some (read "testnet")
      · by_cases mainnet : name = "mainnet"
        · subst mainnet
          exact congrArg some (read "mainnet")
        · simp [Option.filter, empty, testnet, mainnet, Except.toOption]

theorem Python.settings_eq {π ε : Type} (env : Env) (python : Python.Outside π ε) :
    Python.settings env python = (namedNetwork (env "MATTER_NETWORK")).map
      (settingsIn Text.isPythonSpace env ((env "MATTER_RPC_URL").filter (· ≠ ""))) := by
  have read (network : String) : Python.settingsOf env network =
      settingsIn Text.isPythonSpace env ((env "MATTER_RPC_URL").filter (· ≠ ""))
        (Python.networkOf network) := by
    rw [Python.settingsOf, trimmed_getD, settingsIn]
  unfold Python.settings Python.envNetwork namedNetwork
  cases env "MATTER_NETWORK" with
  | none => exact congrArg some (read "testnet")
  | some name =>
    by_cases testnet : name = "testnet"
    · subst testnet
      exact congrArg some (read "testnet")
    · by_cases mainnet : name = "mainnet"
      · subst mainnet
        exact congrArg some (read "mainnet")
      · simp [testnet, mainnet, Except.toOption]

theorem TypeScript.settings_eq (env : Env) :
    TypeScript.settings env ⟨none, none, none⟩ = (namedNetwork (env "MATTER_NETWORK")).map
      (settingsIn Text.isEcmaSpace env (env "MATTER_RPC_URL")) := by
  unfold TypeScript.settings TypeScript.envConfig namedNetwork
  cases env "MATTER_NETWORK" with
  | none => rfl
  | some name =>
    by_cases testnet : name = "testnet"
    · subst testnet
      rfl
    · by_cases mainnet : name = "mainnet"
      · subst mainnet
        rfl
      · simp only [Option.getD_some, testnet, mainnet, if_false]
        rfl

/-! ### Where they read the same -/

/-- A variable is not set, or has no more than white space. -/
def blank (space : Char → Bool) (env : Env) (name : String) : Bool :=
  (env name).all fun value => value.toList.all space

theorem set_of_not_blank {space : Char → Bool} {env : Env} {name : String}
    (filled : blank space env name = false) : env name ≠ none := fun none_ => by
  simp [blank, none_] at filled

/-- The key that a client takes: of the first variable, unless that one is blank. -/
theorem keyVar_snd (space : Char → Bool) (env : Env) :
    (keyVar space env).map Prod.snd =
      if blank space env "MATTER_API_KEY" then
        if blank space env "MATTER_SIGNER_SEED" then none else env "MATTER_SIGNER_SEED"
      else env "MATTER_API_KEY" := by
  have step (name : String) (names : List String) :
      (firstSet space env (name :: names)).map Prod.snd =
        if blank space env name then (firstSet space env names).map Prod.snd else env name := by
    cases read : env name with
    | none => simp [firstSet, blank, read]
    | some value =>
      by_cases only : value.toList.all space <;>
        simp only [firstSet, blank, read, Text.trim_eq_nil_iff, Option.all_some, only, if_true,
          Option.map_some, Bool.false_eq_true, if_false]
  rw [keyVar, step, step]
  rfl

/-- Two notions of white space lead to one key exactly where they lead to one variable. -/
theorem keyVar_agree_iff (p q : Char → Bool) (env : Env) :
    (keyVar p env).map Prod.snd = (keyVar q env).map Prod.snd ↔
      blank p env "MATTER_API_KEY" = blank q env "MATTER_API_KEY" ∧
        (blank q env "MATTER_API_KEY" = true →
          blank p env "MATTER_SIGNER_SEED" = blank q env "MATTER_SIGNER_SEED") := by
  -- The second variable never stands in for the first: its value would be as blank.
  have apart (r : Char → Bool) (first : blank r env "MATTER_API_KEY" = true)
      (set_ : env "MATTER_API_KEY" ≠ none) :
      (if blank r env "MATTER_SIGNER_SEED" then none else env "MATTER_SIGNER_SEED") ≠
        env "MATTER_API_KEY" := by
    split_ifs with second
    · exact set_.symm
    · intro same
      exact second (by rw [blank, same, ← blank, first])
  rw [keyVar_snd, keyVar_snd]
  cases left : blank p env "MATTER_API_KEY" <;> cases right : blank q env "MATTER_API_KEY"
  · simp
  · simpa using (apart q right (set_of_not_blank left)).symm
  · simpa using apart p left (set_of_not_blank right)
  · cases left' : blank p env "MATTER_SIGNER_SEED" <;>
      cases right' : blank q env "MATTER_SIGNER_SEED"
    · simp
    · simpa using set_of_not_blank left'
    · simpa using (set_of_not_blank right').symm
    · simp

/-- What a client finds that takes `space` for white space is what one finds that goes by the
Unicode property. -/
structure FindsAlike (space : Char → Bool) (env : Env) : Prop where
  key : blank space env "MATTER_API_KEY" = blank Text.isWhiteSpace env "MATTER_API_KEY"
  seed : blank Text.isWhiteSpace env "MATTER_API_KEY" = true →
    blank space env "MATTER_SIGNER_SEED" = blank Text.isWhiteSpace env "MATTER_SIGNER_SEED"
  principal : trimmed space env "MATTER_PRINCIPAL" =
    trimmed Text.isWhiteSpace env "MATTER_PRINCIPAL"

/-- What some of the clients take for white space and others do not. -/
def disputed : List ℕ := [0x1C, 0x1D, 0x1E, 0x1F, 0x85, 0xFEFF]

theorem space_of_undisputed {c : Char} (plain : c.toNat ∉ disputed) :
    Text.isPythonSpace c = Text.isWhiteSpace c ∧ Text.isEcmaSpace c = Text.isWhiteSpace c := by
  simp only [disputed, List.mem_cons, List.not_mem_nil, or_false, not_or] at plain
  constructor
  · have inside : (0x1C ≤ c.toNat && c.toNat ≤ 0x1F) = false := by
      rw [Bool.and_eq_false_iff, decide_eq_false_iff_not, decide_eq_false_iff_not]
      omega
    rw [Text.isPythonSpace, inside, Bool.or_false]
  · simp [Text.isEcmaSpace, plain]

/-- Two notions find alike in texts without a character on which they differ. -/
theorem findsAlike_of_undisputed {space : Char → Bool} {env : Env}
    (same : ∀ name ∈ ["MATTER_API_KEY", "MATTER_SIGNER_SEED", "MATTER_PRINCIPAL"], ∀ value,
      env name = some value → ∀ c ∈ value.toList, space c = Text.isWhiteSpace c) :
    FindsAlike space env := by
  have blanks (name : String)
      (undisputed : ∀ value, env name = some value → ∀ c ∈ value.toList,
        space c = Text.isWhiteSpace c) :
      blank space env name = blank Text.isWhiteSpace env name := by
    unfold blank
    cases read : env name with
    | none => rfl
    | some value =>
      rw [Bool.eq_iff_iff, Option.all_some, Option.all_some, ← Text.trim_eq_nil_iff,
        ← Text.trim_eq_nil_iff, Text.trim_congr (undisputed value read)]
  refine ⟨blanks _ (same _ (by simp)), fun _ => blanks _ (same _ (by simp)), ?_⟩
  unfold trimmed
  cases read : env "MATTER_PRINCIPAL" with
  | none => rfl
  | some value =>
    rw [Option.map_some, Option.map_some, Text.trim_congr (same _ (by simp) value read)]

theorem settingsIn_eq_iff (space : Char → Bool) (env : Env) (url url' : Option String)
    (network : Network) :
    settingsIn space env url network = settingsIn Text.isWhiteSpace env url' network ↔
      url = url' ∧ FindsAlike space env := by
  have texts : Function.Injective (Option.map String.ofList) :=
    Option.map_injective fun _ _ same => by simpa using congrArg String.toList same
  rw [settingsIn, settingsIn, Connect.Settings.mk.injEq, keyVar_agree_iff, texts.eq_iff]
  constructor
  · rintro ⟨-, url, ⟨key, seed⟩, -, principal⟩
    exact ⟨url, key, seed, principal⟩
  · rintro ⟨url, key, seed, principal⟩
    exact ⟨rfl, url, ⟨key, seed⟩, rfl, principal⟩

theorem filter_eq_self_iff (value : Option String) :
    value.filter (· ≠ "") = value ↔ value ≠ some "" := by
  cases value with
  | none => simp
  | some text => by_cases empty : text = "" <;> simp [Option.filter, empty]

theorem map_settingsIn_eq_iff (space : Char → Bool) (env : Env) (url url' : Option String)
    (named : Option Network) :
    named.map (settingsIn space env url) = named.map (settingsIn Text.isWhiteSpace env url') ↔
      (named ≠ none → url = url' ∧ FindsAlike space env) := by
  cases named with
  | none => simp
  | some network => simp [settingsIn_eq_iff]

/-- The clients of the four languages read the same of the variables, the TypeScript client being
told no more than they say. -/
structure SettingsAgree {γ π ε : Type} (env : Env) (go : Go.Outside γ)
    (python : Python.Outside π ε) : Prop where
  go : Go.settings env go = Rust.settings env
  python : Python.settings env python = Rust.settings env
  typescript : TypeScript.settings env ⟨none, none, none⟩ = Rust.settings env

theorem settingsAgree_of_finds {γ π ε : Type} (env : Env) (go : Go.Outside γ)
    (python : Python.Outside π ε) :
    SettingsAgree env go python ↔
      env "MATTER_NETWORK" ≠ some "" ∧
        (namedNetwork (env "MATTER_NETWORK") ≠ none →
          env "MATTER_RPC_URL" ≠ some "" ∧ FindsAlike Text.isPythonSpace env ∧
            FindsAlike Text.isEcmaSpace env) := by
  constructor
  · rintro ⟨go, python, typescript⟩
    rw [Go.settings_eq, Rust.settings_eq] at go
    rw [Python.settings_eq, Rust.settings_eq, map_settingsIn_eq_iff] at python
    rw [TypeScript.settings_eq, Rust.settings_eq, map_settingsIn_eq_iff] at typescript
    refine ⟨fun empty => ?_, fun known => ?_⟩
    · simp [empty, namedNetwork, Option.filter] at go
    · exact ⟨(filter_eq_self_iff _).mp (python known).1, (python known).2, (typescript known).2⟩
  · rintro ⟨network, alike⟩
    have url (known : namedNetwork (env "MATTER_NETWORK") ≠ none) :=
      (filter_eq_self_iff _).mpr (alike known).1
    constructor
    · rw [Go.settings_eq, Rust.settings_eq, (filter_eq_self_iff _).mpr network,
        map_settingsIn_eq_iff]
      exact fun known => ⟨url known, ⟨rfl, fun _ => rfl, rfl⟩⟩
    · rw [Python.settings_eq, Rust.settings_eq, map_settingsIn_eq_iff]
      exact fun known => ⟨url known, (alike known).2.1⟩
    · rw [TypeScript.settings_eq, Rust.settings_eq, map_settingsIn_eq_iff]
      exact fun known => ⟨rfl, (alike known).2.2⟩

/-- They do exactly when the network is not set to nothing and, if it is one that they know, the
endpoint is not either and they find alike; which they do where no variable has a character that they
dispute. -/
theorem settingsAgree_iff {γ π ε : Type} (env : Env) (go : Go.Outside γ)
    (python : Python.Outside π ε) :
    (SettingsAgree env go python ↔
      env "MATTER_NETWORK" ≠ some "" ∧
        (namedNetwork (env "MATTER_NETWORK") ≠ none →
          env "MATTER_RPC_URL" ≠ some "" ∧ FindsAlike Text.isPythonSpace env ∧
            FindsAlike Text.isEcmaSpace env)) ∧
      ((∀ name ∈ ["MATTER_API_KEY", "MATTER_SIGNER_SEED", "MATTER_PRINCIPAL"], ∀ value,
          env name = some value → ∀ c ∈ value.toList, c.toNat ∉ disputed) →
        (SettingsAgree env go python ↔
          env "MATTER_NETWORK" ≠ some "" ∧
            (namedNetwork (env "MATTER_NETWORK") ≠ none → env "MATTER_RPC_URL" ≠ some ""))) := by
  refine ⟨settingsAgree_of_finds env go python, fun plain => ?_⟩
  have python_ : FindsAlike Text.isPythonSpace env := findsAlike_of_undisputed
    fun name listed value read c inside =>
      (space_of_undisputed (plain name listed value read c inside)).1
  have ecma : FindsAlike Text.isEcmaSpace env := findsAlike_of_undisputed
    fun name listed value read c inside =>
      (space_of_undisputed (plain name listed value read c inside)).2
  rw [settingsAgree_of_finds]
  simp only [python_, ecma, and_self, and_true]

/-- The same variables and the same chain make the same client, in whatever language. -/
theorem clients_alike {ρ γ π τ ε : Type} {env : Env} (rust : Rust.Outside ρ) {go : Go.Outside γ}
    {python : Python.Outside π ε} (typescript : TypeScript.Outside τ)
    (agree : SettingsAgree env go python)
    (alike : ∀ s, Rust.settings env = some s → Connect.Alike s go.world rust.world ∧
      Connect.Alike s python.world rust.world ∧ Connect.Alike s typescript.world rust.world)
    (c : Connect.Client) :
    ((∃ own, Go.connectFromEnv env go = .ok own ∧ own.client go = c) ↔
        ∃ own, Rust.fromEnv env rust = .ok own ∧ own.client rust = c) ∧
      ((∃ own, Python.fromEnv env python = .ok own ∧ own.client python = c) ↔
        ∃ own, Rust.fromEnv env rust = .ok own ∧ own.client rust = c) ∧
      ((∃ own, TypeScript.fromEnv env typescript ⟨none, none, none⟩ = .ok own ∧
          own.client typescript = c) ↔
        ∃ own, Rust.fromEnv env rust = .ok own ∧ own.client rust = c) := by
  have admitted {w : Connect.World}
      (same : ∀ s, Rust.settings env = some s → Connect.Alike s w rust.world) :
      (∃ s, Rust.settings env = some s ∧ Connect.Admitted w s c) ↔
        ∃ s, Rust.settings env = some s ∧ Connect.Admitted rust.world s c :=
    exists_congr fun s => and_congr_right fun read => Connect.admitted_congr (same s read) c
  have goMade := (Connect.connects_of_sim (Go.connectFromEnv_connects env go)).made c
  have pythonMade := (Connect.connects_of_sim (Python.fromEnv_connects env python)).made c
  have typescriptMade := (Connect.connects_of_sim
    (TypeScript.fromEnv_connects env typescript ⟨none, none, none⟩)).made c
  rw [agree.go] at goMade
  rw [agree.python] at pythonMade
  rw [agree.typescript] at typescriptMade
  rw [(Connect.connects_of_sim (Rust.fromEnv_connects env rust)).made c]
  exact ⟨goMade.trans (admitted fun s read => (alike s read).1),
    pythonMade.trans (admitted fun s read => (alike s read).2.1),
    typescriptMade.trans (admitted fun s read => (alike s read).2.2)⟩

/-- Nothing is set but a key. -/
def keyOnly : Env := fun name => if name = "MATTER_API_KEY" then some "//Alice" else none

def memberGrant : Session.Grant := (List.replicate 32 2, .all)

/-- A chain on which the key acts for a member with all scopes. -/
def Rust.memberChain : Rust.Outside Unit where
  hex := hexCrate
  parseKey _ := .ok ()
  accountId _ := List.replicate 32 1
  dial _ := .ok ⟨[], 0, .ok "Matter Testnet", .ok [("tokenSymbol", .str "UNIT")], .ok (some 1)⟩
  lookup _ _ := .ok (some memberGrant)
  ss58 _ := none

def Go.memberChain : Go.Outside Unit where
  newApiKey _ := .ok ()
  accountID _ := List.replicate 32 1
  open_ _ := .ok ⟨"0x", "Matter Testnet", "UNIT"⟩
  agentKey _ _ := .ok (some ⟨memberGrant.1, memberGrant.2⟩)
  ss58Decode _ := none
  quote := id

def Python.memberChain : Python.Outside Unit Unit where
  apiKey _ := .ok ()
  accountId _ := List.replicate 32 1
  open_ _ := .ok ⟨"0x", "Matter Testnet", "UNIT"⟩
  agentKey _ _ := .ok (some (memberGrant.1, memberGrant.2.bits))
  ss58Decode _ := none
  repr := id

def TypeScript.memberChain : TypeScript.Outside Unit where
  apiKey _ := .ok ()
  accountId _ := List.replicate 32 1
  create _ := .ok ()
  properties _ := .ok ⟨"0x", "Matter Testnet", "UNIT"⟩
  agentKey _ _ := .ok (some (memberGrant.1, memberGrant.2.bits))
  accountId32 _ := .error "Invalid"

def memberClient : Connect.Client where
  url := "wss://node2.testnet.openmatter.network"
  mainnet := false
  account := some (List.replicate 32 1)
  held := some memberGrant

theorem clients_alike_member :
    (∃ own, Go.connectFromEnv keyOnly Go.memberChain = .ok own ∧
        own.client Go.memberChain = memberClient) ∧
      (∃ own, Python.fromEnv keyOnly Python.memberChain = .ok own ∧
        own.client Python.memberChain = memberClient) ∧
      ∃ own, TypeScript.fromEnv keyOnly TypeScript.memberChain ⟨none, none, none⟩ = .ok own ∧
        own.client TypeScript.memberChain = memberClient := by
  have agree : SettingsAgree keyOnly Go.memberChain Python.memberChain :=
    ⟨by decide, by decide, by decide⟩
  have read : Rust.settings keyOnly = some ⟨.testnet, none, some "//Alice", false, none⟩ := by decide
  have made : ∃ own, Rust.fromEnv keyOnly Rust.memberChain = .ok own ∧
      own.client Rust.memberChain = memberClient := ⟨_, rfl, rfl⟩
  obtain ⟨go, python, typescript⟩ := clients_alike Rust.memberChain TypeScript.memberChain agree
    (fun s told => by
      obtain rfl : _ = s := Option.some.inj (read.symm.trans told)
      exact ⟨⟨fun _ _ => rfl, fun _ _ => rfl, nofun, fun _ _ _ _ => rfl⟩,
        ⟨fun _ _ => rfl, fun _ _ => rfl, nofun, fun _ _ _ _ => rfl⟩,
        ⟨fun _ _ => rfl, fun _ _ => rfl, nofun, fun _ _ _ _ => rfl⟩⟩) memberClient
  exact ⟨go.mpr made, python.mpr made, typescript.mpr made⟩

end MatterSdk
