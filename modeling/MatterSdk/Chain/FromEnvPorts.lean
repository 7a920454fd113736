import MatterSdk.Chain.FromEnv
import MatterSdk.Chain.GoClient
import MatterSdk.Chain.PythonClient
import MatterSdk.Chain.TypeScriptClient

/-!
# Clients of an environment, in four languages

The ports of `from_env`.  Each is a connect to the settings that it reads, the TypeScript one an eager
one.
-/

namespace MatterSdk

open Connect (Network)

namespace Go

structure Config where
  network : String
  rpcUrl : String
  confirmMainnet : Bool

/-- What the guards look at in a `ChainProperties`. -/
structure ChainProperties where
  genesisHash : String
  chainName : String
  tokenSymbol : String

/-- The parser of keys, the libraries and the endpoints. -/
structure Outside (κ : Type) where
  newApiKey : String → Except Foreign κ
  accountID : κ → Bytes
  /-- `NewChainClient` with `readProperties`. -/
  open_ : String → Except { err : Error // err.kind = none ∨ err.kind = some .chain } ChainProperties
  agentKey : String → Bytes → Except Foreign (Option Delegation)
  /-- `SS58Decode`. -/
  ss58Decode : String → Option Bytes
  quote : String → String

structure MatterClient (κ : Type) where
  url : String
  apiKey : Option κ
  properties : ChainProperties
  delegation : Option Delegation

def testnetRPC : String := "wss://node2.testnet.openmatter.network"

def mainnetRPC : String := "wss://node2.mainnet.openmatter.network"

/-- `network`. -/
def Config.networkName (c : Config) : String := if c.network = "" then "testnet" else c.network

def ChainProperties.isMainnet (p : ChainProperties) : Bool × String :=
  if p.genesisHash = "0x" ++ testnetGenesis then (false, "genesis-hash")
  else (p.tokenSymbol = mainnetTokenSymbol, "token-symbol")

section

variable {κ : Type} (env : Env) (d : Outside κ)

/-- `os.Getenv`. -/
def getenv (name : String) : String := (env name).getD ""

def Config.resolveURL (c : Config) : Except Error String :=
  if c.rpcUrl ≠ "" then .ok c.rpcUrl
  else if c.network = "" ∨ c.network = "testnet" then .ok testnetRPC
  else if c.network = "mainnet" then .ok mainnetRPC
  else .error (chainErrorf .config "" ("network " ++ d.quote c.network ++
    " requires an explicit RPCURL"))

def enforceNetworkGuards (c : Config) (signs : Bool) (p : ChainProperties) : Except Error Unit :=
  networkGuards (c.networkName = "testnet") signs
    (c.confirmMainnet || getenv env "MATTER_CONFIRM" = "yes") p.isMainnet
    (chainErrorf .wrongNetwork "" ("expected the testnet network but the endpoint serves " ++
      d.quote p.chainName))
    fun detectedVia => chainErrorf .mainnetNotConfirmed "" ("refusing to build a signing client " ++
      "against mainnet " ++ d.quote p.chainName ++ " (detected via " ++ detectedVia ++ ") without " ++
      "explicit confirmation: set MATTER_CONFIRM=yes or Config.ConfirmMainnet. This client can " ++
      "spend real funds")

def decodeAccountText (text : List Char) : Except Error Bytes :=
  let bad := Error.plain "MATTER_PRINCIPAL is neither 0x-prefixed hex nor a valid SS58 address"
  match text with
  | '0' :: 'x' :: hexBody =>
    match hexPairs (utf8 hexBody) with
    | .ok raw => if raw.length = 32 then .ok raw else .error bad
    | .error _ => .error bad
  | text =>
    match d.ss58Decode (String.ofList text) with
    | some raw => if raw.length = 32 then .ok raw else .error bad
    | none => .error bad

def resolveDelegation (url : String) (account : Bytes) : Except Error (Option Delegation) :=
  match trimmed Text.isWhiteSpace (fun name => some (getenv env name)) "MATTER_PRINCIPAL" with
  | some override => (decodeAccountText d override).map fun principal => some ⟨principal, .all⟩
  | none => seen (d.agentKey url account)

def build (c : Config) (apiKey : Option κ) : Except Error (MatterClient κ) := do
  let url ← c.resolveURL d
  let properties ← (d.open_ url).mapError Subtype.val
  enforceNetworkGuards env d c apiKey.isSome properties
  match apiKey with
  | none => return ⟨url, none, properties, none⟩
  | some key => return ⟨url, some key, properties, ← resolveDelegation env d url (d.accountID key)⟩

/-- `ConnectFromEnv`, up to the key. -/
def envConfig : Except Error Config :=
  let network := getenv env "MATTER_NETWORK"
  if network ≠ "" ∧ network ≠ "testnet" ∧ network ≠ "mainnet" then
    .error (chainErrorf .config "" ("MATTER_NETWORK must be " ++ d.quote "testnet" ++ " or " ++
      d.quote "mainnet" ++ ", got " ++ d.quote network))
  else .ok ⟨network, getenv env "MATTER_RPC_URL", false⟩

/-- The loop of `ConnectFromEnv`. -/
def envApiKey : Except Error (Option κ) :=
  match keyVar Text.isWhiteSpace (fun name => some (getenv env name)) with
  | some (name, value) =>
    match d.newApiKey value with
    | .error err => .error (wrapf ("parsing the key from " ++ name) err)
    | .ok key => .ok (some key)
  | none => .ok none

/-- `ConnectFromEnv`. -/
def connectFromEnv : Except Error (MatterClient κ) := do
  let config ← envConfig env d
  let key ← envApiKey env d
  build env d config key

end

/-! ### As a connect -/

/-- Why a connect failed. -/
def refusalOf (err : Error) : Connect.Refusal :=
  match err.kind with
  | some .wrongNetwork => .wrongNetwork
  | some .mainnetNotConfirmed => .mainnetNotConfirmed
  | _ => .other

/-- The network that is named, nothing being the testnet. -/
def networkOf (name : String) : Network :=
  if name = "" ∨ name = "testnet" then .testnet else if name = "mainnet" then .mainnet else .custom

def settingsOf (env : Env) (c : Config) : Connect.Settings where
  network := networkOf c.network
  rpcUrl := if c.rpcUrl = "" then none else some c.rpcUrl
  key := (keyVar Text.isWhiteSpace (fun name => some (getenv env name))).map Prod.snd
  confirmed := c.confirmMainnet || getenv env "MATTER_CONFIRM" = "yes"
  principal := (trimmed Text.isWhiteSpace (fun name => some (getenv env name))
    "MATTER_PRINCIPAL").map String.ofList

def settings {κ : Type} (env : Env) (d : Outside κ) : Option Connect.Settings :=
  (envConfig env d).toOption.map (settingsOf env)

def Outside.world {κ : Type} (d : Outside κ) : Connect.World where
  account text := (d.newApiKey text).toOption.map d.accountID
  mainnet url := (d.open_ url).toOption.map (·.isMainnet.1)
  principal text := (decodeAccountText d text.toList).toOption
  grant url account := (d.agentKey url account).toOption.map (Option.map Delegation.grant)

def MatterClient.client {κ : Type} (d : Outside κ) (c : MatterClient κ) : Connect.Client where
  url := c.url
  mainnet := c.properties.isMainnet.1
  account := c.apiKey.map d.accountID
  held := c.delegation.map Delegation.grant

section

variable {κ : Type} (env : Env) (d : Outside κ)

theorem foreign_refusal (err : Foreign) : refusalOf err = .other := by
  rw [refusalOf, err.2]

theorem decodeAccountText_refusal (text : List Char) (err : Error)
    (failed : decodeAccountText d text = .error err) : refusalOf err = .other := by
  unfold decodeAccountText at failed
  split at failed
  · split at failed
    · split_ifs at failed
      cases failed
      rfl
    · cases failed
      rfl
  · split at failed
    · split_ifs at failed
      cases failed
      rfl
    · cases failed
      rfl

theorem sim_resolve (c : Config) (url : String) (account : Bytes) :
    Checks.Sim (fun held held' => held.map Delegation.grant = held')
      (fun err e => refusalOf err = e) (resolveDelegation env d url account)
      (Connect.resolve d.world (settingsOf env c) url (some account)) := by
  have found : Checks.Sim (fun held held' => held.map Delegation.grant = held')
      (fun err e => refusalOf err = e) (seen (d.agentKey url account))
      (Connect.need (d.world.grant url account)) := by
    simp only [Outside.world]
    cases d.agentKey url account with
    | error err => exact .error (foreign_refusal err)
    | ok found => exact .ok rfl
  have known (l : List Char) :
      d.world.principal (String.ofList l) = (decodeAccountText d l).toOption := by
    simp only [Outside.world, String.toList_ofList]
  exact sim_resolving (settingsOf env c)
    (trimmed Text.isWhiteSpace (fun name => some (getenv env name)) "MATTER_PRINCIPAL")
    (decodeAccountText d) (fun principal => some ⟨principal, .all⟩) (Option.map Delegation.grant)
    known (decodeAccountText_refusal d) (fun _ => rfl) found rfl

theorem sim_key (c : Config) :
    Checks.Sim (fun key account => key.map d.accountID = account) (fun err e => refusalOf err = e)
      (envApiKey env d) (Connect.signing d.world (settingsOf env c)) := by
  simp only [envApiKey, Connect.signing, settingsOf]
  cases keyVar Text.isWhiteSpace (fun name => some (getenv env name)) with
  | none => exact .ok rfl
  | some var =>
    simp only [Option.map_some, Outside.world]
    cases d.newApiKey var.2 with
    | error err => exact .error (foreign_refusal err)
    | ok key => exact .ok rfl

theorem sim_url (c : Config) :
    Checks.Sim (fun url url' => url = url') (fun err e => refusalOf err = e) (c.resolveURL d)
      (Connect.need (settingsOf env c).url) := by
  simp only [Config.resolveURL, Connect.Settings.url, settingsOf, networkOf]
  by_cases given : c.rpcUrl = ""
  · by_cases testnet : c.network = "" ∨ c.network = "testnet"
    · simp only [given, testnet]
      exact .ok rfl
    · by_cases mainnet : c.network = "mainnet"
      · simp only [given, mainnet]
        exact .ok rfl
      · simp only [given, testnet, mainnet]
        exact .error rfl
  · simp only [given, ne_eq, not_false_eq_true, if_true, if_false]
    exact .ok rfl

theorem networkName_testnet (c : Config) :
    decide (c.networkName = "testnet") = decide (networkOf c.network = .testnet) := by
  unfold Config.networkName networkOf
  by_cases unset : c.network = ""
  · simp [unset]
  · by_cases testnet : c.network = "testnet" <;> by_cases mainnet : c.network = "mainnet" <;>
      simp [unset, testnet, mainnet]

/-- The client of an environment is that of its settings. -/
theorem connectFromEnv_connects :
    Checks.Sim (fun c c' => c.client d = c') (fun err e => refusalOf err = e)
      (connectFromEnv env d) (Connect.need (settings env d) >>= Connect.connect false d.world) := by
  have unconfigured (err : Error) (failed : envConfig env d = .error err) :
      refusalOf err = .other := by
    simp only [envConfig] at failed
    split_ifs at failed
    cases failed
    rfl
  have plain (err : { err : Error // err.kind = none ∨ err.kind = some .chain }) :
      refusalOf err.val = .other := by
    rcases err.2 with none_ | chain
    · rw [refusalOf, none_]
    · rw [refusalOf, chain]
  refine (sim_need (settingsOf env) unconfigured).bind ?_
  rintro c _ rfl
  refine (sim_key env d c).bind ?_
  rintro key _ rfl
  refine (sim_url env d c).bind ?_
  rintro url _ rfl
  refine (sim_need_mapError Subtype.val (fun p : ChainProperties => p.isMainnet.1) plain).bind ?_
  rintro properties _ rfl
  simp only [Bool.false_eq_true, if_false, Option.isSome_map]
  refine (sim_guards (settingsOf env c) key.isSome properties.isMainnet (networkName_testnet c) rfl
    fun _ => rfl).bind ?_
  rintro - - -
  cases key with
  | none => exact .ok rfl
  | some key =>
    refine (sim_resolve env d c url (d.accountID key)).bind ?_
    rintro held _ rfl
    exact .ok rfl

end

end Go

namespace Python

/-- What a connect raises: one of the errors of a configuration, with its message, or another. -/
inductive ConnectError (ε : Type) where
  | config (message : String)
  | wrongNetwork (message : String)
  | mainnetNotConfirmed (message : String)
  | valueError (message : String)
  | other (e : ε)

/-- What the guards look at in a `ChainProperties`. -/
structure ChainProperties where
  genesisHash : String
  chainName : String
  tokenSymbol : String

/-- The parser of keys, the libraries and the endpoints. -/
structure Outside (κ ε : Type) where
  apiKey : String → Except ε κ
  accountId : κ → Bytes
  /-- `ChainClient` with `_read_properties`. -/
  open_ : String → Except ε ChainProperties
  agentKey : String → Bytes → Except ε (Option (Bytes × BitVec 32))
  ss58Decode : String → Option Bytes
  repr : String → String

structure MatterClient (κ : Type) where
  url : String
  apiKey : Option κ
  properties : ChainProperties
  mode : Mode

def ChainProperties.isMainnet (p : ChainProperties) : Bool × String :=
  if p.genesisHash = "0x" ++ testnetGenesis then (false, "genesis-hash")
  else (p.tokenSymbol = mainnetTokenSymbol, "token-symbol")

section

variable {κ ε : Type} (env : Env) (d : Outside κ ε)

def defaultRpcUrl (network : String) : Option String :=
  [("testnet", "wss://node2.testnet.openmatter.network"),
    ("mainnet", "wss://node2.mainnet.openmatter.network")].lookup network

def resolveUrl (network : String) (rpcUrl : Option String) : Except (ConnectError ε) String :=
  match rpcUrl.filter (· ≠ "") with
  | some url => .ok url
  | none =>
    match defaultRpcUrl network with
    | some url => .ok url
    | none => .error (.config ("network " ++ d.repr network ++ " requires an explicit rpc_url"))

def enforceNetworkGuards (network : String) (confirmMainnet signs : Bool) (p : ChainProperties) :
    Except (ConnectError ε) Unit :=
  networkGuards (network = "testnet") signs
    (confirmMainnet || env "MATTER_CONFIRM" = some "yes") p.isMainnet
    (.wrongNetwork ("expected the testnet network but the endpoint serves " ++ d.repr p.chainName))
    fun detectedVia => .mainnetNotConfirmed ("refusing to build a signing client against mainnet " ++
      d.repr p.chainName ++ " (detected via " ++ detectedVia ++ ") without explicit confirmation: " ++
      "set MATTER_CONFIRM=yes or pass confirm_mainnet=True. This client can spend real funds")

def decodeAccount (text : List Char) : Except (ConnectError ε) Bytes :=
  let bad := ConnectError.valueError
    "MATTER_PRINCIPAL is neither 0x-prefixed hex nor a valid SS58 address"
  match Text.trim Text.isPythonSpace text with
  | '0' :: 'x' :: hexBody =>
    match hexPairs (hexBody.map Char.toNat) with
    | some raw => if raw.length = 32 then .ok raw else .error bad
    | none => .error bad
  | text =>
    match d.ss58Decode (String.ofList text) with
    | some raw => .ok raw
    | none => .error bad

/-- `_resolve_mode`, of the account of a key. -/
def resolveMode (url : String) (account : Bytes) : Except (ConnectError ε) Mode :=
  match trimmed Text.isPythonSpace (fun name => some ((env name).getD "")) "MATTER_PRINCIPAL" with
  | some override => (decodeAccount d override).map fun principal => some (principal, .all)
  | none => ((d.agentKey url account).mapError .other).map fun resolved =>
      resolved.map fun (principal, bits) => (principal, ⟨bits⟩)

/-- `connect` and `connect_with_api_key`, with the constructor. -/
def connect (network : String) (rpcUrl : Option String) (apiKey : Option κ) :
    Except (ConnectError ε) (MatterClient κ) := do
  let url ← resolveUrl d network rpcUrl
  let properties ← (d.open_ url).mapError .other
  enforceNetworkGuards env d network false apiKey.isSome properties
  match apiKey with
  | none => return ⟨url, none, properties, none⟩
  | some key => return ⟨url, some key, properties, ← resolveMode env d url (d.accountId key)⟩

/-- The network of `from_env`. -/
def envNetwork : Except (ConnectError ε) String :=
  let network := (env "MATTER_NETWORK").getD "testnet"
  if network ≠ "testnet" ∧ network ≠ "mainnet" then
    .error (.config ("MATTER_NETWORK must be 'testnet' or 'mainnet', got " ++ d.repr network))
  else .ok network

/-- The loop of `from_env`. -/
def envApiKey : Except (ConnectError ε) (Option κ) :=
  match keyVar Text.isPythonSpace env with
  | some (_, value) => ((d.apiKey value).mapError .other).map some
  | none => .ok none

def fromEnv : Except (ConnectError ε) (MatterClient κ) := do
  let network ← envNetwork env d
  let apiKey ← envApiKey env d
  connect env d network (env "MATTER_RPC_URL") apiKey

end

/-! ### As a connect -/

def ConnectError.refusal {ε : Type} : ConnectError ε → Connect.Refusal
  | wrongNetwork _ => .wrongNetwork
  | mainnetNotConfirmed _ => .mainnetNotConfirmed
  | _ => .other

def networkOf (name : String) : Network :=
  if name = "testnet" then .testnet else if name = "mainnet" then .mainnet else .custom

def settingsOf (env : Env) (network : String) : Connect.Settings where
  network := networkOf network
  rpcUrl := (env "MATTER_RPC_URL").filter (· ≠ "")
  key := (keyVar Text.isPythonSpace env).map Prod.snd
  confirmed := env "MATTER_CONFIRM" = some "yes"
  principal := (trimmed Text.isPythonSpace (fun name => some ((env name).getD ""))
    "MATTER_PRINCIPAL").map String.ofList

def settings {κ ε : Type} (env : Env) (d : Outside κ ε) : Option Connect.Settings :=
  (envNetwork env d).toOption.map (settingsOf env)

def Outside.world {κ ε : Type} (d : Outside κ ε) : Connect.World where
  account text := (d.apiKey text).toOption.map d.accountId
  mainnet url := (d.open_ url).toOption.map (·.isMainnet.1)
  principal text := (decodeAccount d text.toList).toOption
  grant url account := (d.agentKey url account).toOption.map fun resolved =>
    resolved.map fun (principal, bits) => (principal, ⟨bits⟩)

def MatterClient.client {κ ε : Type} (d : Outside κ ε) (c : MatterClient κ) : Connect.Client where
  url := c.url
  mainnet := c.properties.isMainnet.1
  account := c.apiKey.map d.accountId
  held := c.mode

section

variable {κ ε : Type} (env : Env) (d : Outside κ ε)

theorem decodeAccount_refusal (text : List Char) (e : ConnectError ε)
    (failed : decodeAccount d text = .error e) : e.refusal = .other := by
  unfold decodeAccount at failed
  split at failed
  · split at failed
    · split_ifs at failed
      cases failed
      rfl
    · cases failed
      rfl
  · split at failed <;> cases failed
    rfl

theorem sim_resolve (network : String) (url : String) (account : Bytes) :
    Checks.Sim (fun mode held => mode = held) (fun e e' => ConnectError.refusal e = e')
      (resolveMode env d url account)
      (Connect.resolve d.world (settingsOf env network) url (some account)) := by
  have found : Checks.Sim (fun mode held => mode = held) (fun e e' => ConnectError.refusal e = e')
      (((d.agentKey url account).mapError .other).map fun resolved =>
        resolved.map fun (principal, bits) => (principal, ⟨bits⟩))
      (Connect.need (d.world.grant url account)) := by
    simp only [Outside.world]
    cases d.agentKey url account <;> first | exact .error rfl | exact .ok rfl
  have known (l : List Char) :
      d.world.principal (String.ofList l) = (decodeAccount d l).toOption := by
    simp only [Outside.world, String.toList_ofList]
  exact sim_resolving (settingsOf env network)
    (trimmed Text.isPythonSpace (fun name => some ((env name).getD "")) "MATTER_PRINCIPAL")
    (decodeAccount d) (fun principal => some (principal, .all)) id known (decodeAccount_refusal d)
    (fun _ => rfl) found rfl

theorem sim_key (network : String) :
    Checks.Sim (fun key account => key.map d.accountId = account)
      (fun e e' => ConnectError.refusal e = e') (envApiKey env d)
      (Connect.signing d.world (settingsOf env network)) :=
  sim_signing (settingsOf env network) (keyVar Text.isPythonSpace env) d.apiKey
    (fun _ => ConnectError.other) d.accountId (fun _ => rfl) (fun _ _ => rfl) rfl

theorem sim_url (network : String) :
    Checks.Sim (fun url url' => url = url') (fun e e' => ConnectError.refusal e = e')
      (resolveUrl d network (env "MATTER_RPC_URL")) (Connect.need (settingsOf env network).url) := by
  simp only [resolveUrl, Connect.Settings.url, settingsOf, networkOf]
  cases (env "MATTER_RPC_URL").filter (· ≠ "") with
  | some url => exact .ok rfl
  | none =>
    by_cases testnet : network = "testnet"
    · subst testnet
      exact .ok rfl
    · by_cases mainnet : network = "mainnet"
      · subst mainnet
        exact .ok rfl
      · simp only [defaultRpcUrl, List.lookup_cons, List.lookup_nil, beq_eq_false_iff_ne.mpr testnet,
          beq_eq_false_iff_ne.mpr mainnet, testnet, mainnet, if_false]
        exact .error rfl

theorem networkOf_testnet (name : String) :
    decide (name = "testnet") = decide (networkOf name = .testnet) := by
  unfold networkOf
  by_cases testnet : name = "testnet" <;> by_cases mainnet : name = "mainnet" <;>
    simp [testnet, mainnet]

/-- The client of an environment is that of its settings. -/
theorem fromEnv_connects :
    Checks.Sim (fun c c' => c.client d = c') (fun e e' => ConnectError.refusal e = e')
      (fromEnv env d) (Connect.need (settings env d) >>= Connect.connect false d.world) := by
  have unconfigured (e : ConnectError ε) (failed : envNetwork env d = .error e) :
      e.refusal = .other := by
    simp only [envNetwork] at failed
    split_ifs at failed
    cases failed
    rfl
  refine (sim_need (settingsOf env) unconfigured).bind ?_
  rintro network _ rfl
  refine (sim_key env d network).bind ?_
  rintro key _ rfl
  refine (sim_url env d network).bind ?_
  rintro url _ rfl
  refine (sim_need_mapError ConnectError.other (fun p : ChainProperties => p.isMainnet.1)
    fun _ => rfl).bind ?_
  rintro properties _ rfl
  simp only [Bool.false_eq_true, if_false, Option.isSome_map]
  refine (sim_guards (settingsOf env network) key.isSome properties.isMainnet
    (networkOf_testnet network) rfl fun _ => rfl).bind ?_
  rintro - - -
  cases key with
  | none => exact .ok rfl
  | some key =>
    refine (sim_resolve env d network url (d.accountId key)).bind ?_
    rintro mode _ rfl
    exact .ok rfl

end

end Python

namespace TypeScript

inductive ConnectError where
  | config (detail : String)
  | wrongNetwork (expected actual : String)
  | mainnetNotConfirmed (chainName detectedVia : String)
  | chain (target detail : String)
  | thrown (text : String)

/-- A `MatterConfig`, without its backend, its logger and its timeout. -/
structure MatterConfig where
  network : Option Network
  rpcUrl : Option String
  confirmMainnet : Option Bool

/-- What the guards look at in a `ChainProperties`. -/
structure ChainProperties where
  genesisHash : String
  chainName : String
  tokenSymbol : String

/-- The parser of keys, the libraries and the endpoints. -/
structure Outside (κ : Type) where
  apiKey : String → Except String κ
  accountId : κ → Bytes
  /-- `ApiPromise.create`. -/
  create : String → Except String Unit
  /-- `properties` of the backend that talks to an endpoint. -/
  properties : String → Except String ChainProperties
  agentKey : String → Bytes → Except String (Option (Bytes × BitVec 32))
  /-- `createType("AccountId32", text)`. -/
  accountId32 : String → Except String Bytes

structure MatterClient (κ : Type) where
  url : String
  signer : Option κ
  properties : ChainProperties
  mode : Mode

def detectMainnet (p : ChainProperties) : Bool × String :=
  if p.genesisHash = "0x" ++ testnetGenesis then (false, "genesis-hash")
  else (p.tokenSymbol = mainnetTokenSymbol, "token-symbol")

section

variable {κ : Type} (env : Env) (d : Outside κ)

def enforceNetworkGuards (network : Network) (confirmMainnet signs : Bool) (p : ChainProperties) :
    Except ConnectError Unit :=
  networkGuards (network = .testnet) signs (confirmMainnet || env "MATTER_CONFIRM" = some "yes")
    (detectMainnet p) (.wrongNetwork "testnet" p.chainName) (.mainnetNotConfirmed p.chainName)

/-- `readPrincipalOverride`, of a text that is set. -/
def decodePrincipal (text : String) : Except ConnectError Bytes :=
  (d.accountId32 text).mapError fun cause => .config
    ("MATTER_PRINCIPAL is neither 0x-prefixed hex nor a valid SS58 address: " ++ cause)

/-- `resolveMode`. -/
def resolveMode (url : String) (account : Bytes) : Except ConnectError Mode :=
  match trimmed Text.isEcmaSpace env "MATTER_PRINCIPAL" with
  | some raw => (decodePrincipal d (String.ofList raw)).map fun principal => some (principal, .all)
  | none => ((d.agentKey url account).mapError .thrown).map fun resolved =>
      resolved.map fun (principal, bits) => (principal, ⟨bits⟩)

/-- The endpoint of `#connectBackend`. -/
def backendUrl (network : Network) (rpcUrl : Option String) : Except ConnectError String :=
  match rpcUrl <|> network.defaultRpcUrl with
  | some url => .ok url
  | none => .error (.config "Network.Custom requires a rpcUrl")

/-- `PolkadotBackend.connect`: the mode of the backend. -/
def connectBackend (url : String) (signer : Option κ) : Except ConnectError Mode := do
  (d.create url).mapError fun detail => .chain url detail
  match signer with
  | none => return none
  | some key => resolveMode env d url (d.accountId key)

/-- `#build`, without an injected backend. -/
def build (config : MatterConfig) (signer : Option κ) : Except ConnectError (MatterClient κ) := do
  let network := config.network.getD .testnet
  let url ← backendUrl network config.rpcUrl
  let mode ← connectBackend env d url signer
  let properties ← (d.properties url).mapError .thrown
  enforceNetworkGuards env network (config.confirmMainnet.getD false) signer.isSome properties
  return ⟨url, signer, properties, mode⟩

/-- `fromEnv`, up to the key. -/
def envConfig (config : MatterConfig) : Except ConnectError MatterConfig := do
  let networkName := (env "MATTER_NETWORK").getD "testnet"
  let named ← if networkName = "testnet" then .ok .testnet
    else if networkName = "mainnet" then .ok .mainnet
    else .error (.config ("MATTER_NETWORK must be \"testnet\" or \"mainnet\", got \"" ++
      networkName ++ "\""))
  return { config with
    network := some (config.network.getD named)
    rpcUrl := config.rpcUrl <|> env "MATTER_RPC_URL" }

/-- The loop of `fromEnv`. -/
def envApiKey : Except ConnectError (Option κ) :=
  match keyVar Text.isEcmaSpace env with
  | some (_, value) => ((d.apiKey value).mapError .thrown).map some
  | none => .ok none

def fromEnv (config : MatterConfig) : Except ConnectError (MatterClient κ) := do
  let resolved ← envConfig env config
  let signer ← envApiKey env d
  build env d resolved signer

end

/-! ### As a connect -/

def ConnectError.refusal : ConnectError → Connect.Refusal
  | wrongNetwork _ _ => .wrongNetwork
  | mainnetNotConfirmed _ _ => .mainnetNotConfirmed
  | _ => .other

def settingsOf (env : Env) (config : MatterConfig) : Connect.Settings where
  network := config.network.getD .testnet
  rpcUrl := config.rpcUrl
  key := (keyVar Text.isEcmaSpace env).map Prod.snd
  confirmed := config.confirmMainnet.getD false || env "MATTER_CONFIRM" = some "yes"
  principal := (trimmed Text.isEcmaSpace env "MATTER_PRINCIPAL").map String.ofList

def settings (env : Env) (config : MatterConfig) : Option Connect.Settings :=
  (envConfig env config).toOption.map (settingsOf env)

def Outside.world {κ : Type} (d : Outside κ) : Connect.World where
  account text := (d.apiKey text).toOption.map d.accountId
  mainnet url :=
    ((d.create url).toOption.bind fun _ => (d.properties url).toOption).map (detectMainnet · |>.1)
  principal text := (decodePrincipal d text).toOption
  grant url account := (d.agentKey url account).toOption.map fun resolved =>
    resolved.map fun (principal, bits) => (principal, ⟨bits⟩)

def MatterClient.client {κ : Type} (d : Outside κ) (c : MatterClient κ) : Connect.Client where
  url := c.url
  mainnet := (detectMainnet c.properties).1
  account := c.signer.map d.accountId
  held := c.mode

section

variable {κ : Type} (env : Env) (d : Outside κ) (config : MatterConfig)

theorem sim_resolve (url : String) (account : Bytes) :
    Checks.Sim (fun mode held => mode = held) (fun e e' => ConnectError.refusal e = e')
      (resolveMode env d url account)
      (Connect.resolve d.world (settingsOf env config) url (some account)) := by
  have found : Checks.Sim (fun mode held => mode = held) (fun e e' => ConnectError.refusal e = e')
      (((d.agentKey url account).mapError .thrown).map fun resolved =>
        resolved.map fun (principal, bits) => (principal, ⟨bits⟩))
      (Connect.need (d.world.grant url account)) := by
    simp only [Outside.world]
    cases d.agentKey url account <;> first | exact .error rfl | exact .ok rfl
  have refused (l : List Char) (e : ConnectError)
      (failed : decodePrincipal d (String.ofList l) = .error e) : e.refusal = .other := by
    unfold decodePrincipal at failed
    cases read : d.accountId32 (String.ofList l) <;> rw [read] at failed <;> cases failed
    rfl
  exact sim_resolving (settingsOf env config) (trimmed Text.isEcmaSpace env "MATTER_PRINCIPAL")
    (fun l => decodePrincipal d (String.ofList l)) (fun principal => some (principal, .all)) id
    (fun _ => rfl) refused (fun _ => rfl) found rfl

theorem sim_key :
    Checks.Sim (fun key account => key.map d.accountId = account)
      (fun e e' => ConnectError.refusal e = e') (envApiKey env d)
      (Connect.signing d.world (settingsOf env config)) :=
  sim_signing (settingsOf env config) (keyVar Text.isEcmaSpace env) d.apiKey
    (fun _ => ConnectError.thrown) d.accountId (fun _ => rfl) (fun _ _ => rfl) rfl

theorem sim_url (network : Network) (rpcUrl : Option String) :
    Checks.Sim (fun url url' => url = url') (fun e e' => ConnectError.refusal e = e')
      (backendUrl network rpcUrl) (Connect.need (rpcUrl <|> network.defaultRpcUrl)) := by
  unfold backendUrl
  cases rpcUrl <|> network.defaultRpcUrl <;> first | exact .error rfl | exact .ok rfl

/-- The client of an environment is that of its settings, who it acts for being found out first. -/
theorem fromEnv_connects :
    Checks.Sim (fun c c' => c.client d = c') (fun e e' => ConnectError.refusal e = e')
      (fromEnv env d config)
      (Connect.need (settings env config) >>= Connect.connect true d.world) := by
  have unconfigured (e : ConnectError) (failed : envConfig env config = .error e) :
      e.refusal = .other := by
    simp only [envConfig] at failed
    split_ifs at failed <;> cases failed
    rfl
  refine (sim_need (settingsOf env) unconfigured).bind ?_
  rintro resolved _ rfl
  refine (sim_key env d resolved).bind ?_
  rintro key _ rfl
  refine (sim_url (resolved.network.getD .testnet) resolved.rpcUrl).bind ?_
  rintro url _ rfl
  have known : Checks.Sim (fun mode held => mode = held) (fun e e' => ConnectError.refusal e = e')
      (match key with
        | none => pure none
        | some key => resolveMode env d url (d.accountId key))
      (Connect.resolve d.world (settingsOf env resolved) url (key.map d.accountId)) := by
    cases key with
    | none => exact .ok rfl
    | some key => exact sim_resolve env d resolved url (d.accountId key)
  simp only [connectBackend]
  cases created : d.create url with
  | error detail =>
    have closed : d.world.mainnet url = none := by simp [Outside.world, created, Except.toOption]
    rw [closed]
    exact .error rfl
  | ok =>
    cases read : d.properties url with
    | error text =>
      have closed : d.world.mainnet url = none := by
        simp [Outside.world, created, read, Except.toOption]
      rw [closed]
      -- Whatever comes of the principal, the connect fails, and for none of the guards' reasons.
      cases key with
      | none => exact .error rfl
      | some key =>
        have known := sim_resolve env d resolved url (d.accountId key)
        generalize mode : resolveMode env d url (d.accountId key) = result at known
        generalize held : Connect.resolve d.world _ url _ = result' at known
        dsimp only
        rw [mode]
        cases known with
        | ok => exact .error rfl
        | error named => exact .error (named.trans (Connect.resolve_error held))
    | ok properties =>
      have opened : d.world.mainnet url = some (detectMainnet properties).1 := by
        simp [Outside.world, created, read, Except.toOption]
      rw [opened]
      refine known.bind ?_
      rintro mode _ rfl
      rw [Option.isSome_map]
      refine (sim_guards (settingsOf env resolved) key.isSome (detectMainnet properties) rfl rfl
        fun _ => rfl).bind ?_
      rintro - - -
      exact .ok rfl

end

end TypeScript

end MatterSdk
