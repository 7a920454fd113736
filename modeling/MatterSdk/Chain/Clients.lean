import MatterSdk.Chain.GoCourses
import MatterSdk.Chain.PythonClient
import MatterSdk.Chain.RustClient
import MatterSdk.Chain.TypeScriptClient

/-!
# The four clients

Calls of a client that signs, one after the other, are a session in each of the four languages, so
that all of them keep to their member, send no call beyond the scopes held, tell of a call what the
node and its block say, and give the same reasons for a refusal.
-/

namespace MatterSdk

namespace Rust

def twiceSigner : Signer := ⟨[2], fun _ => .ok []⟩

def twiceRequest (landing : Landing) : Request where
  pallet := "Secrets"
  call := "rotate"
  args := []
  node :=
    { createPartial := fun _ => .ok []
      landing := fun _ _ => landing
      decodeFrom := fun _ => .error "EOF"
      lookup := .ok (some ([1], ⟨32⟩)) }

def twice : List Request := [
  twiceRequest (.refused (.rpc 1010 "1010: Inability to pay some fees")),
  twiceRequest (.inBlock [] [] (.ok [.ok ⟨"Proxy", "ProxyExecuted", [0]⟩]))]

end Rust

namespace Go

def twiceSigner : Signer := ⟨List.replicate 32 2, fun _ => .ok (List.replicate 64 0)⟩

def twiceLibrary : Library Unit where
  encodeUCompact := Compact.encode
  quote text := "\"" ++ text ++ "\""
  sum256 _ := List.replicate 32 0
  describe _ := ""
  duration _ := "2m0s"
  address _ := ""
  timeout := 0

def twiceCall : Call := ⟨9, 4, some ("Secrets", "rotate"), some ⟨32⟩⟩

def twiceBackend (author : Except Foreign String) (w : World) : Backend Unit Unit where
  multiAddress _ := none
  proxyCall _ _ := none
  encode _ := .ok [34, 0, 9, 4]
  declared := ["CheckNonce"]
  genesisHash := .ok (.replicate 32 0)
  runtimeVersion := .ok (1, 1)
  accountInfo := .ok [7, 0, 0, 0]
  author _ := author
  world := w
  registry := .ok proxyCodec
  findError _ := none
  lookup := .ok (some ⟨[1], ⟨32⟩⟩)

/-- Block 1, which every poll sees as the head, holds the text and a wrapped call. -/
def landedWorld (encoded : String) : World :=
  { steadyWorld 1 with
    extrinsics := fun b => if b = 1 then [encoded] else []
    bounded := fun b => by split <;> simp
    polls := fun _ => { head := .ok 1, block := none, events := fun _ => .ok proxyVector.raw }
    later := fun i head _ => Nat.zero_le head
    grows := fun i j a b _ ha hb => by
      obtain rfl := Except.ok.inj ha
      obtain rfl := Except.ok.inj hb
      exact le_rfl }

/-- The extrinsic of the call. -/
def twiceText : String :=
  ((assemble twiceLibrary (twiceBackend (.ok "0xcd") (steadyWorld 0)) twiceSigner
    (.proxied [1] twiceCall)).toOption).getD ""

def twice : List (Request Unit Unit) := [
  ⟨false, twiceCall,
    twiceBackend (.error ⟨.rpc 1010 "Inability to pay some fees", rfl⟩) (steadyWorld 0)⟩,
  ⟨true, twiceCall, twiceBackend (.ok "0xcd") (landedWorld twiceText)⟩]

end Go

namespace Python

def twiceBackend (submitted : Submitted Unit) : Backend Unit where
  hasCall := .ok true
  composeCall := .ok ()
  composeProxy _ := .ok ()
  nonce := .ok 7
  createSigned := .ok ("0xab", "0xcd")
  finalizedBefore := .ok 0
  submitExtrinsic := submitted
  awaitFinalized := .ok ("0x01", 1)
  receipt := .ok ⟨none,
    [⟨"Proxy", "ProxyExecuted", .obj [("result", .obj [("Ok", .arr [])])]⟩]⟩
  agentKey := .ok (some ([1], 32))

def twice : List (Request Unit) := [
  ⟨"Secrets", "rotate", [],
    twiceBackend (.refused ⟨some 1010, "1010: Inability to pay some fees"⟩)⟩,
  ⟨"Secrets", "rotate", [], twiceBackend .accepted⟩]

end Python

namespace TypeScript

def twiceBackend (landing : Landing) : Backend where
  hasCall := true
  method := none
  hasProxy := true
  wrap _ := none
  signAsync := none
  txHash := "0xcd"
  landing := landing
  late := false
  agentKey := some (some ([1], 32))

def twice : List Request := [
  ⟨"Secrets", "rotate", [],
    twiceBackend (.failed (.thrown (some 1010) "1010: Inability to pay some fees"))⟩,
  ⟨"Secrets", "rotate", [],
    twiceBackend (.update ⟨none, true, "0x01", [⟨34, "proxy", "ProxyExecuted", [.ok]⟩]⟩)⟩]

end TypeScript

end MatterSdk
