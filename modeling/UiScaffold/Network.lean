import UiScaffold.Json.Record
import UiScaffold.Text.Ascii

/-!
The clusters that a generated UI can talk to.
-/

set_option autoImplicit false
set_option relaxedAutoImplicit false

namespace UiScaffold

inductive Network where
  | devnet
  | testnet
  | mainnet
deriving DecidableEq, Repr, Inhabited

namespace Network

/-- All clusters, the default one first. -/
def all : List Network := [devnet, testnet, mainnet]

def name : Network → String
  | devnet => "devnet"
  | testnet => "testnet"
  | mainnet => "mainnet"

def endpoint : Network → String
  | devnet => "https://api.devnet.solana.com"
  | testnet => "https://api.testnet.solana.com"
  | mainnet => "https://api.mainnet-beta.solana.com"

/-- The cluster of a name; the case of ASCII letters counts unless it is to be ignored. -/
def ofName? (name : String) (ignoreCase : Bool) : Option Network :=
  all.find? fun network =>
    if ignoreCase then Text.sameFolded network.name name else network.name == name

def decode? : Json.Record.Decoder Network := fun levels value =>
  (Json.Record.caseName? levels value).bind (ofName? · false)

def read? (text : String) : Option Network :=
  (Json.Sketch.read? text).bind (decode? Json.nestingLimit)

def toJson (network : Network) : Json := .text network.name

end Network

end UiScaffold
