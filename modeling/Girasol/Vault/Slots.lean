import Girasol.Foundation.Text

/-!
# The slots of the key vault

The services either bot may call, each with the id its key is stored under.
-/

namespace Girasol

inductive SlotNetwork where
  | evm
  | solana
  | both
  deriving DecidableEq, Repr

def SlotNetwork.asStr : SlotNetwork → String
  | .evm => "evm"
  | .solana => "solana"
  | .both => "both"

inductive Pricing where
  | free
  | tips
  | freemium
  | subscription
  deriving DecidableEq, Repr

def Pricing.asStr : Pricing → String
  | .free => "free"
  | .tips => "tips"
  | .freemium => "freemium"
  | .subscription => "subscription"

structure ApiKeySlot where
  id : String
  label : String
  purpose : String
  signupUrl : String
  pricing : Pricing
  envVar : String
  placeholder : String
  network : SlotNetwork

def apiKeySlots : List ApiKeySlot := [
  { id := "rpc-http"
    label := "RPC (HTTP)"
    purpose := "JSON-RPC reads, getTransaction, price/liquidity lookups (config solana_rpc_urls)"
    signupUrl := "https://solana.com/rpc"
    pricing := .free
    envVar := "SNIPER_RPC_URLS"
    placeholder := "https://<provider>/rpc/<key>"
    network := .solana },
  { id := "rpc-wss"
    label := "RPC WSS feed"
    purpose := "logsSubscribe websocket feed for target-wallet detection (config solana_ws_urls)"
    signupUrl := "https://solana.com/rpc"
    pricing := .free
    envVar := "SNIPER_WSS_URLS"
    placeholder := "wss://<provider>/rpc/<key>"
    network := .solana },
  { id := "erpc"
    label := "ERPC (edge RPC)"
    purpose := "Low-latency edge RPC / WSS endpoints with api-key auth (config " ++
      "solana_rpc_urls / solana_ws_urls)"
    signupUrl := "https://erpc.global"
    pricing := .freemium
    envVar := "ERPC_API_KEY"
    placeholder := "<api-key token>"
    network := .solana },
  { id := "geyser"
    label := "Yellowstone gRPC Geyser"
    purpose := "Direct gRPC transaction stream, pre-confirmation (config geyser_url)"
    signupUrl := "https://erpc.global"
    pricing := .freemium
    envVar := "SNIPER_GEYSER_URL"
    placeholder := "http(s)://<geyser-host>:<port>"
    network := .solana },
  { id := "shreds"
    label := "ShredStream"
    purpose := "Raw shred stream before block formation (config shreds_url)"
    signupUrl := "https://erpc.global"
    pricing := .freemium
    envVar := "SNIPER_SHREDS_URL"
    placeholder := "http(s)://<shredstream-host>:<port>"
    network := .solana },
  { id := "jito"
    label := "Jito Block Engine"
    purpose := "SWQoS submission via block engine (config swqos_jito_url)"
    signupUrl := "https://jito.wtf"
    pricing := .tips
    envVar := "SNIPER_JITO_URL"
    placeholder := "https://<region>.mainnet.block-engine.jito.wtf"
    network := .solana },
  { id := "bloxroute"
    label := "bloXroute"
    purpose := "QUIC/HTTP SWQoS submission (config bloxroute_api_key)"
    signupUrl := "https://bloxroute.com"
    pricing := .subscription
    envVar := "BLOXROUTE_API_KEY"
    placeholder := "<api-token>"
    network := .solana },
  { id := "nextblock"
    label := "NextBlock"
    purpose := "QUIC SWQoS submission (config nextblock_api_key)"
    signupUrl := "https://nextblock.io"
    pricing := .tips
    envVar := "NEXTBLOCK_API_KEY"
    placeholder := "<api-key>"
    network := .solana },
  { id := "zeroslot"
    label := "ZeroSlot"
    purpose := "SWQoS submission (config zeroslot_api_key)"
    signupUrl := "https://0slot.trade"
    pricing := .tips
    envVar := "ZEROSLOT_API_KEY"
    placeholder := "<api-key>"
    network := .solana },
  { id := "nozomi"
    label := "Nozomi (Temporal)"
    purpose := "SWQoS submission (config nozomi_api_key)"
    signupUrl := "https://temporal.xyz"
    pricing := .tips
    envVar := "NOZOMI_API_KEY"
    placeholder := "<api-key>"
    network := .solana },
  { id := "zerox"
    label := "0x Swap API"
    purpose := "Swap-quote fallback when the primary router path reverts (EVM bot, config " ++
      "ZEROX_API_KEY)"
    signupUrl := "https://0x.org"
    pricing := .freemium
    envVar := "ZEROX_API_KEY"
    placeholder := "0x API key (empty = free unauthenticated tier)"
    network := .evm },
  { id := "dexscreener"
    label := "DexScreener"
    purpose := "Optional token metadata / pair enrichment, public endpoints need no key today " ++
      "(EVM bot)"
    signupUrl := "https://docs.dexscreener.com"
    pricing := .free
    envVar := "DEXSCREENER_API_KEY"
    placeholder := "empty = use unauthenticated public endpoints"
    network := .evm },
  { id := "coingecko"
    label := "CoinGecko"
    purpose := "Optional price/metadata lookups, public demo tier available (EVM bot)"
    signupUrl := "https://www.coingecko.com/en/api"
    pricing := .freemium
    envVar := "COINGECKO_API_KEY"
    placeholder := "CG-<key> (empty = public demo tier)"
    network := .evm },
  { id := "alchemy"
    label := "Alchemy"
    purpose := "Optional archive/enhanced RPC for backfill and route history (EVM bot)"
    signupUrl := "https://alchemy.com"
    pricing := .freemium
    envVar := "ALCHEMY_API_KEY"
    placeholder := "https://<chain>.g.alchemy.com/v2/<key>"
    network := .evm },
  { id := "quicknode"
    label := "QuickNode"
    purpose := "Optional dedicated RPC endpoint (EVM bot)"
    signupUrl := "https://quicknode.com"
    pricing := .freemium
    envVar := "QUICKNODE_URL"
    placeholder := "https://<name>.<chain>.quiknode.pro/<token>/"
    network := .evm },
  { id := "infura"
    label := "Infura"
    purpose := "Optional backup RPC provider (EVM bot)"
    signupUrl := "https://infura.io"
    pricing := .freemium
    envVar := "INFURA_URL"
    placeholder := "https://<network>.infura.io/v3/<key>"
    network := .evm },
  { id := "explorer"
    label := "Explorer API"
    purpose := "Optional Blockscout/explorer key for higher rate limits (EVM bot)"
    signupUrl := "https://robinhoodchain.blockscout.com"
    pricing := .free
    envVar := "EXPLORER_API_KEY"
    placeholder := "empty = public rate limits"
    network := .evm },
  { id := "helius"
    label := "Helius"
    purpose := "Shared slot: Solana sender/SWQoS + enhanced RPC (this bot) and EVM " ++
      "enhanced-index integrations (TS bot)"
    signupUrl := "https://helius.dev"
    pricing := .freemium
    envVar := "HELIUS_API_KEY"
    placeholder := "<api-key>"
    network := .both }]

def findSlot (id : String) : Option ApiKeySlot := apiKeySlots.find? fun s => s.id == id

end Girasol
