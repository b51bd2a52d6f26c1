import CopyTrading.HttpClient
import CopyTrading.Environment
import Mathlib.Data.String.Basic

/-!
The bytes that are signed are the bytes that are sent: an exchange that recomputes the
signed text from the request it receives finds the text the signature was made for.
-/

namespace CopyTrading

open Transaction Transaction.Handler

/-! ### Sorting and filtering -/

section Sorting

variable {α : Type} {entry : String × α} {entries : List (String × α)}

/-- The order of sorted pairs. -/
def SortedByKey (entries : List (String × α)) : Prop :=
  entries.Pairwise fun a b => a.1 ≤ b.1

theorem insertByKey_of_lt (below : ∀ other ∈ entries, entry.1 < other.1) :
    insertByKey entry entries = entry :: entries := by
  cases entries with
  | nil => rfl
  | cons other rest => exact if_pos (below other List.mem_cons_self)

theorem mem_insertByKey {other : String × α} :
    other ∈ insertByKey entry entries ↔ other = entry ∨ other ∈ entries := by
  induction entries with
  | nil => simp [insertByKey]
  | cons first rest ih =>
    unfold insertByKey
    split
    · simp
    · rw [List.mem_cons, ih, List.mem_cons]
      tauto

theorem SortedByKey.insertByKey (sorted : SortedByKey entries) :
    SortedByKey (insertByKey entry entries) := by
  induction entries with
  | nil => exact List.pairwise_singleton _ _
  | cons first rest ih =>
    obtain ⟨least, sortedRest⟩ := List.pairwise_cons.mp sorted
    unfold CopyTrading.insertByKey
    split
    · next lt =>
      refine List.pairwise_cons.mpr ⟨fun other hother => ?_, sorted⟩
      rcases List.mem_cons.mp hother with rfl | hother
      · exact lt.le
      · exact lt.le.trans (least other hother)
    · next notLt =>
      refine List.pairwise_cons.mpr ⟨fun other hother => ?_, ih sortedRest⟩
      rcases mem_insertByKey.mp hother with rfl | hother
      · exact not_lt.mp notLt
      · exact least other hother

theorem sortedByKey_sortByKey (entries : List (String × α)) : SortedByKey (sortByKey entries) := by
  induction entries with
  | nil => exact .nil
  | cons entry rest ih => exact ih.insertByKey

/-- Leaving pairs out before or after an insertion is the same. -/
theorem filter_insertByKey (keep : String × α → Bool) (sorted : SortedByKey entries) :
    (insertByKey entry entries).filter keep =
      if keep entry then insertByKey entry (entries.filter keep) else entries.filter keep := by
  induction entries with
  | nil => cases hkeep : keep entry <;> simp [insertByKey, hkeep]
  | cons first rest ih =>
    obtain ⟨least, sortedRest⟩ := List.pairwise_cons.mp sorted
    by_cases lt : entry.1 < first.1
    · have below : ∀ other ∈ (first :: rest).filter keep, entry.1 < other.1 := by
        intro other hother
        rcases List.mem_cons.mp (List.mem_of_mem_filter hother) with rfl | hother
        · exact lt
        · exact lt_of_lt_of_le lt (least other hother)
      rw [insertByKey_of_lt below, insertByKey, if_pos lt, List.filter_cons]
    · rw [insertByKey, if_neg lt, List.filter_cons, List.filter_cons, ih sortedRest]
      cases keep entry <;> cases keep first <;> simp [insertByKey, lt]

theorem filter_sortByKey (keep : String × α → Bool) (entries : List (String × α)) :
    (sortByKey entries).filter keep = sortByKey (entries.filter keep) := by
  induction entries with
  | nil => rfl
  | cons entry rest ih =>
    have step : sortByKey (entry :: rest) = insertByKey entry (sortByKey rest) := rfl
    rw [step, filter_insertByKey keep (sortedByKey_sortByKey rest), ih, List.filter_cons]
    cases keep entry <;> rfl

end Sorting

/-! ### The text an exchange recomputes -/

/-- The signature a request carries is made for the text its receiver recomputes from the
request line, the headers and the body. The query of Binance is read with any decoding; a
`POST` to Bybit has the query of no parameters. -/
def SignsWhatIsSent (py : Platform) (client : SignedExchangeHttpClient) (method path : String)
    (credentials : ExchangeCredentials) (wire : WireRequest) : Prop :=
  wire.method = method ∧
  match client.exchangeName with
  | .binance => ∃ query, wire.url = withQuery (client.restBaseUrl ++ path) query ∧
      wire.body = none ∧ (∃ pairs, py.urlencode pairs = query) ∧
      ∀ pairs, py.urlencode pairs = query → pairs.filter (·.1 = "signature") =
        [("signature", py.hmacSha256Hex credentials.apiSecret
          (py.urlencode (pairs.filter (·.1 ≠ "signature"))))]
  | .bybit => ∃ timestamp payload,
      (method = "POST" ∧ wire.url = withQuery (client.restBaseUrl ++ path) (py.urlencode []) ∧
          wire.body = some payload ∨
        method ≠ "POST" ∧ wire.url = withQuery (client.restBaseUrl ++ path) payload ∧
          wire.body = none) ∧
      wire.headers.lookup "X-BAPI-TIMESTAMP" = some timestamp ∧
      wire.headers.lookup "X-BAPI-API-KEY" = some credentials.apiKey ∧
      wire.headers.lookup "X-BAPI-RECV-WINDOW" = some client.recvWindow ∧
      wire.headers.lookup "X-BAPI-SIGN" = some (py.hmacSha256Hex credentials.apiSecret
        (timestamp ++ credentials.apiKey ++ client.recvWindow ++ payload))
  | .okx => ∃ timestamp target, wire.url = client.restBaseUrl ++ target ∧
      wire.headers.lookup "OK-ACCESS-TIMESTAMP" = some timestamp ∧
      wire.headers.lookup "OK-ACCESS-SIGN" = some (py.hmacSha256Base64 credentials.apiSecret
        (timestamp ++ wire.method ++ target ++ wire.body.getD ""))
  | .mock => False

theorem withQuery_append (base path query : String) :
    withQuery (base ++ path) query = base ++ withQuery path query := by
  unfold withQuery
  split
  · rfl
  · simp only [String.append_assoc]

section Prepare

variable {py : Platform} {client : SignedExchangeHttpClient} {method path : String}
  {credentials : ExchangeCredentials} {params : List (String × String)}
  {body : Option (List (String × Json))} {securityType : ExchangeSecurityType}
  {session : Session}

/-- Every request a service prepares satisfies `post`. -/
def Prepares (service : Service PreparedExchangeRequest)
    (post : PreparedExchangeRequest → Prop) (session : Session) : Prop :=
  Follows (Protocol.free backend) semantics service
    (fun outcome _ _ => ∀ prepared, outcome = .ok prepared → post prepared) session ()

/-- The signature pair is sorted in among the others, and can be taken out again. -/
theorem filter_signature {signed : List (String × String)} (value : String)
    (unsigned : ∀ entry ∈ signed, entry.1 ≠ "signature") :
    (sortByKey (signed ++ [("signature", value)])).filter (·.1 = "signature") =
      [("signature", value)] ∧
    (sortByKey (signed ++ [("signature", value)])).filter (·.1 ≠ "signature") =
      sortByKey signed := by
  have kept : signed.filter (·.1 ≠ "signature") = signed :=
    List.filter_eq_self.mpr fun entry hentry => decide_eq_true (unsigned entry hentry)
  have dropped : signed.filter (·.1 = "signature") = [] :=
    List.filter_eq_nil_iff.mpr fun entry hentry same =>
      unsigned entry hentry (of_decide_eq_true same)
  rw [filter_sortByKey, filter_sortByKey, List.filter_append, List.filter_append, kept, dropped]
  exact ⟨rfl, congrArg sortByKey (List.append_nil signed)⟩

theorem prepareBinanceRequest_signs (injective : Function.Injective py.urlencode)
    (exchange : client.exchangeName = .binance)
    (plain : ∀ entry ∈ params, entry.1 ∉ signatureFields) :
    Prepares (client.prepareBinanceRequest py method path credentials params)
      (fun prepared => SignsWhatIsSent py client method path credentials (prepared.wire py))
      session := by
  refine follows_ask_bind.mpr fun _ timestamp _ _ => ⟨(), trivial, ?_⟩
  rintro prepared ⟨⟩
  refine ⟨rfl, ?_⟩
  rw [exchange]
  refine ⟨_, rfl, rfl, ⟨_, rfl⟩, fun pairs decoded => ?_⟩
  have unsigned : ∀ entry ∈ params ++
      [("timestamp", toString timestamp), ("recvWindow", client.recvWindow)],
      entry.1 ≠ "signature" := by
    intro entry hentry same
    rcases List.mem_append.mp hentry with hentry | hentry
    · exact plain entry hentry (same ▸ by decide)
    · simp only [List.mem_cons, List.not_mem_nil, or_false] at hentry
      rcases hentry with rfl | rfl
      · exact absurd same (by simp)
      · exact absurd same (by simp)
  obtain ⟨taken, left⟩ := filter_signature (py.hmacSha256Hex credentials.apiSecret
    (canonicalQuery py (params ++
      [("timestamp", toString timestamp), ("recvWindow", client.recvWindow)]))) unsigned
  rw [injective decoded, taken, left]
  rfl

theorem prepareBybitRequest_signs (exchange : client.exchangeName = .bybit)
    (noQuery : method = "POST" → params = []) :
    Prepares (client.prepareBybitRequest py method path credentials params body)
      (fun prepared => SignsWhatIsSent py client method path credentials (prepared.wire py))
      session := by
  refine follows_ask_bind.mpr fun _ timestamp _ _ => ⟨(), trivial, ?_⟩
  rintro prepared ⟨⟩
  refine ⟨rfl, ?_⟩
  rw [exchange]
  by_cases hpost : method = "POST"
  · refine ⟨toString timestamp, jsonBody py (some (body.getD [])), .inl ⟨hpost, ?_, ?_⟩, rfl, rfl,
      rfl, ?_⟩
    · rw [noQuery hpost]
      rfl
    · simp [PreparedExchangeRequest.wire, hpost]
    · simp [PreparedExchangeRequest.wire, hpost, List.lookup_cons]
  · refine ⟨toString timestamp, canonicalQuery py params, .inr ⟨hpost, rfl, ?_⟩, rfl, rfl, rfl, ?_⟩
    · simp [PreparedExchangeRequest.wire, hpost]
    · simp [PreparedExchangeRequest.wire, hpost, List.lookup_cons]

theorem prepareOkxRequest_signs (exchange : client.exchangeName = .okx) :
    Prepares (client.prepareOkxRequest py method path credentials params body securityType)
      (fun prepared => SignsWhatIsSent py client method path credentials (prepared.wire py))
      session := by
  unfold SignedExchangeHttpClient.prepareOkxRequest Prepares
  cases credentials.passphrase with
  | none => rintro prepared ⟨⟩
  | some passphrase =>
    refine follows_ask_bind.mpr fun _ timestamp _ _ => ⟨(), trivial, ?_⟩
    rintro prepared ⟨⟩
    refine ⟨rfl, ?_⟩
    rw [exchange]
    refine ⟨timestamp, withQuery path (canonicalQuery py params), withQuery_append _ _ _, rfl, ?_⟩
    by_cases hpost : method = "POST"
    · simp [PreparedExchangeRequest.wire, hpost, List.lookup_cons]
    · simp [PreparedExchangeRequest.wire, hpost, List.lookup_cons]

/-- Whatever the exchange, the method, the path, the parameters and the body: the query and the
body on the wire are the text the signature was made for. -/
theorem preparePrivate_signs_what_is_sent (injective : Function.Injective py.urlencode)
    (plain : ∀ entry ∈ params, entry.1 ∉ signatureFields)
    (noQuery : client.exchangeName = .bybit → method = "POST" → params = [])
    {session' : Session} {world world' : World} {trace : List (Event backend)}
    {prepared : PreparedExchangeRequest}
    (run : Prog.Run semantics
      (client.preparePrivate py method path credentials params body securityType session)
      world trace (.done (.ok prepared, session')) world') :
    SignsWhatIsSent py client method path credentials (prepared.wire py) := by
  have prepares : Prepares
      (client.preparePrivate py method path credentials params body securityType)
      (fun prepared => SignsWhatIsSent py client method path credentials (prepared.wire py))
      session := by
    unfold SignedExchangeHttpClient.preparePrivate
    cases exchange : client.exchangeName with
    | binance => exact prepareBinanceRequest_signs injective exchange plain
    | bybit => exact prepareBybitRequest_signs exchange (noQuery exchange)
    | okx => exact prepareOkxRequest_signs exchange
    | mock => rintro prepared ⟨⟩
  obtain ⟨-, signs⟩ := run.outcome prepares
  exact signs prepared rfl

end Prepare

/-- The account query of Binance as it is prepared at time zero. -/
def sampleAccountRequest : PreparedExchangeRequest where
  method := "GET"
  url := "https://testnet.binance.vision" ++ "/api/v3/account"
  path := "/api/v3/account"
  params := [("omitZeroBalances", "true"), ("timestamp", "0"), ("recvWindow", "5000"),
    ("signature", "00")]
  headers := [("X-MBX-APIKEY", "key")]
  body := none

theorem preparePrivate_signs_what_is_sent_account :
    SignsWhatIsSent asciiPlatform ⟨.binance, "https://testnet.binance.vision", "5000"⟩ "GET"
      "/api/v3/account" ⟨"key", "secret", none⟩ (sampleAccountRequest.wire asciiPlatform) := by
  have answered : semantics.Answers {} .timestampMs (0 : Nat) {} := .inl rfl
  have run : Prog.Run semantics
      (SignedExchangeHttpClient.preparePrivate asciiPlatform
        ⟨.binance, "https://testnet.binance.vision", "5000"⟩ "GET" "/api/v3/account"
        ⟨"key", "secret", none⟩ [("omitZeroBalances", "true")] none .signed {})
      {} _ (.done (.ok sampleAccountRequest, {})) {} := .snoc .nil (.call answered)
  exact preparePrivate_signs_what_is_sent UrlText.urlencode_injective (by decide)
    (fun exchange => by cases exchange) run

end CopyTrading
