import CopyTrading.AccountState.Sync
import CopyTrading.Decimal.Exact
import CopyTrading.Fallible

/-!
What a balance or position event says, in exact numbers, and that decoding one finds exactly
this. An event with one entry that says nothing is refused as a whole.
-/

namespace CopyTrading

open Transaction DecimalArith Fallible

/-! ### What the values of a payload say -/

/-- The value is read as a number that the quantity columns can hold. -/
def IsNumber (py : Platform) (value : Json) (number : ℚ) : Prop :=
  ∃ d : Decimal, DecimalLiteral.read py (py.strOf value) = some (.finite d) ∧ d.Fits 18 10 ∧
    d.toRat = number

/-- The value is read as a name of at most forty letters, digits, dashes and underscores. -/
structure IsName (py : Platform) (value : Json) (name : String) : Prop where
  text : ∃ text, value = .str text ∧ name = py.upper (py.strip text)
  nonempty : name ≠ ""
  short : name.length ≤ 40
  chars : ∀ c ∈ name.toList, isIdentifierChar py c = true

structure BalanceState where
  asset : String
  available : ℚ
  locked : ℚ
  total : ℚ

structure PositionState where
  symbol : String
  quantity : ℚ

/-- Nothing is negative, and the parts are not more than the whole. -/
structure BalanceState.Sound (balance : BalanceState) : Prop where
  available : 0 ≤ balance.available
  locked : 0 ≤ balance.locked
  total : balance.available + balance.locked ≤ balance.total

/-- The entry of an event says that a balance is so. -/
def BalanceState.Of (py : Platform) : ExchangeName → List (String × Json) → BalanceState → Prop
  | .binance, entry, balance =>
      IsName py (Json.get entry "a") balance.asset ∧
      IsNumber py (Json.get entry "f") balance.available ∧
      IsNumber py (Json.get entry "l") balance.locked ∧
      balance.total = balance.available + balance.locked
  | .bybit, entry, balance =>
      IsName py (Json.get entry "coin") balance.asset ∧
      IsNumber py (Json.get entry "walletBalance") balance.total ∧
      IsNumber py ((Json.lookup "locked" entry).getD (.str "0")) balance.locked ∧
      balance.available = balance.total - balance.locked
  | .okx, entry, balance =>
      IsName py (Json.get entry "ccy") balance.asset ∧
      IsNumber py (Json.get entry "availBal") balance.available ∧
      IsNumber py ((Json.lookup "frozenBal" entry).getD (.str "0")) balance.locked ∧
      IsNumber py (Json.get entry "cashBal") balance.total
  | .mock, _, _ => False

/-- The signed quantity of a side: short positions are negative, and a position without a side
is empty. -/
def signedQuantity (size : ℚ) (side : Json) (quantity : ℚ) : Prop :=
  side = .str "Buy" ∧ quantity = size ∨ side = .str "Sell" ∧ quantity = -size ∨
    (side = .str "" ∨ side = .null) ∧ size = 0 ∧ quantity = 0

/-- The entry of an event says that a position is so. -/
def PositionState.Of (py : Platform) : ExchangeName → List (String × Json) → PositionState → Prop
  | .bybit, entry, position =>
      IsName py (Json.get entry "symbol") position.symbol ∧
      ∃ size, IsNumber py (Json.get entry "size") size ∧ 0 ≤ size ∧
        signedQuantity size (Json.get entry "side") position.quantity
  | .okx, entry, position =>
      IsName py (Json.get entry "instId") position.symbol ∧
      IsNumber py (Json.get entry "pos") position.quantity
  | _, _, _ => False

/-- The lists under a field of every account in `data`, joined. -/
def nestedEntries (payload : List (String × Json)) (field : String) :
    Option (List (List (String × Json))) := do
  let accounts ← objectsOf (Json.get payload "data")
  let lists ← accounts.mapM fun account => objectsOf (Json.get account field)
  return lists.flatten

def balanceEntries (exchangeName : ExchangeName) (payload : List (String × Json)) :
    Option (List (List (String × Json))) :=
  match exchangeName with
  | .binance => objectsOf (Json.get payload "B")
  | .bybit => nestedEntries payload "coin"
  | .okx => nestedEntries payload "details"
  | .mock => none

def positionEntries (exchangeName : ExchangeName) (payload : List (String × Json)) :
    Option (List (List (String × Json))) :=
  match exchangeName with
  | .bybit | .okx => objectsOf (Json.get payload "data")
  | _ => none

/-! ### Decoding finds what the event says -/

variable {py : Platform} {field : String} {value : Json}

theorem objectsOf_of_dictList {objects : List (List (String × Json))}
    (checked : dictList field value = .ok objects) : objectsOf value = some objects := by
  unfold dictList at checked
  split at checked
  · next objects' hobjects =>
    cases checked
    exact hobjects
  · cases checked

theorem dictList_of_objectsOf {objects : List (List (String × Json))}
    (listed : objectsOf value = some objects) : dictList field value = .ok objects := by
  unfold dictList
  rw [listed]

theorem isName_of_identifierOf {name : String} (checked : identifierOf py field value = .ok name) :
    IsName py value name := by
  cases value with
  | str text =>
    unfold identifierOf at checked
    dsimp only at checked
    generalize hname : py.upper (py.strip text) = normalized at checked
    split at checked
    · exact nomatch checked
    · next sized =>
      split at checked
      · exact nomatch checked
      · next chars =>
        obtain rfl := Except.ok.inj checked
        obtain ⟨nonempty, short⟩ := not_or.mp sized
        exact ⟨⟨text, rfl, hname.symm⟩, nonempty, not_lt.mp short,
          List.all_eq_true.mp (not_not.mp chars)⟩
  | _ => exact nomatch checked

theorem identifierOf_of_isName (field : String) {name : String} (named : IsName py value name) :
    identifierOf py field value = .ok name := by
  obtain ⟨⟨text, rfl, rfl⟩, nonempty, short, chars⟩ := named
  unfold identifierOf
  dsimp only
  rw [if_neg (not_or.mpr ⟨nonempty, not_lt.mpr short⟩),
    if_neg (not_not.mpr (List.all_eq_true.mpr chars))]

/-- A checked quantity fits the columns, and is not negative where that was asked. -/
theorem quantityOf_spec {nonnegative : Bool} {d : Decimal}
    (checked : quantityOf py field nonnegative value = .ok d) :
    IsNumber py value d.toRat ∧ d.Fits 18 10 ∧ (nonnegative = true → 0 ≤ d.toRat) := by
  unfold quantityOf at checked
  split at checked
  · cases checked
  · next quantity read =>
    split at checked
    · cases checked
    · next places =>
      split at checked
      · cases checked
      · next size =>
        split at checked
        · cases checked
        · next sign =>
          cases checked
          have fits : d.Fits 18 10 := by
            refine ⟨not_lt.mp places, Decimal.bounded_of_adjusted ?_⟩
            rcases not_and_or.mp size with zero | small
            · exact .inl (not_not.mp zero)
            · exact .inr (not_le.mp small)
          refine ⟨⟨d, read, fits, rfl⟩, fits, fun asked => ?_⟩
          rcases not_and_or.mp sign with notAsked | nonneg
          · exact absurd asked notAsked
          · exact Decimal.toRat_nonneg_iff.mpr (not_lt.mp nonneg)
  · cases checked

theorem quantityOf_of_isNumber (field : String) {nonnegative : Bool} {number : ℚ}
    (isNumber : IsNumber py value number) (sign : nonnegative = true → 0 ≤ number) :
    ∃ d, quantityOf py field nonnegative value = .ok d ∧ d.toRat = number ∧ d.Fits 18 10 := by
  obtain ⟨d, read, fits, rfl⟩ := isNumber
  refine ⟨d, ?_, rfl, fits⟩
  have places : ¬ d.exp < -10 := not_lt.mpr fits.places
  have size : ¬ (d.coeff ≠ 0 ∧ 18 ≤ d.adjusted) := by
    rintro ⟨nonzero, large⟩
    rcases Decimal.adjusted_of_bounded fits.bounded with zero | small
    · exact nonzero zero
    · exact absurd small (not_lt.mpr large)
  have signed : ¬ (nonnegative = true ∧ d.coeff < 0) := by
    rintro ⟨asked, negative⟩
    exact absurd negative (not_lt.mpr (Decimal.toRat_nonneg_iff.mp (sign asked)))
  unfold quantityOf
  rw [read]
  dsimp only
  rw [if_neg places, if_neg size, if_neg signed]

/-- The columns hold a balance. -/
structure BalanceColumns.Holds (columns : BalanceColumns) (balance : BalanceState) : Prop where
  asset : columns.asset = balance.asset
  available : columns.change.availableQuantity.value = balance.available
  locked : columns.change.lockedQuantity.value = balance.locked
  total : columns.change.totalQuantity.value = balance.total
  sound : balance.Sound

theorem value_of_bindQuantity {d : Decimal} {stored : Quantity} (places : d.Places 10)
    (bound : bindQuantity d = .ok stored) : stored.value = d.toRat := by
  unfold bindQuantity at bound
  split at bound
  · next x hx =>
    cases bound
    exact Numeric.value_of_ofDecimal? places hx
  · cases bound

theorem BalanceStateUpdate.columns_eq_ok {update : BalanceStateUpdate} {columns : BalanceColumns}
    (bound : update.columns = .ok columns) : columns.asset = update.asset ∧
      bindQuantity update.availableQuantity = .ok columns.change.availableQuantity ∧
      bindQuantity update.lockedQuantity = .ok columns.change.lockedQuantity ∧
      bindQuantity update.totalQuantity = .ok columns.change.totalQuantity := by
  obtain ⟨available, havailable, bound⟩ := bind_eq_ok.mp bound
  obtain ⟨locked, hlocked, bound⟩ := bind_eq_ok.mp bound
  obtain ⟨total, htotal, bound⟩ := bind_eq_ok.mp bound
  cases bound
  exact ⟨rfl, havailable, hlocked, htotal⟩

theorem PositionStateUpdate.columns_eq_ok {update : PositionStateUpdate} {columns : PositionColumns}
    (bound : update.columns = .ok columns) : columns.symbol = update.symbol ∧
      bindQuantity update.quantity = .ok columns.quantity := by
  obtain ⟨quantity, hquantity, bound⟩ := bind_eq_ok.mp bound
  cases bound
  exact ⟨rfl, hquantity⟩

section entries

variable {entry : List (String × Json)} {update : BalanceStateUpdate} {columns : BalanceColumns}

/-- Binance: the total is what is free and what is locked, or the column refuses it. -/
theorem binanceBalance_spec (decoded : binanceBalance py entry = .ok update)
    (bound : update.columns = .ok columns) :
    ∃ balance, BalanceState.Of py .binance entry balance ∧ columns.Holds balance := by
  obtain ⟨available, havailable, decoded⟩ := bind_eq_ok.mp decoded
  obtain ⟨locked, hlocked, decoded⟩ := bind_eq_ok.mp decoded
  obtain ⟨asset, hasset, decoded⟩ := bind_eq_ok.mp decoded
  cases decoded
  obtain ⟨sameAsset, boundAvailable, boundLocked, boundTotal⟩ := BalanceStateUpdate.columns_eq_ok bound
  obtain ⟨isAvailable, fitsAvailable, nonnegAvailable⟩ := quantityOf_spec havailable
  obtain ⟨isLocked, fitsLocked, nonnegLocked⟩ := quantityOf_spec hlocked
  refine ⟨⟨asset, available.toRat, locked.toRat, available.toRat + locked.toRat⟩,
    ⟨isName_of_identifierOf hasset, isAvailable, isLocked, rfl⟩, sameAsset, ?_, ?_, ?_, ?_⟩
  · exact value_of_bindQuantity fitsAvailable.places boundAvailable
  · exact value_of_bindQuantity fitsLocked.places boundLocked
  · unfold bindQuantity at boundTotal
    split at boundTotal
    · next x hx =>
      cases boundTotal
      exact Numeric.value_of_add (by decide) fitsAvailable.places fitsLocked.places hx
    · cases boundTotal
  · exact ⟨nonnegAvailable rfl, nonnegLocked rfl, le_rfl⟩

/-- Bybit: what is not locked is available. -/
theorem bybitBalance_spec (decoded : bybitBalance py entry = .ok update)
    (bound : update.columns = .ok columns) :
    ∃ balance, BalanceState.Of py .bybit entry balance ∧ columns.Holds balance := by
  obtain ⟨total, htotal, decoded⟩ := bind_eq_ok.mp decoded
  obtain ⟨locked, hlocked, decoded⟩ := bind_eq_ok.mp decoded
  obtain ⟨isTotal, fitsTotal, nonnegTotal⟩ := quantityOf_spec htotal
  obtain ⟨isLocked, fitsLocked, nonnegLocked⟩ := quantityOf_spec hlocked
  split at decoded
  · cases decoded
  · next covered =>
    obtain ⟨asset, hasset, decoded⟩ := bind_eq_ok.mp decoded
    cases decoded
    obtain ⟨sameAsset, boundAvailable, boundLocked, boundTotal⟩ := BalanceStateUpdate.columns_eq_ok bound
    have covered : locked.toRat ≤ total.toRat := Decimal.not_lt_iff.mp covered
    have nonneg := nonnegLocked rfl
    have bounded := lt_of_abs_lt fitsTotal.bounded
    have small : |total.toRat - locked.toRat| < (10 : ℚ) ^ 18 := by
      rw [abs_of_nonneg (sub_nonneg.mpr covered)]
      linarith
    obtain ⟨exact, places⟩ := Decimal.toRat_sub (by decide) fitsTotal.places fitsLocked.places small
    refine ⟨⟨asset, total.toRat - locked.toRat, locked.toRat, total.toRat⟩,
      ⟨isName_of_identifierOf hasset, isTotal, isLocked, rfl⟩, sameAsset, ?_, ?_, ?_, ?_⟩
    · exact (value_of_bindQuantity places boundAvailable).trans exact
    · exact value_of_bindQuantity fitsLocked.places boundLocked
    · exact value_of_bindQuantity fitsTotal.places boundTotal
    · exact ⟨sub_nonneg.mpr covered, nonneg, (sub_add_cancel _ _).le⟩

/-- OKX: all three are reported, and the whole covers its parts. -/
theorem okxBalance_spec (decoded : okxBalance py entry = .ok update)
    (bound : update.columns = .ok columns) :
    ∃ balance, BalanceState.Of py .okx entry balance ∧ columns.Holds balance := by
  obtain ⟨available, havailable, decoded⟩ := bind_eq_ok.mp decoded
  obtain ⟨locked, hlocked, decoded⟩ := bind_eq_ok.mp decoded
  obtain ⟨total, htotal, decoded⟩ := bind_eq_ok.mp decoded
  obtain ⟨isAvailable, fitsAvailable, nonnegAvailable⟩ := quantityOf_spec havailable
  obtain ⟨isLocked, fitsLocked, nonnegLocked⟩ := quantityOf_spec hlocked
  obtain ⟨isTotal, fitsTotal, -⟩ := quantityOf_spec htotal
  split at decoded
  · cases decoded
  · next covered =>
    obtain ⟨asset, hasset, decoded⟩ := bind_eq_ok.mp decoded
    cases decoded
    obtain ⟨sameAsset, boundAvailable, boundLocked, boundTotal⟩ := BalanceStateUpdate.columns_eq_ok bound
    refine ⟨⟨asset, available.toRat, locked.toRat, total.toRat⟩,
      ⟨isName_of_identifierOf hasset, isAvailable, isLocked, isTotal⟩, sameAsset, ?_, ?_, ?_, ?_⟩
    · exact value_of_bindQuantity fitsAvailable.places boundAvailable
    · exact value_of_bindQuantity fitsLocked.places boundLocked
    · exact value_of_bindQuantity fitsTotal.places boundTotal
    · exact ⟨nonnegAvailable rfl, nonnegLocked rfl, Decimal.add_le_of_not_lt (by decide)
        fitsAvailable.places fitsLocked.places (add_nonneg (nonnegAvailable rfl) (nonnegLocked rfl))
        fitsTotal covered⟩

end entries

/-! ### Balances of an event -/

/-- Decoding account by account decodes the joined lists. -/
theorem nested_spec {α : Type} {f : List (String × Json) → Except Exc α}
    {accounts : List (List (String × Json))} {updates : List (List α)}
    (decoded : accounts.mapM (fun account => do
      let entries ← dictList field (Json.get account field)
      entries.mapM f) = .ok updates) :
    ∃ lists, accounts.mapM (fun account => objectsOf (Json.get account field)) = some lists ∧
      lists.flatten.mapM f = .ok updates.flatten := by
  induction accounts generalizing updates with
  | nil =>
    cases decoded
    exact ⟨[], rfl, rfl⟩
  | cons account rest ih =>
    obtain ⟨first, others, hfirst, hothers, rfl⟩ := mapM_cons_eq_ok.mp decoded
    obtain ⟨entries, hentries, hfirst⟩ := bind_eq_ok.mp hfirst
    obtain ⟨lists, hlists, hrest⟩ := ih hothers
    refine ⟨entries :: lists, ?_, mapM_append_eq_ok hfirst hrest⟩
    rw [List.mapM_cons, objectsOf_of_dictList hentries, hlists]
    rfl

/-- How an exchange's entries are decoded. -/
def balanceOfEntry (py : Platform) (exchangeName : ExchangeName)
    (entry : List (String × Json)) : Except Exc BalanceStateUpdate :=
  match exchangeName with
  | .binance => binanceBalance py entry
  | .bybit => bybitBalance py entry
  | .okx => okxBalance py entry
  | .mock => .error (syncError "balance event exchange is not supported")

theorem balanceOfEntry_spec {exchangeName : ExchangeName} {entry : List (String × Json)}
    {update : BalanceStateUpdate} {columns : BalanceColumns}
    (decoded : balanceOfEntry py exchangeName entry = .ok update)
    (bound : update.columns = .ok columns) :
    ∃ balance, BalanceState.Of py exchangeName entry balance ∧ columns.Holds balance := by
  cases exchangeName with
  | binance => exact binanceBalance_spec decoded bound
  | bybit => exact bybitBalance_spec decoded bound
  | okx => exact okxBalance_spec decoded bound
  | mock => cases decoded

/-- The balances an event says: every entry has its own, and no asset is named twice. -/
structure SaysBalances (py : Platform) (exchangeName : ExchangeName)
    (payload : List (String × Json)) (balances : List BalanceState) : Prop where
  entries : ∃ entries, balanceEntries exchangeName payload = some entries ∧
    List.Forall₂ (BalanceState.Of py exchangeName) entries balances
  nonempty : balances ≠ []
  unique : (balances.map (·.asset)).Nodup

theorem requireUniqueKeys_eq_ok {keys : List String} {label : String}
    (checked : requireUniqueKeys keys label = .ok ()) : keys.Nodup := by
  unfold requireUniqueKeys at checked
  split at checked
  · next unique => exact unique
  · cases checked

theorem balanceUpdates_entries {exchangeName : ExchangeName} {payload : List (String × Json)}
    {updates : List BalanceStateUpdate}
    (decoded : balanceUpdates py exchangeName payload = .ok updates) :
    (∃ entries, balanceEntries exchangeName payload = some entries ∧
      entries.mapM (balanceOfEntry py exchangeName) = .ok updates) ∧
    (updates.map (·.asset)).Nodup ∧ updates ≠ [] := by
  obtain ⟨updates', found, decoded⟩ := bind_eq_ok.mp decoded
  obtain ⟨_, unique, decoded⟩ := bind_eq_ok.mp decoded
  split at decoded
  · cases decoded
  · next nonempty =>
    cases decoded
    refine ⟨?_, requireUniqueKeys_eq_ok unique, nonempty⟩
    cases exchangeName with
    | binance =>
      obtain ⟨entries, hentries, found⟩ := bind_eq_ok.mp found
      exact ⟨entries, objectsOf_of_dictList hentries, found⟩
    | bybit =>
      obtain ⟨accounts, haccounts, found⟩ := bind_eq_ok.mp found
      obtain ⟨nested, hnested, found⟩ := bind_eq_ok.mp found
      cases found
      obtain ⟨lists, hlists, hall⟩ := nested_spec hnested
      refine ⟨lists.flatten, ?_, hall⟩
      unfold balanceEntries nestedEntries
      dsimp only
      rw [objectsOf_of_dictList haccounts]
      exact congrArg (· >>= fun lists => some lists.flatten) hlists
    | okx =>
      obtain ⟨accounts, haccounts, found⟩ := bind_eq_ok.mp found
      obtain ⟨nested, hnested, found⟩ := bind_eq_ok.mp found
      cases found
      obtain ⟨lists, hlists, hall⟩ := nested_spec hnested
      refine ⟨lists.flatten, ?_, hall⟩
      unfold balanceEntries nestedEntries
      dsimp only
      rw [objectsOf_of_dictList haccounts]
      exact congrArg (· >>= fun lists => some lists.flatten) hlists
    | mock => cases found

theorem map_eq_of_forall₂ {α β γ : Type} {R : α → β → Prop} {f : α → γ} {g : β → γ} {as : List α}
    {bs : List β} (related : List.Forall₂ R as bs) (same : ∀ a b, R a b → f a = g b) :
    as.map f = bs.map g := by
  induction related with
  | nil => rfl
  | cons head _ ih => rw [List.map_cons, List.map_cons, same _ _ head, ih]

theorem map_asset_columns {updates : List BalanceStateUpdate} {columns : List BalanceColumns}
    (bound : updates.mapM BalanceStateUpdate.columns = .ok columns) :
    columns.map (·.asset) = updates.map (·.asset) := by
  induction updates generalizing columns with
  | nil =>
    cases bound
    rfl
  | cons update rest ih =>
    obtain ⟨c, cs, hc, hcs, rfl⟩ := mapM_cons_eq_ok.mp bound
    rw [List.map_cons, List.map_cons, ih hcs, (BalanceStateUpdate.columns_eq_ok hc).1]

theorem balanceUpdates_spec {exchangeName : ExchangeName} {payload : List (String × Json)}
    {updates : List BalanceStateUpdate} {columns : List BalanceColumns}
    (decoded : balanceUpdates py exchangeName payload = .ok updates)
    (bound : updates.mapM BalanceStateUpdate.columns = .ok columns) :
    ∃ balances, SaysBalances py exchangeName payload balances ∧
      List.Forall₂ BalanceColumns.Holds columns balances := by
  obtain ⟨⟨entries, hentries, each⟩, unique, nonempty⟩ := balanceUpdates_entries decoded
  obtain ⟨balances, reported, holds⟩ := forall₂_of_mapM
    (fun _ _ _ => balanceOfEntry_spec) each bound
  refine ⟨balances, ⟨⟨entries, hentries, reported⟩, ?_, ?_⟩, holds⟩
  · rintro rfl
    cases reported
    cases each
    exact nonempty rfl
  · rw [← map_eq_of_forall₂ holds fun _ _ h => h.asset, map_asset_columns bound]
    exact unique

/-! ### Every event that says its balances is decoded -/

theorem binanceBalance_of {entry : List (String × Json)} {balance : BalanceState}
    (reported : BalanceState.Of py .binance entry balance) (sound : balance.Sound) :
    ∃ update, binanceBalance py entry = .ok update ∧ update.asset = balance.asset := by
  obtain ⟨asset, available, locked, -⟩ := reported
  obtain ⟨a, ha, -⟩ := quantityOf_of_isNumber "free" available fun _ => sound.available
  obtain ⟨l, hl, -⟩ := quantityOf_of_isNumber "locked" locked fun _ => sound.locked
  refine ⟨⟨balance.asset, a, l, decimalAdd a l⟩, ?_, rfl⟩
  unfold binanceBalance
  rw [ha, ok_bind, hl, ok_bind, identifierOf_of_isName "asset" asset]
  rfl

theorem bybitBalance_of {entry : List (String × Json)} {balance : BalanceState}
    (reported : BalanceState.Of py .bybit entry balance) (sound : balance.Sound) :
    ∃ update, bybitBalance py entry = .ok update ∧ update.asset = balance.asset := by
  obtain ⟨asset, total, locked, rest⟩ := reported
  have covered := sub_nonneg.mp (rest ▸ sound.available)
  obtain ⟨t, ht, exactTotal, -⟩ :=
    quantityOf_of_isNumber "walletBalance" total fun _ => sound.locked.trans covered
  obtain ⟨l, hl, exactLocked, -⟩ := quantityOf_of_isNumber "locked" locked fun _ => sound.locked
  rw [← exactTotal, ← exactLocked] at covered
  have notLess : ¬ t < l := Decimal.not_lt_iff.mpr covered
  refine ⟨⟨balance.asset, decimalSub t l, l, t⟩, ?_, rfl⟩
  unfold bybitBalance
  rw [ht, ok_bind, hl, ok_bind, if_neg notLess, identifierOf_of_isName "coin" asset]
  rfl

theorem okxBalance_of {entry : List (String × Json)} {balance : BalanceState}
    (reported : BalanceState.Of py .okx entry balance) (sound : balance.Sound) :
    ∃ update, okxBalance py entry = .ok update ∧ update.asset = balance.asset := by
  obtain ⟨asset, available, locked, total⟩ := reported
  have nonneg := add_nonneg sound.available sound.locked
  have covered := sound.total
  obtain ⟨a, ha, exactAvailable, fitsAvailable⟩ :=
    quantityOf_of_isNumber "availBal" available fun _ => sound.available
  obtain ⟨l, hl, exactLocked, fitsLocked⟩ :=
    quantityOf_of_isNumber "frozenBal" locked fun _ => sound.locked
  obtain ⟨t, ht, exactTotal, fitsTotal⟩ :=
    quantityOf_of_isNumber "cashBal" total fun _ => nonneg.trans sound.total
  rw [← exactAvailable, ← exactLocked] at nonneg covered
  rw [← exactTotal] at covered
  have notLess : ¬ t < a.add (18 + 10) l := Decimal.not_lt_of_add_le (by decide)
    fitsAvailable.places fitsLocked.places nonneg fitsTotal covered
  have notLess : ¬ t < decimalAdd a l := notLess
  refine ⟨⟨balance.asset, a, l, t⟩, ?_, rfl⟩
  unfold okxBalance
  rw [ha, ok_bind, hl, ok_bind, ht, ok_bind, if_neg notLess, identifierOf_of_isName "ccy" asset]
  rfl

theorem balanceOfEntry_of {exchangeName : ExchangeName} {entry : List (String × Json)}
    {balance : BalanceState}
    (reported : BalanceState.Of py exchangeName entry balance ∧ balance.Sound) :
    ∃ update, balanceOfEntry py exchangeName entry = .ok update ∧ update.asset = balance.asset := by
  obtain ⟨reported, sound⟩ := reported
  cases exchangeName with
  | binance => exact binanceBalance_of reported sound
  | bybit => exact bybitBalance_of reported sound
  | okx => exact okxBalance_of reported sound
  | mock => exact reported.elim

/-- Decoding the joined lists decodes account by account. -/
theorem nested_of {α : Type} {f : List (String × Json) → Except Exc α}
    {accounts : List (List (String × Json))} {lists : List (List (List (String × Json)))}
    {updates : List α}
    (listed : accounts.mapM (fun account => objectsOf (Json.get account field)) = some lists)
    (decoded : lists.flatten.mapM f = .ok updates) :
    ∃ nested, accounts.mapM (fun account => do
        let entries ← dictList field (Json.get account field)
        entries.mapM f) = .ok nested ∧ nested.flatten = updates := by
  induction accounts generalizing lists updates with
  | nil =>
    cases listed
    cases decoded
    exact ⟨[], rfl, rfl⟩
  | cons account rest ih =>
    rw [List.mapM_cons] at listed
    obtain ⟨entries, hentries, listed⟩ := Option.bind_eq_some_iff.mp listed
    obtain ⟨others, hothers, listed⟩ := Option.bind_eq_some_iff.mp listed
    cases listed
    obtain ⟨first, back, hfirst, hback, rfl⟩ := append_mapM_eq_ok decoded
    obtain ⟨nested, hnested, rfl⟩ := ih hothers hback
    exact ⟨first :: nested, mapM_cons_eq_ok.mpr ⟨first, nested,
      bind_eq_ok.mpr ⟨entries, dictList_of_objectsOf hentries, hfirst⟩, hnested, rfl⟩, rfl⟩

theorem requireUniqueKeys_of_nodup {keys : List String} {label : String} (unique : keys.Nodup) :
    requireUniqueKeys keys label = .ok () := if_pos unique

theorem exchangeBalanceUpdates_of {exchangeName : ExchangeName} {payload : List (String × Json)}
    {entries : List (List (String × Json))} {updates : List BalanceStateUpdate}
    (listed : balanceEntries exchangeName payload = some entries)
    (decoded : entries.mapM (balanceOfEntry py exchangeName) = .ok updates) :
    exchangeBalanceUpdates py exchangeName payload = .ok updates := by
  cases exchangeName with
  | binance => exact bind_eq_ok.mpr ⟨entries, dictList_of_objectsOf listed, decoded⟩
  | bybit | okx =>
    obtain ⟨accounts, haccounts, listed⟩ := Option.bind_eq_some_iff.mp listed
    obtain ⟨lists, hlists, listed⟩ := Option.bind_eq_some_iff.mp listed
    cases listed
    obtain ⟨nested, hnested, rfl⟩ := nested_of hlists decoded
    exact bind_eq_ok.mpr ⟨accounts, dictList_of_objectsOf haccounts,
      bind_eq_ok.mpr ⟨nested, hnested, rfl⟩⟩
  | mock => cases listed

theorem balanceUpdates_of {exchangeName : ExchangeName} {payload : List (String × Json)}
    {balances : List BalanceState} (reported : SaysBalances py exchangeName payload balances)
    (sound : ∀ balance ∈ balances, balance.Sound) :
    ∃ updates, balanceUpdates py exchangeName payload = .ok updates := by
  obtain ⟨⟨entries, listed, each⟩, nonempty, unique⟩ := reported
  have related := forall₂_and_right each sound
  obtain ⟨updates, decoded, named⟩ := exists_mapM_of_forall₂ related fun _ _ => balanceOfEntry_of
  have some : ¬ updates = [] := by
    rintro rfl
    exact nonempty (List.map_eq_nil_iff.mp named.symm)
  refine ⟨updates, ?_⟩
  unfold balanceUpdates
  rw [exchangeBalanceUpdates_of listed decoded, ok_bind,
    requireUniqueKeys_of_nodup (named ▸ unique), ok_bind, if_neg some]
  rfl

/-! ### Positions of an event -/

structure PositionColumns.Holds (columns : PositionColumns) (position : PositionState) : Prop where
  symbol : columns.symbol = position.symbol
  quantity : columns.quantity.value = position.quantity

/-- The sign follows the side, and the context drops no digit. -/
theorem signedSize_spec {size quantity : Decimal} (fits : size.Fits 18 10)
    (signed : signedSize size value = .ok quantity) :
    signedQuantity size.toRat value quantity.toRat ∧ quantity.Places 10 := by
  have zero : (⟨0, 0⟩ : Decimal).toRat = 0 := Decimal.toRat_eq_zero_iff.mpr rfl
  unfold signedSize at signed
  split at signed
  · next side =>
    split at signed
    · next buy =>
      cases signed
      exact ⟨.inl ⟨congrArg _ buy, rfl⟩, fits.places⟩
    · split at signed
      · next sell =>
        cases signed
        have fits' : size.neg.Fits 18 10 :=
          ⟨fits.places.neg, by rw [Decimal.toRat_neg, abs_neg]; exact fits.bounded⟩
        have exact : decimalNeg size = size.neg := fits'.round (by decide)
        rw [exact]
        exact ⟨.inr (.inl ⟨congrArg _ sell, Decimal.toRat_neg size⟩), fits'.places⟩
      · split at signed
        · next none =>
          cases signed
          exact ⟨.inr (.inr ⟨.inl (congrArg _ none.1), Decimal.toRat_eq_zero_iff.mpr none.2, zero⟩),
            Decimal.Places.ofInt_zero⟩
        · cases signed
  · split at signed
    · next none =>
      cases signed
      exact ⟨.inr (.inr ⟨.inr rfl, Decimal.toRat_eq_zero_iff.mpr none, zero⟩),
        Decimal.Places.ofInt_zero⟩
    · cases signed
  · cases signed
  · cases signed
  · cases signed

/-- How an exchange's entries are decoded. -/
def positionOfEntry (py : Platform) (exchangeName : ExchangeName)
    (entry : List (String × Json)) : Except Exc PositionStateUpdate :=
  match exchangeName with
  | .bybit => bybitPosition py entry
  | .okx => okxPosition py entry
  | _ => .error (syncError "position event exchange is not supported")

theorem positionOfEntry_spec {exchangeName : ExchangeName} {entry : List (String × Json)}
    {update : PositionStateUpdate} {columns : PositionColumns}
    (decoded : positionOfEntry py exchangeName entry = .ok update)
    (bound : update.columns = .ok columns) :
    ∃ position, PositionState.Of py exchangeName entry position ∧ columns.Holds position := by
  cases exchangeName with
  | bybit =>
    obtain ⟨size, hsize, decoded⟩ := bind_eq_ok.mp decoded
    obtain ⟨quantity, hquantity, decoded⟩ := bind_eq_ok.mp decoded
    obtain ⟨symbol, hsymbol, decoded⟩ := bind_eq_ok.mp decoded
    cases decoded
    obtain ⟨isSize, fits, nonneg⟩ := quantityOf_spec hsize
    obtain ⟨signed, places⟩ := signedSize_spec fits hquantity
    obtain ⟨sameSymbol, stored⟩ := PositionStateUpdate.columns_eq_ok bound
    exact ⟨⟨symbol, quantity.toRat⟩,
      ⟨isName_of_identifierOf hsymbol, size.toRat, isSize, nonneg rfl, signed⟩, sameSymbol,
      value_of_bindQuantity places stored⟩
  | okx =>
    obtain ⟨symbol, hsymbol, decoded⟩ := bind_eq_ok.mp decoded
    obtain ⟨quantity, hquantity, decoded⟩ := bind_eq_ok.mp decoded
    cases decoded
    obtain ⟨isQuantity, fits, -⟩ := quantityOf_spec hquantity
    obtain ⟨sameSymbol, stored⟩ := PositionStateUpdate.columns_eq_ok bound
    exact ⟨⟨symbol, quantity.toRat⟩, ⟨isName_of_identifierOf hsymbol, isQuantity⟩, sameSymbol,
      value_of_bindQuantity fits.places stored⟩
  | binance | mock => cases decoded

/-- The positions an event says: every entry has its own, and no symbol is named twice. -/
structure SaysPositions (py : Platform) (exchangeName : ExchangeName)
    (payload : List (String × Json)) (positions : List PositionState) : Prop where
  entries : ∃ entries, positionEntries exchangeName payload = some entries ∧
    List.Forall₂ (PositionState.Of py exchangeName) entries positions
  nonempty : positions ≠ []
  unique : (positions.map (·.symbol)).Nodup

theorem positionUpdates_entries {exchangeName : ExchangeName} {payload : List (String × Json)}
    {updates : List PositionStateUpdate}
    (decoded : positionUpdates py exchangeName payload = .ok updates) :
    (∃ entries, positionEntries exchangeName payload = some entries ∧
      entries.mapM (positionOfEntry py exchangeName) = .ok updates) ∧
    (updates.map (·.symbol)).Nodup ∧ updates ≠ [] := by
  obtain ⟨updates', found, decoded⟩ := bind_eq_ok.mp decoded
  obtain ⟨_, unique, decoded⟩ := bind_eq_ok.mp decoded
  split at decoded
  · cases decoded
  · next nonempty =>
    cases decoded
    refine ⟨?_, requireUniqueKeys_eq_ok unique, nonempty⟩
    cases exchangeName with
    | bybit | okx =>
      obtain ⟨entries, hentries, found⟩ := bind_eq_ok.mp found
      exact ⟨entries, objectsOf_of_dictList hentries, found⟩
    | binance | mock => cases found

theorem map_symbol_columns {updates : List PositionStateUpdate} {columns : List PositionColumns}
    (bound : updates.mapM PositionStateUpdate.columns = .ok columns) :
    columns.map (·.symbol) = updates.map (·.symbol) := by
  induction updates generalizing columns with
  | nil =>
    cases bound
    rfl
  | cons update rest ih =>
    obtain ⟨c, cs, hc, hcs, rfl⟩ := mapM_cons_eq_ok.mp bound
    rw [List.map_cons, List.map_cons, ih hcs, (PositionStateUpdate.columns_eq_ok hc).1]

theorem positionUpdates_spec {exchangeName : ExchangeName} {payload : List (String × Json)}
    {updates : List PositionStateUpdate} {columns : List PositionColumns}
    (decoded : positionUpdates py exchangeName payload = .ok updates)
    (bound : updates.mapM PositionStateUpdate.columns = .ok columns) :
    ∃ positions, SaysPositions py exchangeName payload positions ∧
      List.Forall₂ PositionColumns.Holds columns positions := by
  obtain ⟨⟨entries, hentries, each⟩, unique, nonempty⟩ := positionUpdates_entries decoded
  obtain ⟨positions, reported, holds⟩ := forall₂_of_mapM
    (fun _ _ _ => positionOfEntry_spec) each bound
  refine ⟨positions, ⟨⟨entries, hentries, reported⟩, ?_, ?_⟩, holds⟩
  · rintro rfl
    cases reported
    cases each
    exact nonempty rfl
  · rw [← map_eq_of_forall₂ holds fun _ _ h => h.symbol, map_symbol_columns bound]
    exact unique

/-! ### Every event that says its positions is decoded -/

theorem signedSize_of {size : Decimal} {quantity : ℚ}
    (signed : signedQuantity size.toRat value quantity) :
    ∃ d, signedSize size value = .ok d := by
  rcases signed with ⟨rfl, -⟩ | ⟨rfl, -⟩ | ⟨rfl | rfl, zero, -⟩
  · exact ⟨size, rfl⟩
  · exact ⟨decimalNeg size, rfl⟩
  · exact ⟨⟨0, 0⟩, if_pos ⟨rfl, Decimal.toRat_eq_zero_iff.mp zero⟩⟩
  · exact ⟨⟨0, 0⟩, if_pos (Decimal.toRat_eq_zero_iff.mp zero)⟩

theorem positionOfEntry_of {exchangeName : ExchangeName} {entry : List (String × Json)}
    {position : PositionState} (reported : PositionState.Of py exchangeName entry position) :
    ∃ update, positionOfEntry py exchangeName entry = .ok update ∧
      update.symbol = position.symbol := by
  cases exchangeName with
  | bybit =>
    obtain ⟨symbol, number, size, nonneg, signed⟩ := reported
    obtain ⟨s, hs, rfl, -⟩ := quantityOf_of_isNumber "size" size fun _ => nonneg
    obtain ⟨quantity, hquantity⟩ := signedSize_of signed
    refine ⟨⟨position.symbol, quantity⟩, ?_, rfl⟩
    unfold positionOfEntry bybitPosition
    dsimp only
    rw [hs, ok_bind, hquantity, ok_bind, identifierOf_of_isName "symbol" symbol]
    rfl
  | okx =>
    obtain ⟨symbol, quantity⟩ := reported
    obtain ⟨q, hq, -⟩ := @quantityOf_of_isNumber _ _ "pos" false _ quantity fun h => nomatch h
    refine ⟨⟨position.symbol, q⟩, ?_, rfl⟩
    unfold positionOfEntry okxPosition
    dsimp only
    rw [identifierOf_of_isName "instId" symbol, ok_bind, hq]
    rfl
  | binance | mock => exact reported.elim

theorem exchangePositionUpdates_of {exchangeName : ExchangeName} {payload : List (String × Json)}
    {entries : List (List (String × Json))} {updates : List PositionStateUpdate}
    (listed : positionEntries exchangeName payload = some entries)
    (decoded : entries.mapM (positionOfEntry py exchangeName) = .ok updates) :
    exchangePositionUpdates py exchangeName payload = .ok updates := by
  cases exchangeName with
  | bybit | okx => exact bind_eq_ok.mpr ⟨entries, dictList_of_objectsOf listed, decoded⟩
  | binance | mock => cases listed

theorem positionUpdates_of {exchangeName : ExchangeName} {payload : List (String × Json)}
    {positions : List PositionState}
    (reported : SaysPositions py exchangeName payload positions) :
    ∃ updates, positionUpdates py exchangeName payload = .ok updates := by
  obtain ⟨⟨entries, listed, each⟩, nonempty, unique⟩ := reported
  obtain ⟨updates, decoded, named⟩ := exists_mapM_of_forall₂ each fun _ _ => positionOfEntry_of
  have some : ¬ updates = [] := by
    rintro rfl
    exact nonempty (List.map_eq_nil_iff.mp named.symm)
  refine ⟨updates, ?_⟩
  unfold positionUpdates
  rw [exchangePositionUpdates_of listed decoded, ok_bind,
    requireUniqueKeys_of_nodup (named ▸ unique), ok_bind, if_neg some]
  rfl

end CopyTrading
