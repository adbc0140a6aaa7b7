import TaxGateway.Client.SharedBaseUrl

/-!
Contract: the lists that `getItems` and `getPurchases` make of an answer.

Owns:
- an element's fields as the answer has them, and what it takes for a PHP array to
  hold them;
- the loop over the children of `DATA`: the records in front of the first child that
  is none, and the records behind it, which it never reaches;
- the exact answers whose records are all listed, in order and once each.

Does not own: what the endpoints make of the lists.
-/

namespace TaxGateway.Client

open TaxGateway.Php
open TaxGateway.Database
open TaxGateway.Effects
open TaxGateway.Services
open TaxGateway.Services.Payloads
open TaxGateway.Services.Session

/-! ## The fields of a record -/

/-- The names and the texts of an element's children, in document order. -/
def writtenTexts (element : Xml) : List (String × String) :=
  element.children.map fun field => (field.name, field.text)

/-- No field is written twice. -/
def HasDistinctFields (element : Xml) : Prop := (element.children.map Xml.name).Nodup

instance (element : Xml) : Decidable (HasDistinctFields element) := by
  unfold HasDistinctFields
  infer_instance

theorem map_fst_writtenTexts (element : Xml) :
    (writtenTexts element).map Prod.fst = element.children.map Xml.name := by
  rw [writtenTexts, List.map_map]
  rfl

/-- An array holds the fields of an element exactly when their names differ. -/
theorem fieldTexts_eq_writtenTexts_iff {element : Xml} :
    fieldTexts element = writtenTexts element ↔ HasDistinctFields element := by
  rw [HasDistinctFields, ← map_fst_writtenTexts]
  constructor
  · intro same
    rw [← same]
    exact nodup_fieldTexts element
  · intro distinct
    exact foldl_assign_of_distinct (by simpa [writtenTexts] using distinct)

/-! ## The loop -/

/-- A child of `DATA` that is a record by its tag. -/
def isTagged (isRecord : String → Bool) (child : Xml) : Bool := isRecord child.name

section Loop

variable {β γ : Type} {isRecord : String → Bool} {entry : Xml → β} {otherwise : List β}

theorem listing_cons_record {child : Xml} (tagged : isTagged isRecord child = true)
    (children : List Xml) :
    listing isRecord entry otherwise (child :: children) =
      entry child :: listing isRecord entry otherwise children := by
  rw [listing]
  exact if_pos tagged

theorem listing_cons_other {child : Xml} (other : isTagged isRecord child = false)
    (children : List Xml) : listing isRecord entry otherwise (child :: children) = otherwise := by
  rw [listing, if_neg]
  exact fun tagged => Bool.false_ne_true (other.symm.trans tagged)

/-- The loop lists the children up to the first that is no record. -/
theorem listing_eq (children : List Xml) :
    listing isRecord entry otherwise children =
      (children.takeWhile (isTagged isRecord)).map entry ++
        if children.all (isTagged isRecord) then [] else otherwise := by
  induction children with
  | nil => rfl
  | cons child children inductionHypothesis =>
      cases tagged : isTagged isRecord child with
      | true =>
          rw [listing_cons_record tagged, inductionHypothesis, List.takeWhile_cons_of_pos tagged,
            List.all_cons, tagged, Bool.true_and]
          rfl
      | false =>
          rw [listing_cons_other tagged, List.takeWhile_cons_of_neg (by simp [tagged]),
            List.all_cons, tagged, Bool.false_and]
          rfl

/-- Reading the entries afterwards is reading them in the loop. -/
theorem filterMap_listing {read : β → Option γ} {entry' : Xml → γ}
    (reads : ∀ child, read (entry child) = some (entry' child)) (children : List Xml) :
    (listing isRecord entry otherwise children).filterMap read =
      listing isRecord entry' (otherwise.filterMap read) children := by
  induction children with
  | nil => rfl
  | cons child children inductionHypothesis =>
      cases tagged : isTagged isRecord child with
      | true =>
          rw [listing_cons_record tagged, listing_cons_record tagged,
            List.filterMap_cons_some (reads child), inductionHypothesis]
      | false => rw [listing_cons_other tagged, listing_cons_other tagged]

end Loop

/-! ## Records -/

section Records

variable (isRecord : String → Bool) (data : Xml)

/-- The children of `DATA` that are records. -/
def recordsOf : List Xml := data.children.filter (isTagged isRecord)

/-- The records in front of the first child that is none. -/
def reached : List Xml := data.children.takeWhile (isTagged isRecord)

/-- The records behind it. -/
def unreached : List Xml :=
  (data.children.dropWhile (isTagged isRecord)).filter (isTagged isRecord)

theorem recordsOf_eq :
    recordsOf isRecord data = reached isRecord data ++ unreached isRecord data := by
  have front : (reached isRecord data).filter (isTagged isRecord) = reached isRecord data :=
    List.filter_eq_self.mpr fun child member => List.mem_takeWhile_imp member
  have split : data.children =
      reached isRecord data ++ data.children.dropWhile (isTagged isRecord) :=
    List.takeWhile_append_dropWhile.symm
  rw [recordsOf, split, List.filter_append, front, unreached]

/-- Among the entries, the fields of each record are there once, in document order. -/
def KeepsRecords (entries : List (List (String × String))) : Prop :=
  let records := (recordsOf isRecord data).map writtenTexts
  (entries.filter fun fields => records.contains fields) = records

instance (entries : List (List (String × String))) :
    Decidable (KeepsRecords isRecord data entries) := by
  unfold KeepsRecords
  infer_instance

/-- Every record can be held in an array. -/
def HoldsRecords : Prop := ∀ record ∈ recordsOf isRecord data, HasDistinctFields record

/-- Nothing but records behind the first child that is none, or one that the fields of
`DATA` itself spell. -/
def FlatFits : Prop :=
  (unreached isRecord data = [] ∧
      (data.children.all (isTagged isRecord) = true ∨
        ∀ record ∈ recordsOf isRecord data, writtenTexts record ≠ fieldTexts data)) ∨
    ∃ record, unreached isRecord data = [record] ∧ writtenTexts record = fieldTexts data

end Records

section Kept

variable {isRecord : String → Bool} {data : Xml} {entries : List (List (String × String))}

/-- Entries that are arrays hold no field twice, so the kept records have none. -/
theorem holdsRecords_of_keepsRecords
    (arrays : ∀ fields ∈ entries, (fields.map Prod.fst).Nodup)
    (keeps : KeepsRecords isRecord data entries) : HoldsRecords isRecord data := by
  intro record member
  have isEntry : writtenTexts record ∈ entries := by
    have kept : writtenTexts record ∈ (recordsOf isRecord data).map writtenTexts :=
      List.mem_map_of_mem member
    rw [← show _ = (recordsOf isRecord data).map writtenTexts from keeps] at kept
    exact List.mem_of_mem_filter kept
  have distinct := arrays _ isEntry
  rwa [map_fst_writtenTexts] at distinct

/-- Behind the records that were reached, the other entries have to be the records that
were not. -/
theorem keepsRecords_append_iff (holds : HoldsRecords isRecord data)
    (others : List (List (String × String))) :
    KeepsRecords isRecord data ((reached isRecord data).map fieldTexts ++ others) ↔
      (others.filter fun fields =>
          ((recordsOf isRecord data).map writtenTexts).contains fields) =
        (unreached isRecord data).map writtenTexts := by
  have front : (reached isRecord data).map fieldTexts =
      (reached isRecord data).map writtenTexts := by
    apply List.map_congr_left
    intro record member
    apply fieldTexts_eq_writtenTexts_iff.mpr
    apply holds record
    rw [recordsOf_eq]
    exact List.mem_append_left _ member
  have kept : (((reached isRecord data).map writtenTexts).filter fun fields =>
      ((recordsOf isRecord data).map writtenTexts).contains fields) =
        (reached isRecord data).map writtenTexts := by
    apply List.filter_eq_self.mpr
    intro fields member
    rw [List.contains_eq_mem, decide_eq_true_eq, recordsOf_eq, List.map_append]
    exact List.mem_append_left _ member
  have records : (recordsOf isRecord data).map writtenTexts =
      (reached isRecord data).map writtenTexts ++ (unreached isRecord data).map writtenTexts := by
    rw [recordsOf_eq, List.map_append]
  rw [front, KeepsRecords, List.filter_append, kept]
  conv_lhs => rhs; rw [records]
  exact List.append_right_inj _

theorem keepsRecords_iff_of_holds {fits : Prop}
    (arrays : ∀ fields ∈ entries, (fields.map Prod.fst).Nodup)
    (kept : HoldsRecords isRecord data → (KeepsRecords isRecord data entries ↔ fits)) :
    KeepsRecords isRecord data entries ↔ HoldsRecords isRecord data ∧ fits := by
  constructor
  · intro keeps
    have holds := holdsRecords_of_keepsRecords arrays keeps
    exact ⟨holds, (kept holds).mp keeps⟩
  · intro both
    exact (kept both.1).mpr both.2

theorem nodup_of_mem_reached {fields : List (String × String)}
    (member : fields ∈ (reached isRecord data).map fieldTexts) :
    (fields.map Prod.fst).Nodup := by
  obtain ⟨record, -, rfl⟩ := List.mem_map.mp member
  exact nodup_fieldTexts record

/-- Where no other entries are read, every record has to be reached. -/
theorem keepsRecords_reached_iff :
    KeepsRecords isRecord data ((reached isRecord data).map fieldTexts) ↔
      HoldsRecords isRecord data ∧ unreached isRecord data = [] := by
  apply keepsRecords_iff_of_holds fun fields member => nodup_of_mem_reached member
  intro holds
  have kept := keepsRecords_append_iff holds []
  rw [List.append_nil, List.filter_nil] at kept
  rw [kept, eq_comm, List.map_eq_nil_iff]

theorem fieldTexts_ne_nil (some : data.children ≠ []) : fieldTexts data ≠ [] := by
  obtain ⟨children, last, isLast⟩ := (List.eq_nil_or_concat data.children).resolve_left some
  have assigned : ∀ (fields : List (String × String)) name text, assign fields name text ≠ [] := by
    intro fields name text
    cases fields with
    | nil => simp [assign]
    | cons field fields =>
        rw [assign]
        split_ifs <;> simp
  rw [fieldTexts, isLast, List.concat_eq_append, List.foldl_concat]
  exact assigned _ _ _

/-- What the loop of `getPurchases` makes of a `DATA` node. -/
def flatListing (isRecord : String → Bool) (data : Xml) : List (List (String × String)) :=
  let single := fieldTexts data
  listing isRecord fieldTexts (if single.isEmpty then [] else [single]) data.children

theorem flatListing_eq (isRecord : String → Bool) (data : Xml) :
    flatListing isRecord data = (reached isRecord data).map fieldTexts ++
      if data.children.all (isTagged isRecord) then [] else [fieldTexts data] := by
  rw [flatListing, listing_eq, reached]
  cases all : data.children.all (isTagged isRecord) with
  | true => rfl
  | false =>
      have some : data.children ≠ [] := by
        intro none
        rw [none] at all
        cases all
      simp [fieldTexts_ne_nil some]

/-- The fields of `DATA` make one entry behind the records that were reached. -/
theorem single_kept_iff (someOther : data.children.all (isTagged isRecord) = false) :
    ([fieldTexts data].filter fun fields =>
        ((recordsOf isRecord data).map writtenTexts).contains fields) =
      (unreached isRecord data).map writtenTexts ↔ FlatFits isRecord data := by
  have spelled : ((recordsOf isRecord data).map writtenTexts).contains (fieldTexts data) = true ↔
      ∃ record ∈ recordsOf isRecord data, writtenTexts record = fieldTexts data := by
    rw [List.contains_eq_mem, decide_eq_true_eq, List.mem_map]
  have behind : ∀ record, unreached isRecord data = [record] →
      record ∈ recordsOf isRecord data := by
    intro record single
    rw [recordsOf_eq, single]
    simp
  unfold FlatFits
  rw [someOther]
  by_cases isSpelled :
      ((recordsOf isRecord data).map writtenTexts).contains (fieldTexts data) = true
  · obtain ⟨record, isRecord, spells⟩ := spelled.mp isSpelled
    rw [List.filter_cons_of_pos isSpelled, List.filter_nil, eq_comm, List.map_eq_singleton_iff]
    constructor
    · exact .inr
    · rintro (⟨-, never | different⟩ | single)
      · cases never
      · exact absurd spells (different record isRecord)
      · exact single
  · rw [List.filter_cons_of_neg isSpelled, List.filter_nil, eq_comm, List.map_eq_nil_iff]
    constructor
    · intro none
      refine .inl ⟨none, .inr ?_⟩
      intro record isRecord spells
      exact isSpelled (spelled.mpr ⟨record, isRecord, spells⟩)
    · rintro (⟨none, -⟩ | ⟨record, single, spells⟩)
      · exact none
      · exact absurd (spelled.mpr ⟨record, behind record single, spells⟩) isSpelled

/-- Where all children are records, they are all reached. -/
theorem unreached_of_all (all : data.children.all (isTagged isRecord) = true) :
    unreached isRecord data = [] := by
  have none : data.children.dropWhile (isTagged isRecord) = [] := by
    rw [List.dropWhile_eq_nil_iff]
    exact List.all_eq_true.mp all
  rw [unreached, none, List.filter_nil]

theorem keepsRecords_flatListing_iff :
    KeepsRecords isRecord data (flatListing isRecord data) ↔
      HoldsRecords isRecord data ∧ FlatFits isRecord data := by
  have arrays : ∀ fields ∈ flatListing isRecord data, (fields.map Prod.fst).Nodup := by
    intro fields member
    rw [flatListing_eq] at member
    rcases List.mem_append.mp member with front | single
    · exact nodup_of_mem_reached front
    · split_ifs at single
      · cases single
      · obtain rfl := List.mem_singleton.mp single
        exact nodup_fieldTexts data
  apply keepsRecords_iff_of_holds arrays
  intro holds
  rw [flatListing_eq, keepsRecords_append_iff holds]
  cases all : data.children.all (isTagged isRecord) with
  | true =>
      have none := unreached_of_all all
      simp [FlatFits, none, all]
  | false => exact single_kept_iff all

end Kept

/-! ## What the methods return -/

/-- The fields of a member of `items` that is the entry of a record. -/
def recordFields : KraItemService.ListedItem → Option (List (String × String))
  | .record fields => some fields
  | .data _ => none

/-- The items that are entries of records are the records that were reached. -/
theorem filterMap_listedItems {parsed data : Xml} (hasData : parsed.child? "DATA" = some data) :
    (KraItemService.listedItems parsed).filterMap recordFields =
      (reached KraItemService.isRecord data).map fieldTexts := by
  have loop : (listing KraItemService.isRecord
      (fun child => KraItemService.ListedItem.record (fieldTexts child)) [.data data]
      data.children).filterMap recordFields =
        (reached KraItemService.isRecord data).map fieldTexts := by
    have reads : ∀ child, recordFields (.record (fieldTexts child)) = some (fieldTexts child) :=
      fun child => rfl
    rw [filterMap_listing reads, listing_eq]
    simp [recordFields, reached]
  simp only [KraItemService.listedItems, hasData]
  split
  next single =>
    -- Only a `DATA` node without children leaves the loop empty, and it has no fields.
    rw [listing_eq, Bool.and_eq_true, List.isEmpty_iff, List.append_eq_nil_iff] at single
    cases children : data.children with
    | nil => simp [fieldTexts, children] at single
    | cons child rest =>
        rw [children] at single
        cases tagged : isTagged KraItemService.isRecord child with
        | true => simp [List.takeWhile_cons_of_pos tagged] at single
        | false => simp [tagged] at single
  next => exact loop

section Methods

variable {collate : String → String} (world : World) (kraDevice : KraDevice)

/-- The items come from the answer that is returned with them. -/
theorem ensures_getItems :
    Ensures
      (fun list => ∃ parsed, world.platform.simplexmlLoadString list.kraResponse = some parsed ∧
        list.items = KraItemService.listedItems parsed)
      (KraItemService.getItems world kraDevice : Service collate KraItemService.ItemList) := by
  refine (ensures_raise _).bind fun pin hasPin => ?_
  refine (ensures_raise _).bind fun xmlPayload built => ?_
  refine Cell.ensures_restoring ?_
  refine (ensures_true _).bind fun response answered => ?_
  refine (ensures_parseXml world response.body).bind fun parsed loaded => ?_
  exact ensures_pure ⟨parsed, loaded, rfl⟩

/-- The purchases and their items come from the two answers that are returned with
them. -/
theorem ensures_getPurchases :
    Ensures
      (fun list =>
        (∃ parsed, world.platform.simplexmlLoadString list.kraResponsePurchases = some parsed ∧
          list.purchases = KraPurchaseService.records "Purchase" parsed) ∧
        ∃ parsed, world.platform.simplexmlLoadString list.kraResponsePurchaseItems = some parsed ∧
          list.purchaseItems = KraPurchaseService.records "PurchaseItem" parsed)
      (KraPurchaseService.getPurchases world kraDevice :
        Service collate KraPurchaseService.PurchaseList) := by
  refine (ensures_raise _).bind fun pin hasPin => ?_
  refine Cell.ensures_restoring ?_
  refine (ensures_raise _).bind fun purchaseRecvXml built => ?_
  refine (ensures_true _).bind fun response answered => ?_
  refine (ensures_parseXml world response.body).bind fun parsed loaded => ?_
  refine (ensures_raise _).bind fun purchaseItemsRecvXml itemsBuilt => ?_
  refine (ensures_true _).bind fun responseItems itemsAnswered => ?_
  refine (ensures_parseXml world responseItems.body).bind fun parsedItems itemsLoaded => ?_
  exact ensures_pure ⟨⟨parsed, loaded, rfl⟩, parsedItems, itemsLoaded, rfl⟩

theorem records_eq_flatListing {tag : String} {parsed data : Xml}
    (hasData : parsed.child? "DATA" = some data) :
    KraPurchaseService.records tag parsed =
      flatListing (KraPurchaseService.isRecord tag) data := by
  rw [KraPurchaseService.records, hasData]
  rfl

/-- The items list every record of an answer exactly when no record repeats a field and
none is behind a child that is no record. The purchases and their items also need the
fields of `DATA` itself, listed for such a child, to spell no record, or the only one
behind it. -/
theorem listings_keep_records_iff (session : Session collate) :
    (∀ list, (exec (KraItemService.getItems world kraDevice) session).1 = .ok list →
      ∃ parsed, world.platform.simplexmlLoadString list.kraResponse = some parsed ∧
        ∀ data, parsed.child? "DATA" = some data →
          (KeepsRecords KraItemService.isRecord data (list.items.filterMap recordFields) ↔
            HoldsRecords KraItemService.isRecord data ∧
              unreached KraItemService.isRecord data = [])) ∧
    ∀ list, (exec (KraPurchaseService.getPurchases world kraDevice) session).1 = .ok list →
      (∃ parsed, world.platform.simplexmlLoadString list.kraResponsePurchases = some parsed ∧
        ∀ data, parsed.child? "DATA" = some data →
          (KeepsRecords (KraPurchaseService.isRecord "Purchase") data list.purchases ↔
            HoldsRecords (KraPurchaseService.isRecord "Purchase") data ∧
              FlatFits (KraPurchaseService.isRecord "Purchase") data)) ∧
      ∃ parsed, world.platform.simplexmlLoadString list.kraResponsePurchaseItems = some parsed ∧
        ∀ data, parsed.child? "DATA" = some data →
          (KeepsRecords (KraPurchaseService.isRecord "PurchaseItem") data list.purchaseItems ↔
            HoldsRecords (KraPurchaseService.isRecord "PurchaseItem") data ∧
              FlatFits (KraPurchaseService.isRecord "PurchaseItem") data) := by
  constructor
  · intro list returned
    obtain ⟨parsed, loaded, items⟩ := ensures_getItems world kraDevice session list returned
    refine ⟨parsed, loaded, ?_⟩
    intro data hasData
    rw [items, filterMap_listedItems hasData]
    exact keepsRecords_reached_iff
  · intro list returned
    obtain ⟨⟨parsed, loaded, purchases⟩, parsedItems, itemsLoaded, purchaseItems⟩ :=
      ensures_getPurchases world kraDevice session list returned
    refine ⟨⟨parsed, loaded, ?_⟩, parsedItems, itemsLoaded, ?_⟩
    · intro data hasData
      rw [purchases, records_eq_flatListing hasData]
      exact keepsRecords_flatListing_iff
    · intro data hasData
      rw [purchaseItems, records_eq_flatListing hasData]
      exact keepsRecords_flatListing_iff

end Methods

/-! ### A counted list -/

/-- One record behind a count. -/
def countedNode : Xml :=
  .element "DATA" ""
    [.element "totCnt" "1" [], .element "Record" "" [.element "itemCd" "KE1NTXU0000001" []]]

def countedXml : Xml := .element "KRA" "" [.element "STATUS" "P" [], countedNode]

def countedBody : String :=
  "<KRA><STATUS>P</STATUS><DATA><totCnt>1</totCnt>" ++
    "<Record><itemCd>KE1NTXU0000001</itemCd></Record></DATA></KRA>"

/-- KRA answers every command with it. -/
def countingWorld : World :=
  { offlineWorld with
    platform := KraApi.platformReading [(countedBody, countedXml)]
    transport := fun _ => .answered ⟨200, countedBody⟩ }

theorem countingWorld_reads :
    countingWorld.platform.simplexmlLoadString countedBody = some countedXml := by
  simp [countingWorld, KraApi.platformReading]

/-- The theorem at that answer. -/
theorem listings_keep_records_iff_counted :
    ∃ list, (exec (KraItemService.getItems countingWorld shopDevice) idleSession).1 = .ok list ∧
      (KeepsRecords KraItemService.isRecord countedNode (list.items.filterMap recordFields) ↔
        HoldsRecords KraItemService.isRecord countedNode ∧
          unreached KraItemService.isRecord countedNode = []) := by
  obtain ⟨list, returned, body⟩ : ∃ list,
      (exec (KraItemService.getItems countingWorld shopDevice) idleSession).1 = .ok list ∧
        list.kraResponse = countedBody := exists_ok_of_any (by decide +kernel)
  obtain ⟨parsed, loaded, kept⟩ :=
    (listings_keep_records_iff countingWorld shopDevice idleSession).1 list returned
  rw [body, countingWorld_reads] at loaded
  obtain rfl := Option.some.inj loaded
  exact ⟨list, returned, kept countedNode rfl⟩

/-- Its items and purchases are listed without the record. -/
theorem countedNode_lost :
    countedXml.child? "DATA" = some countedNode ∧
    (recordsOf KraItemService.isRecord countedNode).map writtenTexts =
      [[("itemCd", "KE1NTXU0000001")]] ∧
    (∃ list, (exec (KraItemService.getItems countingWorld shopDevice) idleSession).1 = .ok list ∧
      list.kraResponse = countedBody ∧
      ¬ KeepsRecords KraItemService.isRecord countedNode (list.items.filterMap recordFields)) ∧
    ∃ list, (exec (KraPurchaseService.getPurchases countingWorld shopDevice) idleSession).1 =
        .ok list ∧
      (list.kraResponsePurchases = countedBody ∧ list.kraResponsePurchaseItems = countedBody) ∧
      ¬ KeepsRecords (KraPurchaseService.isRecord "Purchase") countedNode list.purchases ∧
      ¬ KeepsRecords (KraPurchaseService.isRecord "PurchaseItem") countedNode
        list.purchaseItems :=
  ⟨rfl, by decide +kernel, exists_ok_of_any (by decide +kernel),
    exists_ok_of_any (by decide +kernel)⟩

end TaxGateway.Client
